import Codemod.Layout.Import
import Codemod.Source.Node

/-!
# Layout of syntax trees

`Node.layout` gives the pieces of a node. Every node starts with the comments before its first
token; where an expression or a binding pattern stands, the comments after its last token follow it
(`Node.after`). Lists in objects, arrays and bodies take a line for each entry, other lists one line
for all.
-/
namespace Codemod.Node

/-! ## Parts shared by the forms -/

/-- The comments after an expression or a pattern. -/
def after (n : Node) : List Piece := [.trailing n.span.hi true]

def afterSome (o : Option Node) : List Piece := (o.map after).getD []

/-- Text that stands before an optional part. -/
def lead (text : String) (o : Option Node) : List Piece := Piece.when o.isSome [.text text]

/-- Pieces after the comments that stand before a span. -/
def startAt (sp : Span) (pieces : List Piece) : List Piece := .leading sp.lo :: pieces

def wordPieces (word : Word) : List Piece := startAt word.sp [.text word.text]

def propertyPieces : PropertyName → List Piece
  | .word sp text => startAt sp [.text text]
  | .privateName sp text => startAt sp [.text ("#" ++ text)]

def keywords (modifiers : Modifiers) : List Piece := modifiers.map fun m => .text (m ++ " ")

/-- The parts of expressions or patterns in a list, each with the comments after it. -/
def terms (nodes : List Node) (parts : List (List Piece)) : List (List Piece) :=
  List.zipWith (fun n p => p ++ n.after) nodes parts

/-- Parts of a list on one line, each with the comments after it. -/
def entries (nodes : List Node) (parts : List (List Piece)) : List (List Piece) :=
  List.zipWith (fun n p => p ++ [.trailing n.span.hi false]) nodes parts

def inline (nodes : List Node) (parts : List (List Piece)) : List Piece :=
  Piece.join [.text ", "] (entries nodes parts)

/-- A list in braces, one entry a line. Without entries nothing is between the braces, but comments
before the closing one still end the line. -/
def stacked (sp : Span) (parts : List (List Piece)) : List Piece :=
  [.text "\x7b"] ++
    (if parts.isEmpty then [.lineIfLeading (sp.hi - 1)] else Piece.lines [.text ","] parts) ++
    [.text "\x7d"]

/-- The comma after a hole at the end of an array, without which the hole would be no element. -/
def holeComma (elements : List Node) : List Piece :=
  match elements.getLast? with
  | some .hole => [.text ","]
  | _ => []

def isBlock : Node → Bool
  | .blockStmt _ _ => true
  | _ => false

/-- A statement with what ends its line; a block is ended by what follows it. -/
def ended (n : Node) (pieces : List Piece) : List Piece :=
  pieces ++ Piece.when (!n.isBlock) (n.after ++ [.line])

def endedAll (nodes : List Node) (parts : List (List Piece)) : List (List Piece) :=
  List.zipWith ended nodes parts

/-- Members in braces, one a line; the line is ended also when there are none. -/
def membersBody (parts : List (List Piece)) : List Piece :=
  [.text "\x7b"] ++ (if parts.isEmpty then [.line] else Piece.lines [] parts) ++ [.text "\x7d"]

/-- A parameter's decorators stand on lines of their own. -/
def parameterDecorators (parts : List (List Piece)) : List Piece :=
  Piece.when (!parts.isEmpty) ([.line] ++ parts.flatten)

/-- The text of a template with each end of line as one line feed. -/
def lineFeeds : List Char → List Char
  | '\r' :: '\n' :: r => '\n' :: lineFeeds r
  | '\r' :: r => '\n' :: lineFeeds r
  | c :: r => c :: lineFeeds r
  | [] => []

/-- Texts and parts of a template in turn. -/
def interleave : List String → List (List Piece) → List Piece
  | text :: texts, part :: parts =>
    [.text (String.ofList (lineFeeds text.toList)), .text "$\x7b"] ++ part ++ [.text "\x7d"] ++
      interleave texts parts
  | text :: texts, [] => .text (String.ofList (lineFeeds text.toList)) :: interleave texts []
  | [], _ => []

def isWordOperator (operator : String) : Bool := operator.toList.all Char.isAlpha

/-- Would the operator run together with the operand's first sign? -/
def clashes (operator : String) : Node → Bool
  | .unary _ inner _ => inner == operator && (inner == "+" || inner == "-")
  | .update _ true inner _ => inner == operator ++ operator
  | _ => false

/-- A number before a property or an index keeps no comments after it. -/
def afterObject (object : Node) (link : Link) : List Piece :=
  match object, link with
  | .numberLiteral _ raw, .plain => Piece.when (raw.endsWith "n") object.after
  | _, _ => object.after

/-- A whole number takes a second dot before a property, unless zeros lead it. -/
def takesTwoDots : Node → Bool
  | .numberLiteral _ raw =>
    let digits := raw.toList.filter (· != '_')
    digits.all Char.isDigit && !(2 ≤ digits.length && digits.head? == some '0')
  | _ => false

/-- The sign before a property; outside a chain, comments before a plain dot stand before it. -/
def memberDot (object : Node) (property : PropertyName) : Link → List Piece
  | .optional => [.text "?."]
  | .chained => [.text "."]
  | .plain =>
    let lo := property.span.lo
    Piece.when (takesTwoDots object) [.leading (lo - 2), .text "."] ++
      [.leading (lo - 1), .text "."]

def optionalMark (link : Link) : String := if link == .optional then "?." else ""

def questionMark (optional : Bool) : List Piece := Piece.when optional [.text "?"]

def accessorWord : MethodKind → List Piece
  | .method => []
  | .getter => [.text "get "]
  | .setter => [.text "set "]

/-- The parameters of a method in an object; those of a setter keep no comments after them. -/
def methodParams (kind : MethodKind) (params : List Node) (parts : List (List Piece)) :
    List Piece :=
  if kind == .setter then Piece.join [.text ", "] parts else inline params parts

/-- What stands before the body of a method in an object, or instead of it. -/
def methodBodyLead (kind : MethodKind) (body : Option Node) : List Piece :=
  match kind, body with
  | .method, none => [.text ";"]
  | .setter, _ => []
  | _, _ => [.text " "]

/-- The argument of a word such as `return`, in parentheses when comments stand before it. -/
def argumentAfter (argument : Node) (pieces : List Piece) : List Piece :=
  [.openIfLeading argument.span.lo] ++ pieces ++ argument.after ++ [.closeOpened]

/-- Pieces without the comments after a position, which belong behind what follows. -/
def without (pos : Nat) (pieces : List Piece) : List Piece :=
  pieces.filter fun
    | .trailing p _ => p != pos
    | _ => true

def isVariableDecl : Node → Bool
  | .variableDecl .. => true
  | _ => false

/-- The comments after a key of an interface, unless it is in brackets. -/
def afterKey : Node → List Piece
  | .computedKey .. => []
  | key => key.after

def isPrivate : Key Node → Bool
  | .privateName .. => true
  | _ => false

/-- The mark after a field's key; `!` says something of its type only. -/
def fieldMark (mark : String) (type : Option Node) : String :=
  if mark == "!" && type.isNone then "" else mark

/-- The words before a method's key; a private key keeps those that are not about types. -/
def methodModifiers (key : Key Node) (modifiers : Modifiers) : Modifiers :=
  if isPrivate key then modifiers.filter ["static", "async"].contains else modifiers

/-- A keyword for `declare` stands before decorators, others stand after them. -/
def declared (modifiers : Modifiers) : Modifiers := modifiers.filter (· == "declare")

def undeclared (modifiers : Modifiers) : Modifiers := modifiers.filter (· != "declare")

/-- The space before `else`: the branch before it has ended its line, unless it is a block. -/
def elseLead (yes : Node) : List Piece := Piece.when yes.isBlock [.text " "]

/-! ## Layout -/

mutual

/-- The pieces of a node. -/
def layout : Node → List Piece
  | .ident sp text => startAt sp [.text text]
  | .identName sp text => startAt sp [.text text]
  | .word sp text => startAt sp [.text text]
  | .privateName sp text => startAt sp [.text ("#" ++ text)]
  | .stringLiteral sp raw => startAt sp [.text raw]
  | .numberLiteral sp raw => startAt sp [.text raw]
  | .atom sp text => startAt sp [.text text]
  | .templateLiteral sp texts parts =>
    startAt sp ([.text "`"] ++ interleave texts (terms parts (layouts parts)) ++ [.text "`"])
  | .tagged sp tag typeArgs quasi =>
    startAt sp (layout tag ++ tag.after ++ layoutSome typeArgs ++ layout quasi)
  | .hole => []
  | .arrayLiteral sp elements =>
    startAt sp <|
      if elements.isEmpty then [.text "[]"]
      else [.text "[", .line, .indent] ++
        Piece.join [.text ",", .line] (terms elements (layouts elements)) ++
        holeComma elements ++ [.dedent, .line, .text "]"]
  | .objectLiteral sp properties =>
    startAt sp (stacked sp (layouts properties))
  | .keyValue sp key value =>
    startAt sp (layoutKey key ++ [.text ": "] ++ layout value ++ value.after)
  | .shorthand sp inPattern name value =>
    startAt sp (layout name ++ [.text (if inPattern then " = " else "=")] ++ layout value ++
      value.after)
  | .computedKey _ expr => [.text "["] ++ layout expr ++ expr.after ++ [.text "]"]
  | .spread sp argument => startAt sp ([.text "..."] ++ layout argument ++ argument.after)
  | .objectMethod sp modifiers kind generator key typeParams params result body =>
    startAt sp (keywords modifiers ++ accessorWord kind ++ Piece.when generator [.text "*"] ++
      layoutKey key ++ [.text " "] ++ layoutSome typeParams ++ [.text "("] ++
      methodParams kind params (layouts params) ++ [.text ")"] ++ lead ": " result ++
      layoutSome result ++ methodBodyLead kind body ++ layoutSome body)
  | .function sp modifiers generator name typeParams params result body =>
    startAt sp (keywords modifiers ++ [.text "function"] ++ Piece.when generator [.text "*"] ++
      lead " " name ++ layoutSome name ++ layoutSome typeParams ++ [.text "("] ++
      inline params (layouts params) ++ [.text ")"] ++ lead ": " result ++ layoutSome result ++
      lead " " body ++ layoutSome body ++ Piece.when body.isNone [.text ";"])
  | .arrow sp modifiers typeParams params result body =>
    startAt sp (keywords modifiers ++ layoutSome typeParams ++ [.text "("] ++
      inline params (terms params (layouts params)) ++ [.text ")"] ++ lead ": " result ++
      layoutSome result ++ lead " " result ++ [.text "=>"] ++
      (if body.isBlock then layout body
        else [.indent] ++ layout body ++ body.after ++ [.dedent]))
  | .unary sp operator argument =>
    startAt sp ([.text operator] ++
      Piece.when (isWordOperator operator || clashes operator argument) [.text " "] ++
      layout argument ++ argument.after)
  | .update sp before operator argument =>
    startAt sp (Piece.when before [.text operator] ++ layout argument ++ argument.after ++
      Piece.when (!before) [.text operator])
  | .binary sp operator left right =>
    startAt sp (layout left ++ left.after ++ [.text (" " ++ operator ++ " ")] ++ layout right ++
      right.after)
  | .assign sp operator target value =>
    startAt sp (layout target ++ [.text (" " ++ operator ++ " ")] ++ layout value ++ value.after)
  | .conditional sp test yes no =>
    startAt sp (layout test ++ test.after ++ [.text " ? "] ++ layout yes ++ yes.after ++
      [.text " : "] ++ layout no ++ no.after)
  | .sequence sp exprs =>
    startAt sp (Piece.join [.text ", "] (terms exprs (layouts exprs)))
  | .member sp link object property =>
    startAt sp (layout object ++ afterObject object link ++ memberDot object property link ++
      propertyPieces property)
  | .index sp link object key =>
    startAt sp (layout object ++ afterObject object link ++ [.text (optionalMark link ++ "[")] ++
      layout key ++ key.after ++ [.text "]"])
  | .call sp link callee typeArgs args =>
    startAt sp (layout callee ++ callee.after ++ [.text (optionalMark link)] ++
      layoutSome typeArgs ++
      [.text "("] ++ inline args (terms args (layouts args)) ++ [.text ")"])
  | .construct sp callee typeArgs hasArgs args =>
    startAt sp ([.text "new "] ++ layout callee ++ callee.after ++ layoutSome typeArgs ++
      Piece.when hasArgs
        ([.text "("] ++ inline args (terms args (layouts args)) ++ [.text ")"]))
  | .paren sp expr => startAt sp ([.text "("] ++ layout expr ++ expr.after ++ [.text ")"])
  | .yieldExpr sp delegate argument =>
    startAt sp ([.text "yield"] ++ Piece.when delegate [.text "*"] ++ argumentSome argument)
  | .awaitExpr sp argument => startAt sp ([.text "await "] ++ layout argument ++ argument.after)
  | .cast sp "as" expr (.atom _ "const") =>
    startAt sp (layout expr ++ expr.after ++ [.text " as const"])
  | .cast sp operator expr type =>
    startAt sp (layout expr ++ expr.after ++ [.text (" " ++ operator ++ " ")] ++ layout type)
  | .nonNull sp expr => startAt sp (layout expr ++ expr.after ++ [.text "!"])
  | .assertion sp type expr =>
    startAt sp ([.text "<"] ++ layout type ++ [.text ">"] ++ layout expr ++ expr.after)
  | .instantiation sp expr typeArgs => startAt sp (layout expr ++ expr.after ++ layout typeArgs)
  | .decorator sp expr => startAt sp ([.text "@"] ++ layout expr ++ expr.after ++ [.line])
  | .classLike sp modifiers decorators name typeParams base baseArgs implemented members =>
    startAt sp (keywords (declared modifiers) ++ (layouts decorators).flatten ++
      keywords (undeclared modifiers) ++ [.text "class"] ++ lead " " name ++ layoutSome name ++
      layoutSome typeParams ++ lead " extends " base ++ layoutSome base ++ afterSome base ++
      layoutSome baseArgs ++ Piece.when (!implemented.isEmpty) [.text " implements "] ++
      inline implemented (layouts implemented) ++ [.text " "] ++ membersBody (layouts members))
  | .classConstructor sp modifiers params body =>
    startAt sp (keywords modifiers ++ [.text "constructor("] ++ inline params (layouts params) ++
      [.text ")"] ++ layoutSome body ++ Piece.when body.isNone [.text ";"])
  | .classMethod sp decorators modifiers kind generator key optional typeParams params result
      body =>
    startAt sp ([.leading key.span.lo] ++
      Piece.when (!isPrivate key) (layouts decorators).flatten ++
      keywords (methodModifiers key modifiers) ++ accessorWord kind ++
      Piece.when generator [.text "*"] ++ layoutKey key ++
      questionMark (optional && !isPrivate key) ++ layoutSome typeParams ++ [.text "("] ++
      inline params (layouts params) ++ [.text ")"] ++
      lead ": " result ++ layoutSome result ++ lead " " body ++ layoutSome body ++
      Piece.when body.isNone [.text ";"])
  | .classField sp decorators modifiers key mark type value =>
    startAt sp ((layouts decorators).flatten ++ keywords modifiers ++ layoutKey key ++
      [.text (fieldMark mark type)] ++ lead ": " type ++ layoutSome type ++ lead " = " value ++
      layoutSome value ++ afterSome value ++ [.text ";"])
  | .staticBlock sp body => startAt sp ([.text "static"] ++ layout body)
  | .parameter sp decorators modifiers pattern =>
    startAt sp (parameterDecorators (layouts decorators) ++ keywords modifiers ++ layout pattern ++
      Piece.when modifiers.isEmpty pattern.after)
  | .bindingIdent sp text optional type =>
    startAt sp ([.text text] ++ questionMark optional ++ lead ": " type ++ layoutSome type)
  | .arrayPattern sp elements optional type =>
    startAt sp ([.text "["] ++ inline elements (terms elements (layouts elements)) ++
      [.finalComma sp, .text "]"] ++ questionMark optional ++ lead ": " type ++ layoutSome type)
  | .objectPattern sp properties optional type =>
    startAt sp (
      (if properties.isEmpty then [.text "\x7b\x7d"]
        else [.text "\x7b "] ++ inline properties (layouts properties) ++
          [.finalComma sp, .text " \x7d"]) ++
      questionMark optional ++ lead ": " type ++ layoutSome type)
  | .defaulted sp pattern value =>
    startAt sp (layout pattern ++ pattern.after ++ [.text " = "] ++ layout value ++ value.after)
  | .restPattern sp pattern type =>
    startAt sp ([.text "..."] ++ layout pattern ++ pattern.after ++ lead ": " type ++
      layoutSome type)
  | .ascribed sp type => startAt sp (layout type)
  | .typeRef sp name args => startAt sp (layout name ++ layoutSome args)
  | .qualified sp left right => startAt sp (layout left ++ [.text "."] ++ wordPieces right)
  | .typeArguments sp args =>
    startAt sp ([.text "<"] ++ inline args (layouts args) ++ [.text ">"])
  | .typeParameters sp params =>
    startAt sp ([.text "<"] ++ inline params (layouts params) ++ [.text ">"])
  | .typeParameter sp modifiers name bound initial =>
    startAt sp (keywords modifiers ++ layout name ++ lead " extends " bound ++ layoutSome bound ++
      lead " = " initial ++ layoutSome initial)
  | .arrayType sp element => startAt sp (layout element ++ [.text "[]"])
  | .tupleType sp elements =>
    startAt sp ([.text "[", .indent] ++ inline elements (layouts elements) ++ [.dedent, .text "]"])
  | .tupleElement sp label type =>
    startAt sp (layout label ++ label.after ++ [.text ": "] ++ layout type)
  | .optionalType sp type => startAt sp (layout type ++ [.text "?"])
  | .restType sp type => startAt sp ([.text "..."] ++ layout type)
  | .joinedType sp operator types =>
    startAt sp (Piece.join [.text (" " ++ operator ++ " ")] (entries types (layouts types)))
  | .functionType sp constructs abstracts typeParams params result =>
    startAt sp (Piece.when abstracts [.text "abstract "] ++ Piece.when constructs [.text "new"] ++
      layoutSome typeParams ++ [.text "("] ++ inline params (layouts params) ++
      [.text ") => "] ++ layout result)
  | .typeLiteral sp members =>
    startAt sp (membersBody ((layouts members).map (· ++ [.text ";"])))
  | .mappedType sp readonlyMark key bound renamed optionalMark type =>
    startAt sp ([.text "\x7b", .line, .indent] ++
      Piece.when (readonlyMark != "") [.text (readonlyMark ++ " ")] ++ [.text "["] ++ layout key ++
      [.text " in "] ++ layout bound ++ lead " as " renamed ++ layoutSome renamed ++ [.text "]"] ++
      [.text optionalMark] ++ lead ": " type ++ layoutSome type ++
      [.text ";", .line, .dedent, .text "\x7d"])
  | .conditionalType sp check bound yes no =>
    startAt sp (layout check ++ [.text " extends "] ++ layout bound ++ [.text " ? "] ++
      layout yes ++
      [.text " : "] ++ layout no)
  | .inferType sp param => startAt sp ([.text "infer "] ++ layout param)
  | .parenType sp type => startAt sp ([.text "("] ++ layout type ++ [.text ")"])
  | .typeOperator sp operator type => startAt sp ([.text (operator ++ " ")] ++ layout type)
  | .indexedType sp object key =>
    startAt sp (layout object ++ [.text "["] ++ layout key ++ [.text "]"])
  | .importType sp argument attributes qualifier args =>
    startAt sp ([.text "import("] ++ layout argument ++ lead ", " attributes ++
      layoutSome attributes ++ [.text ")"] ++ lead "." qualifier ++ layoutSome qualifier ++
      layoutSome args)
  | .typeQuery sp name args => startAt sp ([.text "typeof "] ++ layout name ++ layoutSome args)
  | .typePredicate sp asserts param type =>
    startAt sp (Piece.when asserts [.text "asserts "] ++ layout param ++ lead " is " type ++
      layoutSome type)
  | .propertySignature sp modifiers key optional type =>
    startAt sp (keywords modifiers ++ layout key ++ afterKey key ++
      questionMark optional ++ lead ": " type ++ layoutSome type)
  | .methodSignature sp kind key optional typeParams params type =>
    Piece.when (kind == .method) [.leading sp.lo] ++ accessorWord kind ++ layout key ++
      afterKey key ++ questionMark optional ++ layoutSome typeParams ++ [.text "("] ++
      inline params (layouts params) ++ [.text ")"] ++ lead ": " type ++ layoutSome type
  | .callSignature sp constructs typeParams params type =>
    startAt sp (Piece.when constructs [.text "new"] ++ layoutSome typeParams ++ [.text "("] ++
      inline params (layouts params) ++ [.text ")"] ++
      lead (if constructs then ": " else " : ") type ++ layoutSome type)
  | .indexSignature sp modifiers params type =>
    startAt sp (keywords (modifiers.filter (· == "readonly")) ++ [.text "["] ++
      inline params (layouts params) ++ [.text "]"] ++ lead ": " type ++ layoutSome type)
  | .blockStmt sp body =>
    startAt sp ([.text "\x7b"] ++
      (if body.isEmpty then [.lineIfLeading (sp.hi - 1)]
        else Piece.lines [] (endedAll body (layouts body))) ++
      [.leading (sp.hi - 1), .text "\x7d"])
  | .emptyStmt sp => startAt sp [.text ";"]
  | .terminated sp inner =>
    startAt sp (without sp.hi (layout inner ++ Piece.when (!inner.isVariableDecl) inner.after) ++
      [.text ";"])
  | .variableDecl sp modifiers keyword declarators =>
    startAt sp (keywords modifiers ++ [.text (keyword ++ " ")] ++
      inline declarators (layouts declarators))
  | .declarator sp pattern value =>
    startAt sp (layout pattern ++ pattern.after ++ lead " = " value ++ layoutSome value ++
      afterSome value)
  | .returnStmt sp argument =>
    startAt sp ([.text "return"] ++ argumentSome argument ++ [.text ";"])
  | .throwStmt sp argument =>
    startAt sp ([.text "throw"] ++ argumentAfter argument (layout argument) ++ [.text ";"])
  | .ifStmt sp test yes no =>
    startAt sp ([.text "if ("] ++ layout test ++ test.after ++ [.text ") "] ++
      ended yes (layout yes) ++ Piece.when no.isSome (elseLead yes) ++ lead "else " no ++
      endedSome no)
  | .forStmt sp first test step body =>
    startAt sp ([.text "for("] ++ layoutSome first ++ afterSome first ++ [.text ";"] ++
      lead " " test ++
      layoutSome test ++ afterSome test ++ [.text ";"] ++ lead " " step ++ layoutSome step ++
      afterSome step ++ [.text ")"] ++ ended body (layout body))
  | .forInStmt sp left right body =>
    startAt sp ([.text "for("] ++ layout left ++ left.after ++ [.text " in "] ++ layout right ++
      right.after ++ [.text ")"] ++ ended body (layout body))
  | .forOfStmt sp awaits left right body =>
    startAt sp ([.text (if awaits then "for await (" else "for (")] ++ layout left ++ left.after ++
      [.text " of "] ++ layout right ++ right.after ++ [.text ")"] ++ ended body (layout body))
  | .whileStmt sp test body =>
    startAt sp ([.text "while("] ++ layout test ++ test.after ++ [.text ")"] ++
      ended body (layout body))
  | .doWhileStmt sp body test =>
    startAt sp ([.text "do "] ++ ended body (layout body) ++ [.text "while ("] ++ layout test ++
      test.after ++ [.text ")"])
  | .switchStmt sp value cases =>
    startAt sp ([.text "switch("] ++ layout value ++ value.after ++ [.text ")"] ++
      membersBody (layouts cases))
  | .caseClause sp test body =>
    startAt sp ((if test.isSome then [.text "case "] else [.text "default"]) ++ layoutSome test ++
      afterSome test ++ [.text ":"] ++
      Piece.when (!body.isEmpty) (Piece.lines [] (endedAll body (layouts body))))
  | .jumpStmt sp keyword label =>
    Piece.when (keyword == "debugger") [.leading sp.lo] ++ [.text keyword] ++ lead " " label ++
      layoutSome label ++ [.text ";"]
  | .labeledStmt sp label body =>
    startAt sp (layout label ++ [.text ": "] ++ ended body (layout body))
  | .tryStmt sp body handler finalizer =>
    startAt sp ([.text "try "] ++ layout body ++ lead " " handler ++ layoutSome handler ++
      lead " finally" finalizer ++ layoutSome finalizer)
  | .catchClause sp param body =>
    startAt sp ([.text "catch "] ++ lead "(" param ++ layoutSome param ++ afterSome param ++
      lead ")" param ++ [.text " "] ++ layout body)
  | .withStmt sp object body =>
    startAt sp ([.text "with ("] ++ layout object ++ object.after ++ [.text ")"] ++
      ended body (layout body))
  | .interfaceDecl sp modifiers name typeParams bases bodySpan members =>
    startAt sp (keywords modifiers ++ [.text "interface "] ++ layout name ++
      layoutSome typeParams ++
      Piece.when (!bases.isEmpty) [.text " extends "] ++ inline bases (layouts bases) ++
      [.text " ", .leading bodySpan.lo] ++
      membersBody ((layouts members).map (· ++ [.text ";"])))
  | .heritage sp expr args => startAt sp (layout expr ++ expr.after ++ layoutSome args)
  | .typeAlias sp modifiers name typeParams type =>
    startAt sp (keywords modifiers ++ [.text "type "] ++ layout name ++ layoutSome typeParams ++
      [.text " = "] ++ layout type ++ [.text ";"])
  | .enumDecl sp modifiers name members =>
    startAt sp (keywords modifiers ++ [.text "enum "] ++ layout name ++ [.text " \x7b"] ++
      (if members.isEmpty then [.line]
        else Piece.lines [.text ","] (layouts members)) ++ [.text "\x7d"])
  | .enumMember sp name value =>
    startAt sp (layout name ++ lead " = " value ++ layoutSome value ++ afterSome value)
  | .namespaceDecl sp modifiers keyword names body =>
    startAt sp (keywords modifiers ++
      (if keyword == "global" then [.text keyword]
        else [.text (keyword ++ " ")] ++ Piece.join [.text "."] (layouts names)) ++
      lead " " body ++ layoutSome body)
  | .moduleBlock sp body => startAt sp (membersBody (endedAll body (layouts body)))
  | .ambientImport clause attributes =>
    clause.layout ++ lead " with " attributes ++ layoutSome attributes ++ [.text ";"]
  | .importEquals sp modifiers name reference =>
    startAt sp (keywords (modifiers.filter (· == "export")) ++ [.text "import "] ++
      keywords (modifiers.filter (· != "export")) ++ layout name ++ [.text " = "] ++
      layout reference ++ [.text ";"])
  | .externalReference sp source => startAt sp ([.text "require("] ++ layout source ++ [.text ")"])
  | .exportDecl sp (.classLike classSp modifiers decorators name typeParams base baseArgs
      implemented members) =>
    startAt sp ((layouts decorators).flatten ++ [.text "export ", .leading classSp.lo] ++
      keywords modifiers ++
      [.text "class"] ++ lead " " name ++ layoutSome name ++ layoutSome typeParams ++
      lead " extends " base ++ layoutSome base ++ afterSome base ++ layoutSome baseArgs ++
      Piece.when (!implemented.isEmpty) [.text " implements "] ++
      inline implemented (layouts implemented) ++ [.text " "] ++
      membersBody (layouts members))
  | .exportDecl sp decl => startAt sp ([.text "export "] ++ layout decl)
  | .exportDefault sp decl => startAt sp ([.text "export default "] ++ layout decl)
  | .exportDefaultExpr sp expr =>
    startAt sp ([.text "export default "] ++ layout expr ++ expr.after ++ [.text ";"])
  | .exportNamed sp modifiers star specifiers source attributes =>
    startAt sp ([.text "export "] ++ keywords modifiers ++
      (star.map fun s => Piece.leading s.span.lo).toList ++ lead "* as " star ++ layoutSome star ++
      Piece.when (star.isNone && specifiers.isEmpty) [.text "\x7b \x7d"] ++
      Piece.when (!specifiers.isEmpty)
        ([.text "\x7b "] ++ inline specifiers (layouts specifiers) ++
          [.finalComma sp, .text " \x7d"]) ++
      lead " from " source ++ layoutSome source ++ lead " with " attributes ++
      layoutSome attributes ++ [.text ";"])
  | .exportSpecifier sp modifiers name exported =>
    startAt sp (keywords modifiers ++ layout name ++ lead " as " exported ++ layoutSome exported)
  | .exportAll sp modifiers source attributes =>
    startAt sp ([.text "export "] ++ keywords modifiers ++ [.text "* from "] ++ layout source ++
      lead " with " attributes ++ layoutSome attributes ++ [.text ";"])
  | .exportAssign sp expr => startAt sp ([.text "export = "] ++ layout expr ++ expr.after)
  | .exportAsNamespace sp name =>
    startAt sp ([.text "export = "] ++ layout name)
  | .markupElement sp name typeArgs attributes closed children =>
    startAt sp ([.text "<"] ++ layout name ++ layoutSome typeArgs ++
      ((layouts attributes).map (.text " " :: ·)).flatten ++
      (if closed then [.text "/>"]
        else
          [.text ">"] ++ (layouts children).flatten ++ [.text "</"] ++ layout name ++ [.text ">"]))
  | .markupFragment sp children =>
    startAt sp ([.text "<>"] ++ (layouts children).flatten ++ [.text "</>"])
  | .markupAttribute sp name value =>
    startAt sp (wordPieces name ++ lead "=" value ++ layoutSome value)
  | .markupText _ raw => [.text raw]
  | .markupContainer sp expr =>
    startAt sp ([.text "\x7b"] ++ Piece.when expr.isNone [.trailing (sp.lo + 1) true] ++
      layoutSome expr ++ afterSome expr ++ [.text "\x7d"])

def layoutKey : Key Node → List Piece
  | .word sp text => startAt sp [.text text]
  | .privateName sp text => startAt sp [.text ("#" ++ text)]
  | .stringLiteral sp raw => startAt sp [.text raw]
  | .numberLiteral sp raw => startAt sp [.text raw]
  | .computed _ expr => [.text "["] ++ layout expr ++ expr.after ++ [.text "]"]

def layouts : List Node → List (List Piece)
  | [] => []
  | n :: ns => layout n :: layouts ns

/-- The pieces of a part that may be missing. -/
def layoutSome : Option Node → List Piece
  | none => []
  | some n => layout n

/-- The pieces of the argument of a word such as `return`, if it has one. -/
def argumentSome : Option Node → List Piece
  | none => []
  | some n => argumentAfter n (layout n)

/-- The pieces of a statement that may be missing, with what ends its line. -/
def endedSome : Option Node → List Piece
  | none => []
  | some n => ended n (layout n)

end

end Codemod.Node
