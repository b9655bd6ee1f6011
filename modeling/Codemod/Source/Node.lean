import Codemod.Source.ImportClause

/-!
# Syntax trees

`Node` is the one type of the syntax tree: expressions, binding patterns, types, statements, class
and interface members and elements of markup, one constructor for each form. Every node but a hole
carries its span.

An identifier that names a variable, a type, a label or an exported thing is an `ident`, an
`identName` or a `bindingIdent`. Names that refer to no binding have types of their own: a property
after a dot is a `PropertyName`, the right side of a qualified name and the name of an attribute are
a `Word`, and a property of an object or a member of a class has a `Key`, of which only a bracketed
one holds a node. `Node.identifier?` tells the identifiers, and `Node.children` gives the parts of a
node, so that the identifiers of a tree are the identifier nodes below its root.
-/
namespace Codemod

inductive MethodKind
  | method
  | getter
  | setter
deriving DecidableEq, Repr

/-- How a member, an index or a call hangs on its object: plainly, with `?.`, or plainly inside a
chain that a `?.` opened. -/
inductive Link
  | plain
  | chained
  | optional
deriving DecidableEq, Repr

/-- Keywords before a declaration or member, in the order in which they are printed. -/
abbrev Modifiers := List String

/-- A word that refers to no binding. -/
structure Word where
  sp : Span
  text : String
deriving DecidableEq, Repr

inductive PropertyName
  | word (sp : Span) (text : String)
  | privateName (sp : Span) (text : String)
deriving DecidableEq, Repr

def PropertyName.span : PropertyName → Span
  | .word sp _ => sp
  | .privateName sp _ => sp

/-- The key of a property of an object or of a member of a class, with parts of type `α`. -/
inductive Key (α : Type)
  | word (sp : Span) (text : String)
  | privateName (sp : Span) (text : String)
  | stringLiteral (sp : Span) (raw : String)
  | numberLiteral (sp : Span) (raw : String)
  /-- A key in square brackets. -/
  | computed (sp : Span) (expr : α)

namespace Key

def span : Key α → Span
  | .word sp _ => sp
  | .privateName sp _ => sp
  | .stringLiteral sp _ => sp
  | .numberLiteral sp _ => sp
  | .computed sp _ => sp

/-- The part of a key, which only one in brackets has. -/
def part? : Key α → Option α
  | .computed _ expr => some expr
  | _ => none

end Key

inductive Node
  -- expressions
  /-- An identifier in an expression. -/
  | ident (sp : Span) (text : String)
  /-- An identifier that names a declaration, a type, a label or an exported thing. -/
  | identName (sp : Span) (text : String)
  /-- A tag in a name space, which refers to no binding. -/
  | word (sp : Span) (text : String)
  | privateName (sp : Span) (text : String)
  | stringLiteral (sp : Span) (raw : String)
  | numberLiteral (sp : Span) (raw : String)
  /-- A form that is printed as its text: `this`, `null`, a regular expression, a keyword type. -/
  | atom (sp : Span) (text : String)
  /-- A template: the texts around its parts, and the parts. -/
  | templateLiteral (sp : Span) (texts : List String) (parts : List Node)
  | tagged (sp : Span) (tag : Node) (typeArgs : Option Node) (quasi : Node)
  /-- A missing element of an array. -/
  | hole
  | arrayLiteral (sp : Span) (elements : List Node)
  | objectLiteral (sp : Span) (properties : List Node)
  | keyValue (sp : Span) (key : Key Node) (value : Node)
  /-- A name with a default, which makes an object literal a pattern. -/
  | shorthand (sp : Span) (inPattern : Bool) (name value : Node)
  /-- A key of an interface in square brackets. -/
  | computedKey (sp : Span) (expr : Node)
  | spread (sp : Span) (argument : Node)
  | objectMethod (sp : Span) (modifiers : Modifiers) (kind : MethodKind) (generator : Bool)
      (key : Key Node) (typeParams : Option Node) (params : List Node) (result : Option Node)
      (body : Option Node)
  | function (sp : Span) (modifiers : Modifiers) (generator : Bool) (name : Option Node)
      (typeParams : Option Node) (params : List Node) (result : Option Node) (body : Option Node)
  | arrow (sp : Span) (modifiers : Modifiers) (typeParams : Option Node) (params : List Node)
      (result : Option Node) (body : Node)
  | unary (sp : Span) (operator : String) (argument : Node)
  | update (sp : Span) (before : Bool) (operator : String) (argument : Node)
  | binary (sp : Span) (operator : String) (left right : Node)
  | assign (sp : Span) (operator : String) (target value : Node)
  | conditional (sp : Span) (test yes no : Node)
  | sequence (sp : Span) (exprs : List Node)
  | member (sp : Span) (link : Link) (object : Node) (property : PropertyName)
  | index (sp : Span) (link : Link) (object key : Node)
  | call (sp : Span) (link : Link) (callee : Node) (typeArgs : Option Node) (args : List Node)
  /-- A `new` expression; `hasArgs` when it has an argument list at all. -/
  | construct (sp : Span) (callee : Node) (typeArgs : Option Node) (hasArgs : Bool)
      (args : List Node)
  | paren (sp : Span) (expr : Node)
  | yieldExpr (sp : Span) (delegate : Bool) (argument : Option Node)
  | awaitExpr (sp : Span) (argument : Node)
  /-- `expr as type` and `expr satisfies type`. -/
  | cast (sp : Span) (operator : String) (expr type : Node)
  | nonNull (sp : Span) (expr : Node)
  /-- `<type>expr`. -/
  | assertion (sp : Span) (type expr : Node)
  | instantiation (sp : Span) (expr typeArgs : Node)
  -- classes
  | decorator (sp : Span) (expr : Node)
  | classLike (sp : Span) (modifiers : Modifiers) (decorators : List Node) (name : Option Node)
      (typeParams : Option Node) (base baseArgs : Option Node) (implemented : List Node)
      (members : List Node)
  | classConstructor (sp : Span) (modifiers : Modifiers) (params : List Node) (body : Option Node)
  | classMethod (sp : Span) (decorators : List Node) (modifiers : Modifiers) (kind : MethodKind)
      (generator : Bool) (key : Key Node) (optional : Bool) (typeParams : Option Node)
      (params : List Node) (result : Option Node) (body : Option Node)
  /-- A field; `mark` is the `?` or `!` after its key. -/
  | classField (sp : Span) (decorators : List Node) (modifiers : Modifiers) (key : Key Node)
      (mark : String) (type value : Option Node)
  | staticBlock (sp : Span) (body : Node)
  -- binding patterns
  | parameter (sp : Span) (decorators : List Node) (modifiers : Modifiers) (pattern : Node)
  | bindingIdent (sp : Span) (text : String) (optional : Bool) (type : Option Node)
  | arrayPattern (sp : Span) (elements : List Node) (optional : Bool) (type : Option Node)
  | objectPattern (sp : Span) (properties : List Node) (optional : Bool) (type : Option Node)
  | defaulted (sp : Span) (pattern value : Node)
  | restPattern (sp : Span) (pattern : Node) (type : Option Node)
  -- types
  /-- A type with the sign before it, where its span starts. -/
  | ascribed (sp : Span) (type : Node)
  | typeRef (sp : Span) (name : Node) (args : Option Node)
  | qualified (sp : Span) (left : Node) (right : Word)
  | typeArguments (sp : Span) (args : List Node)
  | typeParameters (sp : Span) (params : List Node)
  | typeParameter (sp : Span) (modifiers : Modifiers) (name : Node) (bound initial : Option Node)
  | arrayType (sp : Span) (element : Node)
  | tupleType (sp : Span) (elements : List Node)
  | tupleElement (sp : Span) (label : Node) (type : Node)
  | optionalType (sp : Span) (type : Node)
  | restType (sp : Span) (type : Node)
  /-- A union or an intersection, by its operator. -/
  | joinedType (sp : Span) (operator : String) (types : List Node)
  /-- The type of a function, or with `new` of a constructor, which may be abstract. -/
  | functionType (sp : Span) (constructs abstracts : Bool) (typeParams : Option Node)
      (params : List Node) (result : Node)
  | typeLiteral (sp : Span) (members : List Node)
  /-- A mapped type; the two marks are how `readonly` and `?` are written. -/
  | mappedType (sp : Span) (readonlyMark : String) (key bound : Node) (renamed : Option Node)
      (optionalMark : String) (type : Option Node)
  | conditionalType (sp : Span) (check bound yes no : Node)
  | inferType (sp : Span) (param : Node)
  | parenType (sp : Span) (type : Node)
  | typeOperator (sp : Span) (operator : String) (type : Node)
  | indexedType (sp : Span) (object key : Node)
  | importType (sp : Span) (argument : Node) (attributes qualifier args : Option Node)
  | typeQuery (sp : Span) (name : Node) (args : Option Node)
  | typePredicate (sp : Span) (asserts : Bool) (param : Node) (type : Option Node)
  | propertySignature (sp : Span) (modifiers : Modifiers) (key : Node) (optional : Bool)
      (type : Option Node)
  | methodSignature (sp : Span) (kind : MethodKind) (key : Node) (optional : Bool)
      (typeParams : Option Node) (params : List Node) (type : Option Node)
  | callSignature (sp : Span) (constructs : Bool) (typeParams : Option Node) (params : List Node)
      (type : Option Node)
  | indexSignature (sp : Span) (modifiers : Modifiers) (params : List Node) (type : Option Node)
  -- statements
  | blockStmt (sp : Span) (body : List Node)
  | emptyStmt (sp : Span)
  /-- An expression or a variable declaration that a semicolon ends. -/
  | terminated (sp : Span) (inner : Node)
  | variableDecl (sp : Span) (modifiers : Modifiers) (keyword : String) (declarators : List Node)
  | declarator (sp : Span) (pattern : Node) (value : Option Node)
  | returnStmt (sp : Span) (argument : Option Node)
  | throwStmt (sp : Span) (argument : Node)
  | ifStmt (sp : Span) (test yes : Node) (no : Option Node)
  | forStmt (sp : Span) (first test step : Option Node) (body : Node)
  | forInStmt (sp : Span) (left right body : Node)
  | forOfStmt (sp : Span) (awaits : Bool) (left right body : Node)
  | whileStmt (sp : Span) (test body : Node)
  | doWhileStmt (sp : Span) (body test : Node)
  | switchStmt (sp : Span) (value : Node) (cases : List Node)
  | caseClause (sp : Span) (test : Option Node) (body : List Node)
  /-- `break`, `continue` and `debugger`, by keyword. -/
  | jumpStmt (sp : Span) (keyword : String) (label : Option Node)
  | labeledStmt (sp : Span) (label body : Node)
  | tryStmt (sp : Span) (body : Node) (handler finalizer : Option Node)
  | catchClause (sp : Span) (param : Option Node) (body : Node)
  | withStmt (sp : Span) (object body : Node)
  -- declarations
  | interfaceDecl (sp : Span) (modifiers : Modifiers) (name : Node) (typeParams : Option Node)
      (bases : List Node) (bodySpan : Span) (members : List Node)
  /-- A base of an interface, or an implemented interface of a class. -/
  | heritage (sp : Span) (expr : Node) (args : Option Node)
  | typeAlias (sp : Span) (modifiers : Modifiers) (name : Node) (typeParams : Option Node)
      (type : Node)
  | enumDecl (sp : Span) (modifiers : Modifiers) (name : Node) (members : List Node)
  | enumMember (sp : Span) (name : Node) (value : Option Node)
  /-- A namespace or an ambient module, by keyword; a dotted name has several parts. -/
  | namespaceDecl (sp : Span) (modifiers : Modifiers) (keyword : String) (names : List Node)
      (body : Option Node)
  | moduleBlock (sp : Span) (body : List Node)
  /-- An import declaration inside an ambient module. -/
  | ambientImport (clause : ImportClause) (attributes : Option Node)
  | importEquals (sp : Span) (modifiers : Modifiers) (name reference : Node)
  | externalReference (sp : Span) (source : Node)
  | exportDecl (sp : Span) (decl : Node)
  | exportDefault (sp : Span) (decl : Node)
  | exportDefaultExpr (sp : Span) (expr : Node)
  | exportNamed (sp : Span) (modifiers : Modifiers) (star : Option Node) (specifiers : List Node)
      (source attributes : Option Node)
  | exportSpecifier (sp : Span) (modifiers : Modifiers) (name : Node) (exported : Option Node)
  | exportAll (sp : Span) (modifiers : Modifiers) (source : Node) (attributes : Option Node)
  | exportAssign (sp : Span) (expr : Node)
  | exportAsNamespace (sp : Span) (name : Node)
  -- markup
  /-- An element; `closed` when its start tag also ends it. -/
  | markupElement (sp : Span) (name : Node) (typeArgs : Option Node) (attributes : List Node)
      (closed : Bool) (children : List Node)
  | markupFragment (sp : Span) (children : List Node)
  | markupAttribute (sp : Span) (name : Word) (value : Option Node)
  | markupText (sp : Span) (raw : String)
  /-- An expression in braces; without one, the braces are empty. -/
  | markupContainer (sp : Span) (expr : Option Node)
deriving Inhabited

namespace Node

/-- The stretch of source text that the node covers. -/
def span : Node → Span
  | .ident sp _ => sp
  | .identName sp _ => sp
  | .word sp _ => sp
  | .privateName sp _ => sp
  | .stringLiteral sp _ => sp
  | .numberLiteral sp _ => sp
  | .atom sp _ => sp
  | .templateLiteral sp _ _ => sp
  | .tagged sp _ _ _ => sp
  | .hole => default
  | .arrayLiteral sp _ => sp
  | .objectLiteral sp _ => sp
  | .keyValue sp _ _ => sp
  | .shorthand sp _ _ _ => sp
  | .computedKey sp _ => sp
  | .spread sp _ => sp
  | .objectMethod sp _ _ _ _ _ _ _ _ => sp
  | .function sp _ _ _ _ _ _ _ => sp
  | .arrow sp _ _ _ _ _ => sp
  | .unary sp _ _ => sp
  | .update sp _ _ _ => sp
  | .binary sp _ _ _ => sp
  | .assign sp _ _ _ => sp
  | .conditional sp _ _ _ => sp
  | .sequence sp _ => sp
  | .member sp _ _ _ => sp
  | .index sp _ _ _ => sp
  | .call sp _ _ _ _ => sp
  | .construct sp _ _ _ _ => sp
  | .paren sp _ => sp
  | .yieldExpr sp _ _ => sp
  | .awaitExpr sp _ => sp
  | .cast sp _ _ _ => sp
  | .nonNull sp _ => sp
  | .assertion sp _ _ => sp
  | .instantiation sp _ _ => sp
  | .decorator sp _ => sp
  | .classLike sp _ _ _ _ _ _ _ _ => sp
  | .classConstructor sp _ _ _ => sp
  | .classMethod sp _ _ _ _ _ _ _ _ _ _ => sp
  | .classField sp _ _ _ _ _ _ => sp
  | .staticBlock sp _ => sp
  | .parameter sp _ _ _ => sp
  | .bindingIdent sp _ _ _ => sp
  | .arrayPattern sp _ _ _ => sp
  | .objectPattern sp _ _ _ => sp
  | .defaulted sp _ _ => sp
  | .restPattern sp _ _ => sp
  | .ascribed sp _ => sp
  | .typeRef sp _ _ => sp
  | .qualified sp _ _ => sp
  | .typeArguments sp _ => sp
  | .typeParameters sp _ => sp
  | .typeParameter sp _ _ _ _ => sp
  | .arrayType sp _ => sp
  | .tupleType sp _ => sp
  | .tupleElement sp _ _ => sp
  | .optionalType sp _ => sp
  | .restType sp _ => sp
  | .joinedType sp _ _ => sp
  | .functionType sp _ _ _ _ _ => sp
  | .typeLiteral sp _ => sp
  | .mappedType sp _ _ _ _ _ _ => sp
  | .conditionalType sp _ _ _ _ => sp
  | .inferType sp _ => sp
  | .parenType sp _ => sp
  | .typeOperator sp _ _ => sp
  | .indexedType sp _ _ => sp
  | .importType sp _ _ _ _ => sp
  | .typeQuery sp _ _ => sp
  | .typePredicate sp _ _ _ => sp
  | .propertySignature sp _ _ _ _ => sp
  | .methodSignature sp _ _ _ _ _ _ => sp
  | .callSignature sp _ _ _ _ => sp
  | .indexSignature sp _ _ _ => sp
  | .blockStmt sp _ => sp
  | .emptyStmt sp => sp
  | .terminated sp _ => sp
  | .variableDecl sp _ _ _ => sp
  | .declarator sp _ _ => sp
  | .returnStmt sp _ => sp
  | .throwStmt sp _ => sp
  | .ifStmt sp _ _ _ => sp
  | .forStmt sp _ _ _ _ => sp
  | .forInStmt sp _ _ _ => sp
  | .forOfStmt sp _ _ _ _ => sp
  | .whileStmt sp _ _ => sp
  | .doWhileStmt sp _ _ => sp
  | .switchStmt sp _ _ => sp
  | .caseClause sp _ _ => sp
  | .jumpStmt sp _ _ => sp
  | .labeledStmt sp _ _ => sp
  | .tryStmt sp _ _ _ => sp
  | .catchClause sp _ _ => sp
  | .withStmt sp _ _ => sp
  | .interfaceDecl sp _ _ _ _ _ _ => sp
  | .heritage sp _ _ => sp
  | .typeAlias sp _ _ _ _ => sp
  | .enumDecl sp _ _ _ => sp
  | .enumMember sp _ _ => sp
  | .namespaceDecl sp _ _ _ _ => sp
  | .moduleBlock sp _ => sp
  | .ambientImport clause _ => clause.span.getD default
  | .importEquals sp _ _ _ => sp
  | .externalReference sp _ => sp
  | .exportDecl sp _ => sp
  | .exportDefault sp _ => sp
  | .exportDefaultExpr sp _ => sp
  | .exportNamed sp _ _ _ _ _ => sp
  | .exportSpecifier sp _ _ _ => sp
  | .exportAll sp _ _ _ => sp
  | .exportAssign sp _ => sp
  | .exportAsNamespace sp _ => sp
  | .markupElement sp _ _ _ _ _ => sp
  | .markupFragment sp _ => sp
  | .markupAttribute sp _ _ => sp
  | .markupText sp _ => sp
  | .markupContainer sp _ => sp

/-- The text of an identifier node: one that refers to a binding or makes one. -/
def identifier? : Node → Option String
  | .ident _ text => some text
  | .identName _ text => some text
  | .bindingIdent _ text _ _ => some text
  | _ => none

/-- The parts of a node, in source order. Those of an import declaration inside an ambient module
are left out: nothing in it refers to the code around it. -/
def children : Node → List Node
  | .ident _ _ => []
  | .identName _ _ => []
  | .word _ _ => []
  | .privateName _ _ => []
  | .stringLiteral _ _ => []
  | .numberLiteral _ _ => []
  | .atom _ _ => []
  | .templateLiteral _ _ parts => parts
  | .tagged _ tag typeArgs quasi => [tag] ++ typeArgs.toList ++ [quasi]
  | .hole => []
  | .arrayLiteral _ elements => elements
  | .objectLiteral _ properties => properties
  | .keyValue _ key value => key.part?.toList ++ [value]
  | .shorthand _ _ name value => [name, value]
  | .computedKey _ expr => [expr]
  | .spread _ argument => [argument]
  | .objectMethod _ _ _ _ key typeParams params result body =>
    key.part?.toList ++ typeParams.toList ++ params ++ result.toList ++ body.toList
  | .function _ _ _ name typeParams params result body =>
    name.toList ++ typeParams.toList ++ params ++ result.toList ++ body.toList
  | .arrow _ _ typeParams params result body =>
    typeParams.toList ++ params ++ result.toList ++ [body]
  | .unary _ _ argument => [argument]
  | .update _ _ _ argument => [argument]
  | .binary _ _ left right => [left, right]
  | .assign _ _ target value => [target, value]
  | .conditional _ test yes no => [test, yes, no]
  | .sequence _ exprs => exprs
  | .member _ _ object _ => [object]
  | .index _ _ object key => [object, key]
  | .call _ _ callee typeArgs args => [callee] ++ typeArgs.toList ++ args
  | .construct _ callee typeArgs _ args => [callee] ++ typeArgs.toList ++ args
  | .paren _ expr => [expr]
  | .yieldExpr _ _ argument => argument.toList
  | .awaitExpr _ argument => [argument]
  | .cast _ _ expr type => [expr, type]
  | .nonNull _ expr => [expr]
  | .assertion _ type expr => [type, expr]
  | .instantiation _ expr typeArgs => [expr, typeArgs]
  | .decorator _ expr => [expr]
  | .classLike _ _ decorators name typeParams base baseArgs implemented members =>
    decorators ++ name.toList ++ typeParams.toList ++ base.toList ++ baseArgs.toList ++
      implemented ++ members
  | .classConstructor _ _ params body => params ++ body.toList
  | .classMethod _ decorators _ _ _ key _ typeParams params result body =>
    decorators ++ key.part?.toList ++ typeParams.toList ++ params ++ result.toList ++ body.toList
  | .classField _ decorators _ key _ type value =>
    decorators ++ key.part?.toList ++ type.toList ++ value.toList
  | .staticBlock _ body => [body]
  | .parameter _ decorators _ pattern => decorators ++ [pattern]
  | .bindingIdent _ _ _ type => type.toList
  | .arrayPattern _ elements _ type => elements ++ type.toList
  | .objectPattern _ properties _ type => properties ++ type.toList
  | .defaulted _ pattern value => [pattern, value]
  | .restPattern _ pattern type => [pattern] ++ type.toList
  | .ascribed _ type => [type]
  | .typeRef _ name args => [name] ++ args.toList
  | .qualified _ left _ => [left]
  | .typeArguments _ args => args
  | .typeParameters _ params => params
  | .typeParameter _ _ name bound initial => [name] ++ bound.toList ++ initial.toList
  | .arrayType _ element => [element]
  | .tupleType _ elements => elements
  | .tupleElement _ label type => [label, type]
  | .optionalType _ type => [type]
  | .restType _ type => [type]
  | .joinedType _ _ types => types
  | .functionType _ _ _ typeParams params result => typeParams.toList ++ params ++ [result]
  | .typeLiteral _ members => members
  | .mappedType _ _ key bound renamed _ type => [key, bound] ++ renamed.toList ++ type.toList
  | .conditionalType _ check bound yes no => [check, bound, yes, no]
  | .inferType _ param => [param]
  | .parenType _ type => [type]
  | .typeOperator _ _ type => [type]
  | .indexedType _ object key => [object, key]
  | .importType _ argument attributes qualifier args =>
    [argument] ++ attributes.toList ++ qualifier.toList ++ args.toList
  | .typeQuery _ name args => [name] ++ args.toList
  | .typePredicate _ _ param type => [param] ++ type.toList
  | .propertySignature _ _ key _ type => [key] ++ type.toList
  | .methodSignature _ _ key _ typeParams params type =>
    [key] ++ typeParams.toList ++ params ++ type.toList
  | .callSignature _ _ typeParams params type => typeParams.toList ++ params ++ type.toList
  | .indexSignature _ _ params type => params ++ type.toList
  | .blockStmt _ body => body
  | .emptyStmt _ => []
  | .terminated _ inner => [inner]
  | .variableDecl _ _ _ declarators => declarators
  | .declarator _ pattern value => [pattern] ++ value.toList
  | .returnStmt _ argument => argument.toList
  | .throwStmt _ argument => [argument]
  | .ifStmt _ test yes no => [test, yes] ++ no.toList
  | .forStmt _ first test step body => first.toList ++ test.toList ++ step.toList ++ [body]
  | .forInStmt _ left right body => [left, right, body]
  | .forOfStmt _ _ left right body => [left, right, body]
  | .whileStmt _ test body => [test, body]
  | .doWhileStmt _ body test => [body, test]
  | .switchStmt _ value cases => [value] ++ cases
  | .caseClause _ test body => test.toList ++ body
  | .jumpStmt _ _ label => label.toList
  | .labeledStmt _ label body => [label, body]
  | .tryStmt _ body handler finalizer => [body] ++ handler.toList ++ finalizer.toList
  | .catchClause _ param body => param.toList ++ [body]
  | .withStmt _ object body => [object, body]
  | .interfaceDecl _ _ name typeParams bases _ members =>
    [name] ++ typeParams.toList ++ bases ++ members
  | .heritage _ expr args => [expr] ++ args.toList
  | .typeAlias _ _ name typeParams type => [name] ++ typeParams.toList ++ [type]
  | .enumDecl _ _ name members => [name] ++ members
  | .enumMember _ name value => [name] ++ value.toList
  | .namespaceDecl _ _ _ names body => names ++ body.toList
  | .moduleBlock _ body => body
  | .ambientImport _ _ => []
  | .importEquals _ _ name reference => [name, reference]
  | .externalReference _ source => [source]
  | .exportDecl _ decl => [decl]
  | .exportDefault _ decl => [decl]
  | .exportDefaultExpr _ expr => [expr]
  | .exportNamed _ _ star specifiers source attributes =>
    star.toList ++ specifiers ++ source.toList ++ attributes.toList
  | .exportSpecifier _ _ name exported => [name] ++ exported.toList
  | .exportAll _ _ source attributes => [source] ++ attributes.toList
  | .exportAssign _ expr => [expr]
  | .exportAsNamespace _ name => [name]
  | .markupElement _ name typeArgs attributes _ children =>
    [name] ++ typeArgs.toList ++ attributes ++ children
  | .markupFragment _ children => children
  | .markupAttribute _ _ value => value.toList
  | .markupText _ _ => []
  | .markupContainer _ expr => expr.toList

end Node

end Codemod
