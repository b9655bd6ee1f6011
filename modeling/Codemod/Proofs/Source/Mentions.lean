import Codemod.Source.Below

/-!
# Names that a tree mentions

`Node.mentions` says form by form where a tree mentions a name: at its identifiers, whether they
refer to a binding or make one, in whatever part they stand. What is no identifier mentions nothing,
however it is spelled. A property after a dot, the key of a property or of a member of a class, the
right side of a qualified name and the name of an attribute are passed over; of a key in brackets
the expression counts. Of literals and texts nothing counts, and nothing of an import declaration.

Results:
* `mentions_eq`: one step, a case for each form. A node mentions a name when it is an identifier
  with that text, or when one of its parts mentions it.
* `induction_children`: induction on a tree through its parts.
* `mem_identifiers_iff`: the identifiers that are collected from a tree are those it mentions.
-/
namespace Codemod.Node

/-! ## Where a name is mentioned -/

mutual

/-- Does the tree mention the name? -/
def mentions (name : String) : Node → Bool
  -- identifiers
  | .ident _ text | .identName _ text => text == name
  | .bindingIdent _ text _ type => text == name || mentionsSome name type
  -- words, literals and texts
  | .word _ _ | .privateName _ _ | .stringLiteral _ _ | .numberLiteral _ _ | .atom _ _ => false
  | .hole | .emptyStmt _ | .markupText _ _ => false
  -- import declarations of an ambient module
  | .ambientImport _ _ => false
  -- expressions
  | .templateLiteral _ _ nodes | .arrayLiteral _ nodes | .objectLiteral _ nodes
  | .sequence _ nodes => mentionsAny name nodes
  | .tagged _ tag typeArgs quasi =>
    mentions name tag || mentionsSome name typeArgs || mentions name quasi
  | .keyValue _ key value => mentionsKey name key || mentions name value
  | .objectMethod _ _ _ _ key typeParams params result body =>
    mentionsKey name key || mentionsSome name typeParams || mentionsAny name params ||
      mentionsSome name result || mentionsSome name body
  | .function _ _ _ binding typeParams params result body =>
    mentionsSome name binding || mentionsSome name typeParams || mentionsAny name params ||
      mentionsSome name result || mentionsSome name body
  | .arrow _ _ typeParams params result body =>
    mentionsSome name typeParams || mentionsAny name params || mentionsSome name result ||
      mentions name body
  | .computedKey _ expr | .spread _ expr | .unary _ _ expr | .update _ _ _ expr | .paren _ expr
  | .awaitExpr _ expr | .nonNull _ expr | .member _ _ expr _ => mentions name expr
  | .shorthand _ _ left right | .binary _ _ left right | .assign _ _ left right
  | .index _ _ left right | .cast _ _ left right | .assertion _ left right
  | .instantiation _ left right => mentions name left || mentions name right
  | .conditional _ test yes no => mentions name test || mentions name yes || mentions name no
  | .call _ _ callee typeArgs args | .construct _ callee typeArgs _ args =>
    mentions name callee || mentionsSome name typeArgs || mentionsAny name args
  | .yieldExpr _ _ argument => mentionsSome name argument
  -- classes
  | .decorator _ node | .staticBlock _ node => mentions name node
  | .classLike _ _ decorators binding typeParams base baseArgs implemented members =>
    mentionsAny name decorators || mentionsSome name binding || mentionsSome name typeParams ||
      mentionsSome name base || mentionsSome name baseArgs || mentionsAny name implemented ||
      mentionsAny name members
  | .classConstructor _ _ params body => mentionsAny name params || mentionsSome name body
  | .classMethod _ decorators _ _ _ key _ typeParams params result body =>
    mentionsAny name decorators || mentionsKey name key || mentionsSome name typeParams ||
      mentionsAny name params || mentionsSome name result || mentionsSome name body
  | .classField _ decorators _ key _ type value =>
    mentionsAny name decorators || mentionsKey name key || mentionsSome name type ||
      mentionsSome name value
  -- binding patterns
  | .parameter _ decorators _ pattern => mentionsAny name decorators || mentions name pattern
  | .arrayPattern _ nodes _ type | .objectPattern _ nodes _ type =>
    mentionsAny name nodes || mentionsSome name type
  | .defaulted _ pattern value => mentions name pattern || mentions name value
  | .restPattern _ pattern type => mentions name pattern || mentionsSome name type
  -- types
  | .ascribed _ type | .arrayType _ type | .optionalType _ type | .restType _ type
  | .inferType _ type | .parenType _ type | .typeOperator _ _ type | .qualified _ type _ =>
    mentions name type
  | .typeRef _ type args | .typeQuery _ type args => mentions name type || mentionsSome name args
  | .typeArguments _ types | .typeParameters _ types | .tupleType _ types | .joinedType _ _ types
  | .typeLiteral _ types => mentionsAny name types
  | .typeParameter _ _ binding bound initial =>
    mentions name binding || mentionsSome name bound || mentionsSome name initial
  | .tupleElement _ left right | .indexedType _ left right =>
    mentions name left || mentions name right
  | .functionType _ _ _ typeParams params result =>
    mentionsSome name typeParams || mentionsAny name params || mentions name result
  | .mappedType _ _ key bound renamed _ type =>
    mentions name key || mentions name bound || mentionsSome name renamed || mentionsSome name type
  | .conditionalType _ check bound yes no =>
    mentions name check || mentions name bound || mentions name yes || mentions name no
  | .importType _ argument attributes qualifier args =>
    mentions name argument || mentionsSome name attributes || mentionsSome name qualifier ||
      mentionsSome name args
  | .typePredicate _ _ param type => mentions name param || mentionsSome name type
  | .propertySignature _ _ key _ type => mentions name key || mentionsSome name type
  | .methodSignature _ _ key _ typeParams params type =>
    mentions name key || mentionsSome name typeParams || mentionsAny name params ||
      mentionsSome name type
  | .callSignature _ _ typeParams params type =>
    mentionsSome name typeParams || mentionsAny name params || mentionsSome name type
  | .indexSignature _ _ params type => mentionsAny name params || mentionsSome name type
  -- statements
  | .blockStmt _ nodes | .variableDecl _ _ _ nodes => mentionsAny name nodes
  | .terminated _ node | .throwStmt _ node => mentions name node
  | .declarator _ pattern value => mentions name pattern || mentionsSome name value
  | .returnStmt _ argument | .jumpStmt _ _ argument => mentionsSome name argument
  | .ifStmt _ test yes no => mentions name test || mentions name yes || mentionsSome name no
  | .forStmt _ first test step body =>
    mentionsSome name first || mentionsSome name test || mentionsSome name step ||
      mentions name body
  | .forInStmt _ left right body | .forOfStmt _ _ left right body =>
    mentions name left || mentions name right || mentions name body
  | .whileStmt _ left right | .doWhileStmt _ left right | .labeledStmt _ left right
  | .withStmt _ left right => mentions name left || mentions name right
  | .switchStmt _ value cases => mentions name value || mentionsAny name cases
  | .caseClause _ test body => mentionsSome name test || mentionsAny name body
  | .tryStmt _ body handler finalizer =>
    mentions name body || mentionsSome name handler || mentionsSome name finalizer
  | .catchClause _ param body => mentionsSome name param || mentions name body
  -- declarations
  | .interfaceDecl _ _ binding typeParams bases _ members =>
    mentions name binding || mentionsSome name typeParams || mentionsAny name bases ||
      mentionsAny name members
  | .heritage _ expr args => mentions name expr || mentionsSome name args
  | .typeAlias _ _ binding typeParams type =>
    mentions name binding || mentionsSome name typeParams || mentions name type
  | .enumDecl _ _ binding members => mentions name binding || mentionsAny name members
  | .enumMember _ binding value => mentions name binding || mentionsSome name value
  | .namespaceDecl _ _ _ names body => mentionsAny name names || mentionsSome name body
  | .moduleBlock _ nodes => mentionsAny name nodes
  | .importEquals _ _ binding reference => mentions name binding || mentions name reference
  | .externalReference _ node | .exportDecl _ node | .exportDefault _ node
  | .exportDefaultExpr _ node | .exportAssign _ node | .exportAsNamespace _ node =>
    mentions name node
  | .exportNamed _ _ star specifiers source attributes =>
    mentionsSome name star || mentionsAny name specifiers || mentionsSome name source ||
      mentionsSome name attributes
  | .exportSpecifier _ _ binding exported => mentions name binding || mentionsSome name exported
  | .exportAll _ _ source attributes => mentions name source || mentionsSome name attributes
  -- markup
  | .markupElement _ tag typeArgs attributes _ children =>
    mentions name tag || mentionsSome name typeArgs || mentionsAny name attributes ||
      mentionsAny name children
  | .markupFragment _ children => mentionsAny name children
  | .markupAttribute _ _ value => mentionsSome name value
  | .markupContainer _ expr => mentionsSome name expr

/-- Does a key mention the name? Only an expression in brackets does. -/
def mentionsKey (name : String) : Key Node → Bool
  | .computed _ expr => mentions name expr
  | .word _ _ | .privateName _ _ | .stringLiteral _ _ | .numberLiteral _ _ => false

def mentionsAny (name : String) : List Node → Bool
  | [] => false
  | node :: nodes => mentions name node || mentionsAny name nodes

def mentionsSome (name : String) : Option Node → Bool
  | none => false
  | some node => mentions name node

end

/-! ## One step -/

section
variable (name : String)

@[simp] theorem mentionsAny_nil : mentionsAny name [] = false := rfl

@[simp] theorem mentionsAny_cons (node : Node) (nodes : List Node) :
    mentionsAny name (node :: nodes) = (node.mentions name || mentionsAny name nodes) := rfl

@[simp] theorem mentionsAny_append (xs ys : List Node) :
    mentionsAny name (xs ++ ys) = (mentionsAny name xs || mentionsAny name ys) := by
  induction xs with
  | nil => rfl
  | cons x xs ih => rw [List.cons_append, mentionsAny_cons, mentionsAny_cons, ih, Bool.or_assoc]

@[simp] theorem mentionsAny_toList (o : Option Node) :
    mentionsAny name o.toList = mentionsSome name o := by
  cases o with
  | none => rfl
  | some node => exact Bool.or_false (node.mentions name)

@[simp] theorem mentionsSome_part? (key : Key Node) :
    mentionsSome name key.part? = mentionsKey name key := by
  cases key <;> rfl

theorem mentionsAny_iff (nodes : List Node) :
    mentionsAny name nodes = true ↔ ∃ node ∈ nodes, node.mentions name = true := by
  induction nodes with
  | nil => simp
  | cons node nodes ih => simp [ih]

/-- A node mentions a name as an identifier itself, or through its parts. -/
theorem mentions_eq (n : Node) :
    n.mentions name = (n.identifier? == some name || mentionsAny name n.children) := by
  delta children identifier?
  -- both sides list the same parts in the same order, once the lists of parts are opened
  cases n <;>
    (simp only [mentionsAny_append, mentionsAny_cons, mentionsAny_nil, mentionsSome_part?,
      mentionsAny_toList, Option.some_beq_some, Option.none_beq_some, Bool.false_or, Bool.or_false,
      ← Bool.or_assoc]
     rfl)

end

/-! ## Whole trees -/

/-- What holds of a node if it holds of all its parts, holds of every tree. -/
theorem induction_children {P : Node → Prop} (h : ∀ n : Node, (∀ c ∈ n.children, P c) → P n)
    (n : Node) : P n :=
  h n fun c _ => induction_children h c
termination_by sizeOf n
decreasing_by exact sizeOf_lt_of_mem_children (by assumption)

/-- The identifiers collected from a tree are the names that it mentions. -/
theorem mem_identifiers_iff (name : String) (n : Node) :
    name ∈ n.identifiers ↔ n.mentions name = true := by
  induction n using induction_children with
  | h n ih =>
    rw [identifiers_eq, mentions_eq, List.mem_append, List.mem_flatMap, Bool.or_eq_true,
      mentionsAny_iff, Option.mem_toList, beq_iff_eq]
    refine or_congr_right (exists_congr fun c => and_congr_right fun hc => ?_)
    exact ih c hc

/-- In `({ a: b.a, [c]: 'a' })` the names `b` and `c` are mentioned, and `a` is not. -/
example (sp : Span) :
    ["a", "b", "c"].map (fun name => mentions name <| .objectLiteral sp
      [.keyValue sp (.word sp "a") (.member sp .plain (.ident sp "b") (.word sp "a")),
        .keyValue sp (.computed sp (.ident sp "c")) (.stringLiteral sp "'a'")]) =
      [false, true, true] := rfl

end Codemod.Node
