import Mathlib.Data.List.Forall2
import Mathlib.Logic.Relation
import Codemod.Proofs.Classes.Views

/-!
# Heads of decorators

What a decorator is called is decided at the head of its expression, the part under all parentheses
and calls (`head`): an identifier gives its name, and so does a plain property of any expression
(`Names`). Nothing else of a decorator counts, and nothing of a class but its decorators, so two
projects are classified alike when they differ in the rest.

The rest is said by small changes (`Recast`): parentheses or a call around an expression, another
object of the member at its head, another head that gives no name either. Two decorators are alike
when such changes, done and undone in any order, lead from one to the other.

Results:
* `headName?_eq_some_iff`: the name of an expression is the one that its head gives.
* `headName?_recast`, `Alike.name?_eq`: changes of the rest leave the name.
* `index?_congr`, `kinds_congr`: alike decorators have their kinds at the same positions.
* `AlikeItem.classes`: alike items declare the same classes.
* `classified_by_heads`: alike projects have the same classes of every kind.
-/
namespace Codemod

/-- What is the same for related elements is the same for related lists. -/
theorem map_congr_of_forall₂ {α β : Type} {R : α → α → Prop} {f : α → β}
    (hf : ∀ a b, R a b → f a = f b) {xs ys : List α} (h : List.Forall₂ R xs ys) :
    xs.map f = ys.map f := by
  rw [← List.forall₂_eq_eq_eq, List.forall₂_map_left_iff, List.forall₂_map_right_iff]
  exact h.imp hf

namespace Decorator

/-! ## Heads -/

/-- The expression under all parentheses and calls. -/
def head : Node → Node
  | .paren _ expr => head expr
  | .call _ .plain callee _ _ => head callee
  | expr => expr

/-- Is it the keyword for the parent class? It stands where an object may stand, and is none. -/
def isSuper : Node → Bool
  | .atom _ text => text == "super"
  | _ => false

/-- The name that a head gives: that of an identifier, or of a plain property of an expression. -/
inductive Names : Node → String → Prop
  | ident (sp : Span) (name : String) : Names (.ident sp name) name
  | member {object : Node} (h : isSuper object = false) (sp property : Span) (name : String) :
      Names (.member sp .plain object (.word property name)) name

theorem headName?_eq_some_iff {expr : Node} {name : String} :
    headName? expr = some name ↔ Names (head expr) name := by
  fun_induction head expr with
  | case1 sp expr ih => exact ih
  | case2 sp callee typeArgs args ih => exact ih
  | case3 expr hparen hcall =>
    -- what is neither in parentheses nor called is its own head
    unfold headName?
    split
    · rename_i sp text
      constructor
      · intro h
        cases h
        exact .ident sp name
      · rintro ⟨⟩
        rfl
    · exact absurd rfl (hcall _ _ _ _)
    · constructor
      · intro h
        cases h
      · rintro ⟨⟩
        contradiction
    · rename_i sp object property text hobject
      constructor
      · intro h
        cases h
        refine .member ?_ sp property name
        unfold isSuper
        split
        · rename_i atomSpan atomText
          rw [beq_eq_false_iff_ne]
          rintro rfl
          exact hobject atomSpan rfl
        · rfl
      · rintro ⟨⟩
        rfl
    · exact absurd rfl (hparen _ _)
    · rename_i hident _ _ hmember _
      constructor
      · intro h
        cases h
      · intro h
        cases h with
        | ident sp => exact absurd rfl (hident sp name)
        | member _ sp property => exact absurd rfl (hmember sp _ property name)

theorem headName?_eq_none_iff {expr : Node} :
    headName? expr = none ↔ ∀ name, ¬ Names (head expr) name := by
  simp only [← headName?_eq_some_iff, Option.eq_none_iff_forall_ne_some, ne_eq]

/-! ## Changes that leave the head -/

/-- A change of a decorator's expression that leaves the name at its head: parentheses or a call
around it, another object of the member at its head, other places in the source, or another head
where neither gives a name. -/
inductive Recast : Node → Node → Prop
  | paren (sp : Span) (expr : Node) : Recast expr (.paren sp expr)
  | call (sp : Span) (expr : Node) (typeArgs : Option Node) (args : List Node) :
      Recast expr (.call sp .plain expr typeArgs args)
  | object {object object' : Node} (h : isSuper object = false) (h' : isSuper object' = false)
      (sp sp' property property' : Span) (name : String) :
      Recast (.member sp .plain object (.word property name))
        (.member sp' .plain object' (.word property' name))
  | ident (sp sp' : Span) (name : String) : Recast (.ident sp name) (.ident sp' name)
  | nameless {expr expr' : Node} (h : ∀ name, ¬ Names (head expr) name)
      (h' : ∀ name, ¬ Names (head expr') name) : Recast expr expr'

theorem headName?_recast {expr expr' : Node} (h : Recast expr expr') :
    headName? expr = headName? expr' := by
  cases h with
  | paren => rfl
  | call => rfl
  | @object object object' h h' sp sp' property property' name =>
    have hname : headName? (.member sp .plain object (.word property name)) = some name :=
      headName?_eq_some_iff.2 (.member h sp property name)
    have hname' : headName? (.member sp' .plain object' (.word property' name)) = some name :=
      headName?_eq_some_iff.2 (.member h' sp' property' name)
    rw [hname, hname']
  | ident => rfl
  | nameless h h' => exact (headName?_eq_none_iff.2 h).trans (headName?_eq_none_iff.2 h').symm

/-- Two decorators whose expressions come from one another by changes that leave the head. -/
inductive Alike : Node → Node → Prop
  | mk {expr expr' : Node} (sp sp' : Span) (h : Relation.EqvGen Recast expr expr') :
      Alike (.decorator sp expr) (.decorator sp' expr')

theorem Alike.name?_eq {d d' : Node} (h : Alike d d') : name? d = name? d' := by
  obtain ⟨_, _, h⟩ := h
  show headName? _ = headName? _
  induction h with
  | rel _ _ h => exact headName?_recast h
  | refl => rfl
  | symm _ _ _ ih => exact ih.symm
  | trans _ _ _ _ _ ih ih' => exact ih.trans ih'

theorem map_name?_congr {ds ds' : List Node} (h : List.Forall₂ Alike ds ds') :
    ds.map name? = ds'.map name? := map_congr_of_forall₂ (fun _ _ hd => hd.name?_eq) h

theorem index?_congr {ds ds' : List Node} (h : List.Forall₂ Alike ds ds') (kind : DecoratorKind) :
    index? kind ds = index? kind ds' := by
  have hnames : ∀ ds : List Node,
      index? kind ds = (ds.map name?).findIdx? (· == some kind.name) := by
    intro ds
    rw [List.findIdx?_map]
    rfl
  rw [hnames, hnames, map_name?_congr h]

theorem kinds_congr {ds ds' : List Node} (h : List.Forall₂ Alike ds ds') : kinds ds = kinds ds' := by
  have hnames : ∀ ds : List Node,
      kinds ds = ((ds.map name?).filterMap fun name => name.bind DecoratorKind.ofName?).eraseDups := by
    intro ds
    rw [List.filterMap_map]
    rfl
  rw [hnames, hnames, map_name?_congr h]

end Decorator

/-! ## Alike projects -/

/-- Two classes of one name with alike decorators; all else of them may differ. -/
inductive AlikeClass : Node → Node → Prop
  | mk {decorators decorators' : List Node} {name name' : Option Node}
      (hd : List.Forall₂ Decorator.Alike decorators decorators')
      (hn : name.bind Node.identifier? = name'.bind Node.identifier?)
      (sp sp' : Span) (modifiers modifiers' : Modifiers)
      (typeParams typeParams' base base' baseArgs baseArgs' : Option Node)
      (implemented implemented' members members' : List Node) :
      AlikeClass
        (.classLike sp modifiers decorators name typeParams base baseArgs implemented members)
        (.classLike sp' modifiers' decorators' name' typeParams' base' baseArgs' implemented' members')

/-- Two items that declare alike classes in the same way, or no classes. -/
inductive AlikeItem : Item → Item → Prop
  | plain {c c' : Node} (h : AlikeClass c c') : AlikeItem (.code c) (.code c')
  | exported {c c' : Node} (h : AlikeClass c c') (sp sp' : Span) :
      AlikeItem (.code (.exportDecl sp c)) (.code (.exportDecl sp' c'))
  | byDefault {c c' : Node} (h : AlikeClass c c') (sp sp' : Span) :
      AlikeItem (.code (.exportDefault sp c)) (.code (.exportDefault sp' c'))
  | other {item item' : Item} (h : ClassRef.ofItem? item = none)
      (h' : ClassRef.ofItem? item' = none) : AlikeItem item item'

structure AlikeDocument (d d' : Document) : Prop where
  path_eq : d.path = d'.path
  items : List.Forall₂ AlikeItem d.items d'.items

def AlikeProject (p p' : Project) : Prop := List.Forall₂ AlikeDocument p.documents p'.documents

/-- Two classes that classification does not tell apart: of each kind they have the first decorator
at the same position, if they have one. -/
structure SameClass (c c' : ClassRef) : Prop where
  path_eq : c.path = c'.path
  name_eq : c.name = c'.name
  exported_eq : c.exported = c'.exported
  index?_eq : ∀ kind, Decorator.index? kind c.decorators = Decorator.index? kind c'.decorators
  kinds_eq : c.kinds = c'.kinds

namespace SameClass

variable {c c' : ClassRef} (h : SameClass c c')
include h

theorem isKind_eq (kind : DecoratorKind) : c.isKind kind = c'.isKind kind := by
  rw [Bool.eq_iff_iff, ClassRef.isKind, ClassRef.isKind, Decorator.isKind_iff, Decorator.isKind_iff,
    h.index?_eq]

theorem isListed_eq (kind : Option DecoratorKind) :
    Listing.isListed kind c = Listing.isListed kind c' := by
  unfold Listing.isListed
  rw [h.kinds_eq]

theorem entry_eq : ClassEntry.ofClass c = ClassEntry.ofClass c' := by
  rw [ClassEntry.ofClass, ClassEntry.ofClass, h.path_eq, h.name_eq, h.exported_eq, h.kinds_eq]

end SameClass

/-! ## The same classes -/

theorem AlikeClass.ofClass? {c c' : Node} (h : AlikeClass c c') (exported : Bool) :
    Option.Rel SameClass (ClassRef.ofClass? exported c) (ClassRef.ofClass? exported c') := by
  cases h with
  | mk hd hn =>
    exact .some ⟨rfl, hn, rfl, Decorator.index?_congr hd, Decorator.kinds_congr hd⟩

theorem AlikeClass.ofItem?_eq {c c' : Node} (h : AlikeClass c c') :
    ClassRef.ofItem? (.code c) = ClassRef.ofClass? false c ∧
      ClassRef.ofItem? (.code c') = ClassRef.ofClass? false c' := by
  cases h
  exact ⟨rfl, rfl⟩

theorem AlikeItem.ofItem? {item item' : Item} (h : AlikeItem item item') :
    Option.Rel SameClass (ClassRef.ofItem? item) (ClassRef.ofItem? item') := by
  cases h with
  | plain h =>
    rw [h.ofItem?_eq.1, h.ofItem?_eq.2]
    exact h.ofClass? false
  | exported h => exact h.ofClass? true
  | byDefault h => exact h.ofClass? true
  | other h h' =>
    rw [h, h']
    exact .none

theorem AlikeDocument.classes {d d' : Document} (h : AlikeDocument d d') :
    List.Forall₂ SameClass (ClassRef.ofDocument d) (ClassRef.ofDocument d') := by
  have hitems : List.Forall₂ SameClass (ClassRef.ofItems d.items) (ClassRef.ofItems d'.items) :=
    List.rel_filterMap (fun _ _ hitem => hitem.ofItem?) h.items
  refine List.rel_map (fun c c' hc => ?_) hitems
  exact ⟨congrArg some h.path_eq, hc.name_eq, hc.exported_eq, hc.index?_eq, hc.kinds_eq⟩

theorem AlikeProject.classes {p p' : Project} (h : AlikeProject p p') :
    List.Forall₂ SameClass p.classes p'.classes :=
  List.rel_flatMap h fun _ _ hd => AlikeDocument.classes hd

/-- A decorator has a name exactly when its head is an identifier or a plain property of an
expression, and then it is that name. So two projects that differ in the arguments of decorators, in
parentheses and calls around their heads, in the objects of member heads or in the bodies of classes
have the same classes, each with the first decorator of every kind at the same position and with the
same kinds. For every kind they list the same classes. -/
theorem classified_by_heads :
    (∀ (sp : Span) (expr : Node) (name : String),
      Decorator.name? (.decorator sp expr) = some name ↔ Decorator.Names (Decorator.head expr) name) ∧
    (∀ (kind : DecoratorKind) (decorators : List Node),
      Decorator.find? kind decorators =
        (Decorator.index? kind decorators).bind (decorators[·]?)) ∧
    ∀ p p' : Project, AlikeProject p p' →
      List.Forall₂ SameClass p.classes p'.classes ∧
      (∀ kind : DecoratorKind,
        p.classes.map (·.isKind kind) = p'.classes.map (·.isKind kind) ∧
        List.Forall₂ SameClass (ClassRef.ofKind kind p.classes) (ClassRef.ofKind kind p'.classes)) ∧
      ∀ kind : Option DecoratorKind, Listing.entries p kind = Listing.entries p' kind := by
  refine ⟨fun _ _ _ => Decorator.headName?_eq_some_iff, Decorator.find?_eq_getElem?,
    fun p p' h => ?_⟩
  have hclasses := h.classes
  refine ⟨hclasses, fun kind => ⟨?_, ?_⟩, fun kind => ?_⟩
  · exact map_congr_of_forall₂ (fun _ _ hc => hc.isKind_eq kind) hclasses
  · exact List.rel_filter (fun _ _ hc => Bool.eq_iff_iff.1 (hc.isKind_eq kind)) hclasses
  · have hlisted := List.rel_filter (p := Listing.isListed kind) (q := Listing.isListed kind)
      (fun _ _ hc => Bool.eq_iff_iff.1 (hc.isListed_eq kind)) hclasses
    exact map_congr_of_forall₂ (fun _ _ hc => hc.entry_eq) hlisted

/-! ## Two spellings of one class -/

/-- A document with an exported class `A` of some decorators and members. -/
def classDocument (decorators members : List Node) : Document :=
  ⟨⟨"a.ts"⟩, [], ⟨none, [.code (.exportDecl ⟨0, 0⟩ (.classLike ⟨0, 0⟩ [] decorators
    (some (.identName ⟨0, 0⟩ "A")) none none none [] members))], .empty, ⟨0, 0⟩⟩⟩

/-- `@Component() @core.Pipe`. -/
def bareDecorators : List Node :=
  [.decorator ⟨0, 0⟩ (.call ⟨0, 0⟩ .plain (.ident ⟨0, 0⟩ "Component") none []),
    .decorator ⟨0, 0⟩ (.member ⟨0, 0⟩ .plain (.ident ⟨0, 0⟩ "core") (.word ⟨0, 0⟩ "Pipe"))]

/-- `@(Component) @(load().Pipe)(x)`. -/
def dressedDecorators : List Node :=
  [.decorator ⟨0, 0⟩ (.paren ⟨0, 0⟩ (.ident ⟨0, 0⟩ "Component")),
    .decorator ⟨0, 0⟩ (.call ⟨0, 0⟩ .plain
      (.paren ⟨0, 0⟩ (.member ⟨0, 0⟩ .plain (.call ⟨0, 0⟩ .plain (.ident ⟨0, 0⟩ "load") none [])
        (.word ⟨0, 0⟩ "Pipe"))) none [.ident ⟨0, 0⟩ "x"])]

theorem alike_bare_dressed : List.Forall₂ Decorator.Alike bareDecorators dressedDecorators := by
  open Decorator Relation in
  refine .cons (.mk _ _ ?_) (.cons (.mk _ _ ?_) .nil)
  · -- the call goes and the parentheses come
    exact .trans _ _ _ (.symm _ _ (.rel _ _ (.call _ _ _ _))) (.rel _ _ (.paren _ _))
  · -- another object, then parentheses and a call around it
    exact .trans _ _ _ (.rel _ _ (.object rfl rfl _ _ _ _ _))
      (.trans _ _ _ (.rel _ _ (.paren _ _)) (.rel _ _ (.call _ _ _ _)))

theorem classified_by_heads_dressed :
    let p : Project := ⟨[classDocument bareDecorators []], []⟩
    let p' : Project := ⟨[classDocument dressedDecorators [.emptyStmt ⟨0, 0⟩]], []⟩
    AlikeProject p p' ∧ Listing.entries p' none = [⟨"a.ts", "A", [.component, .pipe], true⟩] ∧
      List.Forall₂ SameClass (ClassRef.ofKind .pipe p.classes) (ClassRef.ofKind .pipe p'.classes) := by
  intro p p'
  have h : AlikeProject p p' :=
    .cons ⟨rfl, .cons (.exported (.mk alike_bare_dressed rfl _ _ _ _ _ _ _ _ _ _ _ _ _ _) _ _) .nil⟩
      .nil
  obtain ⟨-, hkinds, hentries⟩ := classified_by_heads.2.2 p p' h
  exact ⟨h, (hentries none).symm.trans rfl, (hkinds .pipe).2⟩

end Codemod
