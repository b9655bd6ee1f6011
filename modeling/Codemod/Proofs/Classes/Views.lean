import Mathlib.Data.List.Induction
import Mathlib.Data.List.Nodup
import Mathlib.Tactic.TFAE
import Codemod.Command.Listing

/-!
# Views of a class's kinds

Whether a class is of a kind can be asked in several ways: of the list of its kinds, of the first
decorator that bears the kind's name, or of the position of that decorator. The first way reads
every decorator's name as a kind and skips repeats, the others look for one name and stop at it.
They agree for all decorators, also repeated, foreign and nameless ones.

A decorator that is put behind the others changes none of the positions found before it, and gives a
new kind only if no decorator before it has the kind. So the kinds come in the order of the
positions, by induction on the decorators from the last one back.

Results:
* `kind?_eq_some_iff`: a decorator is of a kind exactly when it bears the kind's name.
* `mem_kinds_iff`: a kind is listed exactly when a decorator of it has a position.
* `kinds_concat`, `index?_concat`: what a decorator behind the others adds.
* `kinds_positions`: the positions of the kinds, in the order of the list, increase.
* `entries_eq_flatMap`: the listing of a project is that of its documents one after the other.
* `class_views_agree`: all views of a class, and with them the listings of a project.
-/
namespace Codemod

/-! ## Kinds and their names -/

namespace DecoratorKind

theorem mem_all (kind : DecoratorKind) : kind ∈ all := by
  cases kind <;> decide

@[simp] theorem ofName?_name (kind : DecoratorKind) : ofName? kind.name = some kind := by
  cases kind <;> rfl

theorem ofName?_eq_some_iff {name : String} {kind : DecoratorKind} :
    ofName? name = some kind ↔ name = kind.name := by
  constructor
  · intro h
    have hname := List.find?_some h
    exact (beq_iff_eq.1 hname).symm
  · rintro rfl
    exact ofName?_name kind

end DecoratorKind

namespace Decorator

def kind? (decorator : Node) : Option DecoratorKind :=
  (name? decorator).bind DecoratorKind.ofName?

theorem kind?_eq_some_iff {decorator : Node} {kind : DecoratorKind} :
    kind? decorator = some kind ↔ name? decorator = some kind.name := by
  unfold kind?
  cases name? decorator with
  | none => simp
  | some name => simp [DecoratorKind.ofName?_eq_some_iff]

/-- The test by which a decorator of a kind is looked for. -/
theorem named_iff (decorator : Node) (kind : DecoratorKind) :
    (name? decorator == some kind.name) = true ↔ kind? decorator = some kind := by
  rw [beq_iff_eq, kind?_eq_some_iff]

/-! ## Kinds and positions -/

theorem mem_kinds_iff {kind : DecoratorKind} {decorators : List Node} :
    kind ∈ kinds decorators ↔ ∃ i, index? kind decorators = some i := by
  have hmem : kind ∈ kinds decorators ↔ ∃ d ∈ decorators, kind? d = some kind := by
    rw [kinds, List.mem_eraseDups, List.mem_filterMap]
    rfl
  rw [hmem, ← Option.isSome_iff_exists, index?, List.findIdx?_isSome, List.any_eq_true]
  simp only [named_iff]

/-- The decorator that is found is the one at the position that is found. -/
theorem find?_eq_getElem? (kind : DecoratorKind) (decorators : List Node) :
    find? kind decorators = (index? kind decorators).bind (decorators[·]?) :=
  List.find?_eq_bind_findIdx?_getElem?

theorem isKind_iff {kind : DecoratorKind} {decorators : List Node} :
    isKind kind decorators = true ↔ ∃ i, index? kind decorators = some i := by
  rw [isKind, find?, List.find?_isSome, ← Option.isSome_iff_exists, index?, List.findIdx?_isSome,
    List.any_eq_true]

theorem index_eq_ok_iff {kind : DecoratorKind} {decorators : List Node} {i : Nat} :
    index kind decorators = .ok i ↔ index? kind decorators = some i := by
  unfold index
  cases index? kind decorators <;> simp

/-! ## The order of the kinds -/

/-- A decorator behind the others adds its kind when none of them has it. -/
theorem kinds_concat (decorators : List Node) (d : Node) :
    kinds (decorators ++ [d]) =
      kinds decorators ++ (kind? d).toList.filter (!(kinds decorators).contains ·) := by
  have hadd : ([d].filterMap kind?) = (kind? d).toList := by
    cases h : kind? d <;> simp [h]
  show ((decorators ++ [d]).filterMap kind?).eraseDups =
    (decorators.filterMap kind?).eraseDups ++ _
  rw [List.filterMap_append, List.eraseDups_append, hadd]
  congr 1
  cases kind? d with
  | none => rfl
  | some k =>
    have hsame : (decorators.filterMap kind?).contains k = (kinds decorators).contains k := by
      rw [Bool.eq_iff_iff, List.contains_iff_mem, List.contains_iff_mem, kinds,
        List.mem_eraseDups]
      rfl
    simp only [List.removeAll, Option.toList_some, List.filter_cons, List.filter_nil,
      List.elem_eq_contains, hsame]
    split <;> rfl

theorem index?_concat (kind : DecoratorKind) (decorators : List Node) (d : Node) :
    index? kind (decorators ++ [d]) =
      (index? kind decorators).or (if kind? d = some kind then some decorators.length else none) := by
  rw [index?, List.findIdx?_append, index?]
  congr 1
  simp only [List.findIdx?_singleton, named_iff]
  split <;> simp

theorem index?_concat_of_mem {kind : DecoratorKind} {decorators : List Node}
    (h : kind ∈ kinds decorators) (d : Node) :
    index? kind (decorators ++ [d]) = index? kind decorators := by
  obtain ⟨i, hi⟩ := mem_kinds_iff.1 h
  rw [index?_concat, hi, Option.some_or]

/-- The kinds stand in the order of the positions where they are found. -/
theorem kinds_positions (decorators : List Node) :
    ∃ positions : List Nat, (kinds decorators).map (index? · decorators) = positions.map some ∧
      positions.Pairwise (· < ·) ∧ ∀ i ∈ positions, i < decorators.length := by
  induction decorators using List.reverseRecOn with
  | nil => exact ⟨[], rfl, .nil, by simp⟩
  | append_singleton decorators d ih =>
    obtain ⟨positions, hmap, hsorted, hbound⟩ := ih
    have hold : (kinds decorators).map (index? · (decorators ++ [d])) = positions.map some := by
      rw [← hmap]
      exact List.map_congr_left fun k hk => index?_concat_of_mem hk d
    have hlonger : ∀ i ∈ positions, i < (decorators ++ [d]).length := by
      intro i hi
      have := hbound i hi
      simp only [List.length_append, List.length_singleton]
      omega
    rw [kinds_concat, List.map_append, hold]
    cases hd : kind? d with
    | none => exact ⟨positions, by simp, hsorted, hlonger⟩
    | some k =>
      by_cases hk : k ∈ kinds decorators
      · exact ⟨positions, by simp [hk], hsorted, hlonger⟩
      · -- the new kind is found at the end, behind all positions before
        have hnone : index? k decorators = none := by
          cases h : index? k decorators with
          | none => rfl
          | some i => exact absurd (mem_kinds_iff.2 ⟨i, h⟩) hk
        refine ⟨positions ++ [decorators.length], ?_, ?_, ?_⟩
        · simp [hk, index?_concat, hnone, hd]
        · rw [List.pairwise_append]
          exact ⟨hsorted, List.pairwise_singleton _ _, by simpa using hbound⟩
        · simpa [or_imp, forall_and] using hlonger

theorem nodup_kinds (decorators : List Node) : (kinds decorators).Nodup := by
  obtain ⟨positions, hmap, hsorted, -⟩ := kinds_positions decorators
  have hpositions : (positions.map some).Nodup :=
    (hsorted.imp Nat.ne_of_lt).map some fun _ _ hne he => hne (Option.some.inj he)
  exact List.Nodup.of_map (index? · decorators) (hmap ▸ hpositions)

end Decorator

/-! ## Listings -/

namespace Listing

theorem isListed_some (kind : DecoratorKind) (c : ClassRef) :
    isListed (some kind) c = c.isKind kind := by
  rw [Bool.eq_iff_iff, isListed, List.contains_iff_mem, ClassRef.kinds, Decorator.mem_kinds_iff,
    ClassRef.isKind, Decorator.isKind_iff]

theorem isListed_none (c : ClassRef) :
    isListed none c = DecoratorKind.all.any (c.isKind ·) := by
  have hkinds : (!c.kinds.isEmpty) = true ↔ ∃ kind, kind ∈ c.kinds := by
    rw [Bool.not_eq_true', List.isEmpty_eq_false_iff_exists_mem]
  rw [Bool.eq_iff_iff, isListed, hkinds, List.any_eq_true]
  constructor
  · rintro ⟨kind, hk⟩
    exact ⟨kind, kind.mem_all, (isListed_some kind c).symm.trans (List.contains_iff_mem.2 hk)⟩
  · rintro ⟨kind, -, hk⟩
    exact ⟨kind, List.contains_iff_mem.1 ((isListed_some kind c).trans hk)⟩

/-- The entries of one document. -/
theorem entries_document (d : Document) (kind : Option DecoratorKind) :
    entries ⟨[d], []⟩ kind =
      ((ClassRef.ofItems d.items).filter (isListed kind)).map fun c =>
        ClassEntry.ofClass { c with path := some d.path } := by
  have hpath : isListed kind ∘ (fun c : ClassRef => { c with path := some d.path }) =
      isListed kind := by
    funext c
    cases kind <;> rfl
  rw [entries, Project.classes, List.flatMap_cons, List.flatMap_nil, List.append_nil,
    ClassRef.ofDocument, List.filter_map, hpath, List.map_map]
  rfl

theorem entries_eq_flatMap (p : Project) (kind : Option DecoratorKind) :
    entries p kind = p.documents.flatMap fun d => entries ⟨[d], []⟩ kind := by
  simp only [entries, Project.classes, List.flatMap_cons, List.flatMap_nil, List.append_nil,
    List.filter_flatMap, List.map_flatMap]

end Listing

/-! ## All views -/

/-- The ways of asking for a class's kinds agree, and its kinds stand in the order of their first
decorators. So the listing for a kind has exactly the classes that are found for it, and the listing
for no kind those of any kind, document after document and in each one in the order of its items. -/
theorem class_views_agree :
    (∀ (c : ClassRef) (kind : DecoratorKind),
      [kind ∈ c.kinds, c.isKind kind = true, Decorator.isKind kind c.decorators = true,
        ∃ d, Decorator.find? kind c.decorators = some d,
        ∃ i, Decorator.index kind c.decorators = .ok i].TFAE) ∧
    (∀ c : ClassRef, c.kinds.Nodup ∧
      (∀ kind, Decorator.find? kind c.decorators =
        (Decorator.index? kind c.decorators).bind (c.decorators[·]?)) ∧
      ∃ positions : List Nat, c.kinds.map (Decorator.index? · c.decorators) = positions.map some ∧
        positions.Pairwise (· < ·)) ∧
    ∀ p : Project,
      (∀ kind, Listing.entries p (some kind) =
        (ClassRef.ofKind kind p.classes).map ClassEntry.ofClass) ∧
      Listing.entries p none =
        (p.classes.filter fun c => DecoratorKind.all.any (c.isKind ·)).map ClassEntry.ofClass ∧
      ∀ kind, Listing.entries p kind = p.documents.flatMap (fun d => Listing.entries ⟨[d], []⟩ kind) ∧
        ∀ d, Listing.entries ⟨[d], []⟩ kind =
          ((d.items.filterMap ClassRef.ofItem?).filter (Listing.isListed kind)).map fun c =>
            ClassEntry.ofClass { c with path := some d.path } := by
  refine ⟨fun c kind => ?_, fun c => ⟨Decorator.nodup_kinds c.decorators, fun kind => ?_, ?_⟩,
    fun p => ⟨fun kind => ?_, ?_, fun kind => ⟨?_, fun d => ?_⟩⟩⟩
  · tfae_have 1 ↔ 3 := Decorator.mem_kinds_iff.trans Decorator.isKind_iff.symm
    tfae_have 2 ↔ 3 := Iff.rfl
    tfae_have 3 ↔ 4 := Option.isSome_iff_exists
    tfae_have 3 ↔ 5 := by simp only [Decorator.isKind_iff, Decorator.index_eq_ok_iff]
    tfae_finish
  · exact Decorator.find?_eq_getElem? kind c.decorators
  · obtain ⟨positions, hmap, hsorted, -⟩ := Decorator.kinds_positions c.decorators
    exact ⟨positions, hmap, hsorted⟩
  · rw [Listing.entries, ClassRef.ofKind]
    exact congrArg (·.map ClassEntry.ofClass)
      (List.filter_congr fun c _ => Listing.isListed_some kind c)
  · rw [Listing.entries]
    exact congrArg (·.map ClassEntry.ofClass) (List.filter_congr fun c _ => Listing.isListed_none c)
  · exact Listing.entries_eq_flatMap p kind
  · exact Listing.entries_document d kind

end Codemod
