import Codemod.Source.Node

/-!
# Below a node

A part of a node is smaller than the node, so functions on trees may recurse through
`Node.children`. `Node.identifiers` collects the identifiers of a tree in this way.
-/
namespace Codemod.Node

theorem sizeOf_lt_of_mem_toList {o : Option Node} {c : Node} (h : c ∈ o.toList) :
    sizeOf c < sizeOf o := by
  cases o with
  | none => simp at h
  | some n =>
    simp only [Option.toList_some, List.mem_singleton] at h
    subst h
    simp only [Option.some.sizeOf_spec]
    omega

theorem sizeOf_lt_of_mem_part? {key : Key Node} {c : Node} (h : c ∈ key.part?.toList) :
    sizeOf c < sizeOf key := by
  cases key with
  | computed sp expr =>
    simp only [Key.part?, Option.toList_some, List.mem_singleton] at h
    subst h
    simp only [Key.computed.sizeOf_spec]
    omega
  | _ => simp [Key.part?] at h

theorem sizeOf_lt_of_mem_children {n c : Node} (h : c ∈ n.children) : sizeOf c < sizeOf n := by
  have inList : ∀ {ns : List Node}, c ∈ ns → sizeOf c < sizeOf ns := List.sizeOf_lt_of_mem
  have inSome : ∀ {o : Option Node}, c ∈ o.toList → sizeOf c < sizeOf o := sizeOf_lt_of_mem_toList
  have inKey : ∀ {key : Key Node}, c ∈ key.part?.toList → sizeOf c < sizeOf key :=
    sizeOf_lt_of_mem_part?
  delta children at h
  cases n <;> dsimp only at h <;>
    simp [-Option.mem_toList] at h ⊢ <;> grind

/-- The texts of all identifiers in a tree, its own first. -/
def identifiers (n : Node) : List String :=
  n.identifier?.toList ++ n.children.attach.flatMap fun ⟨c, _⟩ => identifiers c
termination_by sizeOf n
decreasing_by exact sizeOf_lt_of_mem_children (by assumption)

theorem identifiers_eq (n : Node) :
    n.identifiers = n.identifier?.toList ++ n.children.flatMap identifiers := by
  rw [identifiers]
  simp

end Codemod.Node
