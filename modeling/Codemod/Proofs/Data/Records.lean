import Codemod.Data.Value

/-!
# Records

Records are looked into by key. Of two layers, the merged record has under a key what either has,
and where both have something the two merged; only records are merged further, all else is replaced.

Results:
* `get?_merge`: what a merged record has under a key.
* `merge_eq_upper`: what is no record replaces what is below it.
-/
namespace Codemod.Data

def get? (key : String) : Data → Option Data
  | .record entries => entries.lookup key
  | _ => none

def isRecord : Data → Bool
  | .record _ => true
  | _ => false

theorem exists_of_isRecord {d : Data} (h : d.isRecord = true) :
    ∃ entries, d = .record entries := by
  cases d with
  | record entries => exact ⟨entries, rfl⟩
  | _ => cases h

@[simp] theorem get?_record (key : String) (entries : List (String × Data)) :
    (Data.record entries).get? key = entries.lookup key := rfl

/-! ## Merging -/

theorem lookup_kept (keep : String → Bool) (key : String) (entries : List (String × Data)) :
    (entries.filter fun e => keep e.1).lookup key =
      if keep key then entries.lookup key else none := by
  induction entries with
  | nil => simp
  | cons e entries ih =>
    obtain ⟨k, d⟩ := e
    by_cases hk : key = k
    · subst hk
      cases hkeep : keep key <;> simp [hkeep, ih]
    · have hne : (key == k) = false := beq_eq_false_iff_ne.2 hk
      cases hkeep : keep k <;> simp [List.lookup_cons, hkeep, hne, ih]

theorem lookup_mergeEntries (lower upper : List (String × Data)) (key : String) :
    (mergeEntries lower upper).lookup key =
      (lower.lookup key).bind fun d => Option.merge merge (some d) (upper.lookup key) := by
  induction lower with
  | nil => rfl
  | cons e lower ih =>
    obtain ⟨k, d⟩ := e
    by_cases hk : key = k
    · subst hk
      cases hupper : upper.lookup key <;> simp [mergeEntries, hupper]
    · have hne : (key == k) = false := beq_eq_false_iff_ne.2 hk
      cases hupper : upper.lookup k <;> simp [mergeEntries, List.lookup_cons, hupper, hne, ih]

theorem any_key_iff {entries : List (String × Data)} {key : String} :
    (entries.any (·.1 == key)) = (entries.lookup key).isSome := by
  induction entries with
  | nil => rfl
  | cons e entries ih =>
    obtain ⟨k, d⟩ := e
    by_cases hk : key = k
    · subst hk
      simp
    · have hne : (key == k) = false := beq_eq_false_iff_ne.2 hk
      have hne' : (k == key) = false := beq_eq_false_iff_ne.2 (Ne.symm hk)
      simp [List.lookup_cons, hne, hne', ih]

theorem isRecord_merge {lower upper : Data} (hlower : lower.isRecord = true)
    (hupper : upper.isRecord = true) : (lower.merge upper).isRecord = true := by
  obtain ⟨low, rfl⟩ := exists_of_isRecord hlower
  obtain ⟨up, rfl⟩ := exists_of_isRecord hupper
  rfl

/-- A merged record has what either of the two has, and both merged where both have something. -/
theorem get?_merge {lower upper : Data} (hlower : lower.isRecord = true)
    (hupper : upper.isRecord = true) (key : String) :
    (lower.merge upper).get? key = Option.merge merge (lower.get? key) (upper.get? key) := by
  obtain ⟨low, rfl⟩ := exists_of_isRecord hlower
  obtain ⟨up, rfl⟩ := exists_of_isRecord hupper
  have hnew : (up.filter fun e => !low.any (·.1 == e.1)).lookup key =
      if (low.lookup key).isSome then none else up.lookup key := by
    rw [lookup_kept (fun k => !low.any (·.1 == k)), any_key_iff]
    cases (low.lookup key).isSome <;> rfl
  rw [merge, get?_record, List.lookup_append, lookup_mergeEntries, hnew, get?_record, get?_record]
  cases low.lookup key <;> cases up.lookup key <;> rfl

/-- What is no record replaces what is below it. -/
theorem merge_eq_upper {upper : Data} (h : upper.isRecord = false) (lower : Data) :
    lower.merge upper = upper := by
  cases lower with
  | record entries =>
    cases upper with
    | record entries => cases h
    | _ => rfl
  | _ => rfl

end Codemod.Data
