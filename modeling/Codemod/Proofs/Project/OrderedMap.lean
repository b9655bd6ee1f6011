import Mathlib.Data.List.Induction
import Mathlib.Data.List.Nodup
import Codemod.Proofs.Project.Loading

/-!
# A project as an ordered map

The documents of a project are a list that is searched from its front. Here the list is looked at
through its keys, the components of the documents' paths, and against the history of the
operations that have led to it. Neither says anything of positions or of searching.

The operations are stated once for a list that is cut at a key (`place`), where searching stops.
What they do to the keys and to a look-up follows, and a run of operations is an induction on the
history from its end.

Results:
* `take_eq`: taking a document out is a look-up and a filter.
* `get?_step`, `ordered_step`: what one operation does to a look-up and to the order.
* `nodup_keys_run`: no two documents ever have the same path.
* `get?_run_iff`: a look-up gives what was added last, with the edits since then.
* `ordered_run`: the documents are in the order in which their paths have arrived.
* `ordered_map`: all of it, for new and for loaded projects.
-/
namespace Codemod.Project

/-- What a document is found by. -/
abbrev Key := List Path.Component

def key (d : Document) : Key := d.path.components

def keys (p : Project) : List Key := p.documents.map key

/-! ## Lists that are cut at a key -/

def Absent (k : Key) (documents : List Document) : Prop := ∀ d ∈ documents, key d ≠ k

theorem absent_iff {k : Key} {documents : List Document} :
    Absent k documents ↔ k ∉ documents.map key := by
  simp [Absent]

theorem filter_absent {k : Key} {documents : List Document} (h : Absent k documents) :
    documents.filter (key · ≠ k) = documents := by
  rw [List.filter_eq_self]
  intro d hd
  exact decide_eq_true (h d hd)

theorem absent_of_nodup {before after : List Document} {d : Document}
    (h : ((before ++ d :: after).map key).Nodup) :
    Absent (key d) before ∧ Absent (key d) after := by
  rw [List.map_append, List.map_cons, List.nodup_middle, List.nodup_cons, List.mem_append,
    not_or] at h
  exact ⟨absent_iff.2 h.1.1, absent_iff.2 h.1.2⟩

/-- Either no document has a key, or the list can be cut at the one that has it. -/
theorem place (k : Key) {documents : List Document} (h : (documents.map key).Nodup) :
    Absent k documents ∨ ∃ before d after, documents = before ++ d :: after ∧ key d = k ∧
      Absent k before ∧ Absent k after := by
  by_cases hk : Absent k documents
  · exact .inl hk
  · rw [absent_iff, not_not, List.mem_map] at hk
    obtain ⟨d, hd, rfl⟩ := hk
    obtain ⟨before, after, rfl⟩ := List.append_of_mem hd
    exact .inr ⟨before, d, after, rfl, rfl, absent_of_nodup h⟩

section Cut

variable {before after documents : List Document} {d e : Document} {path : Path}
  {skipped : List (Path × Error)}

theorem get?_absent (h : Absent path.components documents) :
    get? path ⟨documents, skipped⟩ = none := by
  rw [get?, List.find?_eq_none]
  intro e he
  rw [Path.same_iff]
  exact h e he

theorem get?_cut (h : Absent path.components before) (he : key e = path.components) :
    get? path ⟨before ++ e :: after, skipped⟩ = some e := by
  have hbefore : before.find? (·.path.same path) = none :=
    show get? path ⟨before, skipped⟩ = none from get?_absent h
  rw [get?, List.find?_append, hbefore, Option.none_or, List.find?_cons_of_pos]
  exact Path.same_iff.2 he

/-- A document of another key is passed over. -/
theorem get?_skip (he : key e ≠ path.components) :
    get? path ⟨before ++ e :: after, skipped⟩ = get? path ⟨before ++ after, skipped⟩ := by
  rw [get?, get?, List.find?_append, List.find?_append, List.find?_cons_of_neg]
  rw [Path.same_iff]
  exact he

theorem insert_absent (h : Absent (key d) documents) : insert d documents = documents ++ [d] := by
  induction documents with
  | nil => rfl
  | cons e documents ih =>
    obtain ⟨he, hrest⟩ := List.forall_mem_cons.1 h
    rw [insert, if_neg (by rw [Path.same_iff]; exact he), ih hrest, List.cons_append]

theorem insert_cut (h : Absent (key d) before) (he : key e = key d) :
    insert d (before ++ e :: after) = before ++ d :: after := by
  induction before with
  | nil => exact if_pos (Path.same_iff.2 he)
  | cons first before ih =>
    obtain ⟨hfirst, hrest⟩ := List.forall_mem_cons.1 h
    rw [List.cons_append, insert, if_neg (by rw [Path.same_iff]; exact hfirst), ih hrest,
      List.cons_append]

theorem findIdx?_absent (h : Absent path.components documents) :
    documents.findIdx? (·.path.same path) = none := by
  rw [List.findIdx?_eq_none_iff]
  intro e he
  exact Path.same_eq_false_iff.2 (h e he)

theorem take_absent (h : Absent path.components documents) :
    take path ⟨documents, skipped⟩ = (none, ⟨documents, skipped⟩) := by
  simp only [take, findIdx?_absent h]

theorem take_cut (h : Absent path.components before) (he : key e = path.components) :
    take path ⟨before ++ e :: after, skipped⟩ = (some e, ⟨before ++ after, skipped⟩) := by
  have hidx : (before ++ e :: after).findIdx? (·.path.same path) = some before.length := by
    rw [List.findIdx?_append, findIdx?_absent h, List.findIdx?_cons,
      if_pos (Path.same_iff.2 he)]
    simp
  simp only [take, hidx]
  rw [List.getElem?_append_right (Nat.le_refl _), List.eraseIdx_append_of_length_le (Nat.le_refl _),
    Nat.sub_self]
  rfl

theorem modify_absent {change : Document → Document} (h : Absent path.components documents) :
    modify path change ⟨documents, skipped⟩ = ⟨documents, skipped⟩ := by
  have hgo : modify.go path change documents = documents := by
    induction documents with
    | nil => rfl
    | cons e documents ih =>
      obtain ⟨he, hrest⟩ := List.forall_mem_cons.1 h
      rw [modify.go, if_neg (by rw [Path.same_iff]; exact he), ih hrest]
  rw [modify, hgo]

theorem modify_cut {change : Document → Document} (h : Absent path.components before)
    (he : key e = path.components) :
    modify path change ⟨before ++ e :: after, skipped⟩ =
      ⟨before ++ change e :: after, skipped⟩ := by
  have hgo : modify.go path change (before ++ e :: after) = before ++ change e :: after := by
    induction before with
    | nil => exact if_pos (Path.same_iff.2 he)
    | cons first before ih =>
      obtain ⟨hfirst, hrest⟩ := List.forall_mem_cons.1 h
      rw [List.cons_append, modify.go, if_neg (by rw [Path.same_iff]; exact hfirst), ih hrest,
        List.cons_append]
  rw [modify, hgo]

end Cut

/-! ## Operations -/

/-- A change of a document that leaves its path alone. -/
structure Edit where
  change : Document → Document
  path_change : ∀ d, (change d).path = d.path

inductive Operation
  | add (d : Document)
  | remove (path : Path)
  | edit (path : Path) (e : Edit)

namespace Operation

def step (p : Project) : Operation → Project
  | .add d => p.add d
  | .remove path => p.remove path
  | .edit path e => p.modify path e.change

def Adds (k : Key) : Operation → Prop
  | .add d => key d = k
  | _ => False

def Removes (k : Key) : Operation → Prop
  | .remove path => path.components = k
  | _ => False

instance (k : Key) : DecidablePred (Adds k)
  | .add d => inferInstanceAs (Decidable (key d = k))
  | .remove _ => inferInstanceAs (Decidable False)
  | .edit _ _ => inferInstanceAs (Decidable False)

instance (k : Key) : DecidablePred (Removes k)
  | .add _ => inferInstanceAs (Decidable False)
  | .remove path => inferInstanceAs (Decidable (path.components = k))
  | .edit _ _ => inferInstanceAs (Decidable False)

def AddsDocument (k : Key) (e : Document) : Operation → Prop
  | .add d => d = e ∧ key d = k
  | _ => False

/-- What an operation makes of a document of the key that is there before. -/
def onDocument (k : Key) (d : Document) : Operation → Document
  | .edit path e => if path.components = k then e.change d else d
  | _ => d

end Operation

/-- The project after some operations. -/
def run (ops : List Operation) (p : Project) : Project := ops.foldl Operation.step p

theorem run_append (ops others : List Operation) (p : Project) :
    run (ops ++ others) p = run others (run ops p) :=
  List.foldl_append

theorem run_concat (ops : List Operation) (op : Operation) (p : Project) :
    run (ops ++ [op]) p = op.step (run ops p) :=
  run_append ops [op] p

/-! ## One operation -/

section Step

variable {p : Project} (h : p.keys.Nodup)
include h

theorem documents_add {before after : List Document} {d e : Document}
    (hp : p.documents = before ++ e :: after) (he : key e = key d) :
    (p.add d).documents = before ++ d :: after := by
  rw [keys, hp] at h
  rw [add, hp, insert_cut (he ▸ (absent_of_nodup h).1) he]

theorem keys_add_of_mem {d : Document} (hd : key d ∈ p.keys) : (p.add d).keys = p.keys := by
  obtain habsent | ⟨before, e, after, hp, he, -⟩ := place (key d) h
  · exact absurd hd (absent_iff.1 habsent)
  · rw [keys, keys, documents_add h hp he, hp]
    simp [he]

omit h in
theorem keys_add_of_not_mem {d : Document} (hd : key d ∉ p.keys) :
    (p.add d).keys = p.keys ++ [key d] := by
  rw [add, keys, insert_absent (absent_iff.2 hd), List.map_append]
  rfl

/-- Taking out a document gives what a look-up gives, and filters the list. -/
theorem take_eq (path : Path) :
    p.take path =
      (p.get? path, ⟨p.documents.filter (key · ≠ path.components), p.skipped⟩) := by
  obtain ⟨documents, skipped⟩ := p
  obtain habsent | ⟨before, e, after, rfl, he, hbefore, hafter⟩ := place path.components h
  · rw [take_absent habsent, get?_absent habsent, filter_absent habsent]
  · rw [take_cut hbefore he, get?_cut hbefore he, List.filter_append, filter_absent hbefore,
      List.filter_cons_of_neg (by simpa using he), filter_absent hafter]

theorem keys_remove (path : Path) :
    (p.remove path).keys = p.keys.filter (· ≠ path.components) := by
  rw [remove, take_eq h, keys, keys, List.filter_map]
  rfl

theorem keys_edit (path : Path) (e : Edit) : (p.modify path e.change).keys = p.keys := by
  obtain ⟨documents, skipped⟩ := p
  obtain habsent | ⟨before, d, after, rfl, hd, hbefore, -⟩ := place path.components h
  · rw [modify_absent habsent]
  · rw [modify_cut hbefore hd]
    simp [keys, key, e.path_change]

theorem get?_add (d : Document) (path : Path) :
    (p.add d).get? path = if key d = path.components then some d else p.get? path := by
  obtain ⟨documents, skipped⟩ := p
  obtain habsent | ⟨before, e, after, rfl, he, hbefore, -⟩ := place (key d) h
  · rw [add, insert_absent habsent]
    split
    case isTrue hd => exact get?_cut (hd ▸ habsent) hd
    case isFalse hd => rw [get?_skip hd, List.append_nil]
  · rw [add, insert_cut hbefore he]
    split
    case isTrue hd => exact get?_cut (hd ▸ hbefore) hd
    case isFalse hd => rw [get?_skip hd, get?_skip (he ▸ hd)]

theorem get?_remove (removed path : Path) :
    (p.remove removed).get? path =
      if removed.components = path.components then none else p.get? path := by
  obtain ⟨documents, skipped⟩ := p
  obtain habsent | ⟨before, e, after, rfl, he, hbefore, hafter⟩ := place removed.components h
  · rw [remove, take_absent habsent]
    split
    case isTrue hpath => exact get?_absent (hpath ▸ habsent)
    case isFalse => rfl
  · rw [remove, take_cut hbefore he]
    split
    case isTrue hpath =>
      refine get?_absent (hpath ▸ ?_)
      exact List.forall_mem_append.2 ⟨hbefore, hafter⟩
    case isFalse hpath => rw [get?_skip (he ▸ hpath)]

theorem get?_edit (edited path : Path) (e : Edit) :
    (p.modify edited e.change).get? path =
      if edited.components = path.components then (p.get? path).map e.change else p.get? path := by
  obtain ⟨documents, skipped⟩ := p
  obtain habsent | ⟨before, d, after, rfl, hd, hbefore, -⟩ := place edited.components h
  · rw [modify_absent habsent]
    split
    case isTrue hpath => rw [get?_absent (hpath ▸ habsent), Option.map_none]
    case isFalse => rfl
  · have hchange : key (e.change d) = edited.components := by rw [← hd, key, key, e.path_change]
    rw [modify_cut hbefore hd]
    split
    case isTrue hpath =>
      rw [get?_cut (hpath ▸ hbefore) (hpath ▸ hchange), get?_cut (hpath ▸ hbefore) (hpath ▸ hd),
        Option.map_some]
    case isFalse hpath => rw [get?_skip (hchange ▸ hpath), get?_skip (hd ▸ hpath)]

theorem nodup_keys_step (op : Operation) : (op.step p).keys.Nodup := by
  cases op with
  | add d =>
    by_cases hd : key d ∈ p.keys
    · rw [Operation.step, keys_add_of_mem h hd]
      exact h
    · rw [Operation.step, keys_add_of_not_mem hd, ← List.concat_eq_append]
      exact h.concat hd
  | remove path =>
    rw [Operation.step, keys_remove h]
    exact h.filter _
  | edit path e =>
    rw [Operation.step, keys_edit h]
    exact h

end Step

/-- A look-up after an operation gives what the operation has added, or what was there and has not
been replaced or removed. -/
theorem get?_step {p : Project} (h : p.keys.Nodup) (op : Operation) (path : Path) (e : Document) :
    (op.step p).get? path = some e ↔
      op.AddsDocument path.components e ∨
        ¬ op.Adds path.components ∧ ¬ op.Removes path.components ∧
          ∃ d, p.get? path = some d ∧ op.onDocument path.components d = e := by
  cases op with
  | add d =>
    rw [Operation.step, get?_add h]
    by_cases hd : key d = path.components <;>
      simp [hd, Operation.AddsDocument, Operation.Adds, Operation.Removes, Operation.onDocument]
  | remove removed =>
    rw [Operation.step, get?_remove h]
    by_cases hr : removed.components = path.components <;>
      simp [hr, Operation.AddsDocument, Operation.Adds, Operation.Removes, Operation.onDocument]
  | edit edited change =>
    rw [Operation.step, get?_edit h]
    by_cases he : edited.components = path.components <;>
      simp [he, Operation.AddsDocument, Operation.Adds, Operation.Removes, Operation.onDocument]

/-! ## Histories -/

/-- A history that is one operation longer is cut at that operation or as it was before. -/
theorem cut_concat {history before after : List Operation} {op cut : Operation}
    (h : history ++ [op] = before ++ cut :: after) :
    (history = before ∧ op = cut ∧ after = []) ∨
      ∃ rest, history = before ++ cut :: rest ∧ after = rest ++ [op] := by
  obtain rfl | ⟨rest, last, rfl⟩ := List.eq_nil_or_concat' after
  · obtain ⟨hhistory, hop⟩ := List.append_inj' h rfl
    exact .inl ⟨hhistory, List.singleton_inj.1 hop, rfl⟩
  · rw [← List.cons_append, ← List.append_assoc] at h
    obtain ⟨hhistory, hop⟩ := List.append_inj' h rfl
    exact .inr ⟨rest, hhistory, by rw [hop]⟩

/-- The document that was added last under a key and has not been removed since, with the edits that
it has had. -/
def Latest (history : List Operation) (k : Key) (e : Document) : Prop :=
  ∃ before d after, history = before ++ .add d :: after ∧ key d = k ∧
    (∀ op ∈ after, ¬ op.Adds k ∧ ¬ op.Removes k) ∧ after.foldl (Operation.onDocument k) d = e

theorem latest_concat {history : List Operation} {op : Operation} {k : Key} {e : Document} :
    Latest (history ++ [op]) k e ↔
      op.AddsDocument k e ∨
        ¬ op.Adds k ∧ ¬ op.Removes k ∧ ∃ d, Latest history k d ∧ op.onDocument k d = e := by
  constructor
  · rintro ⟨before, d, after, hcut, hd, hafter, rfl⟩
    obtain ⟨-, rfl, rfl⟩ | ⟨rest, rfl, rfl⟩ := cut_concat hcut
    · exact .inl ⟨rfl, hd⟩
    · rw [List.forall_mem_append, List.forall_mem_singleton] at hafter
      refine .inr ⟨hafter.2.1, hafter.2.2, _, ⟨before, d, rest, rfl, hd, hafter.1, rfl⟩, ?_⟩
      rw [List.foldl_append]
      rfl
  · rintro (hop | ⟨hadds, hremoves, -, ⟨before, d, after, rfl, hd, hafter, rfl⟩, rfl⟩)
    · cases op with
      | add d =>
        obtain ⟨rfl, hd⟩ := hop
        exact ⟨history, d, [], rfl, hd, by simp, rfl⟩
      | remove path => cases hop
      | edit path change => cases hop
    · refine ⟨before, d, after ++ [op], by simp, hd, ?_, by rw [List.foldl_append]; rfl⟩
      rw [List.forall_mem_append, List.forall_mem_singleton]
      exact ⟨hafter, hadds, hremoves⟩

/-- Whenever the key was added, it has been removed later. -/
def Ended (k : Key) (history : List Operation) : Prop :=
  ∀ before op after, history = before ++ op :: after → op.Adds k → ∃ later ∈ after, later.Removes k

/-- The key has come with the operation of a number and stayed: it is not removed after that, and
was not there before. -/
def ArrivedAt (history : List Operation) (k : Key) (n : Nat) : Prop :=
  ∃ before op after, history = before ++ op :: after ∧ before.length = n ∧ op.Adds k ∧
    (∀ later ∈ after, ¬ later.Removes k) ∧ Ended k before

section Concat

variable {history : List Operation} {op : Operation} {k : Key} {m n : Nat}

theorem ended_nil : Ended k [] := by
  intro before op after hcut
  simp at hcut

theorem Ended.concat (h : Ended k history) (hop : ¬ op.Adds k) : Ended k (history ++ [op]) := by
  intro before cut after hcut hadds
  obtain ⟨-, rfl, -⟩ | ⟨rest, rfl, rfl⟩ := cut_concat hcut
  · exact absurd hadds hop
  · obtain ⟨later, hlater, hremoves⟩ := h before cut rest rfl hadds
    exact ⟨later, List.mem_append_left _ hlater, hremoves⟩

theorem ended_concat_of_removes (hadds : ¬ op.Adds k) (hop : op.Removes k) :
    Ended k (history ++ [op]) := by
  intro before cut after hcut hcutAdds
  obtain ⟨-, rfl, -⟩ | ⟨rest, -, rfl⟩ := cut_concat hcut
  · exact absurd hcutAdds hadds
  · exact ⟨op, by simp, hop⟩

theorem ArrivedAt.concat (h : ArrivedAt history k n) (hop : ¬ op.Removes k) :
    ArrivedAt (history ++ [op]) k n := by
  obtain ⟨before, cut, after, rfl, hn, hadds, hafter, hended⟩ := h
  refine ⟨before, cut, after ++ [op], by simp, hn, hadds, ?_, hended⟩
  rw [List.forall_mem_append, List.forall_mem_singleton]
  exact ⟨hafter, hop⟩

theorem Ended.arrivedAt_concat (h : Ended k history) (hop : op.Adds k) :
    ArrivedAt (history ++ [op]) k history.length :=
  ⟨history, op, [], rfl, rfl, hop, by simp, h⟩

/-- A key arrives once: an earlier time would have been ended by a removal, and is not. -/
theorem ArrivedAt.not_lt (hm : ArrivedAt history k m) (hn : ArrivedAt history k n) : ¬ m < n := by
  obtain ⟨before, op, after, rfl, rfl, hadds, hafter, -⟩ := hm
  obtain ⟨before', op', after', hcut, rfl, -, -, hended⟩ := hn
  intro hlt
  obtain ⟨middle, hbefore, hrest⟩ | ⟨middle, hbefore, -⟩ := List.append_eq_append_iff.1 hcut
  · cases middle with
    | nil => simp [hbefore] at hlt
    | cons first middle =>
      obtain ⟨rfl, rfl⟩ := List.cons.inj hrest
      obtain ⟨later, hlater, hremoves⟩ := hended before op middle hbefore hadds
      exact hafter later (List.mem_append_left _ hlater) hremoves
  · rw [hbefore, List.length_append] at hlt
    omega

theorem ArrivedAt.unique (hm : ArrivedAt history k m) (hn : ArrivedAt history k n) : m = n :=
  Nat.le_antisymm (Nat.le_of_not_lt (hn.not_lt hm)) (Nat.le_of_not_lt (hm.not_lt hn))

end Concat

/-- Keys that have arrived one after another. -/
structure Arrivals (history : List Operation) (keys : List Key) : Prop where
  arrived : ∀ k ∈ keys, ∃ n < history.length, ArrivedAt history k n
  ascending : keys.Pairwise fun k l =>
    ∃ m n, ArrivedAt history k m ∧ ArrivedAt history l n ∧ m < n

/-- Keys that an operation does not remove stay as they are. -/
theorem Arrivals.keep {history : List Operation} {op : Operation} {keys kept : List Key}
    (h : Arrivals history keys) (hsub : kept.Sublist keys) (hop : ∀ k ∈ kept, ¬ op.Removes k) :
    Arrivals (history ++ [op]) kept where
  arrived k hk := by
    obtain ⟨n, hn, harrived⟩ := h.arrived k (hsub.subset hk)
    exact ⟨n, by simp; omega, harrived.concat (hop k hk)⟩
  ascending := by
    refine (h.ascending.sublist hsub).imp_of_mem fun {k l} hk hl ⟨m, n, hm, hn, hlt⟩ => ?_
    exact ⟨m, n, hm.concat (hop k hk), hn.concat (hop l hl), hlt⟩

/-- A key that was not there arrives last. -/
theorem Arrivals.concat {history : List Operation} {d : Document} {keys : List Key}
    (h : Arrivals history keys) (hd : Ended (key d) history) :
    Arrivals (history ++ [.add d]) (keys ++ [key d]) := by
  have hold : Arrivals (history ++ [.add d]) keys := h.keep (List.Sublist.refl keys) fun _ _ => id
  have hnew : ArrivedAt (history ++ [.add d]) (key d) history.length := hd.arrivedAt_concat rfl
  constructor
  · intro k hk
    obtain hk | hk := List.mem_append.1 hk
    · exact hold.arrived k hk
    · obtain rfl := List.mem_singleton.1 hk
      exact ⟨history.length, by simp, hnew⟩
  · rw [List.pairwise_append]
    refine ⟨hold.ascending, List.pairwise_singleton _ _, fun k hk l hl => ?_⟩
    obtain rfl := List.mem_singleton.1 hl
    obtain ⟨n, hn, harrived⟩ := h.arrived k hk
    exact ⟨n, history.length, harrived.concat id, hnew, hn⟩

/-! ## Runs -/

theorem nodup_keys_run {p : Project} (h : p.keys.Nodup) (ops : List Operation) :
    (run ops p).keys.Nodup := by
  induction ops using List.reverseRecOn with
  | nil => exact h
  | append_singleton ops op ih =>
    rw [run_concat]
    exact nodup_keys_step ih op

/-- A look-up gives what the history has under the key. -/
theorem get?_run_iff (skipped : List (Path × Error)) (history : List Operation) (path : Path)
    (e : Document) :
    (run history ⟨[], skipped⟩).get? path = some e ↔ Latest history path.components e := by
  induction history using List.reverseRecOn generalizing e with
  | nil =>
    refine iff_of_false (by simp [run, get?]) ?_
    rintro ⟨before, d, after, hcut, -⟩
    simp at hcut
  | append_singleton history op ih =>
    rw [run_concat, get?_step (nodup_keys_run (by simp [keys]) history), latest_concat]
    simp only [ih]

theorem ordered_step {p : Project} (hnodup : p.keys.Nodup) {history : List Operation}
    (h : Arrivals history p.keys) (hended : ∀ k ∉ p.keys, Ended k history) (op : Operation) :
    Arrivals (history ++ [op]) (op.step p).keys ∧
      ∀ k ∉ (op.step p).keys, Ended k (history ++ [op]) := by
  cases op with
  | add d =>
    rw [Operation.step]
    by_cases hd : key d ∈ p.keys
    · rw [keys_add_of_mem hnodup hd]
      refine ⟨h.keep (List.Sublist.refl _) fun _ _ => id, fun k hk => (hended k hk).concat ?_⟩
      exact ne_of_mem_of_not_mem hd hk
    · rw [keys_add_of_not_mem hd]
      refine ⟨h.concat (hended _ hd), fun k hk => ?_⟩
      rw [List.mem_append, List.mem_singleton, not_or] at hk
      exact (hended k hk.1).concat (Ne.symm hk.2)
  | remove path =>
    rw [Operation.step, keys_remove hnodup]
    refine ⟨h.keep List.filter_sublist fun k hk hremoves => ?_, fun k hk => ?_⟩
    · exact (of_decide_eq_true (List.mem_filter.1 hk).2) hremoves.symm
    · by_cases hpath : path.components = k
      · exact ended_concat_of_removes id hpath
      · refine (hended k fun hmem => hk ?_).concat id
        exact List.mem_filter.2 ⟨hmem, decide_eq_true (Ne.symm hpath)⟩
  | edit path change =>
    rw [Operation.step, keys_edit hnodup]
    exact ⟨h.keep (List.Sublist.refl _) fun _ _ => id, fun k hk => (hended k hk).concat id⟩

/-- The keys are in the order in which they have arrived. -/
theorem ordered_run (skipped : List (Path × Error)) (history : List Operation) :
    Arrivals history (run history ⟨[], skipped⟩).keys ∧
      ∀ k ∉ (run history ⟨[], skipped⟩).keys, Ended k history := by
  induction history using List.reverseRecOn with
  | nil => exact ⟨⟨by simp [run, keys], by simp [run, keys]⟩, fun _ _ => ended_nil⟩
  | append_singleton history op ih =>
    rw [run_concat]
    exact ordered_step (nodup_keys_run (by simp [keys]) history) ih.1 ih.2 op

/-- Documents of different keys can be added one after another. -/
theorem run_adds {documents : List Document} (h : (documents.map key).Nodup)
    (skipped : List (Path × Error)) :
    run (documents.map .add) ⟨[], skipped⟩ = ⟨documents, skipped⟩ := by
  induction documents using List.reverseRecOn with
  | nil => rfl
  | append_singleton documents d ih =>
    rw [List.map_append, List.map_singleton, ← List.concat_eq_append, List.nodup_concat] at h
    rw [List.map_append, List.map_singleton, run_concat, ih h.2, Operation.step, add,
      insert_absent (absent_iff.2 h.1)]

/-! ## New and loaded projects -/

/-- How a project comes into being: without documents, or from files. -/
inductive Start : Project → Prop
  | empty : Start .empty
  | load {fs : FileSystem} {root : Path} {config : ProjectConfig} {options : ParseOptions}
      {p : Project} (hwf : fs.tree.WellFormed) (h : load fs root config options = .ok p) : Start p

theorem Divides.nodup_keys {options : ParseOptions} {files read unread : List Tree.Found}
    {p : Project} (h : Divides options files read unread p)
    (hpaths : files.Pairwise fun f g => f.path.same g.path = false) : p.keys.Nodup := by
  have hkeys : p.keys = read.map (·.path.components) := by
    have := congrArg (List.map Path.components) h.paths_eq
    rw [List.map_map, List.map_map] at this
    exact this.symm
  rw [hkeys, List.Nodup, List.pairwise_map]
  exact (hpaths.sublist h.read_sublist).imp fun hfg => Path.same_eq_false_iff.1 hfg

theorem Start.nodup_keys {p : Project} (h : Start p) : p.keys.Nodup := by
  cases h with
  | empty => exact List.nodup_nil
  | load hwf hload =>
    obtain ⟨patterns, found, hroot, hp⟩ := exists_loop_of_load hload
    have hfound := FileSystem.wellFormed_of_resolve hwf hroot
    obtain ⟨read, unread, q, hdiv, hq⟩ := divides_loop hwf hroot _ patterns _
    obtain rfl : q = p := hq.symm.trans hp
    exact hdiv.nodup_keys ((pairwise_visits_filter hfound _ _ _).imp And.right)

/-- A project is an ordered map from paths to documents, after any operations on a new or a loaded
one. The documents of the start count as added in their order. -/
theorem ordered_map {p : Project} (hp : Start p) (ops : List Operation) :
    let history := p.documents.map .add ++ ops
    let q := run ops p
    -- no two documents have the same path
    q.keys.Nodup ∧
    -- a look-up gives the document that was added last, if it has not been removed since
    (∀ path e, q.get? path = some e ↔ Latest history path.components e) ∧
    -- the documents are in the order in which their paths have arrived
    (∀ k ∈ q.keys, ∃ n, ArrivedAt history k n) ∧
    (q.keys.Pairwise fun k l => ∀ m n, ArrivedAt history k m → ArrivedAt history l n → m < n) ∧
    -- adding replaces a document of the path where it stands, and else adds at the end
    (∀ before d e after, q.documents = before ++ e :: after → key e = key d →
      (q.add d).documents = before ++ d :: after) ∧
    (∀ d, key d ∉ q.keys → (q.add d).documents = q.documents ++ [d]) ∧
    -- removing gives the document that a look-up gives, and keeps all others in their order
    ∀ path, q.take path =
      (q.get? path, ⟨q.documents.filter (key · ≠ path.components), q.skipped⟩) := by
  intro history q
  have hq : q = run history ⟨[], p.skipped⟩ := by
    rw [run_append, run_adds hp.nodup_keys]
  have hnodup : q.keys.Nodup := nodup_keys_run hp.nodup_keys ops
  obtain ⟨harrivals, -⟩ := hq ▸ ordered_run p.skipped history
  refine ⟨hnodup, fun path e => ?_, fun k hk => ?_, ?_, ?_, ?_, ?_⟩
  · rw [hq, get?_run_iff]
  · obtain ⟨n, -, hn⟩ := harrivals.arrived k hk
    exact ⟨n, hn⟩
  · refine harrivals.ascending.imp fun ⟨m, n, hm, hn, hlt⟩ m' n' hm' hn' => ?_
    rwa [hm'.unique hm, hn'.unique hn]
  · intro before d e after hcut he
    exact documents_add hnodup hcut he
  · intro d hd
    exact insert_absent (absent_iff.2 hd)
  · exact take_eq hnodup

def blank (spelling : String) : Document := ⟨⟨spelling⟩, [], ⟨none, [], .empty, ⟨0, 0⟩⟩⟩

/-- An edit under another spelling of `app/main.ts`. -/
def sampleEdit : Operation :=
  .edit ⟨"app/./main.ts"⟩ ⟨(·.setItems [default]), fun _ => rfl⟩

/-- A loaded document is replaced under a second spelling of its path, edited under a third one and
looked up under the first; a document that has come in between goes again. -/
theorem ordered_map_sample :
    ∃ p, load sampleSystem ⟨"app"⟩ ⟨["ts"], []⟩ .default = .ok p ∧
      let q := run [.add (blank "lib.ts"), .add (blank "app//main.ts"), .remove ⟨"lib.ts/"⟩,
        sampleEdit] p
      q.keys.Nodup ∧
        q.get? ⟨"app/main.ts"⟩ = some ((blank "app//main.ts").setItems [default]) := by
  have happ := FileSystem.wellFormed_of_resolve wellFormed_sample resolve_sample
  obtain ⟨p, hload⟩ : ∃ p, load sampleSystem ⟨"app"⟩ ⟨["ts"], []⟩ .default = .ok p :=
    ⟨_, load_of_listable (excludes_nil ["ts"]) happ resolve_sample
      (listable_sample (by decide +kernel) (by decide +kernel))⟩
  obtain ⟨hnodup, hget, -⟩ := ordered_map (.load wellFormed_sample hload)
    [.add (blank "lib.ts"), .add (blank "app//main.ts"), .remove ⟨"lib.ts/"⟩, sampleEdit]
  refine ⟨p, hload, hnodup, (hget _ _).2 ⟨p.documents.map .add ++ [.add (blank "lib.ts")],
    blank "app//main.ts", [.remove ⟨"lib.ts/"⟩, sampleEdit], by simp, by decide, ?_, ?_⟩⟩
  · decide
  · have hedit : (⟨"app/./main.ts"⟩ : Path).components = (⟨"app/main.ts"⟩ : Path).components := by
      decide
    simp only [List.foldl_cons, List.foldl_nil, sampleEdit, Operation.onDocument, if_pos hedit]

end Codemod.Project
