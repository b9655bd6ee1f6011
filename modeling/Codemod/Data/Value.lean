/-!
# Data

`Data` is what configuration files, environment values and reports hold before they are given a
type: plain values, lists and records. Records keep their entries in order.

A typed value is read out of data by a partial function that gives `none` where the data does not
fit. A record of fixed fields may also be written as the list of its fields in order (`fields?`),
and one of a few names also as a record with that one key (`choice?`).
-/
namespace Codemod

inductive Data
  | null
  | bool (b : Bool)
  /-- A number, by its text. -/
  | number (text : String)
  | string (s : String)
  | list (items : List Data)
  | record (entries : List (String × Data))
deriving Repr, Inhabited

namespace Data

/-! ## Layers -/

mutual

/-- The second value over the first: records are joined entry by entry, everything else is replaced
as a whole. -/
def merge : Data → Data → Data
  | .record lower, .record upper =>
    .record (mergeEntries lower upper ++ upper.filter fun entry => !lower.any (·.1 == entry.1))
  | _, upper => upper

/-- The entries of the lower record, each merged with the upper record's entry of its key. -/
def mergeEntries : List (String × Data) → List (String × Data) → List (String × Data)
  | [], _ => []
  | (key, value) :: rest, upper =>
    (match upper.lookup key with
      | some new => (key, merge value new)
      | none => (key, value)) :: mergeEntries rest upper

end

/-- A value below a path of keys. -/
def nest : List String → Data → Data
  | [], value => value
  | key :: keys, value => .record [(key, nest keys value)]

/-! ## Reading -/

def string? : Data → Option String
  | .string s => some s
  | _ => none

def bool? : Data → Option Bool
  | .bool b => some b
  | _ => none

def list? : Data → Option (List Data)
  | .list items => some items
  | _ => none

def strings? (d : Data) : Option (List String) := do (← d.list?).mapM string?

/-- The fields of a record under some keys, `none` for a missing one; or the items of a list in
their place, of which the first `least` have to be there. -/
def fields? (keys : List String) (least : Nat) : Data → Option (List (Option Data))
  | .record entries => some (keys.map fun key => entries.lookup key)
  | .list items =>
    if least ≤ items.length && items.length ≤ keys.length then
      some (items.map some ++ List.replicate (keys.length - items.length) none)
    else none
  | _ => none

/-- A value that may be null or missing. -/
def optional? (read : Data → Option α) : Option Data → Option (Option α)
  | none => some none
  | some .null => some none
  | some value => (read value).map some

/-- One of a few names: the name, or a record with the name as its only key and nothing under it. -/
def choice? (ofName? : String → Option α) : Data → Option α
  | .string name => ofName? name
  | .record [(name, .null)] => ofName? name
  | _ => none

/-! ## Writing -/

def ofStrings (strings : List String) : Data := .list (strings.map .string)

def ofOption (write : α → Data) : Option α → Data
  | some a => write a
  | none => .null

end Data

end Codemod
