import Codemod.Data.Value

/-!
# Tables under construction

The lines of a TOML document fill a tree of tables. How a table came about decides what may still be
added to it: a table with a header of its own is complete after that header's lines, a table that
only stands on the way to another one may still get its header, and one made by a dotted key grows
by dotted keys alone, and it alone does.
-/
namespace Codemod.Data.Toml

/-- How a table came about. -/
inductive Origin
  /-- On the way to the header of another table. -/
  | implied
  /-- By a header of its own. -/
  | header
  /-- By a dotted key. -/
  | dotted
deriving DecidableEq

inductive Entry
  | value (data : Data)
  | table (origin : Origin) (entries : List (String × Entry))
  /-- A list of tables, of which the last one is open. -/
  | tables (elements : List (List (String × Entry)))

abbrev Table := List (String × Entry)

namespace Table

/-- Changes or makes the entry of a key, or fails. -/
def update (key : String) (change : Option Entry → Option Entry) : Table → Option Table
  | [] => do return [(key, ← change none)]
  | (k, entry) :: rest =>
    if k == key then do return (k, ← change (some entry)) :: rest
    else do return (k, entry) :: (← update key change rest)

/-- Changes the table at a path of headers. Missing tables on the way are made. -/
def atHeader : List String → (Table → Option Table) → Table → Option Table
  | [], change, t => change t
  | key :: keys, change, t =>
    t.update key fun
      | none => do return .table .implied (← atHeader keys change [])
      | some (.table origin entries) => do return .table origin (← atHeader keys change entries)
      | some (.tables elements) =>
        match elements.reverse with
        | last :: before => do return .tables ((← atHeader keys change last) :: before).reverse
        | [] => none
      | some (.value _) => none

/-- Changes the table at a path of keys before the last one of a dotted key, which has to be made by
a dotted key as well. -/
def atDotted : List String → (Table → Option Table) → Table → Option Table
  | [], change, t => change t
  | key :: keys, change, t =>
    t.update key fun
      | none => do return .table .dotted (← atDotted keys change [])
      | some (.table origin entries) =>
        if origin == .header || (keys.isEmpty && origin != .dotted) then none
        else do return .table origin (← atDotted keys change entries)
      | some (.tables elements) =>
        match elements.reverse with
        | last :: before =>
          if keys.isEmpty then none
          else do return .tables ((← atDotted keys change last) :: before).reverse
        | [] => none
      | some (.value _) => none

/-- Adds an entry, whose key has to be new. -/
def add (key : String) (entry : Entry) (t : Table) : Option Table :=
  t.update key fun
    | none => some entry
    | some _ => none

/-- Adds a value under a key, dotted or not. -/
def addValue (path : List String) (data : Data) (t : Table) : Option Table :=
  match path.getLast? with
  | some key => atDotted path.dropLast (add key (.value data)) t
  | none => none

def openTable (path : List String) (t : Table) : Option Table :=
  match path.getLast? with
  | some key => atHeader path.dropLast (fun t => t.update key fun
      | none => some (.table .header [])
      | some (.table .implied entries) => some (.table .header entries)
      | _ => none) t
  | none => none

/-- Opens a new table in the list of a header in double brackets. -/
def openElement (path : List String) (t : Table) : Option Table :=
  match path.getLast? with
  | some key => atHeader path.dropLast (fun t => t.update key fun
      | none => some (.tables [[]])
      | some (.tables elements) => some (.tables (elements ++ [[]]))
      | _ => none) t
  | none => none

end Table

mutual

def Entry.data : Entry → Data
  | .value data => data
  | .table _ entries => .record (entriesData entries)
  | .tables elements => .list (elementsData elements)

def entriesData : List (String × Entry) → List (String × Data)
  | [] => []
  | (key, entry) :: rest => (key, entry.data) :: entriesData rest

def elementsData : List (List (String × Entry)) → List Data
  | [] => []
  | entries :: rest => .record (entriesData entries) :: elementsData rest

end

def Table.data (t : Table) : Data := .record (entriesData t)

end Codemod.Data.Toml
