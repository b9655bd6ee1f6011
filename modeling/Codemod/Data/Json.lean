import Codemod.Data.Value
import Codemod.Text.Quoted

/-!
# Data as JSON text

JSON with two blanks for each level and one entry a line. Controls are escaped, all other characters
stand as they are.
-/
namespace Codemod.Data

def jsonChar (c : Char) : String :=
  match c with
  | '"' => "\\\""
  | '\\' => "\\\\"
  | '\n' => "\\n"
  | '\r' => "\\r"
  | '\t' => "\\t"
  | c =>
    if c.toNat == 8 then "\\b"
    else if c.toNat == 12 then "\\f"
    else if c.toNat < 16 then "\\u000" ++ Text.hexDigits c.toNat
    else if c.toNat < 32 then "\\u00" ++ Text.hexDigits c.toNat
    else c.toString

def jsonString (s : String) : String := "\"" ++ String.join (s.toList.map jsonChar) ++ "\""

/-- A new line at a level. -/
def jsonLine (level : Nat) : String := "\n" ++ String.ofList (List.replicate (2 * level) ' ')

/-- Entries between brackets, one a line; only the brackets when there are none. -/
def jsonBlock (opening closing : String) (level : Nat) (entries : List String) : String :=
  if entries.isEmpty then opening ++ closing
  else
    opening ++ String.intercalate "," (entries.map (jsonLine (level + 1) ++ ·)) ++ jsonLine level ++
      closing

mutual

/-- The text of a value whose first line is at a level. -/
def jsonAt (level : Nat) : Data → String
  | .null => "null"
  | .bool true => "true"
  | .bool false => "false"
  | .number text => text
  | .string s => jsonString s
  | .list items => jsonBlock "[" "]" level (jsonItems (level + 1) items)
  | .record entries => jsonBlock "\x7b" "\x7d" level (jsonEntries (level + 1) entries)

def jsonItems (level : Nat) : List Data → List String
  | [] => []
  | item :: items => jsonAt level item :: jsonItems level items

def jsonEntries (level : Nat) : List (String × Data) → List String
  | [] => []
  | (key, value) :: rest => (jsonString key ++ ": " ++ jsonAt level value) :: jsonEntries level rest

end

def json (d : Data) : String := jsonAt 0 d

end Codemod.Data
