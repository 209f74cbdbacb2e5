import Bugs.Json

/-!
# Printing JSON

Values are printed over several lines, two blanks deeper for each level of nesting, with
the fields of an object in ascending order of their keys. Only the quotation mark, the
backslash and the codes below 32 are escaped.
-/

namespace Bugs.Json

/-- The escaped form of a character inside a JSON text. -/
def escape (c : Char) : List Char :=
  if c = '"' then ['\\', '"']
  else if c = '\\' then ['\\', '\\']
  else if c = '\n' then ['\\', 'n']
  else if c = '\r' then ['\\', 'r']
  else if c = '\t' then ['\\', 't']
  else if c = '\x08' then ['\\', 'b']
  else if c = '\x0c' then ['\\', 'f']
  else if c.toNat < 32 then '\\' :: 'u' :: Text.hexadecimal 4 c.toNat
  else [c]

/-- A text between quotation marks. -/
def quoted (text : String) : String :=
  String.ofList ('"' :: text.toList.flatMap escape ++ ['"'])

/-- Puts a printed field into a list that ascends by key; a later field goes behind an
earlier one of the same key. -/
def insertField (field : String × String) : List (String × String) → List (String × String)
  | [] => [field]
  | other :: fields =>
    if other.1 < field.1 then other :: insertField field fields else field :: other :: fields

/-- Items between brackets, one a line, at a depth. -/
def bracketed (opening closing : String) (depth : Nat) (items : List String) : String :=
  if items.isEmpty then opening ++ closing
  else
    let margin := "\n" ++ String.ofList (List.replicate (2 * depth) ' ')
    opening ++ String.intercalate "," (items.map (margin ++ "  " ++ ·)) ++ margin ++ closing

mutual

/-- Prints a value at a depth of nesting. -/
def prettyAt (depth : Nat) : Json → String
  | null => "null"
  | bool value => if value then "true" else "false"
  | integer value => toString value
  | decimal number => number.text
  | string text => quoted text
  | array items => bracketed "[" "]" depth (prettyItems (depth + 1) items)
  | object fields =>
    bracketed "\x7b" "\x7d" depth
      (((prettyFields (depth + 1) fields).foldr insertField []).map fun field ↦
        quoted field.1 ++ ": " ++ field.2)

/-- Prints the items of a list. -/
def prettyItems (depth : Nat) : List Json → List String
  | [] => []
  | item :: items => prettyAt depth item :: prettyItems depth items

/-- Prints the values of the fields of an object. -/
def prettyFields (depth : Nat) : List (String × Json) → List (String × String)
  | [] => []
  | (key, value) :: fields => (key, prettyAt depth value) :: prettyFields depth fields

end

/-- Prints a value. -/
def pretty (value : Json) : String :=
  value.prettyAt 0

end Bugs.Json
