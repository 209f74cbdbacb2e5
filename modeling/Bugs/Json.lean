import Bugs.Decimal
import Bugs.Text.Quoted

/-!
# Values of the JSON data model

Trace events carry such values, and the command line prints them. An integer and a
decimal number are different values, even where they are equal as numbers.
-/

namespace Bugs

/-- A value of the JSON data model. -/
inductive Json where
  | null
  | bool (value : Bool)
  | integer (value : Int)
  | decimal (number : Decimal)
  | string (text : String)
  | array (items : List Json)
  | object (fields : List (String × Json))
deriving Repr, Inhabited

namespace Json

/-! ## Text within a message -/

mutual

/-- The text of a value inside a list or an object, where a text is quoted. -/
def nestedText : Json → String
  | null => "None"
  | bool value => if value then "True" else "False"
  | integer value => toString value
  | decimal number => number.text
  | string text => Text.quote text
  | array items => "[" ++ String.intercalate ", " (nestedItems items) ++ "]"
  | object fields => "\x7b" ++ String.intercalate ", " (nestedFields fields) ++ "\x7d"

/-- The texts of the items of a list. -/
def nestedItems : List Json → List String
  | [] => []
  | item :: items => nestedText item :: nestedItems items

/-- The texts of the fields of an object. -/
def nestedFields : List (String × Json) → List String
  | [] => []
  | (key, value) :: fields => (Text.quote key ++ ": " ++ nestedText value) :: nestedFields fields

end

/-- The text of a value within a message: a text stands for itself. -/
def plainText : Json → String
  | string text => text
  | value => value.nestedText

end Json

end Bugs
