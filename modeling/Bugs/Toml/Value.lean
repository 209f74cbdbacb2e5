/-!
# Values of a TOML document

A document is a table of values. Settings ask for tables, lists, texts and truth values;
numbers and moments are told apart from these, and their content plays no part.
-/

namespace Bugs.Toml

/-- Why a text is not read as a TOML document. -/
inductive Fault where
  /-- A statement starts with no key, bracket or comment. -/
  | statement
  /-- Something other than a comment follows a statement on its line. -/
  | restOfLine
  /-- A key is missing or starts with a wrong character. -/
  | key
  /-- No equals sign follows a key. -/
  | equalsSign
  | value
  /-- A date names a day that its month lacks, or the year zero. -/
  | date
  | openText
  | escape
  /-- A control character stands in a text or a comment. -/
  | control
  | openArray
  | openInlineTable
  | openHeader
  /-- A table or a value is defined a second time. -/
  | redefinition
  /-- A list or table written inline is extended from outside. -/
  | closedValue
  /-- A key leads through a value that is no table. -/
  | noTable
  /-- Values nest deeper than the text is long. -/
  | depth
  /-- A whole number has more digits than are read. The text may well be a document. -/
  | oversized
deriving Repr, DecidableEq

/-- A value of a document. -/
inductive Value where
  | boolean (value : Bool)
  | text (content : String)
  | number
  /-- A date, a time of day or both. -/
  | moment
  | array (items : List Value)
  | table (entries : List (String × Value))

/-- The entries of a table in the order of their first definition. -/
abbrev Table := List (String × Value)

/-- The parts of a dotted key. -/
abbrev Key := List String

/-- A list or a table, which holds further values. -/
def Value.isContainer : Value → Bool
  | array _ | table _ => true
  | _ => false

namespace Table

/-- The value of a key. -/
def find? (table : Table) (key : String) : Option Value :=
  (List.find? (·.1 = key) table).map (·.2)

/-- Gives a key a value in its place, or at the end if the key is new. -/
def put (key : String) (value : Value) : Table → Table
  | [] => [(key, value)]
  | entry :: entries =>
    if entry.1 = key then (key, value) :: entries else entry :: put key value entries

/-- Defines a key that must be new. -/
def define (key : String) (value : Value) (table : Table) : Except Fault Table :=
  if (table.find? key).isSome then .error .redefinition else .ok (table.put key value)

/-- Changes the table that a path leads to and creates the tables that are missing on the
way. Where allowed, a list on the way stands for its last item. -/
def change (throughLists : Bool) (action : Table → Except Fault Table) :
    Key → Table → Except Fault Table
  | [], table => action table
  | key :: path, table =>
    match table.find? key with
    | none => do
      let inner ← change throughLists action path []
      .ok (table.put key (.table inner))
    | some (.table inner) => do
      let inner ← change throughLists action path inner
      .ok (table.put key (.table inner))
    | some (.array items) =>
      match throughLists, items.getLast? with
      | true, some (.table inner) => do
        let inner ← change throughLists action path inner
        .ok (table.put key (.array (items.dropLast ++ [.table inner])))
      | _, _ => .error .noTable
    | some _ => .error .noTable

end Table

end Bugs.Toml
