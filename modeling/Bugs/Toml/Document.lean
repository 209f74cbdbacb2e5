import Bugs.Toml.Scalar

/-!
# Reading a TOML document

A document is read statement by statement: a key with its value, a table header or the
header of a further item of a list of tables. Beside the table built so far, the reader
remembers which tables a header or a dotted key has defined, and which values were written
inline and are therefore closed.
-/

namespace Bugs.Toml

/-! ## Blanks and comments -/

/-- Drops the blanks of a line. -/
def skipBlanks (source : List Char) : List Char :=
  source.dropWhile isBlank

/-- Drops a comment up to the end of its line. -/
def skipComment : List Char → Except Fault (List Char)
  | '#' :: rest =>
    if (rest.takeWhile (· ≠ '\n')).any isControl then .error .control
    else .ok (rest.dropWhile (· ≠ '\n'))
  | source => .ok source

/-- Drops blanks, line ends and comments, at most the given number of comments. -/
def skipFiller : Nat → List Char → Except Fault (List Char)
  | 0, source => .ok (source.dropWhile isFiller)
  | comments + 1, source =>
    match source.dropWhile isFiller with
    | '#' :: rest => do skipFiller comments (← skipComment ('#' :: rest))
    | source => .ok source

/-- Drops all blanks, line ends and comments. -/
def skipAll (source : List Char) : Except Fault (List Char) :=
  skipFiller source.length source

/-! ## Keys -/

/-- The characters of a key without quotes. -/
def isKeyChar (c : Char) : Bool :=
  c.isAlphanum || c = '-' || c = '_'

/-- Reads one part of a key. -/
def readKeyPart : Reader String
  | '"' :: rest => (readBasic false false rest).map fun (text, rest) ↦ (String.ofList text, rest)
  | '\'' :: rest => (readLiteral false rest).map fun (text, rest) ↦ (String.ofList text, rest)
  | source =>
    match source.takeWhile isKeyChar with
    | [] => .error .key
    | part => .ok (String.ofList part, source.dropWhile isKeyChar)

/-- Reads a key of at most the given number of further parts. -/
def readKeyParts : Nat → Reader Key
  | 0, _ => .error .depth
  | parts + 1, source => do
    let (part, rest) ← readKeyPart source
    match skipBlanks rest with
    | '.' :: rest =>
      let (key, rest) ← readKeyParts parts (skipBlanks rest)
      .ok (part :: key, rest)
    | rest => .ok ([part], rest)

/-- Reads a dotted key and the blanks behind it. -/
def readKey : Reader Key := fun source ↦
  readKeyParts (source.length + 1) source

/-! ## Values -/

/-- Reads a key, an equals sign and a value. -/
def readPair (value : Reader Value) : Reader (Key × Value) := fun source ↦ do
  match ← readKey source with
  | (key, '=' :: rest) =>
    let (content, rest) ← value (skipBlanks rest)
    .ok ((key, content), rest)
  | _ => .error .equalsSign

/-- Reads the items of a list up to its closing bracket. -/
def readItems (value : Reader Value) : Nat → Reader (List Value)
  | 0, _ => .error .depth
  | items + 1, source => do
    match ← skipAll source with
    | ']' :: rest => .ok ([], rest)
    | source =>
      let (item, rest) ← value source
      match ← skipAll rest with
      | ']' :: rest => .ok ([item], rest)
      | ',' :: rest =>
        let (others, rest) ← readItems value items rest
        .ok (item :: others, rest)
      | _ => .error .openArray

/-- A key is closed if it or a part in front of it was given a value that is closed. -/
def isClosed (closed : List Key) (key : Key) : Bool :=
  closed.any (·.isPrefixOf key)

/-- Adds an entry to an inline table; lists and tables in it are closed. -/
def addInline (closed : List Key) (key : Key) (value : Value) (table : Table) :
    Except Fault Table :=
  if isClosed closed key then .error .closedValue
  else table.change false (Table.define (key.getLastD "") value) key.dropLast

/-- Reads the entries of an inline table up to its closing brace. -/
def readEntries (value : Reader Value) : Nat → List Key → Table → Reader Table
  | 0, _, _, _ => .error .depth
  | entries + 1, closed, table, source => do
    let ((key, content), rest) ← readPair value source
    let table ← addInline closed key content table
    match skipBlanks rest with
    | '\x7d' :: rest => .ok (table, rest)
    | ',' :: rest =>
      let closed := if content.isContainer then key :: closed else closed
      readEntries value entries closed table (skipBlanks rest)
    | _ => .error .openInlineTable

/-- Reads a value in which at most the given number of lists and tables nest. -/
def readValue : Nat → Reader Value
  | 0, _ => .error .depth
  | depth + 1, source =>
    match source with
    | '"' :: _ => (readText source).map fun (text, rest) ↦ (.text text, rest)
    | '\'' :: _ => (readText source).map fun (text, rest) ↦ (.text text, rest)
    | 't' :: 'r' :: 'u' :: 'e' :: rest => .ok (.boolean true, rest)
    | 'f' :: 'a' :: 'l' :: 's' :: 'e' :: rest => .ok (.boolean false, rest)
    | '[' :: rest =>
      (readItems (readValue depth) source.length rest).map fun (items, rest) ↦
        (.array items, rest)
    | '\x7b' :: rest =>
      match skipBlanks rest with
      | '\x7d' :: rest => .ok (.table [], rest)
      | rest =>
        (readEntries (readValue depth) source.length [] [] rest).map fun (table, rest) ↦
          (.table table, rest)
    | _ => readQuantity source

/-! ## Statements -/

/-- What has been read of a document. -/
structure Document where
  table : Table
  /-- The table that the last header opened. -/
  header : Key
  /-- The tables that no further header may open. -/
  defined : List Key
  /-- The tables that dotted keys have defined since the last header. -/
  dotted : List Key
  /-- The lists and tables that were written inline. -/
  closed : List Key

namespace Document

/-- The document before its first statement. -/
def empty : Document :=
  ⟨[], [], [], [], []⟩

/-- A header ends the section in which dotted keys may still extend their tables. -/
def endSection (document : Document) : Document :=
  { document with defined := document.dotted ++ document.defined, dotted := [] }

/-- Opens the table of a header. -/
def openTable (document : Document) (key : Key) : Except Fault Document :=
  if document.defined.contains key then .error .redefinition
  else if isClosed document.closed key then .error .closedValue
  else do
    let table ← document.table.change true .ok key
    .ok { document with table, header := key, defined := key :: document.defined }

/-- Appends an empty table to the list of tables under a key. -/
def appendItem (key : String) (table : Table) : Except Fault Table :=
  match table.find? key with
  | none => .ok (table.put key (.array [.table []]))
  | some (.array items) => .ok (table.put key (.array (items ++ [.table []])))
  | some _ => .error .noTable

/-- Opens a further item of a list of tables. What was defined below the last item is free
again. -/
def openItem (document : Document) (key : Key) : Except Fault Document :=
  if isClosed document.closed key then .error .closedValue
  else do
    let table ← document.table.change true (appendItem (key.getLastD "")) key.dropLast
    let keep (other : Key) : Bool := !key.isPrefixOf other
    .ok { document with
      table
      header := key
      defined := key :: document.defined.filter keep
      closed := document.closed.filter keep }

/-- Gives a key of the open table its value. -/
def assign (document : Document) (key : Key) (value : Value) : Except Fault Document :=
  let parent := document.header ++ key.dropLast
  let onTheWay := (List.range (key.length - 1)).map fun i ↦ document.header ++ key.take (i + 1)
  if onTheWay.any document.defined.contains then .error .redefinition
  else if isClosed document.closed parent then .error .closedValue
  else do
    let table ← document.table.change true (Table.define (key.getLastD "") value) parent
    let whole := document.header ++ key
    .ok { document with
      table
      dotted := onTheWay ++ document.dotted
      closed := if value.isContainer then whole :: document.closed else document.closed }

/-- Reads a table header behind its first bracket. -/
def readHeader (document : Document) : Reader Document := fun source ↦
  match source with
  | '[' :: rest => do
    let (key, rest) ← readKey (skipBlanks rest)
    let document ← document.endSection.openItem key
    match rest with
    | ']' :: ']' :: rest => .ok (document, rest)
    | _ => .error .openHeader
  | _ => do
    let (key, rest) ← readKey (skipBlanks source)
    let document ← document.endSection.openTable key
    match rest with
    | ']' :: rest => .ok (document, rest)
    | _ => .error .openHeader

/-- Reads one statement; a comment or an empty line states nothing. -/
def readStatement (document : Document) : Reader Document := fun source ↦
  match source with
  | [] => .ok (document, [])
  | c :: rest =>
    if c = '\n' ∨ c = '#' then .ok (document, source)
    else if c = '[' then document.readHeader rest
    else if isKeyChar c ∨ c = '"' ∨ c = '\'' then do
      let ((key, value), rest) ← readPair (readValue source.length) source
      .ok (← document.assign key value, rest)
    else .error .statement

/-- Reads at most the given number of lines. -/
def readLines : Nat → Document → List Char → Except Fault Table
  | 0, _, _ => .error .depth
  | lines + 1, document, source => do
    let (document, rest) ← document.readStatement (skipBlanks source)
    match ← skipComment (skipBlanks rest) with
    | [] => .ok document.table
    | '\n' :: rest => readLines lines document rest
    | _ => .error .restOfLine

end Document

/-- Reads the text of a document, in which every line ends with a line feed. -/
def parse (source : List Char) : Except Fault Table :=
  Document.empty.readLines (source.length + 1) source

/-! ## Long numbers -/

section LongNumbers

variable {digits rest : List Char}

theorem readValue_of_digit {c : Char} (hdigit : c.isDigit = true) (depth : Nat) :
    readValue (depth + 1) (c :: rest) = readQuantity (c :: rest) := by
  have hother : c ≠ '"' ∧ c ≠ '\'' ∧ c ≠ 't' ∧ c ≠ 'f' ∧ c ≠ '[' ∧ c ≠ '\x7b' := by
    refine ⟨?_, ?_, ?_, ?_, ?_, ?_⟩ <;> rintro rfl <;> cases hdigit
  simp [readValue, hother]

/-- A whole number with more digits than the limit ends the reading of a document. -/
theorem parse_of_long (hdigits : ∀ c ∈ digits, c.isDigit = true)
    (hhead : ∃ c ∈ digits.head?, c ≠ '0') (hlong : digitLimit < digits.length) :
    parse ('a' :: '=' :: digits) = .error .oversized := by
  cases digits with
  | nil => simp at hhead
  | cons c rest =>
    have hc : c.isDigit = true := hdigits c List.mem_cons_self
    have hskip : skipBlanks (c :: rest) = c :: rest := by
      refine List.dropWhile_cons_of_neg ?_
      have : c ≠ ' ' ∧ c ≠ '\t' := by constructor <;> rintro rfl <;> cases hc
      simp [isBlank, this]
    have hkey : readKey ('a' :: '=' :: c :: rest) = .ok (["a"], '=' :: c :: rest) := rfl
    have hvalue : readValue ('a' :: '=' :: c :: rest).length (c :: rest) = .error .oversized :=
      (readValue_of_digit hc _).trans (readQuantity_of_long hdigits hhead hlong)
    have hpair : readPair (readValue ('a' :: '=' :: c :: rest).length) ('a' :: '=' :: c :: rest) =
        .error .oversized := by
      rw [readPair, hkey]
      simp only [bind, Except.bind, hskip, hvalue]
    have hstatement :
        Document.empty.readStatement ('a' :: '=' :: c :: rest) = .error .oversized := by
      simp [Document.readStatement, isKeyChar, -List.length_cons, hpair, bind, Except.bind]
    have hstart : skipBlanks ('a' :: '=' :: c :: rest) = 'a' :: '=' :: c :: rest := rfl
    rw [parse, Document.readLines, hstart, hstatement]
    rfl

end LongNumbers

end Bugs.Toml
