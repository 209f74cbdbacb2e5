/-!
# The words of the Bugs language

A lexicon names the words that are keywords: the reserved words, which introduce
constructs, and the color names, which only a color statement uses. Every other word is
an ordinary name. Case matters.
-/

namespace Bugs

/-- The words that are keywords, in two groups. -/
structure Lexicon where
  /-- The words that introduce or join constructs. -/
  reserved : List String
  /-- The words that name colors. -/
  colors : List String
deriving Repr, DecidableEq

namespace Lexicon

/-- The lexicon of the language as it stands, before any project adds colors. -/
def standard : Lexicon where
  reserved :=
    ["Allbugs", "Bug", "var", "initially", "move", "moveto", "turn", "turnto", "line", "loop",
      "exit", "if", "switch", "case", "return", "do", "color", "define", "using"]
  colors :=
    ["black", "blue", "cyan", "darkGray", "gray", "green", "lightGray", "magenta", "orange",
      "pink", "purple", "red", "white", "yellow", "brown", "none"]

/-- A word is a keyword when it is reserved or names a color. -/
def isKeyword (lexicon : Lexicon) (word : String) : Bool :=
  lexicon.reserved.contains word || lexicon.colors.contains word

/-- Adds color names; the reserved words stay. -/
def withColors (lexicon : Lexicon) (extra : List String) : Lexicon :=
  { lexicon with colors := lexicon.colors ++ extra }

theorem isKeyword_withColors (lexicon : Lexicon) (extra : List String) (word : String) :
    (lexicon.withColors extra).isKeyword word =
      (lexicon.isKeyword word || extra.contains word) := by
  simp only [isKeyword, withColors, List.contains_eq_mem, List.mem_append, Bool.decide_or,
    Bool.or_assoc]

/-- Puts a word into an ascending list without repeating one that is there. -/
def insertWord (word : String) : List String → List String
  | [] => [word]
  | other :: words =>
    if word < other then word :: other :: words
    else if word = other then other :: words
    else other :: insertWord word words

/-- The words of a list in ascending order of code points, each one once. -/
def ascending (words : List String) : List String :=
  words.foldr insertWord []

/-- All keywords in ascending order. -/
def keywordList (lexicon : Lexicon) : List String :=
  ascending (lexicon.reserved ++ lexicon.colors)

/-- All color names in ascending order. -/
def colorList (lexicon : Lexicon) : List String :=
  ascending lexicon.colors

/-- The colors that one lexicon has and another lacks, in ascending order. -/
def newColors (lexicon base : Lexicon) : List String :=
  lexicon.colorList.filter fun color ↦ !base.colors.contains color

end Lexicon

end Bugs
