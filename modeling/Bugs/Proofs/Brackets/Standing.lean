import Bugs.Token
import Mathlib.Data.List.Basic

/-!
# Well-bracketed token lists

The brackets of the language are round or curly. A token list is well bracketed if its brackets are
nested, if the line goes on between round brackets, and if it ends behind every curly one.

Whether a list is well bracketed can be told by reading it from left to right. The standing of the
brackets keeps the shapes of those that are open, the innermost first, and whether a line end is
due. A list that is read from nothing open to nothing open, with no line end due at the end, is well
bracketed (`WellBracketed.of_scan`).

## Main definitions

* `Nested`: the brackets of a token list are nested.
* `WellBracketed`: the rules for brackets, line ends and quoted texts.
* `Standing`, `Standing.step`, `Standing.scan`: the open brackets, read from left to right.

## Main results

* `Standing.read_cases`: what one token asks of the standing.
* `nestedUnder_of_scan`, `Nested.scan_cases`: scanning and nesting.
* `WellBracketed.of_scan`.
-/

namespace Bugs

/-- The shape of a bracket. -/
inductive Bracket where
  | round
  | curly
deriving Repr, DecidableEq

/-- The symbol that opens a bracket. -/
def Bracket.opening : Bracket → String
  | round => "("
  | curly => "\x7b"

/-- The symbol that closes a bracket. -/
def Bracket.closing : Bracket → String
  | round => ")"
  | curly => "\x7d"

namespace Token

/-- The token opens a bracket of a shape. -/
def Opens (t : Token) (shape : Bracket) : Prop :=
  t.kind = .symbol ∧ t.text = shape.opening

/-- The token closes a bracket of a shape. -/
def Closes (t : Token) (shape : Bracket) : Prop :=
  t.kind = .symbol ∧ t.text = shape.closing

/-- The token is a curly bracket. -/
def IsCurly (t : Token) : Prop :=
  t.Opens .curly ∨ t.Closes .curly

end Token

/-- The brackets of a token list are nested: each is closed by one of its own shape, and what stands
between the two is nested itself. -/
inductive Nested : List Token → Prop
  | nil : Nested []
  | plain {t : Token} {w : List Token} (ht : ∀ shape, ¬ t.Opens shape ∧ ¬ t.Closes shape)
      (hw : Nested w) : Nested (t :: w)
  | group {shape : Bracket} {t t' : Token} {u w : List Token} (ht : t.Opens shape)
      (ht' : t'.Closes shape) (hu : Nested u) (hw : Nested w) : Nested (t :: (u ++ t' :: w))

/-- A token list keeps the rules for brackets: they are nested, no line end and no curly bracket
stands between a round bracket and the one that closes it, a line end follows every curly bracket,
and no quoted text occurs. -/
structure WellBracketed (w : List Token) : Prop where
  nested : Nested w
  between_round : ∀ (before between after : List Token) (t t' : Token),
    w = before ++ t :: (between ++ t' :: after) → t.Opens .round → t'.Closes .round →
      Nested between → ∀ inner ∈ between, inner.kind ≠ .endOfLine ∧ ¬ inner.IsCurly
  behind_curly : ∀ (before after : List Token) (t : Token), w = before ++ t :: after → t.IsCurly →
    ∃ next ∈ after.head?, next.kind = .endOfLine
  unquoted : ∀ t ∈ w, t.kind ≠ .quoted

/-! ### What a token means for the brackets -/

/-- What a token means for the brackets. -/
inductive BracketRole where
  | opening (shape : Bracket)
  | closing (shape : Bracket)
  | lineEnd
  | other
deriving Repr, DecidableEq

namespace BracketRole

/-- The role of a symbol. -/
def ofSymbol (text : String) : BracketRole :=
  if text = "(" then .opening .round
  else if text = "\x7b" then .opening .curly
  else if text = ")" then .closing .round
  else if text = "\x7d" then .closing .curly
  else .other

theorem ofSymbol_eq_opening_iff {text : String} {shape : Bracket} :
    ofSymbol text = .opening shape ↔ text = shape.opening := by
  unfold ofSymbol
  cases shape <;> grind [Bracket.opening]

theorem ofSymbol_eq_closing_iff {text : String} {shape : Bracket} :
    ofSymbol text = .closing shape ↔ text = shape.closing := by
  unfold ofSymbol
  cases shape <;> grind [Bracket.closing]

theorem ofSymbol_ne_lineEnd (text : String) : ofSymbol text ≠ .lineEnd := by
  unfold ofSymbol
  grind

/-- Tokens of this role stand outside of all round brackets. -/
def outside : BracketRole → Bool
  | opening shape | closing shape => shape = .curly
  | lineEnd => true
  | other => false

/-- Tokens of this role are curly brackets. -/
def curly (role : BracketRole) : Bool :=
  role = .opening .curly ∨ role = .closing .curly

/-- The shapes of the brackets that are open behind a token of this role, the innermost first. -/
def moved : BracketRole → List Bracket → Option (List Bracket)
  | opening shape, openings => some (shape :: openings)
  | closing _, [] => none
  | closing shape, top :: openings => if top = shape then some openings else none
  | lineEnd, openings | other, openings => some openings

theorem moved_closing_eq_some_iff {shape : Bracket} {openings openings' : List Bracket} :
    (closing shape).moved openings = some openings' ↔ openings = shape :: openings' := by
  cases openings <;> simp [moved]

end BracketRole

/-- The role of the tokens that pass a test. A quoted text has none, and neither have symbols of
which the text is not told. -/
def TokenTest.role? : TokenTest → Option BracketRole
  | ⟨.symbol, text⟩ => text.map .ofSymbol
  | ⟨.endOfLine, _⟩ => some .lineEnd
  | ⟨.quoted, _⟩ => none
  | _ => some .other

/-- The role of a token. -/
def Token.role? (t : Token) : Option BracketRole :=
  TokenTest.role? ⟨t.kind, some t.text⟩

theorem TokenTest.role?_of_accepts {test : TokenTest} {t : Token} {role : BracketRole}
    (h : test.accepts t = true) (hrole : test.role? = some role) : t.role? = some role := by
  obtain ⟨kind, text⟩ := test
  simp only [accepts, Bool.and_eq_true, decide_eq_true_eq, Bool.or_eq_true,
    Option.isNone_iff_eq_none] at h
  obtain ⟨rfl, rfl | rfl⟩ := h
  · cases hk : t.kind <;> simp_all [Token.role?, role?]
  · exact hrole

namespace Token

variable {t : Token} {shape : Bracket}

theorem role?_eq_opening_iff : t.role? = some (.opening shape) ↔ t.Opens shape := by
  rw [Opens, ← BracketRole.ofSymbol_eq_opening_iff]
  cases hk : t.kind <;> simp [role?, TokenTest.role?, hk]

theorem role?_eq_closing_iff : t.role? = some (.closing shape) ↔ t.Closes shape := by
  rw [Closes, ← BracketRole.ofSymbol_eq_closing_iff]
  cases hk : t.kind <;> simp [role?, TokenTest.role?, hk]

theorem role?_eq_lineEnd_iff : t.role? = some .lineEnd ↔ t.kind = .endOfLine := by
  cases hk : t.kind <;> simp [role?, TokenTest.role?, hk, BracketRole.ofSymbol_ne_lineEnd]

theorem role?_eq_none_iff : t.role? = none ↔ t.kind = .quoted := by
  cases hk : t.kind <;> simp [role?, TokenTest.role?, hk]

end Token

/-! ### The open brackets, read from left to right -/

/-- Where a reader of a token list stands: the shapes of the open brackets, the innermost first,
and whether a line end is due. -/
structure Standing where
  openings : List Bracket
  lineDue : Bool
deriving Repr, DecidableEq

namespace Standing

variable {s s' : Standing} {role : BracketRole} {t : Token} {u v w : List Token}

/-- The standing behind a token of a role, unless the token must not stand there. -/
def step (s : Standing) (role : BracketRole) : Option Standing :=
  if (s.lineDue → role = .lineEnd) ∧ (role.outside → .round ∉ s.openings) then
    (role.moved s.openings).map (⟨·, role.curly⟩)
  else none

/-- The standing behind a token. -/
def read (s : Standing) (t : Token) : Option Standing :=
  t.role?.bind s.step

/-- The standing behind a token list. -/
def scan (s : Standing) (w : List Token) : Option Standing :=
  w.foldlM read s

/-- What a token of a role asks of the standing, and what it changes. -/
theorem step_eq_some_iff : s.step role = some s' ↔
    (s.lineDue = true → role = .lineEnd) ∧ (role.outside = true → .round ∉ s.openings) ∧
      role.moved s.openings = some s'.openings ∧ s'.lineDue = role.curly := by
  obtain ⟨openings', due'⟩ := s'
  rw [step]
  split
  · rename_i h
    simp only [Option.map_eq_some_iff, mk.injEq]
    constructor
    · rintro ⟨_, hmoved, rfl, rfl⟩
      exact ⟨h.1, h.2, hmoved, rfl⟩
    · rintro ⟨-, -, hmoved, rfl⟩
      exact ⟨_, hmoved, rfl, rfl⟩
  · rename_i h
    simp only [reduceCtorEq, false_iff]
    exact fun hs ↦ h ⟨hs.1, hs.2.1⟩

theorem read_of_role (h : t.role? = some role) : s.read t = s.step role := by
  rw [read, h, Option.bind_some]

/-- What a token asks of the standing, and when a line end is due behind it. -/
theorem read_cases (h : s.read t = some s') :
    (s.lineDue = true → t.kind = .endOfLine) ∧
      (t.kind = .endOfLine ∨ t.IsCurly → .round ∉ s.openings) ∧ t.kind ≠ .quoted ∧
      (s'.lineDue = true ↔ t.IsCurly) := by
  obtain ⟨role, hrole, hstep⟩ := Option.bind_eq_some_iff.mp h
  obtain ⟨hdue, hout, -, hcurly⟩ := step_eq_some_iff.mp hstep
  have hend : t.kind = .endOfLine ↔ role = .lineEnd := by
    rw [← Token.role?_eq_lineEnd_iff, hrole, Option.some_inj]
  have hbracket : t.IsCurly ↔ role = .opening .curly ∨ role = .closing .curly := by
    rw [Token.IsCurly, ← Token.role?_eq_opening_iff, ← Token.role?_eq_closing_iff, hrole,
      Option.some_inj, Option.some_inj]
  refine ⟨fun hd ↦ hend.mpr (hdue hd), fun ht ↦ hout ?_, fun hq ↦ ?_, ?_⟩
  · rw [hend, hbracket] at ht
    rcases ht with rfl | rfl | rfl <;> rfl
  · rw [Token.role?_eq_none_iff.mpr hq] at hrole
    cases hrole
  · rw [hcurly, BracketRole.curly, decide_eq_true_eq, hbracket]

theorem openings_of_opens {shape : Bracket} (h : s.read t = some s') (ht : t.Opens shape) :
    s'.openings = shape :: s.openings := by
  rw [read_of_role (Token.role?_eq_opening_iff.mpr ht), step_eq_some_iff] at h
  exact (Option.some_inj.mp h.2.2.1).symm

theorem openings_of_closes {shape : Bracket} (h : s.read t = some s') (ht : t.Closes shape) :
    s.openings = shape :: s'.openings := by
  rw [read_of_role (Token.role?_eq_closing_iff.mpr ht), step_eq_some_iff] at h
  exact BracketRole.moved_closing_eq_some_iff.mp h.2.2.1

theorem openings_of_plain (h : s.read t = some s')
    (ht : ∀ shape, ¬ t.Opens shape ∧ ¬ t.Closes shape) : s'.openings = s.openings := by
  obtain ⟨role, hrole, hstep⟩ := Option.bind_eq_some_iff.mp h
  obtain ⟨-, -, hmoved, -⟩ := step_eq_some_iff.mp hstep
  cases role with
  | opening shape => exact absurd (Token.role?_eq_opening_iff.mp hrole) (ht shape).1
  | closing shape => exact absurd (Token.role?_eq_closing_iff.mp hrole) (ht shape).2
  | lineEnd | other => exact (Option.some_inj.mp hmoved).symm

@[simp] theorem scan_nil : s.scan [] = some s := rfl

@[simp] theorem scan_singleton : s.scan [t] = s.read t := by
  simp [scan]

theorem scan_cons_eq_some_iff :
    s.scan (t :: w) = some s' ↔ ∃ next, s.read t = some next ∧ next.scan w = some s' := by
  simp [scan, Option.bind_eq_some_iff]

theorem scan_append_eq_some_iff :
    s.scan (u ++ v) = some s' ↔ ∃ next, s.scan u = some next ∧ next.scan v = some s' := by
  simp [scan, Option.bind_eq_some_iff]

end Standing

/-! ### Nesting -/

/-- A token list is nested, up to brackets of some shapes that it closes, the innermost first. -/
def NestedUnder : List Bracket → List Token → Prop
  | [], w => Nested w
  | shape :: openings, w => ∃ u t v, w = u ++ t :: v ∧ Nested u ∧ t.Closes shape ∧
      NestedUnder openings v

namespace NestedUnder

variable {openings : List Bracket} {shape : Bracket} {t : Token} {w : List Token}

theorem plain (ht : ∀ shape, ¬ t.Opens shape ∧ ¬ t.Closes shape) (h : NestedUnder openings w) :
    NestedUnder openings (t :: w) := by
  cases openings with
  | nil => exact .plain ht h
  | cons shape openings =>
    obtain ⟨u, t', v, rfl, hu, ht', hv⟩ := h
    exact ⟨t :: u, t', v, rfl, .plain ht hu, ht', hv⟩

theorem opens (ht : t.Opens shape) (h : NestedUnder (shape :: openings) w) :
    NestedUnder openings (t :: w) := by
  obtain ⟨u, t', v, rfl, hu, ht', hv⟩ := h
  cases openings with
  | nil => exact .group ht ht' hu hv
  | cons outer openings =>
    obtain ⟨u', t'', v', rfl, hu', ht'', hv'⟩ := hv
    exact ⟨t :: (u ++ t' :: u'), t'', v', by simp, .group ht ht' hu hu', ht'', hv'⟩

theorem closes (ht : t.Closes shape) (h : NestedUnder openings w) :
    NestedUnder (shape :: openings) (t :: w) :=
  ⟨[], t, w, rfl, .nil, ht, h⟩

end NestedUnder

section Scan

variable {s s' : Standing} {w : List Token}

/-- What is read to the end with nothing left open closes the brackets that were open before. -/
theorem nestedUnder_of_scan (h : s.scan w = some s') (hs' : s'.openings = []) :
    NestedUnder s.openings w := by
  -- The brackets that are open in front of a list are those that it has to close.
  induction w generalizing s with
  | nil =>
    obtain rfl : s = s' := by simpa using h
    rw [hs']
    exact .nil
  | cons t w ih =>
    obtain ⟨next, hread, hscan⟩ := Standing.scan_cons_eq_some_iff.mp h
    have hw := ih hscan
    by_cases hopens : ∃ shape, t.Opens shape
    · obtain ⟨shape, ht⟩ := hopens
      rw [Standing.openings_of_opens hread ht] at hw
      exact hw.opens ht
    by_cases hcloses : ∃ shape, t.Closes shape
    · obtain ⟨shape, ht⟩ := hcloses
      rw [Standing.openings_of_closes hread ht]
      exact hw.closes ht
    · have ht (shape : Bracket) : ¬ t.Opens shape ∧ ¬ t.Closes shape :=
        ⟨fun h ↦ hopens ⟨shape, h⟩, fun h ↦ hcloses ⟨shape, h⟩⟩
      rw [Standing.openings_of_plain hread ht] at hw
      exact hw.plain ht

/-- Behind nested brackets those are open that were open before, and where a round one is, no line
end and no curly bracket stands among them. -/
theorem Nested.scan_cases (hw : Nested w) (h : s.scan w = some s') :
    s'.openings = s.openings ∧
      (.round ∈ s.openings → ∀ t ∈ w, t.kind ≠ .endOfLine ∧ ¬ t.IsCurly) := by
  -- What a token asks of the standing, put the other way round.
  have hinline {s next : Standing} {t : Token} (hread : s.read t = some next)
      (hround : .round ∈ s.openings) : t.kind ≠ .endOfLine ∧ ¬ t.IsCurly := by
    obtain ⟨-, hout, -⟩ := Standing.read_cases hread
    exact not_or.mp fun ht ↦ hout ht hround
  induction hw generalizing s s' with
  | nil =>
    obtain rfl : s = s' := by simpa using h
    exact ⟨rfl, by simp⟩
  | plain ht _ ih =>
    obtain ⟨next, hread, hscan⟩ := Standing.scan_cons_eq_some_iff.mp h
    obtain ⟨hs', hw⟩ := ih hscan
    rw [Standing.openings_of_plain hread ht] at hs' hw
    exact ⟨hs', fun hround ↦ List.forall_mem_cons.mpr ⟨hinline hread hround, hw hround⟩⟩
  | @group shape _ _ _ _ ht ht' _ _ ihu ihw =>
    obtain ⟨s₁, hopen, hscan⟩ := Standing.scan_cons_eq_some_iff.mp h
    obtain ⟨s₂, hinner, hscan⟩ := Standing.scan_append_eq_some_iff.mp hscan
    obtain ⟨s₃, hclose, hrest⟩ := Standing.scan_cons_eq_some_iff.mp hscan
    obtain ⟨hs₂, hu⟩ := ihu hinner
    obtain ⟨hs', hw⟩ := ihw hrest
    rw [Standing.openings_of_opens hopen ht] at hs₂ hu
    have hs₃ : s₃.openings = s.openings :=
      (List.cons.inj (hs₂.symm.trans (Standing.openings_of_closes hclose ht'))).2.symm
    rw [hs₃] at hs' hw
    refine ⟨hs', fun hround ↦ List.forall_mem_cons.mpr ⟨hinline hopen hround,
      List.forall_mem_append.mpr ⟨hu (.tail _ hround), List.forall_mem_cons.mpr
        ⟨hinline hclose (hs₂ ▸ .tail _ hround), hw hround⟩⟩⟩⟩

/-- What is read from nothing open to nothing open, with no line end due behind it, is well
bracketed. -/
theorem WellBracketed.of_scan (h : s.scan w = some ⟨[], false⟩) (hs : s.openings = []) :
    WellBracketed w where
  nested := by
    have hw := nestedUnder_of_scan h rfl
    rwa [hs] at hw
  between_round before between after t t' hw ht _ hbetween := by
    subst hw
    obtain ⟨s₁, -, h⟩ := Standing.scan_append_eq_some_iff.mp h
    obtain ⟨s₂, hopen, h⟩ := Standing.scan_cons_eq_some_iff.mp h
    obtain ⟨s₃, hscan, -⟩ := Standing.scan_append_eq_some_iff.mp h
    exact (hbetween.scan_cases hscan).2 (by simp [Standing.openings_of_opens hopen ht])
  behind_curly before after t hw ht := by
    subst hw
    obtain ⟨s₁, -, h⟩ := Standing.scan_append_eq_some_iff.mp h
    obtain ⟨s₂, hread, h⟩ := Standing.scan_cons_eq_some_iff.mp h
    obtain ⟨-, -, -, hcurly⟩ := Standing.read_cases hread
    have hdue : s₂.lineDue = true := hcurly.mpr ht
    cases after with
    | nil =>
      obtain rfl : s₂ = ⟨[], false⟩ := by simpa using h
      cases hdue
    | cons next after =>
      obtain ⟨s₃, hnext, -⟩ := Standing.scan_cons_eq_some_iff.mp h
      obtain ⟨hend, -⟩ := Standing.read_cases hnext
      exact ⟨next, rfl, hend hdue⟩
  unquoted t ht := by
    obtain ⟨before, after, rfl⟩ := List.append_of_mem ht
    obtain ⟨s₁, -, h⟩ := Standing.scan_append_eq_some_iff.mp h
    obtain ⟨s₂, hread, -⟩ := Standing.scan_cons_eq_some_iff.mp h
    obtain ⟨-, -, hquoted, -⟩ := Standing.read_cases hread
    exact hquoted

end Scan

end Bugs
