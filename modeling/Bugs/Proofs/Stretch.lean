import Bugs.Tape

/-!
# Stretches of a tape

A tape is read as a stream of tokens without an end: past its last token it repeats that token.
`stretch look p q` lists the tokens of a stream from one position up to another. Stretches join
(`stretch_append`), and on a tape they are the tokens that lie between the two positions as long
as the second one is not past the end (`Tape.stretch_eq_take`).

## Main definitions

* `stretch`: the tokens between two positions of a stream.
* `Tape.Ends`, `Tape.EndsOnce`: the last token, or it alone, marks the end of the input.
* `Tape.closing`: the tape of a list of tokens and a last token.
-/

namespace Bugs

/-- The tokens of a stream from a position up to another. -/
def stretch (look : Nat → Token) (p q : Nat) : List Token :=
  (List.range' p (q - p)).map look

section Stretch

variable (look : Nat → Token)

@[simp] theorem stretch_self (p : Nat) : stretch look p p = [] := by
  simp [stretch]

@[simp] theorem stretch_succ (p : Nat) : stretch look p (p + 1) = [look p] := by
  simp [stretch]

@[simp] theorem length_stretch (p q : Nat) : (stretch look p q).length = q - p := by
  simp [stretch]

theorem stretch_append {p q r : Nat} (hpq : p ≤ q) (hqr : q ≤ r) :
    stretch look p q ++ stretch look q r = stretch look p r := by
  rw [stretch, stretch, stretch, ← List.map_append]
  congr 1
  rw [show r - p = (q - p) + (r - q) by omega, ← List.range'_append_1]
  congr 2
  omega

theorem getLast?_stretch {p q : Nat} (h : p ≤ q) :
    (stretch look p (q + 1)).getLast? = some (look q) := by
  rw [← stretch_append look h (Nat.le_succ q), stretch_succ, List.getLast?_concat]

variable {look}

theorem mem_stretch {p q : Nat} {t : Token} :
    t ∈ stretch look p q ↔ ∃ i, p ≤ i ∧ i < q ∧ look i = t := by
  simp only [stretch, List.mem_map, List.mem_range'_1]
  constructor
  · rintro ⟨i, ⟨hp, hq⟩, rfl⟩
    exact ⟨i, hp, by omega, rfl⟩
  · rintro ⟨i, hp, hq, rfl⟩
    exact ⟨i, ⟨hp, by omega⟩, rfl⟩

/-- Streams that agree between two positions have the same stretch there. -/
theorem stretch_congr {look' : Nat → Token} {p q : Nat}
    (h : ∀ i, p ≤ i → i < q → look' i = look i) : stretch look' p q = stretch look p q := by
  refine List.map_congr_left fun i hi ↦ ?_
  rw [List.mem_range'_1] at hi
  exact h i hi.1 (by omega)

theorem stretch_eq_append {p : Nat} {v w : List Token}
    (h : stretch look p (p + (v ++ w).length) = v ++ w) :
    stretch look p (p + v.length) = v ∧
      stretch look (p + v.length) (p + v.length + w.length) = w := by
  rw [← stretch_append look (Nat.le_add_right p v.length) (by simp)] at h
  have hsplit := List.append_inj h (by simp)
  rwa [List.length_append, ← Nat.add_assoc] at hsplit

theorem look_of_stretch_eq_cons {p : Nat} {t : Token} {w : List Token}
    (h : stretch look p (p + (t :: w).length) = t :: w) : look p = t := by
  have hsplit := stretch_eq_append (v := [t]) h
  simpa using hsplit.1

end Stretch

namespace Tape

/-- The last token of the tape marks the end of the input. -/
def Ends (tape : Tape) : Prop :=
  (tape.look (tape.size - 1)).kind = .endOfInput

/-- The last token of the tape, and no other, marks the end of the input. -/
def EndsOnce (tape : Tape) : Prop :=
  ∀ i < tape.size, (tape.look i).kind = .endOfInput ↔ i + 1 = tape.size

instance (tape : Tape) : Decidable tape.Ends :=
  inferInstanceAs (Decidable ((tape.look (tape.size - 1)).kind = .endOfInput))

instance (tape : Tape) : Decidable tape.EndsOnce :=
  inferInstanceAs (Decidable
    (∀ i < tape.size, (tape.look i).kind = .endOfInput ↔ i + 1 = tape.size))

/-- The tape of some tokens and a last one. -/
def closing (tokens : List Token) (last : Token) : Tape :=
  ⟨(tokens ++ [last]).toArray, by simp⟩

theorem EndsOnce.ends {tape : Tape} (h : tape.EndsOnce) : tape.Ends := by
  have hpos := tape.nonempty
  refine (h (tape.size - 1) ?_).2 ?_ <;> simp only [size] <;> omega

theorem look_of_le {tape : Tape} {i : Nat} (h : tape.size ≤ i + 1) :
    tape.look i = tape.look (tape.size - 1) := by
  simp only [look, size] at *
  congr 1
  omega

theorem Ends.kind_look {tape : Tape} (h : tape.Ends) {i : Nat} (hi : tape.size ≤ i + 1) :
    (tape.look i).kind = .endOfInput := by
  rw [look_of_le hi]
  exact h

theorem look_eq_getElem {tape : Tape} {i : Nat} (h : i < tape.tokens.toList.length) :
    tape.look i = tape.tokens.toList[i] := by
  have hi : i < tape.tokens.size := by simpa using h
  simp only [look, Array.getElem_toList]
  congr 1
  omega

theorem getElem?_eq_look {tape : Tape} {i : Nat} (h : i < tape.size) :
    tape.tokens.toList[i]? = some (tape.look i) := by
  have hlength : i < tape.tokens.toList.length := by simpa [size] using h
  rw [look_eq_getElem hlength, List.getElem?_eq_getElem hlength]

theorem stretch_eq_take {tape : Tape} {p q : Nat} (hq : q ≤ tape.size) :
    stretch tape.look p q = (tape.remaining p).take (q - p) := by
  have hsize : tape.tokens.toList.length = tape.size := by simp [size]
  apply List.ext_getElem
  · simp only [length_stretch, remaining, List.length_take, List.length_drop, hsize]
    omega
  · intro i hi _
    simp only [length_stretch] at hi
    simp only [stretch, List.getElem_map, List.getElem_range', remaining, List.getElem_take,
      List.getElem_drop, Nat.one_mul]
    exact look_eq_getElem (by omega)

theorem stretch_zero {tape : Tape} {q : Nat} (hq : q ≤ tape.size) :
    stretch tape.look 0 q = tape.tokens.toList.take q := by
  simpa [remaining] using stretch_eq_take (p := 0) hq

theorem stretch_all (tape : Tape) : stretch tape.look 0 tape.size = tape.tokens.toList := by
  rw [stretch_zero (Nat.le_refl _), List.take_of_length_le (by simp [size])]

theorem look_eq_of_take {tape tape' : Tape} {n i : Nat}
    (h : tape.tokens.toList.take n <+: tape'.tokens.toList) (hi : i < n) (hsize : i < tape.size) :
    tape'.look i = tape.look i := by
  have hlen : i < tape.tokens.toList.length := by simpa [size] using hsize
  have htake : i < (tape.tokens.toList.take n).length := by
    rw [List.length_take]
    omega
  rw [look_eq_getElem hlen, look_eq_getElem (Nat.lt_of_lt_of_le htake h.length_le),
    ← h.getElem htake, List.getElem_take]

@[simp] theorem toList_closing (tokens : List Token) (last : Token) :
    (closing tokens last).tokens.toList = tokens ++ [last] := by
  simp [closing]

@[simp] theorem size_closing (tokens : List Token) (last : Token) :
    (closing tokens last).size = tokens.length + 1 := by
  simp [size, closing]

@[simp] theorem stretch_closing (tokens : List Token) (last : Token) :
    stretch (closing tokens last).look 0 tokens.length = tokens := by
  rw [stretch_zero (by simp)]
  simp [closing]

theorem look_closing {tokens : List Token} {last : Token} {i : Nat} (h : tokens.length ≤ i) :
    (closing tokens last).look i = last := by
  rw [look_of_le (by simpa using h), size_closing, look_eq_getElem (by simp [closing])]
  simp [closing]

theorem eq_closing {tape : Tape} {tokens : List Token} {last : Token}
    (h : tape.tokens.toList = tokens ++ [last]) : tape = closing tokens last := by
  obtain ⟨tokens', hpos⟩ := tape
  simp only [closing, mk.injEq]
  rw [← h]

theorem endsOnce_closing {tokens : List Token} {last : Token}
    (htokens : ∀ t ∈ tokens, t.kind ≠ .endOfInput) (hlast : last.kind = .endOfInput) :
    (closing tokens last).EndsOnce := by
  intro i hi
  rw [size_closing] at *
  rcases Nat.lt_or_ge i tokens.length with hlt | hge
  · have hmem : (closing tokens last).look i ∈ stretch (closing tokens last).look 0 tokens.length :=
      mem_stretch.mpr ⟨i, Nat.zero_le i, hlt, rfl⟩
    rw [stretch_closing] at hmem
    exact ⟨fun h ↦ absurd h (htokens _ hmem), fun h ↦ by omega⟩
  · rw [look_closing hge]
    exact ⟨fun _ ↦ by omega, fun _ ↦ hlast⟩

end Tape

end Bugs
