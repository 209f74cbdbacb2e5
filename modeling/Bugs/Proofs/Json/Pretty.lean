import Bugs.Json.Pretty

/-!
# What a printed object looks like

The fields of an object are printed in ascending order of their keys, whatever their order in the
object, and each begins a line.

## Main results

* `Json.foldr_insertField`: how the fields are sorted.
* `Json.pretty_object`: the lines of a printed object.
-/

namespace Bugs.Json

section Fields

variable {field : String × String} {fields sorted : List (String × String)}

theorem insertField_perm (field : String × String) (fields : List (String × String)) :
    (insertField field fields).Perm (field :: fields) := by
  induction fields with
  | nil => exact .refl _
  | cons other fields ih =>
    rw [insertField]
    split
    · exact (ih.cons other).trans (.swap field other fields)
    · exact .refl _

theorem pairwise_insertField (h : fields.Pairwise (·.1 < ·.1))
    (hnew : ∀ other ∈ fields, other.1 ≠ field.1) :
    (insertField field fields).Pairwise (·.1 < ·.1) := by
  induction fields with
  | nil => exact List.pairwise_singleton _ _
  | cons other fields ih =>
    obtain ⟨hother, hfields⟩ := List.pairwise_cons.mp h
    obtain ⟨hne, hnew⟩ := List.forall_mem_cons.mp hnew
    rw [insertField]
    split
    · rename_i hlt
      refine List.pairwise_cons.mpr ⟨fun next hnext ↦ ?_, ih hfields hnew⟩
      obtain rfl | hmem := List.mem_cons.mp ((insertField_perm field fields).mem_iff.mp hnext)
      · exact hlt
      · exact hother next hmem
    · rename_i hle
      have hlt : field.1 < other.1 := Std.lt_of_le_of_ne (String.not_lt.mp hle) (Ne.symm hne)
      refine List.pairwise_cons.mpr ⟨List.forall_mem_cons.mpr ⟨hlt, fun next hnext ↦ ?_⟩, h⟩
      exact String.lt_trans hlt (hother next hnext)

/-- Putting fields in one by one gives them in ascending order, so it gives the one ascending list
that they can be put into. -/
theorem foldr_insertField (hsorted : sorted.Pairwise (·.1 < ·.1)) (hperm : fields.Perm sorted) :
    fields.foldr insertField [] = sorted := by
  have hne : sorted.Pairwise (·.1 ≠ ·.1) := by
    refine hsorted.imp fun {field other} hlt heq ↦ ?_
    exact String.lt_irrefl other.1 (heq ▸ hlt)
  have hkeys : fields.Pairwise (·.1 ≠ ·.1) := (hperm.pairwise_iff fun h ↦ Ne.symm h).mpr hne
  have hfold : (fields.foldr insertField []).Perm fields ∧
      (fields.foldr insertField []).Pairwise (·.1 < ·.1) := by
    clear hsorted hperm hne
    induction fields with
    | nil => exact ⟨.refl _, .nil⟩
    | cons field fields ih =>
      obtain ⟨hfield, hfields⟩ := List.pairwise_cons.mp hkeys
      obtain ⟨hperm, hpairwise⟩ := ih hfields
      exact ⟨(insertField_perm field _).trans (hperm.cons field), pairwise_insertField hpairwise
        fun other hother ↦ (hfield other (hperm.mem_iff.mp hother)).symm⟩
  exact (hfold.1.trans hperm).eq_of_pairwise
    (fun _ _ _ _ hlt hgt ↦ absurd hgt (String.lt_asymm hlt)) hfold.2 hsorted

end Fields

theorem prettyFields_eq (depth : Nat) (fields : List (String × Json)) :
    prettyFields depth fields = fields.map fun field ↦ (field.1, field.2.prettyAt depth) := by
  induction fields with
  | nil => rfl
  | cons field fields ih => rw [prettyFields, ih, List.map_cons]

theorem intercalate_lineFeed {lines : List String} (h : lines ≠ []) :
    String.intercalate "," (lines.map ("\n" ++ ·)) = "\n" ++ String.intercalate ",\n" lines := by
  induction lines with
  | nil => exact absurd rfl h
  | cons line lines ih =>
    cases lines with
    | nil => simp
    | cons next lines =>
      have hrest := ih (List.cons_ne_nil next lines)
      rw [List.map_cons] at hrest
      rw [List.map_cons, List.map_cons, String.intercalate_cons_cons, hrest,
        String.intercalate_cons_cons, show ",\n" = "," ++ "\n" from rfl]
      simp only [String.append_assoc]

/-- Items between brackets begin a line each, two blanks deeper than the closing bracket. -/
theorem bracketed_eq (opening closing : String) (depth : Nat) {items : List String}
    (h : items ≠ []) :
    let blanks := String.ofList (List.replicate (2 * depth) ' ')
    bracketed opening closing depth items = opening ++ "\n" ++
      String.intercalate ",\n" (items.map (blanks ++ "  " ++ ·)) ++ "\n" ++ blanks ++ closing := by
  intro blanks
  have hlines : items.map (fun item ↦ "\n" ++ blanks ++ "  " ++ item) =
      (items.map fun item ↦ blanks ++ "  " ++ item).map ("\n" ++ ·) := by
    rw [List.map_map]
    exact List.map_congr_left fun item _ ↦ by simp only [Function.comp_apply, String.append_assoc]
  have hitems : bracketed opening closing depth items = opening ++
      String.intercalate "," (items.map fun item ↦ "\n" ++ blanks ++ "  " ++ item) ++
        ("\n" ++ blanks) ++ closing := by
    rw [bracketed, if_neg (by simpa using h)]
  rw [hitems, hlines, intercalate_lineFeed (by simpa using h)]
  simp only [String.append_assoc]

/-- An object is printed with its fields in ascending order of their keys, one a line. -/
theorem pretty_object {fields sorted : List (String × Json)}
    (hsorted : sorted.Pairwise (·.1 < ·.1)) (hperm : fields.Perm sorted) (hne : sorted ≠ []) :
    (object fields).pretty = "\x7b\n" ++ String.intercalate ",\n"
      (sorted.map fun field ↦ "  " ++ (quoted field.1 ++ ": " ++ field.2.prettyAt 1)) ++
        "\n\x7d" := by
  have hfold : (prettyFields 1 fields).foldr insertField [] =
      sorted.map fun field ↦ (field.1, field.2.prettyAt 1) := by
    rw [prettyFields_eq]
    exact foldr_insertField (List.pairwise_map.mpr hsorted) (hperm.map _)
  rw [pretty, prettyAt, hfold, bracketed_eq _ _ _ (by simpa using hne), List.map_map, List.map_map]
  simp only [Nat.mul_zero, List.replicate_zero, String.ofList_nil, String.empty_append,
    String.append_empty, String.append_assoc]
  rfl

end Bugs.Json
