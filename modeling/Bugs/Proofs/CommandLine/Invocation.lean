import Bugs.CommandLine

/-!
# Invocations

A command is invoked rightly if it knows the flags among its arguments and the other arguments are
exactly one path. The order of the arguments and the number of times that a flag is given play no
part in this. The two commands read arguments that are given rightly and refuse all others.

## Main definitions

* `paths`: the arguments that are not flags.
* `Invokes`: known flags and exactly one path.

## Main results

* `readCheck_of_invokes`, `readCheck_cases`.
* `readTokens_of_invokes`, `readTokens_of_not_invokes`.
* `run_check_of_invokes`, `run_tokens_of_invokes`: commands go on with the program at the path.
-/

namespace Bugs.CommandLine

/-- The arguments that do not have the form of a flag. -/
def paths (arguments : List String) : List String :=
  arguments.filter fun argument ↦ !isFlagShaped argument

/-- All flags among the arguments are known, and there is exactly one path. -/
structure Invokes (known arguments : List String) (path : String) : Prop where
  known_of_mem : ∀ flag ∈ arguments, isFlagShaped flag = true → flag ∈ known
  paths_eq : paths arguments = [path]

/-- What `check` is called for with a path and some arguments. -/
def checkCall (path : String) (arguments : List String) : CheckCall where
  path := path
  json := arguments.contains "--json"
  trace := arguments.contains "--trace"
  trackLines := arguments.contains "--track-lines"
  restoreSign := arguments.contains "--restore-sign"

theorem checkCall_congr (path : String) {arguments arguments' : List String}
    (h : ∀ flag ∈ checkFlags, flag ∈ arguments' ↔ flag ∈ arguments) :
    checkCall path arguments' = checkCall path arguments := by
  simp only [checkFlags, List.forall_mem_cons] at h
  simp only [checkCall, List.contains_eq_mem, h]

theorem isFlagShaped_of_mem_checkFlags : ∀ flag ∈ checkFlags, isFlagShaped flag = true := by
  decide +kernel

section Known

variable {known arguments : List String} {path : String}
  (hknown : ∀ flag ∈ known, isFlagShaped flag = true)

include hknown

/-- If all flags are known, the paths are the arguments that are not known. -/
theorem paths_eq_filter (h : ∀ flag ∈ arguments, isFlagShaped flag = true → flag ∈ known) :
    paths arguments = arguments.filter fun argument ↦ !known.contains argument := by
  refine List.filter_congr fun argument hmem ↦ ?_
  have hiff : isFlagShaped argument = true ↔ argument ∈ known := ⟨h argument hmem, hknown argument⟩
  rw [List.contains_eq_mem, Bool.eq_iff_iff.mpr (hiff.trans decide_eq_true_iff.symm)]

/-- Arguments are given rightly if exactly one of them is not known, and it is no flag. -/
theorem invokes_iff :
    Invokes known arguments path ↔
      (arguments.filter fun argument ↦ !known.contains argument) = [path] ∧
        isFlagShaped path = false := by
  constructor
  · intro h
    have hpath : path ∈ paths arguments := by simp [h.paths_eq]
    rw [← paths_eq_filter hknown h.known_of_mem]
    exact ⟨h.paths_eq, by simpa [paths] using (List.mem_filter.mp hpath).2⟩
  · rintro ⟨hfilter, hplain⟩
    have hflags (flag : String) (hmem : flag ∈ arguments) (hshape : isFlagShaped flag = true) :
        flag ∈ known := by
      refine Decidable.byContradiction fun hunknown ↦ ?_
      have hothers : flag ∈ arguments.filter fun argument ↦ !known.contains argument :=
        List.mem_filter.mpr ⟨hmem, by simpa using hunknown⟩
      rw [hfilter, List.mem_singleton] at hothers
      rw [hothers, hplain] at hshape
      cases hshape
    exact ⟨hflags, (paths_eq_filter hknown hflags).trans hfilter⟩

end Known

/-- The command `check` reads arguments that are given rightly. -/
theorem readCheck_of_invokes {arguments : List String} {path : String}
    (h : Invokes checkFlags arguments path) :
    readCheck arguments = .ok (checkCall path arguments) := by
  obtain ⟨hfilter, hplain⟩ := (invokes_iff isFlagShaped_of_mem_checkFlags).mp h
  simp only [readCheck, hfilter, List.find?_cons, hplain, List.find?_nil, checkCall]

/-- The command `check` refuses a flag that it does not know, and then any number of paths but
one. -/
theorem readCheck_cases (arguments : List String) :
    (∃ path, Invokes checkFlags arguments path) ∨
      (∃ flag ∈ arguments, isFlagShaped flag = true ∧ flag ∉ checkFlags ∧
        readCheck arguments = .error (.unknownFlag flag)) ∨
      ((paths arguments).length ≠ 1 ∧ readCheck arguments = .error .checkPaths) := by
  simp only [readCheck]
  generalize hothers : (arguments.filter fun argument ↦ !checkFlags.contains argument) = others
  have hmem (flag : String) : flag ∈ others ↔ flag ∈ arguments ∧ flag ∉ checkFlags := by
    rw [← hothers, List.mem_filter, List.contains_eq_mem, Bool.not_eq_true',
      decide_eq_false_iff_not]
  cases hfind : others.find? isFlagShaped with
  | some flag =>
    obtain ⟨hgiven, hunknown⟩ := (hmem flag).mp (List.mem_of_find?_eq_some hfind)
    exact .inr (.inl ⟨flag, hgiven, List.find?_some hfind, hunknown, rfl⟩)
  | none =>
    have hflags (flag : String) (hgiven : flag ∈ arguments) (hshape : isFlagShaped flag = true) :
        flag ∈ checkFlags := by
      refine Decidable.byContradiction fun hunknown ↦ ?_
      exact List.find?_eq_none.mp hfind flag ((hmem flag).mpr ⟨hgiven, hunknown⟩) hshape
    have hpaths : paths arguments = others :=
      (paths_eq_filter isFlagShaped_of_mem_checkFlags hflags).trans hothers
    match others with
    | [path] => exact .inl ⟨path, hflags, hpaths⟩
    | [] | _ :: _ :: _ => exact .inr (.inr ⟨by simp [hpaths], rfl⟩)

private theorem invokes_json_iff {arguments : List String} {path : String} :
    Invokes ["--json"] arguments path ↔
      arguments.filter (· ≠ "--json") = [path] ∧ isFlagShaped path = false := by
  have hfilter : (arguments.filter fun argument ↦ !List.contains ["--json"] argument) =
      arguments.filter (· ≠ "--json") := List.filter_congr (by simp)
  rw [invokes_iff (by decide +kernel), hfilter]

/-- The command `tokens` reads arguments that are given rightly. -/
theorem readTokens_of_invokes {arguments : List String} {path : String}
    (h : Invokes ["--json"] arguments path) :
    readTokens arguments = .ok ⟨path, arguments.contains "--json"⟩ := by
  obtain ⟨hfilter, hplain⟩ := invokes_json_iff.mp h
  simp only [readTokens, hfilter, hplain, Bool.false_eq_true, if_false]

/-- The command `tokens` refuses all other arguments. -/
theorem readTokens_of_not_invokes {arguments : List String}
    (h : ∀ path, ¬ Invokes ["--json"] arguments path) :
    readTokens arguments = .error .tokensPaths := by
  simp only [invokes_json_iff] at h
  rw [readTokens]
  split
  · rename_i path hfilter
    have hshape : isFlagShaped path = true := by
      rw [← Bool.not_eq_false]
      exact fun hplain ↦ h path ⟨hfilter, hplain⟩
    rw [if_pos hshape]
  · rfl

/-- The command `check` goes on with the program at the path. -/
theorem run_check_of_invokes (workplace : Workplace) {arguments : List String} {path : String}
    (h : Invokes checkFlags arguments path) :
    run workplace ("check" :: arguments) =
      withProgram workplace path (checkCall path arguments).conclude := by
  have hread : readArguments ("check" :: arguments) = .ok (.check (checkCall path arguments)) := by
    simp only [readArguments, readCheck_of_invokes h]
    rfl
  simp only [run, hread, runCheck, checkCall]

/-- The command `tokens` goes on with the program at the path. -/
theorem run_tokens_of_invokes (workplace : Workplace) {arguments : List String} {path : String}
    (h : Invokes ["--json"] arguments path) :
    run workplace ("tokens" :: arguments) =
      withProgram workplace path (TokensCall.conclude ⟨path, arguments.contains "--json"⟩) := by
  have hread : readArguments ("tokens" :: arguments) =
      .ok (.tokens ⟨path, arguments.contains "--json"⟩) := by
    simp only [readArguments, readTokens_of_invokes h]
    rfl
  simp only [run, hread, runTokens]

end Bugs.CommandLine
