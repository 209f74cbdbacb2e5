import Bugs.Proofs.Settings.Faults
import Mathlib.Data.List.Basic

/-!
# Which setting counts, and which fault is reported

Settings come in layers. The environment lies over the settings file, which lies over the
defaults, and each of the three settings is taken from the uppermost layer that gives it, whatever
the layers say about the other two.

All faults of a document and of the environment stand in one order: the recognizer table itself
comes first, then its items for tracking lines, restoring a sign and further colors, and then the
two flags of the environment. If there are faults, settings are refused for the first of them.

## Main definitions

* `Settings.documentFaults`, `Environment.faults`, `Settings.faults`: all faults, in the order of
  blame.
* `Settings.Layer`, `Settings.Layer.onto`: settings of which each may be left open.
* `SettingsFault.subject`: the item or the variable that a fault is about.

## Main results

* `Settings.withDocument_eq`, `Environment.override_eq`, `Settings.merge_eq_layers`: what each of
  them does, in terms of faults and layers.
* `Settings.resolve_in_layers`: the same for looking settings up.
-/

namespace Bugs

/-! ### Faults in the order of blame -/

namespace Toml.Value

variable {value : Toml.Value}

/-- The truth value that a value is. -/
def flag? : Toml.Value → Option Bool
  | boolean flag => some flag
  | _ => none

/-- The names that a value lists. -/
def names? : Toml.Value → Option (List String)
  | array items => items.mapM Settings.nameOf?
  | _ => none

theorem flag?_eq_some_iff {flag : Bool} : value.flag? = some flag ↔ value = .boolean flag := by
  cases value <;> simp [flag?]

theorem names?_eq_some_iff {names : List String} :
    value.names? = some names ↔ "" ∉ names ∧ value = .array (names.map .text) := by
  cases value <;> simp [names?, Settings.mapM_nameOf?_eq_some_iff]

end Toml.Value

namespace SettingsItem

/-- An item may have a value that can be read as what the item has to be. -/
def allows : SettingsItem → Toml.Value → Bool
  | recognizer, .table _ => true
  | recognizer, _ => false
  | trackLines, value | restoreSign, value => value.flag?.isSome
  | extraColors, value => value.names?.isSome

theorem allows_iff {item : SettingsItem} {value : Toml.Value} :
    item.allows value = true ↔ item.Allows value := by
  cases item with
  | recognizer => cases value <;> simp [allows, Allows]
  | trackLines | restoreSign =>
    simp [allows, Allows, Option.isSome_iff_exists, Toml.Value.flag?_eq_some_iff]
  | extraColors => simp [allows, Allows, Option.isSome_iff_exists, Toml.Value.names?_eq_some_iff]

instance (item : SettingsItem) (value : Toml.Value) : Decidable (item.Allows value) :=
  decidable_of_iff _ allows_iff

/-- The item is in the document, with a value that it must not have. -/
def Offends (document : Toml.Table) (item : SettingsItem) : Prop :=
  ∃ value ∈ item.value? document, ¬ item.Allows value

instance (document : Toml.Table) (item : SettingsItem) : Decidable (item.Offends document) :=
  inferInstanceAs (Decidable (∃ value ∈ item.value? document, ¬ item.Allows value))

/-- The items in the order in which they are to blame. -/
def inOrder : List SettingsItem :=
  [recognizer, trackLines, restoreSign, extraColors]

end SettingsItem

namespace Environment

/-- The words that a flag takes. -/
def flagWords : List String :=
  ["1", "true", "yes", "on", "0", "false", "no", "off"]

/-- The value of a flag is given and none of the words, in any case and with white space around. -/
def IsUnclear (value : String) : Prop :=
  value ≠ "" ∧ Text.lower (Text.trim value) ∉ flagWords

instance (value : String) : Decidable (IsUnclear value) :=
  inferInstanceAs (Decidable (value ≠ "" ∧ Text.lower (Text.trim value) ∉ flagWords))

/-- The faults of the environment, in the order of blame. -/
def faults (environment : Environment) : List SettingsFault :=
  environment.flags.filterMap fun (name, content) ↦
    (content.filter fun value ↦ IsUnclear value).map (.notAFlag name)

/-- The values of the variables that are there. -/
def contents (environment : Environment) : List String :=
  [environment.trackLines, environment.restoreSign, environment.extraColors].filterMap id

end Environment

namespace Settings

/-- The faults of a document, or of none, in the order of blame. -/
def documentFaults (document : Option Toml.Table) : List SettingsFault :=
  document.elim [] fun table ↦
    (SettingsItem.inOrder.filter fun item ↦ item.Offends table).map .wrongType

/-- All faults, in the order of blame: a document comes before the environment. -/
def faults (document : Option Toml.Table) (environment : Environment) : List SettingsFault :=
  documentFaults document ++ environment.faults

end Settings

/-- The item or the variable that a fault is about, or else the settings file. -/
def SettingsFault.subject : SettingsFault → String
  | malformed _ _ => Settings.fileName
  | wrongType item => item.key
  | notAFlag name _ => name

theorem SettingsFault.exists_what_eq (fault : SettingsFault) :
    ∃ before after, fault.guidance.what = before ++ fault.subject ++ after := by
  cases fault with
  | malformed path reason => exact ⟨"", " is not valid TOML.", by rw [String.empty_append]; rfl⟩
  | wrongType item =>
    exact ⟨"Invalid value for '", "' in " ++ (Settings.fileName ++ "."),
      by simp only [← String.append_assoc]; rfl⟩
  | notAFlag name value =>
    exact ⟨"", " has an unsupported value '" ++ (value ++ "'."),
      by simp only [String.empty_append, ← String.append_assoc]; rfl⟩

/-- The explanation of a fault names what it is about. -/
theorem SettingsFault.exists_text_eq (fault : SettingsFault) :
    ∃ before after, fault.guidance.text = before ++ fault.subject ++ after := by
  obtain ⟨before, after, hwhat⟩ := fault.exists_what_eq
  obtain ⟨rest, htext⟩ := fault.guidance.exists_text_eq
  refine ⟨"What happened: " ++ before, after ++ rest, ?_⟩
  rw [htext, hwhat]
  simp only [String.append_assoc]

/-! ### Layers of settings -/

namespace Settings

/-- Settings of which each may be left open. -/
structure Layer where
  trackLines : Option Bool
  restoreSign : Option Bool
  extraColors : Option (List String)

namespace Layer

/-- The settings of a layer, and where it leaves one open that of the settings below. -/
def onto (layer : Layer) (settings : Settings) : Settings :=
  ⟨layer.trackLines.getD settings.trackLines, layer.restoreSign.getD settings.restoreSign,
    layer.extraColors.getD settings.extraColors⟩

/-- What a document says. -/
def ofTable (document : Toml.Table) : Layer :=
  ⟨(SettingsItem.trackLines.value? document).bind Toml.Value.flag?,
    (SettingsItem.restoreSign.value? document).bind Toml.Value.flag?,
    (SettingsItem.extraColors.value? document).bind Toml.Value.names?⟩

/-- What a document says, where there is one. -/
def ofDocument (document : Option Toml.Table) : Layer :=
  document.elim ⟨none, none, none⟩ ofTable

/-- The truth value of a variable, unless it is empty or not there. -/
def ofFlag (content : Option String) : Option Bool :=
  (content.filter (· ≠ "")).map fun value ↦
    Text.lower (Text.trim value) ∈ ["1", "true", "yes", "on"]

/-- The names in a variable, unless it is empty or not there. They stand between the commas, with
white space around, and are not empty. -/
def ofNames (content : Option String) : Option (List String) :=
  (content.filter (· ≠ "")).map fun value ↦
    ((value.toList.splitOn ',').map fun piece ↦ Text.trim (.ofList piece)).filter (· ≠ "")

/-- What the environment says. -/
def ofEnvironment (environment : Environment) : Layer :=
  ⟨ofFlag environment.trackLines, ofFlag environment.restoreSign,
    ofNames environment.extraColors⟩

end Layer

end Settings

/-! ### A document over settings -/

namespace Settings

section Document

variable {table entries : Toml.Table}

/-- In a document with a recognizer table the other items are the entries of that table. -/
theorem value?_of_section (item : SettingsItem)
    (h : table.find? SettingsItem.recognizer.key = some (.table entries))
    (hitem : item ≠ .recognizer) : item.value? table = entries.find? item.key := by
  cases item with
  | recognizer => exact absurd rfl hitem
  | trackLines | restoreSign | extraColors => simp only [SettingsItem.value?, h]

theorem readFlag_eq {item : SettingsItem} (h : item.value? table = entries.find? item.key)
    (hitem : item = .trackLines ∨ item = .restoreSign) (fallback : Bool) :
    readFlag entries item fallback =
      if item.Offends table then .error (.wrongType item)
      else .ok (((item.value? table).bind Toml.Value.flag?).getD fallback) := by
  have hoffends : item.Offends table ↔
      ∃ value ∈ entries.find? item.key, value.flag?.isSome = false := by
    simp only [SettingsItem.Offends, ← SettingsItem.allows_iff, h, Bool.not_eq_true]
    rcases hitem with rfl | rfl <;> rfl
  simp only [hoffends, readFlag, h]
  cases entries.find? item.key with
  | none => simp
  | some value => cases value <;> simp [Toml.Value.flag?]

theorem readNames_eq (h : SettingsItem.extraColors.value? table =
      entries.find? SettingsItem.extraColors.key) (fallback : List String) :
    readNames entries .extraColors fallback =
      if SettingsItem.extraColors.Offends table then .error (.wrongType .extraColors)
      else
        .ok (((SettingsItem.extraColors.value? table).bind Toml.Value.names?).getD fallback) := by
  simp only [SettingsItem.Offends, ← SettingsItem.allows_iff, readNames, h]
  cases entries.find? SettingsItem.extraColors.key with
  | none => simp
  | some value =>
    cases value with
    | array items => 
      cases hnames : items.mapM nameOf? <;> simp [SettingsItem.allows, Toml.Value.names?, hnames]
    | boolean | text | number | moment | table => simp [SettingsItem.allows, Toml.Value.names?]

/-- A document that is put over settings is refused for the first item that offends, and else
lies over them. -/
theorem withDocument_eq (settings : Settings) (table : Toml.Table) :
    settings.withDocument table =
      match SettingsItem.inOrder.find? fun item ↦ item.Offends table with
      | some item => .error (.wrongType item)
      | none => .ok ((Layer.ofTable table).onto settings) := by
  cases hsection : table.find? SettingsItem.recognizer.key with
  | none =>
    have hvalue (item : SettingsItem) : item.value? table = none := by
      cases item <;> simp only [SettingsItem.value?, hsection]
    have hfind : (SettingsItem.inOrder.find? fun item ↦ item.Offends table) = none := by
      simp [SettingsItem.Offends, hvalue]
    rw [hfind]
    simp [withDocument, hsection, Layer.onto, Layer.ofTable, hvalue]
  | some value =>
    by_cases htable : ∃ entries, value = .table entries
    · obtain ⟨entries, rfl⟩ := htable
      have hrecognizer : ¬ SettingsItem.recognizer.Offends table := by
        rintro ⟨value, hvalue, hwrong⟩
        exact hwrong ⟨entries, Option.some.inj (hvalue.symm.trans hsection)⟩
      simp only [withDocument, hsection,
        readFlag_eq (value?_of_section .trackLines hsection (by simp)) (.inl rfl),
        readFlag_eq (value?_of_section .restoreSign hsection (by simp)) (.inr rfl),
        readNames_eq (value?_of_section .extraColors hsection (by simp))]
      simp only [SettingsItem.inOrder, List.find?_cons, hrecognizer, decide_false]
      by_cases htrack : SettingsItem.trackLines.Offends table
      · simp [htrack, bind, Except.bind]
      by_cases hrestore : SettingsItem.restoreSign.Offends table
      · simp [htrack, hrestore, bind, Except.bind]
      by_cases hcolors : SettingsItem.extraColors.Offends table
      · simp [htrack, hrestore, hcolors, bind, Except.bind]
      · simp [htrack, hrestore, hcolors, bind, Except.bind, Layer.onto, Layer.ofTable]
    · have hrecognizer : SettingsItem.recognizer.Offends table := ⟨value, hsection, htable⟩
      simp only [SettingsItem.inOrder, List.find?_cons, hrecognizer, decide_true]
      cases value <;> simp [withDocument, hsection] at htable ⊢

end Document

end Settings

/-! ### The environment over settings -/

theorem Text.splitAt_eq_splitOn (separator : Char) (text : List Char) :
    splitAt separator text = text.splitOn separator := by
  induction text with
  | nil => simp [splitAt]
  | cons c text ih =>
    rw [splitAt, List.splitOn_cons_eq_if_modifyHead, ih]
    cases hpieces : text.splitOn separator with
    | nil => exact (List.splitOn_ne_nil separator text hpieces).elim
    | cons piece pieces => simp [prepend]

namespace Environment

theorem not_isEmpty_eq (value : String) : (!value.isEmpty) = decide (value ≠ "") := by
  rw [Bool.eq_iff_iff, decide_eq_true_eq, Bool.not_eq_true', Bool.eq_false_iff, ne_eq,
    String.isEmpty_iff]

theorem given?_eq (content : Option String) : given? content = content.filter (· ≠ "") := by
  simp only [given?, not_isEmpty_eq]

theorem flag?_eq {value : String} (h : Text.lower (Text.trim value) ∈ flagWords) :
    flag? value = some (decide (Text.lower (Text.trim value) ∈ ["1", "true", "yes", "on"])) := by
  simp only [flag?]
  split
  · rename_i htrue
    rw [decide_eq_true htrue]
  · rename_i htrue
    have hfalse : Text.lower (Text.trim value) ∈ ["0", "false", "no", "off"] :=
      (List.mem_append.mp (show _ ∈ ["1", "true", "yes", "on"] ++ _ from h)).resolve_left htrue
    rw [if_pos hfalse, decide_eq_false htrue]

theorem flag?_of_notMem {value : String} (h : Text.lower (Text.trim value) ∉ flagWords) :
    flag? value = none := by
  have hwords : Text.lower (Text.trim value) ∉ ["1", "true", "yes", "on"] ∧
      Text.lower (Text.trim value) ∉ ["0", "false", "no", "off"] :=
    not_or.mp (List.mem_append.not.mp h)
  simp only [flag?]
  rw [if_neg hwords.1, if_neg hwords.2]

theorem readFlag_eq (name : String) (content : Option String) (fallback : Bool) :
    readFlag name content fallback =
      match content.filter fun value ↦ IsUnclear value with
      | some value => .error (.notAFlag name value)
      | none => .ok ((Settings.Layer.ofFlag content).getD fallback) := by
  rw [readFlag, given?_eq, Settings.Layer.ofFlag]
  cases content with
  | none => rfl
  | some value =>
    by_cases hempty : value = ""
    · simp [Option.filter, hempty, IsUnclear]
    by_cases hword : Text.lower (Text.trim value) ∈ flagWords
    · simp [Option.filter, hempty, hword, IsUnclear, flag?_eq hword]
    · simp [Option.filter, hempty, hword, IsUnclear, flag?_of_notMem hword]

theorem namesOf_eq (value : String) :
    namesOf value = ((value.toList.splitOn ',').map fun piece ↦
      Text.trim (.ofList piece)).filter (· ≠ "") := by
  simp only [namesOf, Text.splitAt_eq_splitOn, not_isEmpty_eq]

/-- The environment that is put over settings ends with its first fault, and without any it lies
over them. -/
theorem override_eq (environment : Environment) (settings : Settings) :
    (environment.override settings).2 = environment.faults.head? ∧
      (environment.faults = [] →
        (environment.override settings).1 =
          (Settings.Layer.ofEnvironment environment).onto settings) := by
  simp only [override, readFlag_eq, faults, flags, List.filterMap_cons, List.filterMap_nil]
  cases htrack : environment.trackLines.filter fun value ↦ IsUnclear value with
  | some value => simp
  | none =>
    cases hrestore : environment.restoreSign.filter fun value ↦ IsUnclear value with
    | some value => simp
    | none =>
      simp only [Settings.Layer.onto, Settings.Layer.ofEnvironment, Settings.Layer.ofNames,
        ← given?_eq, namesOf_eq]
      cases given? environment.extraColors <;> simp

theorem isUsed_iff (environment : Environment) :
    environment.isUsed = true ↔ ∃ value ∈ environment.contents, value ≠ "" := by
  have hmem (value : String) : value ∈ environment.contents ↔ environment.trackLines = some value ∨
      environment.restoreSign = some value ∨ environment.extraColors = some value := by
    simp [contents, eq_comm]
  simp only [isUsed, Bool.or_eq_true, Option.isSome_iff_exists, given?_eq_some_iff, hmem,
    or_and_right, exists_or, or_assoc]

end Environment

/-! ### All layers -/

namespace Settings

/-- Merging is refused for the first of all faults, and else lays the environment over the document
and the document over the defaults. -/
theorem merge_eq_layers (document : Option Toml.Table) (environment : Environment) :
    merge document environment =
      match (faults document environment).head? with
      | some fault => .error fault
      | none => .ok ((Layer.ofEnvironment environment).onto
          ((Layer.ofDocument document).onto standard)) := by
  have hdocument : ofDocument document =
      (documentFaults document).head?.elim (.ok ((Layer.ofDocument document).onto standard))
        .error := by
    cases document with
    | none => rfl
    | some table =>
      simp only [ofDocument, documentFaults, Option.elim_some, withDocument_eq, List.head?_map,
        List.head?_filter]
      cases SettingsItem.inOrder.find? fun item ↦ item.Offends table <;> rfl
  rw [faults, List.head?_append]
  cases hfault : (documentFaults document).head? with
  | some fault =>
    rw [hfault] at hdocument
    rw [merge_eq, hdocument]
    rfl
  | none =>
    rw [hfault] at hdocument
    rw [merge_of_ofDocument hdocument]
    obtain ⟨hfirst, hsettings⟩ :=
      environment.override_eq ((Layer.ofDocument document).onto standard)
    rw [hfirst]
    cases hfaults : environment.faults with
    | nil => rw [hsettings hfaults]; rfl
    | cons fault faults => rfl

theorem sources_eq (path : String) (document : Option Toml.Table) (environment : Environment) :
    sources (document.map fun _ ↦ path) environment =
      (document.map fun _ ↦ SettingsSource.file path).toList ++
        if ∃ value ∈ environment.contents, value ≠ "" then [.environment] else [] := by
  simp only [sources, environment.isUsed_iff, Option.map_map]
  rfl

/-- Whatever a document holds and whatever the environment gives, settings are refused for the
first of all faults, with the text of its explanation, which names what the fault is about. Without
a fault they are settled: each of them is taken from the environment, or else from the document, or
else from the defaults, and the sources are the file, if there is one, and the environment, if a
variable of it is not empty. -/
theorem resolve_in_layers (reason : List Char → String) (path : String)
    (document : Option Toml.Table) (environment : Environment) :
    (∀ node, Holds node document →
      resolve reason path node environment = settle (document.map (path, ·)) environment) ∧
    settle (document.map (path, ·)) environment =
      (match (faults document environment).head? with
        | some fault => .refused fault
        | none => .settled ((Layer.ofEnvironment environment).onto
            ((Layer.ofDocument document).onto standard))
          ((document.map fun _ ↦ SettingsSource.file path).toList ++
            if ∃ value ∈ environment.contents, value ≠ "" then [.environment] else [])) ∧
    ∀ fault ∈ faults document environment,
      fault.guidance.text = String.intercalate "\n" fault.explanation ∧
        ∃ before after, fault.guidance.text = before ++ fault.subject ++ after := by
  refine ⟨fun node h ↦ resolve_of_holds h, ?_,
    fun fault _ ↦ ⟨fault.text_guidance, fault.exists_text_eq⟩⟩
  have hdocument : (document.map fun table ↦ (path, table)).map (·.2) = document := by
    cases document <;> rfl
  have hpath : (document.map fun table ↦ (path, table)).map (·.1) =
      document.map fun _ ↦ path := by
    cases document <;> rfl
  rw [settle, hdocument, hpath, merge_eq_layers, sources_eq]
  cases (faults document environment).head? <;> rfl

/-- A settings file that restores signs and adds a color. -/
def signsAndTeal : Node :=
  .file ("[recognizer]\nrestore_sign = true\nextra_colors = [\"teal\"]\n".toList.map
    (·.toNat.toUInt8))

/-- The document in that file. -/
def signsAndTealTable : Toml.Table :=
  [("recognizer",
    .table [("restore_sign", .boolean true), ("extra_colors", .array [.text "teal"])])]

/-- The environment tracks lines and names no colors, and the file restores signs: a variable that
is empty leaves its setting to the file, and one that holds only a comma does not. -/
theorem lone_comma_over_teal :
    resolve (fun _ ↦ "Invalid statement") "bugs.toml" signsAndTeal
        ⟨some " On ", some "", some " , "⟩ =
      .settled ⟨true, true, []⟩ [.file "bugs.toml", .environment] := by
  have hholds : Holds signsAndTeal (some signsAndTealTable) := .file rfl rfl
  obtain ⟨hresolve, hsettle, -⟩ := resolve_in_layers (fun _ ↦ "Invalid statement") "bugs.toml"
    (some signsAndTealTable) ⟨some " On ", some "", some " , "⟩
  rw [hresolve _ hholds, hsettle]
  rfl

/-- A wrong item of the file is to blame before a wrong flag of the environment. -/
example : (faults (some [("recognizer", .table [("track_lines", .number)])])
    ⟨none, some "maybe", none⟩).head? = some (.wrongType .trackLines) := by
  decide +kernel

end Settings

end Bugs
