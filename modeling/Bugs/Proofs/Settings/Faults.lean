import Bugs.Settings.Resolution

/-!
# The faults of settings

A settings file may be no TOML document, an item of it may have a value that it must not have, and
a variable of the environment may hold no word for true or false. Looking settings up refuses them
for a fault that they have, and settles them if they have none. Only a settings file that cannot be
taken in is neither refused nor settled: what is there is no text, the system bars the way to it, or
it holds a whole number with too many digits.

## Main definitions

* `SettingsItem.value?`, `SettingsItem.Allows`: the value of an item in a document, and the values
  that it may have.
* `Environment.flags`: the variables that have to hold a word for true or false.
* `Settings.Illegible`, `Settings.Malformed`, `Settings.Holds`: what a path leads to cannot be taken
  in, is a text but no document, or is a document.
* `SettingsFault.Applies`: a fault of what settings are made from.
* `SettingsFault.explanation`: the explanation of a fault, line by line.

## Main results

* `Settings.withDocument_cases`, `Environment.override_cases`, `Settings.merge_cases`: each is
  refused for a fault that applies, or it is settled and none applies.
* `Settings.Illegible.of_long`: a number of more than 4300 digits cannot be taken in.
* `Settings.resolve_of_illegible`, `Settings.resolve_cases`: the same for looking settings up.
* `SettingsFault.text_guidance`: a fault is explained by the lines of its explanation.
-/

namespace Bugs

/-! ### The items of a document -/

namespace SettingsItem

/-- The value of an item in a document: that of the table itself, or of a key in it. -/
def value? (document : Toml.Table) : SettingsItem → Option Toml.Value
  | recognizer => document.find? recognizer.key
  | item =>
    match document.find? recognizer.key with
    | some (.table entries) => Toml.Table.find? entries item.key
    | _ => none

/-- The values that an item may have. -/
def Allows : SettingsItem → Toml.Value → Prop
  | recognizer, value => ∃ entries, value = .table entries
  | trackLines, value | restoreSign, value => ∃ flag, value = .boolean flag
  | extraColors, value => ∃ names : List String, "" ∉ names ∧ value = .array (names.map .text)

end SettingsItem

namespace Settings

/-- A flag is read unless its key has a value that is no truth value. -/
theorem readFlag_cases (entries : Toml.Table) (item : SettingsItem) (fallback : Bool) :
    (∃ value, entries.find? item.key = some value ∧ (¬ ∃ flag, value = .boolean flag) ∧
        readFlag entries item fallback = .error (.wrongType item)) ∨
      (∀ value, entries.find? item.key = some value → ∃ flag, value = .boolean flag) ∧
        ∃ flag, readFlag entries item fallback = .ok flag := by
  rw [readFlag]
  cases entries.find? item.key with
  | none => simp
  | some value => cases value <;> simp

theorem nameOf?_eq_some_iff {value : Toml.Value} {name : String} :
    nameOf? value = some name ↔ name ≠ "" ∧ value = .text name := by
  cases value with
  | text content =>
    by_cases h : content = ""
    · simp [nameOf?, h]
    · simp [nameOf?, h]
      grind
  | boolean | number | moment | array | table => simp [nameOf?]

/-- The items of a list are names exactly if they are texts, and none of them is empty. -/
theorem mapM_nameOf?_eq_some_iff {items : List Toml.Value} {names : List String} :
    items.mapM nameOf? = some names ↔ "" ∉ names ∧ items = names.map .text := by
  induction items generalizing names with
  | nil => cases names <;> simp
  | cons item items ih =>
    rw [List.mapM_cons]
    simp only [Option.bind_eq_bind, Option.bind_eq_some_iff, nameOf?_eq_some_iff, ih,
      Option.pure_def, Option.some.injEq]
    constructor
    · rintro ⟨name, ⟨hname, rfl⟩, names, ⟨hnames, rfl⟩, rfl⟩
      exact ⟨by simpa [eq_comm] using ⟨hname, hnames⟩, rfl⟩
    · rintro ⟨hnames, hitems⟩
      cases names with
      | nil => cases hitems
      | cons name names =>
        simp only [List.map_cons, List.cons.injEq] at hitems
        simp only [List.mem_cons, not_or] at hnames
        exact ⟨name, ⟨Ne.symm hnames.1, hitems.1⟩, names, ⟨hnames.2, hitems.2⟩, rfl⟩

/-- Names are read unless their key has a value that is no list of names. -/
theorem readNames_cases (entries : Toml.Table) (fallback : List String) :
    (∃ value, entries.find? SettingsItem.extraColors.key = some value ∧
        ¬ SettingsItem.extraColors.Allows value ∧
        readNames entries .extraColors fallback = .error (.wrongType .extraColors)) ∨
      (∀ value, entries.find? SettingsItem.extraColors.key = some value →
        SettingsItem.extraColors.Allows value) ∧
        ∃ names, readNames entries .extraColors fallback = .ok names := by
  rw [readNames]
  cases entries.find? SettingsItem.extraColors.key with
  | none => simp
  | some value =>
    cases value with
    | array items =>
      have hallows : SettingsItem.extraColors.Allows (.array items) ↔
          ∃ names, items.mapM nameOf? = some names := by
        simp [SettingsItem.Allows, mapM_nameOf?_eq_some_iff]
      simp only [Option.some.injEq, forall_eq', exists_eq_left', hallows]
      cases items.mapM nameOf? <;> simp
    | boolean | text | number | moment | table => simp [SettingsItem.Allows]

/-- A document is put over settings unless an item of it has a value that it must not have. -/
theorem withDocument_cases (settings : Settings) (document : Toml.Table) :
    (∃ item value, SettingsItem.value? document item = some value ∧ ¬ item.Allows value ∧
        settings.withDocument document = .error (.wrongType item)) ∨
      (∀ item value, SettingsItem.value? document item = some value → item.Allows value) ∧
        ∃ settings', settings.withDocument document = .ok settings' := by
  cases hsection : document.find? SettingsItem.recognizer.key with
  | none =>
    refine .inr ⟨fun item value hvalue ↦ ?_, settings, by simp only [withDocument, hsection]⟩
    cases item <;> simp [SettingsItem.value?, hsection] at hvalue
  | some value =>
    by_cases htable : ∃ entries, value = .table entries
    · obtain ⟨entries, rfl⟩ := htable
      simp only [withDocument, hsection]
      -- the first entry that is wrong ends this, so the later ones are looked at behind sound ones
      obtain ⟨value, hvalue, hwrong, herror⟩ | ⟨htrack, trackLines, hok⟩ :=
        readFlag_cases entries .trackLines settings.trackLines
      · exact .inl ⟨.trackLines, value, by simpa only [SettingsItem.value?, hsection], hwrong,
          by rw [herror]; rfl⟩
      rw [hok]
      obtain ⟨value, hvalue, hwrong, herror⟩ | ⟨hrestore, restoreSign, hok⟩ :=
        readFlag_cases entries .restoreSign settings.restoreSign
      · exact .inl ⟨.restoreSign, value, by simpa only [SettingsItem.value?, hsection], hwrong,
          by rw [herror]; rfl⟩
      rw [hok]
      obtain ⟨value, hvalue, hwrong, herror⟩ | ⟨hcolors, extraColors, hok⟩ :=
        readNames_cases entries settings.extraColors
      · exact .inl ⟨.extraColors, value, by simpa only [SettingsItem.value?, hsection], hwrong,
          by rw [herror]; rfl⟩
      rw [hok]
      refine .inr ⟨fun item value hvalue ↦ ?_, ⟨trackLines, restoreSign, extraColors⟩, rfl⟩
      cases item with
      | recognizer => exact ⟨entries, Option.some.inj (hvalue.symm.trans hsection)⟩
      | trackLines =>
        exact htrack value (by simpa only [SettingsItem.value?, hsection] using hvalue)
      | restoreSign =>
        exact hrestore value (by simpa only [SettingsItem.value?, hsection] using hvalue)
      | extraColors =>
        exact hcolors value (by simpa only [SettingsItem.value?, hsection] using hvalue)
    · refine .inl ⟨.recognizer, value, hsection, htable, ?_⟩
      cases value <;> simp [withDocument, hsection] at htable ⊢

end Settings

/-! ### The variables of the environment -/

namespace Environment

/-- The variables that have to hold a word for true or false, if they are given. -/
def flags (environment : Environment) : List (String × Option String) :=
  [(trackLinesName, environment.trackLines), (restoreSignName, environment.restoreSign)]

theorem given?_eq_some_iff {content : Option String} {value : String} :
    given? content = some value ↔ content = some value ∧ value ≠ "" := by
  simp [given?, Option.filter_eq_some_iff]

/-- A flag is read unless its variable is given and holds no word for true or false. -/
theorem readFlag_cases (name : String) (content : Option String) (fallback : Bool) :
    (∃ value, content = some value ∧ value ≠ "" ∧ flag? value = none ∧
        readFlag name content fallback = .error (.notAFlag name value)) ∨
      (∀ value, content = some value → value ≠ "" → flag? value ≠ none) ∧
        ∃ flag, readFlag name content fallback = .ok flag := by
  simp only [readFlag, ← and_assoc, ← and_imp, ← given?_eq_some_iff]
  cases given? content with
  | none => simp
  | some value => cases hflag : flag? value <;> simp [hflag]

/-- The environment is put over settings unless a flag of it holds no word for true or false. -/
theorem override_cases (environment : Environment) (settings : Settings) :
    (∃ name value, (name, some value) ∈ environment.flags ∧ value ≠ "" ∧ flag? value = none ∧
        (environment.override settings).2 = some (.notAFlag name value)) ∨
      (∀ name value, (name, some value) ∈ environment.flags → value ≠ "" → flag? value ≠ none) ∧
        (environment.override settings).2 = none := by
  rw [override]
  obtain ⟨value, hvalue, hgiven, hwrong, herror⟩ | ⟨htrack, trackLines, hok⟩ :=
    readFlag_cases trackLinesName environment.trackLines settings.trackLines
  · exact .inl ⟨trackLinesName, value, by simp [flags, hvalue], hgiven, hwrong, by rw [herror]⟩
  rw [hok]
  obtain ⟨value, hvalue, hgiven, hwrong, herror⟩ | ⟨hrestore, restoreSign, hok⟩ :=
    readFlag_cases restoreSignName environment.restoreSign settings.restoreSign
  · exact .inl ⟨restoreSignName, value, by simp [flags, hvalue], hgiven, hwrong,
      by simp only [herror]⟩
  refine .inr ⟨fun name value hmem ↦ ?_, ?_⟩
  · simp only [flags, List.mem_cons, Prod.mk.injEq, List.not_mem_nil, or_false] at hmem
    obtain ⟨-, hvalue⟩ | ⟨-, hvalue⟩ := hmem
    · exact htrack value hvalue.symm
    · exact hrestore value hvalue.symm
  · simp only [hok]
    cases given? environment.extraColors <;> rfl

end Environment

/-! ### Looking settings up -/

namespace Settings

/-- What a path leads to cannot be taken in, for a reason. -/
inductive Illegible : Node → Unreadable → Prop
  | directory : Illegible .directory .directory
  | barred {fault : SystemFault} : Illegible (.barred fault) (.barred fault)
  | notUtf8 {bytes : List UInt8} {fault : Utf8.Fault} (h : Utf8.decode bytes = .error fault) :
    Illegible (.file bytes) (.notUtf8 fault)
  | oversized {bytes : List UInt8} {text : List Char} (htext : Utf8.decode bytes = .ok text)
    (hparse : Toml.parse (Text.unifyBreaks text) = .error .oversized) :
    Illegible (.file bytes) .oversized

/-- A file that gives a whole number of more than 4300 digits to a key cannot be taken in. -/
theorem Illegible.of_long {bytes : List UInt8} {digits : List Char}
    (hbytes : Utf8.decode bytes = .ok ('a' :: '=' :: digits))
    (hdigits : ∀ c ∈ digits, c.isDigit = true) (hhead : ∃ c ∈ digits.head?, c ≠ '0')
    (hlong : 4300 < digits.length) : Illegible (.file bytes) .oversized := by
  have hreturn : '\r' ∉ 'a' :: '=' :: digits := by
    simp only [List.mem_cons, not_or]
    exact ⟨by decide, by decide, fun hmem ↦ by cases hdigits _ hmem⟩
  refine .oversized hbytes ?_
  rw [Text.unifyBreaks_eq_self hreturn, Toml.parse_of_long hdigits hhead hlong]

/-- A file is a text, and with line feeds for its line breaks it is no document. -/
inductive Malformed : Node → List Char → Prop
  | file {bytes : List UInt8} {text : List Char} {fault : Toml.Fault}
    (htext : Utf8.decode bytes = .ok text)
    (hparse : Toml.parse (Text.unifyBreaks text) = .error fault) (hfault : fault ≠ .oversized) :
    Malformed (.file bytes) (Text.unifyBreaks text)

/-- A path leads to a file that is a document, or to nothing and so to no document. -/
inductive Holds : Option Node → Option Toml.Table → Prop
  | nothing : Holds none none
  | file {bytes : List UInt8} {text : List Char} {table : Toml.Table}
    (htext : Utf8.decode bytes = .ok text)
    (hparse : Toml.parse (Text.unifyBreaks text) = .ok table) :
    Holds (some (.file bytes)) (some table)

/-- A path leads to something that cannot be taken in, to a text that is no document, or to a
document or nothing. -/
theorem node_cases (node : Option Node) :
    (∃ there cause, node = some there ∧ Illegible there cause) ∨
      (∃ there text, node = some there ∧ Malformed there text) ∨
      ∃ document, Holds node document := by
  cases node with
  | none => exact .inr (.inr ⟨none, .nothing⟩)
  | some there =>
    cases there with
    | directory => exact .inl ⟨_, _, rfl, .directory⟩
    | barred fault => exact .inl ⟨_, _, rfl, .barred⟩
    | file bytes =>
      cases htext : Utf8.decode bytes with
      | error fault => exact .inl ⟨_, _, rfl, .notUtf8 htext⟩
      | ok text =>
        cases hparse : Toml.parse (Text.unifyBreaks text) with
        | error fault =>
          by_cases hfault : fault = .oversized
          · subst hfault
            exact .inl ⟨_, _, rfl, .oversized htext hparse⟩
          · exact .inr (.inl ⟨_, _, rfl, .file htext hparse hfault⟩)
        | ok table => exact .inr (.inr ⟨_, .file htext hparse⟩)

end Settings

/-- A fault of what a settings file at a path and the environment make. -/
inductive SettingsFault.Applies (reason : List Char → String) (path : String) (node : Option Node)
    (environment : Environment) : SettingsFault → Prop
  | malformed {there : Node} {text : List Char} (hnode : node = some there)
    (htext : Settings.Malformed there text) :
    Applies reason path node environment (.malformed path (reason text))
  | wrongType {document : Toml.Table} {item : SettingsItem} {value : Toml.Value}
    (hholds : Settings.Holds node (some document)) (hvalue : item.value? document = some value)
    (hwrong : ¬ item.Allows value) : Applies reason path node environment (.wrongType item)
  | notAFlag {name value : String} (hmem : (name, some value) ∈ environment.flags)
    (hgiven : value ≠ "") (hwrong : Environment.flag? value = none) :
    Applies reason path node environment (.notAFlag name value)

namespace Settings

variable {reason : List Char → String} {path : String} {node : Option Node}
  {environment : Environment}

/-- Settings in a file that cannot be taken in cannot be looked up. -/
theorem resolve_of_illegible {there : Node} {cause : Unreadable} (h : Illegible there cause) :
    resolve reason path (some there) environment = .unreadable cause := by
  cases h with
  | directory | barred => rfl
  | notUtf8 h => simp only [resolve, h]
  | oversized htext hparse => simp only [resolve, htext, hparse, if_true]

theorem resolve_of_malformed {there : Node} {text : List Char} (h : Malformed there text) :
    resolve reason path (some there) environment = .refused (.malformed path (reason text)) := by
  cases h with
  | file htext hparse hfault => simp only [resolve, htext, hparse, if_neg hfault]

theorem resolve_of_holds {document : Option Toml.Table} (h : Holds node document) :
    resolve reason path node environment = settle (document.map (path, ·)) environment := by
  cases h with
  | nothing => rfl
  | file htext hparse => simp only [resolve, htext, hparse, Option.map_some]

theorem Holds.document_eq {document document' : Option Toml.Table} (h : Holds node document)
    (h' : Holds node document') : document' = document := by
  cases h with
  | nothing => cases h'; rfl
  | file htext hparse =>
    cases h' with
    | file htext' hparse' =>
      cases htext.symm.trans htext'
      cases hparse.symm.trans hparse'
      rfl

theorem Holds.not_malformed {document : Option Toml.Table} {there : Node} {text : List Char}
    (h : Holds (some there) document) : ¬ Malformed there text := by
  rintro ⟨htext, hparse, -⟩
  cases h with
  | file htext' hparse' =>
    cases htext.symm.trans htext'
    cases hparse.symm.trans hparse'

/-- The settings of a document, or the standard ones without a document. -/
def ofDocument (document : Option Toml.Table) : Except SettingsFault Settings :=
  document.elim (.ok standard) standard.withDocument

/-- Merging puts the environment over the settings of a document. -/
theorem merge_eq (document : Option Toml.Table) (environment : Environment) :
    merge document environment = ofDocument document >>= fun settings ↦
      match environment.override settings with
      | (settings, none) => .ok settings
      | (_, some fault) => .error fault := by
  cases document <;> rfl

theorem merge_of_ofDocument {document : Option Toml.Table} {settings : Settings}
    (hok : ofDocument document = .ok settings) (environment : Environment) :
    merge document environment =
      (environment.override settings).2.elim (.ok (environment.override settings).1) .error := by
  simp only [merge_eq, hok, bind, Except.bind]
  obtain ⟨settings', fault?⟩ := environment.override settings
  cases fault? <;> rfl

theorem ofDocument_cases (document : Option Toml.Table) :
    (∃ table item value, document = some table ∧ SettingsItem.value? table item = some value ∧
        ¬ item.Allows value ∧ ofDocument document = .error (.wrongType item)) ∨
      (∀ table item value, document = some table → SettingsItem.value? table item = some value →
        item.Allows value) ∧
        ∃ settings, ofDocument document = .ok settings := by
  cases document with
  | none => exact .inr ⟨by simp, standard, rfl⟩
  | some table =>
    obtain ⟨item, value, hvalue, hwrong, herror⟩ | ⟨hitems, hok⟩ :=
      withDocument_cases standard table
    · exact .inl ⟨table, item, value, rfl, hvalue, hwrong, herror⟩
    · refine .inr ⟨?_, hok⟩
      rintro _ item value ⟨⟩ hvalue
      exact hitems item value hvalue

/-- Settings are merged unless an item of the document or a variable of the environment is at
fault. -/
theorem merge_cases (document : Option Toml.Table) (environment : Environment) :
    (∃ table item value, document = some table ∧ SettingsItem.value? table item = some value ∧
        ¬ item.Allows value ∧ merge document environment = .error (.wrongType item)) ∨
      (∃ name value, (name, some value) ∈ environment.flags ∧ value ≠ "" ∧
        Environment.flag? value = none ∧
        merge document environment = .error (.notAFlag name value)) ∨
      (∀ table item value, document = some table → SettingsItem.value? table item = some value →
        item.Allows value) ∧
        (∀ name value, (name, some value) ∈ environment.flags → value ≠ "" →
          Environment.flag? value ≠ none) ∧
        ∃ settings, merge document environment = .ok settings := by
  obtain ⟨table, item, value, hdocument, hvalue, hwrong, herror⟩ | ⟨hitems, settings, hok⟩ :=
    ofDocument_cases document
  · exact .inl ⟨table, item, value, hdocument, hvalue, hwrong, by rw [merge_eq, herror]; rfl⟩
  · have hmerge := merge_of_ofDocument hok environment
    obtain ⟨name, value, hmem, hgiven, hwrong, hfault⟩ | ⟨hflags, hnone⟩ :=
      environment.override_cases settings
    · exact .inr (.inl ⟨name, value, hmem, hgiven, hwrong, by rw [hmerge, hfault]; rfl⟩)
    · exact .inr (.inr ⟨hitems, hflags, _, by rw [hmerge, hnone]; rfl⟩)

/-- A settings file that can be taken in or is missing is refused for a fault that it or the
environment has, or it is settled and neither has any. -/
theorem resolve_cases (reason : List Char → String) (path : String) (node : Option Node)
    (environment : Environment) :
    (∃ there cause, node = some there ∧ Illegible there cause) ∨
      (∃ fault, SettingsFault.Applies reason path node environment fault ∧
        resolve reason path node environment = .refused fault) ∨
      (∀ fault, ¬ SettingsFault.Applies reason path node environment fault) ∧
        ∃ settings sources,
          resolve reason path node environment = .settled settings sources := by
  obtain hillegible | ⟨there, text, rfl, htext⟩ | ⟨document, hholds⟩ := node_cases node
  · exact .inl hillegible
  · exact .inr (.inl ⟨_, .malformed rfl htext, resolve_of_malformed htext⟩)
  · have hdocument : (document.map fun table ↦ (path, table)).map (·.2) = document := by
      cases document <;> rfl
    rw [resolve_of_holds hholds, settle, hdocument]
    obtain ⟨table, item, value, rfl, hvalue, hwrong, herror⟩ |
      ⟨name, value, hmem, hgiven, hwrong, herror⟩ | ⟨hitems, hflags, settings, hok⟩ :=
      merge_cases document environment
    · exact .inr (.inl ⟨_, .wrongType hholds hvalue hwrong, by rw [herror]⟩)
    · exact .inr (.inl ⟨_, .notAFlag hmem hgiven hwrong, by rw [herror]⟩)
    · refine .inr (.inr ⟨fun fault hfault ↦ ?_, settings, _, by rw [hok]⟩)
      cases hfault with
      | malformed hnode hfault =>
        subst hnode
        exact hholds.not_malformed hfault
      | wrongType hholds' hvalue hwrong =>
        exact hwrong (hitems _ _ _ (hholds'.document_eq hholds) hvalue)
      | notAFlag hmem hgiven hwrong => exact hflags _ _ hmem hgiven hwrong

end Settings

/-! ### Explanations -/

/-- What the explanation of a wrong item calls it, and what it says that the item must be. -/
def SettingsItem.terms : SettingsItem → String × String
  | recognizer => ("recognizer", "a table")
  | trackLines => ("track_lines", "true or false")
  | restoreSign => ("restore_sign", "true or false")
  | extraColors => ("extra_colors", "a list of names")

namespace SettingsFault

/-- The lines of the explanation of a fault. -/
def explanation : SettingsFault → List String
  | malformed _ reason =>
    ["What happened: bugs.toml is not valid TOML.",
      "Why: TOML parsing failed: " ++ reason ++ ".",
      "Fix: Fix the TOML syntax in bugs.toml.",
      "Example: [recognizer]\ntrack_lines = true"]
  | wrongType item =>
    ["What happened: Invalid value for '" ++ item.terms.1 ++ "' in bugs.toml.",
      "Why: '" ++ item.terms.1 ++ "' must be " ++ item.terms.2 ++ ".",
      "Fix: Update '" ++ item.terms.1 ++ "' under [recognizer].",
      "Example: [recognizer]\nrestore_sign = false"]
  | notAFlag name value =>
    ["What happened: " ++ name ++ " has an unsupported value '" ++ value ++ "'.",
      "Why: Flags accept 1/0, true/false, yes/no or on/off.",
      "Fix: Set " ++ name ++ " to one of the supported values.",
      "Example: " ++ name ++ "=1"]

theorem lines_guidance (fault : SettingsFault) : fault.guidance.lines = fault.explanation := by
  cases fault with
  | wrongType item =>
    refine (Guidance.lines_eq _ (by simp) (by simp) _).trans ?_
    rw [Guidance.part_some _ (by simp)]
    cases item <;> rfl
  | malformed path reason | notAFlag name value =>
    refine (Guidance.lines_eq _ (by simp) (by simp) _).trans ?_
    rw [Guidance.part_some _ (by simp)]
    simp only [← String.append_assoc, String.reduceAppend]
    rfl

theorem text_guidance (fault : SettingsFault) :
    fault.guidance.text = String.intercalate "\n" fault.explanation := by
  rw [Guidance.text, fault.lines_guidance]

end SettingsFault

end Bugs
