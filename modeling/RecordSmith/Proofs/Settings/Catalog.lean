import RecordSmith.Proofs.Json.Reader
import RecordSmith.Proofs.Settings.Layers
import RecordSmith.Settings.Catalog

/-!
# Which layer decides

The settings for a language come from three layers: the overrides, a settings file
and the defaults of the language.  Every setting has the value of the highest layer
that gives one.  For an option this can fail, because entries of their own win over
language options whatever layer they are from.
-/

namespace RecordSmith

/-! ## Layers are well-formed -/

namespace Value

mutual

theorem settle_wellFormed : ∀ value : Value, value.settle.WellFormed
  | .null => .null
  | .boolean b => .boolean b
  | .integer n => .integer n
  | .real x => .real x
  | .text t => .text (joinPairs t)
  | .list items => .list (settleItems_wellFormed items)
  | .object entries => .ofList (settleEntries_wellFormed entries)

theorem settleItems_wellFormed :
    ∀ items : List Value, ∀ item ∈ settleItems items, item.WellFormed
  | [] => List.forall_mem_nil _
  | item :: rest =>
      List.forall_mem_cons.mpr ⟨settle_wellFormed item, settleItems_wellFormed rest⟩

theorem settleEntries_wellFormed :
    ∀ entries : List (Text × Value), ∀ entry ∈ settleEntries entries, entry.2.WellFormed
  | [] => List.forall_mem_nil _
  | (_, value) :: rest =>
      List.forall_mem_cons.mpr ⟨settle_wellFormed value, settleEntries_wellFormed rest⟩

end

end Value

namespace Catalog

theorem ofDefaults_wellFormed (defaults : Value) : (ofDefaults defaults).defaults.WellFormed := by
  rw [ofDefaults]
  split
  case isTrue => exact defaults.settle_wellFormed
  case isFalse =>
    have hsettled : builtin.defaults.settle = builtin.defaults := rfl
    exact hsettled ▸ builtin.defaults.settle_wellFormed

theorem defaultsOf_wellFormed {catalog : Catalog} (hcatalog : catalog.defaults.WellFormed)
    {language : Option Text} {value : Value} (h : catalog.defaultsOf language = .ok value) :
    value.WellFormed := by
  rw [defaultsOf] at h
  split at h
  case h_1 entries heq =>
    cases h
    rw [heq] at hcatalog
    cases hget : Entries.get? entries (language.getD []) with
    | none => exact .object List.nodup_nil (List.forall_mem_nil _)
    | some found => exact hcatalog.of_get? hget
  case h_2 => cases h

theorem settingsOfJson_wellFormed {path : Path} {t : Text} {entries : Entries}
    (h : settingsOfJson path t = .ok entries) : (Value.object entries).WellFormed := by
  rw [settingsOfJson] at h
  split at h
  case h_1 found hread =>
    cases h
    exact (Json.read_isRead hread).wellFormed
  all_goals cases h

/-- The layer of a settings file is a well-formed object. -/
theorem exists_of_fileLayer {files : FileTree} {file : Option Text} {value : Value}
    (h : fileLayer files file = .ok value) :
    ∃ entries, value = .object entries ∧ value.WellFormed := by
  have hempty : (Value.object []).WellFormed := .object List.nodup_nil (List.forall_mem_nil _)
  unfold fileLayer at h
  split at h
  case h_1 => cases h; exact ⟨[], rfl, hempty⟩
  case h_2 => cases h; exact ⟨[], rfl, hempty⟩
  case h_3 path =>
    obtain ⟨entries, hread, rfl⟩ := Fallible.map_eq_ok_iff.mp h
    refine ⟨entries, rfl, ?_⟩
    rw [readSettings] at hread
    split at hread
    case h_1 => cases hread
    case h_2 => cases hread
    case h_3 =>
      split at hread
      · cases hread
      · split at hread
        · cases hread
        · exact settingsOfJson_wellFormed hread

end Catalog

/-! ## Settings from three layers -/

namespace Settings

theorem exists_merge_of_mergeValues {base : Value} {layer merged : Entries}
    (h : mergeValues base (.object layer) = .ok (.object merged)) :
    ∃ entries, base = .object entries ∧ merge entries layer = .ok merged := by
  unfold mergeValues at h
  split at h
  case h_1 entries changes heq =>
    cases heq
    obtain ⟨found, hmerge, heq⟩ := Fallible.map_eq_ok_iff.mp h
    cases heq
    exact ⟨entries, rfl, hmerge⟩
  case h_2 hbase heq =>
    cases h
    exact absurd rfl (hbase merged)
  case h_3 => cases h
  case h_4 => cases h

theorem exists_entries_of_ofValue {value : Value} {settings : Settings}
    (h : ofValue value = .ok settings) :
    ∃ entries, value = .object entries ∧ ofEntries entries = .ok settings := by
  unfold ofValue at h
  split at h
  case h_1 entries => exact ⟨entries, rfl, h⟩
  case h_2 => cases h

end Settings

namespace Catalog

theorem overrideLayer_object (overrides : Entries) :
    overrideLayer (.object overrides) = .object overrides := by
  cases overrides with
  | nil => rfl
  | cons entry rest => rfl

/-- Without a settings file, settings are made from the overrides, merged over the defaults of the
language. -/
theorem settings_of_merge {catalog : Catalog} {files : FileTree} {language : Option Text}
    {base overrides merged : Entries} (hbase : catalog.defaultsOf language = .ok (.object base))
    (hmerged : Settings.merge base overrides = .ok merged) :
    catalog.settings files language (.object overrides) = (do
      let settings ← Settings.ofEntries merged
      let _ ← settings.warnings catalog.machine
      return settings) := by
  rw [settings, hbase, overrideLayer_object]
  change (do
    let layered ← (Settings.merge base overrides).map Value.object
    let settings ← Settings.ofValue layered
    let _ ← settings.warnings catalog.machine
    return settings) = _
  rw [hmerged]
  rfl

/-- Settings are made from the overrides, merged over those of the file, merged over
the defaults of the language. -/
theorem exists_layers_of_settings {catalog : Catalog} {files : FileTree}
    {language file : Option Text} {overrides : Entries} {settings : Settings}
    (h : catalog.settings files language (.object overrides) file = .ok settings) :
    ∃ base fromFile withFile merged,
      catalog.defaultsOf language = .ok (.object base) ∧
      fileLayer files file = .ok (.object fromFile) ∧
      Settings.merge base fromFile = .ok withFile ∧
      Settings.merge withFile overrides = .ok merged ∧
      Settings.ofEntries merged = .ok settings := by
  obtain ⟨defaults, hdefaults, hrest⟩ := Fallible.bind_eq_ok_iff.mp h
  obtain ⟨layer, hlayer, hrest⟩ := Fallible.bind_eq_ok_iff.mp hrest
  obtain ⟨lower, hlower, hrest⟩ := Fallible.bind_eq_ok_iff.mp hrest
  obtain ⟨all, hall, hrest⟩ := Fallible.bind_eq_ok_iff.mp hrest
  obtain ⟨found, hfound, hrest⟩ := Fallible.bind_eq_ok_iff.mp hrest
  obtain ⟨_, _, heq⟩ := Fallible.bind_eq_ok_iff.mp hrest
  cases heq
  rw [overrideLayer_object] at hall
  obtain ⟨merged, rfl, hsettings⟩ := Settings.exists_entries_of_ofValue hfound
  obtain ⟨withFile, rfl, hmerged⟩ := Settings.exists_merge_of_mergeValues hall
  obtain ⟨fromFile, rfl, _⟩ := exists_of_fileLayer hlayer
  obtain ⟨base, rfl, hwithFile⟩ := Settings.exists_merge_of_mergeValues hlower
  exact ⟨base, fromFile, withFile, merged, hdefaults, hlayer, hwithFile, hmerged, hsettings⟩

/-- Every language has one of the built-in defaults, a language that is not built in none. -/
theorem exists_builtin_defaults (language : Option Text) :
    ∃ base ∈ [contractDefaults, dataclassDefaults, []],
      builtin.defaultsOf language = .ok (.object base) := by
  have hget : builtin.defaultsOf language =
      .ok ((Entries.get? [("csharp", .object contractDefaults),
        ("python", .object dataclassDefaults)] (language.getD [])).getD (.object [])) := rfl
  rw [hget, Entries.get?_cons, Entries.get?_cons, Entries.get?_nil]
  split
  case isTrue => exact ⟨contractDefaults, by simp, rfl⟩
  case isFalse =>
    split
    case isTrue => exact ⟨dataclassDefaults, by simp, rfl⟩
    case isFalse => exact ⟨[], by simp, rfl⟩

/-- The built-in defaults are naming cases and language options. -/
theorem get?_builtin_defaults {language : Option Text} {base : Entries}
    (h : builtin.defaultsOf language = .ok (.object base)) {setting : Setting}
    (hcase : setting ∉ Settings.caseSettings) (hoptions : setting ≠ .languageOptions) :
    base.get? setting.key = none := by
  have hplain : ∀ defaults ∈ [contractDefaults, dataclassDefaults, []],
      setting.key ∉ Entries.keys defaults := by
    cases setting with
    | typeCase | fieldCase | namespaceCase => exact absurd (by decide) hcase
    | languageOptions => exact absurd rfl hoptions
    | _ => decide +kernel
  obtain ⟨found, hfound, heq⟩ := exists_builtin_defaults language
  rw [h, Except.ok.injEq, Value.object.injEq] at heq
  exact Entries.get?_eq_none_iff.mpr (hplain base (heq ▸ hfound))

end Catalog

/-! ## Precedence -/

namespace Settings

/-- The value of a setting that the highest layer gives, or else the value that the
setting has anyway. -/
def layeredSetting (overrides fromFile base : Entries) (setting : Setting) : Value :=
  ((overrides.get? setting.key).or
    ((fromFile.get? setting.key).or (base.get? setting.key))).getD
      (({} : Settings).get setting)

/-- The value of an option that the highest layer gives. -/
def layeredOption? (overrides fromFile base : Entries) (key : Text) : Option Value :=
  (givenOption? overrides key).or ((givenOption? fromFile key).or (givenOption? base key))

/-- An entry below hides the value that a layer gives an option: the layer gives it
among its language options only, and the entry has another value. -/
def Hides (below : Option Value) (layer : Entries) (key : Text) : Prop :=
  (extraOptions layer).get? key = none ∧
    ∃ entry option, below = some entry ∧ (nestedOptions layer).get? key = some option ∧
      entry ≠ option

/-- When the option that entries of their own and language options lead to is that
of the highest layer. -/
theorem layers_agree_iff {α : Type} (overrides overridesNested file fileNested base
    baseNested : Option α) (discarded : Bool) :
    (overrides.or (file.or base)).or
        (overridesNested.or (fileNested.or (if discarded then none else baseNested))) =
      (overrides.or overridesNested).or ((file.or fileNested).or (base.or baseNested)) ↔
    ¬(overrides = none ∧ ∃ entry option, file.or base = some entry ∧
        overridesNested = some option ∧ entry ≠ option) ∧
    (overrides.or overridesNested = none →
      ¬(file = none ∧ ∃ entry option, base = some entry ∧ fileNested = some option ∧
        entry ≠ option)) ∧
    (overrides.or overridesNested = none → file.or fileNested = none →
      discarded = true → base.or baseNested = base) := by
  cases overrides with
  | some value => simp
  | none =>
      cases overridesNested with
      | some value => cases file <;> cases base <;> simp
      | none =>
          cases file with
          | some value => simp
          | none =>
              cases fileNested with
              | some value => cases base <;> simp
              | none => cases base <;> cases discarded <;> simp [eq_comm]

end Settings

namespace Catalog

open Settings

/-- Every setting has the value of the highest layer that gives one, and an option
has it if and only if no entry of a lower layer hides it and no default of it is
discarded with the other language options. -/
theorem settings_layered_iff {defaults : Value} {files : FileTree}
    {language file : Option Text} {overrides : Entries} {settings : Settings}
    (hoverrides : (Value.object overrides).WellFormed)
    (hoptions : ∀ value, overrides.get? Setting.languageOptions.key = some value →
      ∃ options, value = .object options)
    (hsettings : (ofDefaults defaults).settings files language (.object overrides) file =
      .ok settings) :
    ∃ base fromFile options : Entries,
      (ofDefaults defaults).defaultsOf language = .ok (.object base) ∧
      fileLayer files file = .ok (.object fromFile) ∧
      (∀ setting, setting ≠ .languageOptions →
        settings.get setting = layeredSetting overrides fromFile base setting) ∧
      settings.languageOptions = .object options ∧
      ∀ key,
        options.get? key = layeredOption? overrides fromFile base key ↔
          ¬Hides (((extraOptions fromFile).get? key).or ((extraOptions base).get? key))
            overrides key ∧
          (givenOption? overrides key = none →
            ¬Hides ((extraOptions base).get? key) fromFile key) ∧
          (givenOption? overrides key = none → givenOption? fromFile key = none →
            discardsOptions fromFile = true →
            givenOption? base key = (extraOptions base).get? key) := by
  obtain ⟨base, fromFile, withFile, merged, hbase, hfile, hwithFile, hmerged, hof⟩ :=
    exists_layers_of_settings hsettings
  have hbaseLayer : IsLayer base :=
    .of_wellFormed (defaultsOf_wellFormed (ofDefaults_wellFormed defaults) hbase)
  have hfileLayer : IsLayer fromFile := by
    obtain ⟨entries, heq, hwellFormed⟩ := exists_of_fileLayer hfile
    exact .of_wellFormed hwellFormed
  have hoverridesLayer : IsLayer overrides := .of_wellFormed hoverrides
  have hwithFileLayer : IsLayer withFile := hbaseLayer.merge hfileLayer hwithFile
  have hkeys := (hwithFileLayer.merge hoverridesLayer hmerged).nodup_keys
  -- Options that are an object are set over those below and discard nothing.
  have hkept : discardsOptions overrides = false := by
    rw [discardsOptions]
    cases hget : overrides.get? Setting.languageOptions.key with
    | none => rfl
    | some value =>
        obtain ⟨options, rfl⟩ := hoptions value hget
        rfl
  obtain ⟨options, hlanguageOptions, hget⟩ := get?_languageOptions_ofEntries hkeys hof
  refine ⟨base, fromFile, options, hbase, hfile, ?_, hlanguageOptions, ?_⟩
  · intro setting hsetting
    have hkey : setting.key ≠ Setting.languageOptions.key := by
      intro heq
      apply hsetting
      rw [← Option.some_inj, ← Setting.ofKey?_key, heq, Setting.ofKey?_key]
    rw [get_ofEntries hkeys hof hsetting,
      get?_merge_of_ne hkey hoverridesLayer.nodup_keys hmerged,
      get?_merge_of_ne hkey hfileLayer.nodup_keys hwithFile, layeredSetting]
  · intro key
    rw [hget, givenOption?, get?_extraOptions_merge hoverridesLayer hmerged,
      get?_extraOptions_merge hfileLayer hwithFile,
      get?_nestedOptions_merge hwithFileLayer hoverridesLayer hmerged,
      get?_nestedOptions_merge hbaseLayer hfileLayer hwithFile, hkept]
    exact layers_agree_iff _ _ _ _ _ _ _

/-- A settings file that gives the type keyword as an entry of its own. -/
def keywordFile : FileTree where
  nodes := [(["c.json"], .file ((Text.toUtf8? "\x7b\"type_keyword\": \"class\"\x7d").getD []))]

/-- Overrides that give the type keyword among the language options. -/
def keywordOverrides : Entries :=
  [("language_config", .object [("type_keyword", .text "record struct")])]

theorem keywordOverrides_layered_iff :
    ∃ settings, ∃ base fromFile options : Entries,
      (ofDefaults .null).settings keywordFile (some "csharp") (.object keywordOverrides)
        (some "c.json") = .ok settings ∧
      settings.languageOptions = .object options ∧
      ∀ key,
        options.get? key = layeredOption? keywordOverrides fromFile base key ↔
          ¬Hides (((extraOptions fromFile).get? key).or ((extraOptions base).get? key))
            keywordOverrides key ∧
          (givenOption? keywordOverrides key = none →
            ¬Hides ((extraOptions base).get? key) fromFile key) ∧
          (givenOption? keywordOverrides key = none → givenOption? fromFile key = none →
            discardsOptions fromFile = true →
            givenOption? base key = (extraOptions base).get? key) := by
  have hsettings : ((ofDefaults .null).settings keywordFile (some "csharp")
      (.object keywordOverrides) (some "c.json")).isOk = true := by decide +kernel
  cases hresult : (ofDefaults .null).settings keywordFile (some "csharp")
      (.object keywordOverrides) (some "c.json") with
  | error error =>
      rw [hresult] at hsettings
      cases hsettings
  | ok settings =>
      have hwellFormed : (Value.object keywordOverrides).WellFormed := by
        have hsettled : (Value.object keywordOverrides).settle = .object keywordOverrides := rfl
        exact hsettled ▸ (Value.object keywordOverrides).settle_wellFormed
      have hobject : ∀ value,
          keywordOverrides.get? Setting.languageOptions.key = some value →
          ∃ options, value = .object options := by
        rintro value heq
        cases heq
        exact ⟨_, rfl⟩
      obtain ⟨base, fromFile, options, _, _, _, hoptions, hiff⟩ :=
        settings_layered_iff hwellFormed hobject hresult
      exact ⟨settings, base, fromFile, options, rfl, hoptions, hiff⟩

/-- The entry of the file wins over the language option of the overrides. -/
theorem keywordFile_hides_override :
    ∃ settings, ∃ base fromFile options : Entries,
      (ofDefaults .null).settings keywordFile (some "csharp") (.object keywordOverrides)
        (some "c.json") = .ok settings ∧
      (ofDefaults .null).defaultsOf (some "csharp") = .ok (.object base) ∧
      fileLayer keywordFile (some "c.json") = .ok (.object fromFile) ∧
      settings.languageOptions = .object options ∧
      (options.get? "type_keyword").bind Value.text? = some "class" ∧
      layeredOption? keywordOverrides fromFile base "type_keyword" =
        some (.text "record struct") := by
  have hkeyword : (match (ofDefaults .null).settings keywordFile (some "csharp")
        (.object keywordOverrides) (some "c.json") with
      | .ok settings => settings.languageOptions.entries?.bind fun options =>
          (Entries.get? options "type_keyword").bind Value.text?
      | .error _ => none) = some (Text.ofString "class") := by decide +kernel
  split at hkeyword
  case h_2 => cases hkeyword
  case h_1 settings hsettings =>
    obtain ⟨base, fromFile, _, merged, hbase, hfile, _, _, hof⟩ :=
      exists_layers_of_settings hsettings
    have hoptions := languageOptions_ofEntries hof
    rw [hoptions] at hkeyword
    exact ⟨settings, base, fromFile, _, hsettings, hbase, hfile, hoptions, hkeyword, rfl⟩

end Catalog

end RecordSmith
