import RecordSmith.Proofs.Files.Stored
import RecordSmith.Proofs.Json.RoundTrip
import RecordSmith.Proofs.Settings.Refusals

/-!
# Saved settings

Settings that are saved to a file are the settings that are made from that file alone.
As a layer they give every setting, and their options are merged over none.  To save settings takes
more than to read them: a document holds settings with more levels than are copied for it.
-/

namespace RecordSmith

namespace Settings

/-! ## Settings as a layer -/

section ToEntries

variable {settings others : Settings}

theorem ext_get (h : ∀ setting, settings.get setting = others.get setting)
    (hstray : settings.strayOptions = others.strayOptions) : settings = others := by
  cases settings
  cases others
  simp only [mk.injEq]
  exact ⟨h .schemaSuffixes, h .outputDirectory, h .artifactMarker, h .indentSize, h .lineEnding,
    h .typeCase, h .fieldCase, h .namespaceCase, h .addComments, h .languageOptions, hstray⟩

theorem nodup_keys_toEntries (settings : Settings) : settings.toEntries.keys.Nodup := by
  have hkeys : (Setting.all.map Setting.key).Nodup := by decide +kernel
  exact hkeys

theorem get?_toEntries (settings : Settings) (setting : Setting) :
    settings.toEntries.get? setting.key = some (settings.get setting) := by
  cases setting <;> rfl

/-- Every entry names a setting. -/
theorem extraOptions_toEntries (settings : Settings) : extraOptions settings.toEntries = [] := by
  rw [extraOptions, List.filter_eq_nil_iff]
  intro entry hentry
  obtain ⟨setting, _, rfl⟩ := List.mem_map.mp hentry
  rw [Setting.ofKey?_key]
  exact Bool.false_ne_true

theorem strayOptions_putEntry (settings : Settings) (entry : Text × Value) :
    (settings.putEntry entry).strayOptions = settings.strayOptions := by
  unfold putEntry
  split
  case h_1 setting _ => cases setting <;> rfl
  case h_2 => rfl

theorem strayOptions_putEntries (entries : Entries) (settings : Settings) :
    (entries.foldl putEntry settings).strayOptions = settings.strayOptions := by
  induction entries generalizing settings with
  | nil => rfl
  | cons entry rest ih => rw [List.foldl_cons, ih, strayOptions_putEntry]

theorem foldl_putEntry_toEntries (hstray : settings.strayOptions = []) :
    settings.toEntries.foldl putEntry {} = settings := by
  apply ext_get
  · intro setting
    rw [get_putEntries (nodup_keys_toEntries settings), get?_toEntries, Option.getD_some]
  · rw [strayOptions_putEntries, hstray]

end ToEntries

/-! ## Settings from one layer -/

section OneLayer

variable {base layer : Entries}

/-- An entry with a new key is added as it is. -/
theorem mergeEntry_of_missing {entry : Text × Value} (hkey : entry.1 ∉ base.keys)
    (honce : ∀ options : Entries, entry.2 = .object options → options.keys.Nodup) :
    mergeEntry base entry = .ok (base ++ [entry]) := by
  obtain ⟨key, value⟩ := entry
  have hset := fun value => Entries.set_of_missing hkey value
  unfold mergeEntry
  split
  case h_1 name options heq =>
    cases heq
    split
    case isTrue =>
      rw [Entries.get?_eq_none_iff.mpr hkey, Option.getD_none]
      change Except.ok (base.set key (.object (Entries.ofList options))) = _
      rw [hset, Entries.ofList_of_nodup (honce options rfl)]
    case isFalse => rw [hset]
  case h_2 heq =>
    cases heq
    rw [hset]

/-- Entries with new keys are added as they are. -/
theorem merge_eq_append (hkeys : (base ++ layer).keys.Nodup)
    (honce : ∀ entry ∈ layer, ∀ options : Entries, entry.2 = .object options →
      options.keys.Nodup) :
    merge base layer = .ok (base ++ layer) := by
  induction layer generalizing base with
  | nil => rw [List.append_nil]; rfl
  | cons entry rest ih =>
      obtain ⟨hentry, hrest⟩ := List.forall_mem_cons.mp honce
      have hnew : entry.1 ∉ base.keys := by
        rw [Entries.keys, List.map_append, List.map_cons] at hkeys
        exact fun hmem => (List.nodup_append.mp hkeys).2.2 _ hmem _ List.mem_cons_self rfl
      rw [List.append_cons] at hkeys
      rw [merge, List.foldlM_cons, mergeEntry_of_missing hnew hentry]
      change merge (base ++ [entry]) rest = _
      rw [ih hkeys hrest, ← List.append_cons]

/-- Settings that can be made on a machine: their naming cases give identifiers, their language
options are an object, and it can be told what is questionable about them. -/
structure Admissible (machine : Machine) (settings : Settings) : Prop where
  cases : ∀ setting ∈ caseSettings, settings.checkCase setting = .ok ()
  options : ∃ options : Entries, settings.languageOptions = .object options
  warned : ∃ warnings, settings.warnings machine = .ok warnings

theorem checked_eq_ok_iff {settings : Settings} :
    settings.checked = .ok settings ↔
      ∀ setting ∈ caseSettings, settings.checkCase setting = .ok () := by
  rw [← Fallible.forM_eq_ok_iff, checked, Fallible.bind_eq_ok_iff]
  constructor
  · rintro ⟨_, hcases, _⟩
    exact hcases
  · exact fun hcases => ⟨(), hcases, rfl⟩

theorem cases_of_ofEntries {entries : Entries} {settings : Settings}
    (h : ofEntries entries = .ok settings) :
    ∀ setting ∈ caseSettings, settings.checkCase setting = .ok () := by
  obtain ⟨declared, chosen, _, hchosen, rfl⟩ := exists_declared_of_ofEntries h
  rw [← checked_eq_ok hchosen, checked_eq_ok_iff] at hchosen
  intro setting hsetting
  -- The options are set last, and none of the settings that hold them is a naming case.
  have hother : setting ≠ .languageOptions := by
    rintro rfl
    revert hsetting
    decide
  cases setting with
  | languageOptions => exact absurd rfl hother
  | _ => exact hchosen _ hsetting

/-- The settings are made from their entries. -/
theorem ofEntries_toEntries {machine : Machine} {settings : Settings}
    (h : settings.Admissible machine) (hstray : settings.strayOptions = [])
    (honce : ∀ options : Entries, settings.languageOptions = .object options →
      options.keys.Nodup) :
    ofEntries settings.toEntries = .ok settings := by
  obtain ⟨options, hoptions⟩ := h.options
  have hdeclared : optionsOfValue (.object options) =
      .ok (options.map fun entry => (.text entry.1, entry.2)) := by
    cases options with
    | nil => rfl
    | cons entry rest => rfl
  have hothers : otherOptions (options.map fun entry => (Value.text entry.1, entry.2)) = [] :=
    otherOptions_eq_nil_iff.mpr (List.forall_mem_map.mpr fun entry _ => ⟨entry.1, rfl⟩)
  have hput : { settings with languageOptions := .object options, strayOptions := [] } =
      settings := by
    rw [← hoptions, ← hstray]
  rw [ofEntries, get?_toEntries, Option.getD_some, get, hoptions, hdeclared,
    foldl_putEntry_toEntries hstray]
  dsimp only [bind, Except.bind]
  rw [checked_eq_ok_iff.mpr h.cases, textOptions_of_entries, extraOptions_toEntries, hothers,
    Entries.ofList_of_nodup (honce options hoptions)]
  change Except.ok { settings with languageOptions := .object options, strayOptions := [] } = _
  rw [hput]

end OneLayer

/-! ## Settings in a document -/

/-- A document can hold the settings: the keys of their options are texts, and their values can be
written and read back. -/
structure IsPortable (settings : Settings) : Prop where
  plain : settings.strayOptions = []
  portable : (Value.object settings.toEntries).Portable Json.maxDepth

theorem isPortable_of_get {settings : Settings} (hplain : settings.strayOptions = [])
    (hvalues : ∀ setting, (settings.get setting).Portable 999) : settings.IsPortable := by
  have hnames : ∀ setting ∈ Setting.all, setting.key.IsScalar := by decide +kernel
  refine ⟨hplain, .object (nodup_keys_toEntries settings) ?_ ?_⟩
  · exact List.forall_mem_map.mpr hnames
  · exact List.forall_mem_map.mpr fun setting _ => hvalues setting

/-- How many levels of values are inside the settings. -/
def nesting (settings : Settings) : Nat := (Value.object settings.toEntries).nesting

theorem withStrayEntries_of_plain {settings : Settings} (h : settings.strayOptions = []) :
    settings.withStrayEntries = settings := by
  have hnone : settings.strayEntries = [] := by rw [strayEntries, h, List.map_nil]
  rw [withStrayEntries, hnone]
  split
  case h_1 options hoptions => rw [List.append_nil, ← hoptions]
  case h_2 => rfl

/-- Settings that a document can hold become one if the machine follows all of their levels. -/
theorem document_of_isPortable {settings : Settings} (h : settings.IsPortable)
    (machine : Machine) :
    settings.document machine =
      if machine.savedDepth < settings.nesting then .error .nestedTooDeep
      else .ok (Json.write (.object settings.toEntries)) := by
  have hshort : Value.entriesHoldLong settings.toEntries = false := h.portable.holdsLong_eq_false
  rw [document, copied, withStrayEntries_of_plain h.plain, h.plain]
  dsimp only
  change (if machine.savedDepth < settings.nesting then _ else _) >>= _ = _
  split
  case isTrue => rfl
  case isFalse =>
    change (if (Value.entriesHoldLong settings.toEntries || false) = true then _ else _) = _
    rw [hshort]
    rfl

/-- Settings that a document can hold are written as one, or not at all. -/
theorem save_of_isPortable {settings : Settings} (h : settings.IsPortable) (path : Path)
    (machine : Machine) :
    settings.save path machine =
      if machine.savedDepth < settings.nesting then throw .nestedTooDeep
      else (FileAction.writeText path (Json.write (.object settings.toEntries))).adapt
        writeError := by
  unfold save
  rw [document_of_isPortable h machine]
  by_cases hdeep : machine.savedDepth < settings.nesting
  · rw [if_pos hdeep, if_pos hdeep]
  · rw [if_neg hdeep, if_neg hdeep]

end Settings

namespace Catalog

open Settings

theorem admissible_of_settings {catalog : Catalog} {files : FileTree}
    {language file : Option Text} {overrides : Value} {settings : Settings}
    (h : catalog.settings files language overrides file = .ok settings) :
    settings.Admissible catalog.machine := by
  obtain ⟨_, _, hrest⟩ := Fallible.bind_eq_ok_iff.mp h
  obtain ⟨_, _, hrest⟩ := Fallible.bind_eq_ok_iff.mp hrest
  obtain ⟨_, _, hrest⟩ := Fallible.bind_eq_ok_iff.mp hrest
  obtain ⟨layered, _, hrest⟩ := Fallible.bind_eq_ok_iff.mp hrest
  obtain ⟨made, hmade, hrest⟩ := Fallible.bind_eq_ok_iff.mp hrest
  obtain ⟨warnings, hwarnings, heq⟩ := Fallible.bind_eq_ok_iff.mp hrest
  cases heq
  obtain ⟨entries, _, hentries⟩ := exists_entries_of_ofValue hmade
  exact ⟨cases_of_ofEntries hentries, ⟨_, languageOptions_ofEntries hentries⟩,
    ⟨warnings, hwarnings⟩⟩

/-- A file with the suffix of settings files gives the entries of the object that was written to
it. -/
theorem readSettings_of_written {files : FileTree} {path : Path} {entries : Entries}
    (hexists : (FileAction.pathExists path).run files = (.ok true, files))
    (hsuffix : Text.toLower path.suffix = fileSuffix)
    (hread : (FileAction.readText path).run files =
      (.ok (Json.write (.object entries)), files))
    (hportable : (Value.object entries).Portable Json.maxDepth) :
    readSettings files path = .ok entries := by
  rw [readSettings, hexists]
  dsimp only
  rw [if_neg (by simpa using hsuffix), hread]
  dsimp only
  rw [settingsOfJson, Json.read_write hportable]

/-- Settings are what is made of their entries over nothing. -/
theorem settings_of_layer {catalog : Catalog} {files : FileTree} {file : Option Text}
    {settings : Settings} (hbare : catalog.defaultsOf none = .ok (.object []))
    (hfile : fileLayer files file = .ok (.object settings.toEntries))
    (h : settings.Admissible catalog.machine) (hplain : settings.strayOptions = [])
    (honce : ∀ setting, ∀ options : Entries, settings.get setting = .object options →
      options.keys.Nodup) :
    catalog.settings files none .null file = .ok settings := by
  have hentries : ∀ entry ∈ settings.toEntries, ∀ options : Entries,
      entry.2 = .object options → options.keys.Nodup := by
    intro entry hentry
    obtain ⟨setting, _, rfl⟩ := List.mem_map.mp hentry
    exact honce setting
  have hmerge : merge [] settings.toEntries = .ok settings.toEntries :=
    @merge_eq_append [] _ (nodup_keys_toEntries settings) hentries
  have hvalues : mergeValues (.object []) (.object settings.toEntries) =
      .ok (.object settings.toEntries) := by
    rw [mergeValues, hmerge]
    rfl
  have hmade : ofValue (.object settings.toEntries) = .ok settings :=
    ofEntries_toEntries h hplain (honce .languageOptions)
  obtain ⟨warnings, hwarnings⟩ := h.warned
  rw [Catalog.settings, hbare, hfile]
  dsimp only [bind, Except.bind]
  rw [hvalues]
  change (ofValue (.object settings.toEntries) >>= fun made => _) = _
  rw [hmade]
  dsimp only [bind, Except.bind]
  rw [hwarnings]
  rfl

/-- A path at which settings can be saved so that they are read again. -/
structure IsSettingsPath (tree : FileTree) (path : Text) : Prop where
  writable : tree.Writable (Path.ofText path)
  suffix : Text.toLower (Path.ofText path).suffix = fileSuffix

/-- Saved to a file and made again from that file alone, the settings are the same. -/
def Reloads (catalog : Catalog) (tree : FileTree) (path : Text) (settings : Settings) : Prop :=
  ∃ after, (settings.save (Path.ofText path) catalog.machine).run tree = (.ok (), after) ∧
    catalog.settings after none .null (some path) = .ok settings

section Reloading

variable {catalog reloading : Catalog} {files tree : FileTree} {language file : Option Text}
variable {overrides : Value} {settings : Settings} {path : Text}

/-- Settings with more levels than the machine follows are not saved. -/
theorem not_reloads_of_deep (hportable : settings.IsPortable)
    (hdeep : catalog.machine.savedDepth < settings.nesting) :
    ¬catalog.Reloads tree path settings := by
  intro hreloads
  obtain ⟨after, hsaved, _⟩ := hreloads
  rw [save_of_isPortable hportable, if_pos hdeep] at hsaved
  cases hsaved

/-- Settings that have been made from any layers and that a document can hold are saved to a file
and made again from that file alone exactly if the machine follows all of their levels. -/
theorem settings_save_reload (hsettings : catalog.settings files language overrides file =
      .ok settings)
    (hportable : settings.IsPortable) (hpath : IsSettingsPath tree path)
    (hmachine : reloading.machine = catalog.machine)
    (hbare : reloading.defaultsOf none = .ok (.object [])) :
    reloading.Reloads tree path settings ↔ settings.nesting ≤ reloading.machine.savedDepth := by
  constructor
  · intro hreloads
    apply Nat.not_lt.mp
    intro hdeep
    exact not_reloads_of_deep hportable hdeep hreloads
  · intro hlevels
    obtain ⟨after, hwritten, hexists, hread⟩ :=
      FileAction.exists_stored hpath.writable (Json.isStorable_writeAt hportable.portable 0)
    have hsaved : (settings.save (Path.ofText path) reloading.machine).run tree =
        (.ok (), after) := by
      rw [save_of_isPortable hportable, if_neg (Nat.not_lt.mpr hlevels)]
      exact FileAction.run_adapt writeError hwritten
    have hfile : fileLayer after (some path) = .ok (.object settings.toEntries) := by
      cases path with
      | nil => exact absurd hpath.suffix (by decide +kernel)
      | cons c rest =>
          rw [fileLayer, readSettings_of_written hexists hpath.suffix hread hportable.portable]
          · rfl
          · rintro ⟨⟩
    have honce : ∀ setting, ∀ options : Entries, settings.get setting = .object options →
        options.keys.Nodup := by
      intro setting options hoptions
      have hmem : (setting.key, settings.get setting) ∈ settings.toEntries :=
        Entries.mem_of_get?_eq_some (get?_toEntries settings setting)
      obtain ⟨inner, hvalue⟩ := hportable.portable.of_mem hmem
      rw [hoptions] at hvalue
      exact hvalue.nodup_keys
    have hadmissible : settings.Admissible reloading.machine :=
      hmachine ▸ admissible_of_settings hsettings
    exact ⟨after, hsaved, settings_of_layer hbare hfile hadmissible hportable.plain honce⟩

end Reloading

/-- Besides the options a document can hold what the settings are anyway. -/
theorem isPortable_of_options {options : Entries} (h : (Value.object options).Portable 999) :
    ({ languageOptions := .object options } : Settings).IsPortable := by
  refine isPortable_of_get rfl fun setting => ?_
  cases setting with
  | schemaSuffixes => exact .list (List.forall_mem_singleton.mpr (.text (by decide +kernel)))
  | outputDirectory => exact .null
  | indentSize => exact .integer (by decide)
  | addComments => exact .boolean true
  | languageOptions => exact h
  | _ => exact .text (by decide +kernel)

/-- Overrides with options of their own, one of them with characters that have to be escaped. -/
def notedOverrides : Value :=
  .object [("levels", .list [.integer (-7), .null]), ("note", .text [0x22, 0x0A, 0x01, 0xE9])]

/-- The settings of C# with these options. -/
def notedSettings : Settings where
  languageOptions :=
    .object [("nullable_context", .boolean true), ("type_keyword", .text "record"),
      ("levels", .list [.integer (-7), .null]), ("note", .text [0x22, 0x0A, 0x01, 0xE9])]

theorem notedSettings_save_reload :
    builtin.settings {} (some "csharp") notedOverrides none = .ok notedSettings ∧
      notedSettings.IsPortable ∧ IsSettingsPath {} "c.json" ∧
      notedSettings.nesting ≤ builtin.machine.savedDepth ∧
      builtin.Reloads {} "c.json" notedSettings := by
  have hsettings : builtin.settings {} (some "csharp") notedOverrides none =
      .ok notedSettings := rfl
  have hportable : notedSettings.IsPortable := by
    refine isPortable_of_options (.object (by decide +kernel) (by decide +kernel) ?_)
    simp only [List.forall_mem_cons]
    refine ⟨.boolean true, .text (by decide +kernel), .list ?_, .text (by decide),
      List.forall_mem_nil _⟩
    simp only [List.forall_mem_cons]
    exact ⟨.integer (by decide), .null, List.forall_mem_nil _⟩
  have hpath : IsSettingsPath {} "c.json" := ⟨rfl, by decide +kernel⟩
  have hlevels : notedSettings.nesting ≤ builtin.machine.savedDepth := by decide +kernel
  have hreloads := (settings_save_reload hsettings hportable hpath rfl rfl).mpr hlevels
  exact ⟨hsettings, hportable, hpath, hlevels, hreloads⟩

/-! ## Settings that are not made again -/

/-- Null inside so many lists. -/
def nested : Nat → Value
  | 0 => .null
  | depth + 1 => .list [nested depth]

theorem nesting_nested (depth : Nat) : (nested depth).nesting = depth := by
  induction depth with
  | zero => rfl
  | succ depth ih =>
      rw [nested, Value.nesting, Value.nestingOfItems, ih, Value.nestingOfItems, Nat.max_zero]

theorem nested_portable (depth further : Nat) : (nested depth).Portable (further + depth) := by
  induction depth with
  | zero => exact .null
  | succ depth ih => exact .list (List.forall_mem_singleton.mpr ih)

/-- Settings with one option. -/
def settingsOf (note : Value) : Settings where
  languageOptions := .object [("note", note)]

/-- Each level of an option is two levels further inside the settings. -/
theorem nesting_settingsOf (note : Value) : note.nesting + 2 ≤ (settingsOf note).nesting := by
  have hmem : (Setting.languageOptions.key, Value.object [("note", note)]) ∈
      (settingsOf note).toEntries :=
    Entries.mem_of_get?_eq_some (get?_toEntries (settingsOf note) .languageOptions)
  have houter := Value.nestingOfEntries_le_iff.mp (Nat.le_refl _) _ hmem
  have hinner := Value.nestingOfEntries_le_iff.mp
    (Nat.le_refl (Value.object [("note", note)]).nesting) _ List.mem_cons_self
  exact Nat.le_trans (Nat.succ_le_succ hinner) houter

theorem settings_of_note (items : List Value) :
    builtin.settings {} none (.object [("note", .list items)]) none =
      .ok (settingsOf (.list items)) :=
  rfl

/-- A catalog with defaults for settings of no language. -/
def namelessCatalog : Catalog where
  defaults := .object [([], .object [("note", .integer 1)])]

/-- Settings that a document can hold are made, but not made again from where they are saved. -/
structure IsLost (catalog : Catalog) (language : Option Text) (overrides : Value)
    (settings : Settings) : Prop where
  made : catalog.settings {} language overrides none = .ok settings
  portable : settings.IsPortable
  path : IsSettingsPath {} "c.json"
  lost : ¬catalog.Reloads {} "c.json" settings

theorem isLost_of_deep : IsLost builtin none (.object [("note", nested 600)])
    (settingsOf (nested 600)) := by
  have hnote : (nested 600).Portable 998 := nested_portable 600 398
  have hportable : (settingsOf (nested 600)).IsPortable := by
    refine isPortable_of_options (.object (List.pairwise_singleton _ _) ?_ ?_)
    · exact List.forall_mem_singleton.mpr (show Text.IsScalar "note" by decide +kernel)
    · exact List.forall_mem_singleton.mpr hnote
  have hlevels := nesting_settingsOf (nested 600)
  rw [nesting_nested] at hlevels
  exact {
    made := settings_of_note [nested 599]
    portable := hportable
    path := ⟨rfl, by decide +kernel⟩
    lost := not_reloads_of_deep hportable (Nat.lt_of_lt_of_le (by decide) hlevels) }

theorem isLost_of_defaults : IsLost namelessCatalog (some "python") .null {} := by
  have hoptions : (match (({} : Settings).save (Path.ofText "c.json") namelessCatalog.machine).run
        {} with
      | (.ok (), after) =>
        (namelessCatalog.settings after none .null (some "c.json")).toOption.all fun settings =>
          settings.languageOptions.isTruthy
      | _ => false) = true := by decide +kernel
  refine {
    made := rfl
    portable := isPortable_of_options
      (.object List.nodup_nil (List.forall_mem_nil _) (List.forall_mem_nil _))
    path := ⟨rfl, by decide +kernel⟩
    lost := fun hreloads => ?_ }
  obtain ⟨after, hsaved, hagain⟩ := hreloads
  rw [hsaved] at hoptions
  dsimp only at hoptions
  rw [hagain] at hoptions
  cases hoptions

/-- Settings get lost that have more levels than are copied to save them, and settings to which the
defaults for no language add an option when they are made again. -/
theorem deep_or_defaulted_settings_lost :
    IsLost builtin none (.object [("note", nested 600)]) (settingsOf (nested 600)) ∧
      IsLost namelessCatalog (some "python") .null {} :=
  ⟨isLost_of_deep, isLost_of_defaults⟩

end Catalog

end RecordSmith
