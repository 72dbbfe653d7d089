import RecordSmith.Proofs.Settings.Catalog
import RecordSmith.Proofs.Value.Extent

/-!
# Overrides that are refused with a message

Overrides can hold any values, and only some of those that cannot be used are refused with a
message.  A naming case that gives no identifiers is, unless it is a list or an object.  What is
neither hidden behind such a refusal nor of a kind that is looked for ends the creation of settings
with an error that nobody announced: options that are no object and no list of pairs, suffixes that
are no texts, and a marker that nothing can be looked for in.
-/

namespace RecordSmith

/-- The refusal has a message. -/
def SettingsError.IsAnnounced (error : SettingsError) : Prop := error.message?.isSome = true

/-- That a value cannot be shown is not announced. -/
theorem not_isAnnounced_ofDisplay (fault : DisplayFault) :
    ¬(SettingsError.ofDisplay fault).IsAnnounced := by
  cases fault <;> exact nofun

/-- A refusal that shows a value is announced if the value can be shown. -/
theorem isAnnounced_refusal_iff {refuse : Text → SettingsError}
    (hrefuse : ∀ shown, (refuse shown).IsAnnounced) {display : Except DisplayFault Text} :
    (SettingsError.refusal refuse display).IsAnnounced ↔ ∃ shown, display = .ok shown := by
  cases display with
  | ok shown => exact iff_of_true (hrefuse shown) ⟨shown, rfl⟩
  | error fault => exact iff_of_false (not_isAnnounced_ofDisplay fault) nofun

/-! ## Values of a kind -/

namespace Value

/-- The value is a text. -/
def IsText (value : Value) : Prop := ∃ t, value = .text t

/-- The value is read as an option: two values, two characters or two keys, of which the first is
the key of the option. -/
inductive IsOption : Value → Value → Prop where
  | list (key value : Value) : IsOption (.list [key, value]) key
  | text (c d : CodePoint) : IsOption (.text [c, d]) (.text [c])
  | object (first second : Text × Value) : IsOption (.object [first, second]) (.text first.1)

/-- The value gives options, or none because it does not count as set.  Those of a list have keys
of some kind. -/
def GivesOptions (p : Value → Prop) (value : Value) : Prop :=
  value.isTruthy = false ∨ (∃ entries, value = .object entries) ∨
    ∃ parts, value = .list parts ∧ ∀ part ∈ parts, ∃ key, part.IsOption key ∧ p key

/-- The parts of the value are texts. -/
def HoldsTexts (value : Value) : Prop :=
  value.IsText ∨ (∃ entries, value = .object entries) ∨
    ∃ items, value = .list items ∧ ∀ item ∈ items, item.IsText

/-- The value has parts to look through, or does not count as set. -/
def IsSearchable (value : Value) : Prop :=
  value.isTruthy = false ∨ value.IsText ∨ (∃ items, value = .list items) ∨
    ∃ entries, value = .object entries

/-- The value is among others that could be chosen: it can be compared with them, and shown. -/
structure IsChoice (value : Value) : Prop where
  scalar : value.isScalar = true
  shown : value.IsShowable 0

theorem isText_iff {value : Value} : value.IsText ↔ value.text? ≠ none := by
  cases value with
  | text t => exact iff_of_true ⟨t, rfl⟩ nofun
  | _ => exact iff_of_false nofun (not_not_intro rfl)

theorem IsText.isScalar {value : Value} (h : value.IsText) : value.isScalar = true := by
  obtain ⟨t, rfl⟩ := h
  rfl

theorem IsText.isShowable {value : Value} (h : value.IsText) (depth : Nat) :
    value.IsShowable depth := by
  obtain ⟨t, rfl⟩ := h
  exact isShowable_text depth t

theorem IsText.isChoice {value : Value} (h : value.IsText) : value.IsChoice :=
  ⟨h.isScalar, h.isShowable 0⟩

theorem GivesOptions.mono {p q : Value → Prop} {value : Value} (h : value.GivesOptions p)
    (hpq : ∀ key, p key → q key) : value.GivesOptions q := by
  rcases h with hunset | hobject | ⟨parts, rfl, hparts⟩
  · exact Or.inl hunset
  · exact Or.inr (Or.inl hobject)
  · refine Or.inr (Or.inr ⟨parts, rfl, fun part hpart => ?_⟩)
    obtain ⟨key, hkey, hp⟩ := hparts part hpart
    exact ⟨key, hkey, hpq key hp⟩

end Value

namespace Settings

open Fallible (FailsOnly failsOnly_ok failsOnly_error_iff failsOnly_bind_iff)

/-! ## Options -/

section Options

variable {value part : Value}

theorem optionPair_isOption {key option : Value} (h : optionPair part = .ok (key, option)) :
    part.IsOption key := by
  unfold optionPair at h
  split at h
  case h_1 => cases h; exact .list _ _
  case h_2 => cases h; exact .text _ _
  case h_3 => cases h; exact .object _ _
  all_goals cases h

theorem exists_optionPair_of_isOption {key : Value} (h : part.IsOption key) :
    ∃ option, optionPair part = .ok (key, option) := by
  cases h with
  | list key value => exact ⟨value, rfl⟩
  | text c d => exact ⟨.text [d], rfl⟩
  | object first second => exact ⟨.text second.1, rfl⟩

theorem addOption_eq_ok_iff {options after : List (Value × Value)} :
    addOption options part = .ok after ↔
      ∃ key option, optionPair part = .ok (key, option) ∧ key.isScalar = true ∧
        options ++ [(key, option)] = after := by
  rw [addOption, Fallible.bind_eq_ok_iff]
  constructor
  · rintro ⟨⟨key, option⟩, hpair, hadded⟩
    dsimp only at hadded
    split at hadded
    case isTrue hscalar => exact ⟨key, option, hpair, hscalar, Except.ok.inj hadded⟩
    case isFalse => cases hadded
  · rintro ⟨key, option, hpair, hscalar, rfl⟩
    refine ⟨(key, option), hpair, ?_⟩
    dsimp only
    rw [if_pos hscalar]
    rfl

/-- A list of options adds one option for each of its parts. -/
theorem exists_addOptions_iff {parts : List Value} {start : List (Value × Value)}
    {p : Value → Prop} :
    (∃ options, parts.foldlM addOption start = .ok options ∧ ∀ option ∈ options, p option.1) ↔
      (∀ part ∈ parts, ∃ key, part.IsOption key ∧ key.isScalar = true ∧ p key) ∧
        ∀ option ∈ start, p option.1 := by
  induction parts generalizing start with
  | nil =>
      constructor
      · rintro ⟨options, hoptions, hall⟩
        cases hoptions
        exact ⟨List.forall_mem_nil _, hall⟩
      · exact fun h => ⟨start, rfl, h.2⟩
  | cons part rest ih =>
      simp only [List.foldlM_cons, Fallible.bind_eq_ok_iff, List.forall_mem_cons]
      constructor
      · rintro ⟨options, ⟨added, hadded, hrest⟩, hall⟩
        obtain ⟨key, option, hpair, hscalar, rfl⟩ := addOption_eq_ok_iff.mp hadded
        obtain ⟨hparts, hstart⟩ := ih.mp ⟨options, hrest, hall⟩
        rw [List.forall_mem_append, List.forall_mem_singleton] at hstart
        exact ⟨⟨⟨key, optionPair_isOption hpair, hscalar, hstart.2⟩, hparts⟩, hstart.1⟩
      · rintro ⟨⟨⟨key, hkey, hscalar, hp⟩, hparts⟩, hstart⟩
        obtain ⟨option, hpair⟩ := exists_optionPair_of_isOption hkey
        have hadded := List.forall_mem_append.mpr
          ⟨hstart, List.forall_mem_singleton.mpr (show p (key, option).1 from hp)⟩
        obtain ⟨options, hrest, hall⟩ := ih.mpr ⟨hparts, hadded⟩
        exact ⟨options, ⟨_, addOption_eq_ok_iff.mpr ⟨key, option, hpair, hscalar, rfl⟩, hrest⟩,
          hall⟩

theorem optionsOfValue_of_unset (h : value.isTruthy = false) : optionsOfValue value = .ok [] := by
  unfold optionsOfValue
  rw [h]
  rfl

/-- The keys of an object are texts, and those of a list are what they are. -/
theorem exists_optionsOfValue_iff {p : Value → Prop} (htext : ∀ t, p (.text t)) :
    (∃ options, optionsOfValue value = .ok options ∧ ∀ option ∈ options, p option.1) ↔
      value.GivesOptions fun key => key.isScalar = true ∧ p key := by
  by_cases hset : value.isTruthy = true
  case neg =>
    rw [Bool.not_eq_true] at hset
    exact iff_of_true ⟨[], optionsOfValue_of_unset hset, List.forall_mem_nil _⟩ (Or.inl hset)
  case pos =>
    unfold optionsOfValue
    rw [hset]
    cases value with
    | object entries =>
        refine iff_of_true ⟨_, rfl, ?_⟩ (Or.inr (Or.inl ⟨entries, rfl⟩))
        exact List.forall_mem_map.mpr fun entry _ => htext entry.1
    | list parts =>
        refine exists_addOptions_iff.trans ?_
        simp [Value.GivesOptions, hset]
    | text t =>
        cases t with
        | nil => cases hset
        | cons c rest => simp [Value.GivesOptions, hset]
    | _ => simp [Value.GivesOptions, hset]

theorem setStray_ne_nil (key value : Value) (options : List (Value × Value)) :
    setStray key value options ≠ [] := by
  cases options with
  | nil => exact List.cons_ne_nil _ _
  | cons option rest =>
      rw [setStray]
      split <;> exact List.cons_ne_nil _ _

theorem foldl_setStray_ne_nil (options : List (Value × Value)) {start : List (Value × Value)}
    (hstart : start ≠ []) :
    options.foldl (fun result option => setStray option.1 option.2 result) start ≠ [] := by
  induction options generalizing start with
  | nil => exact hstart
  | cons option rest ih => exact ih (setStray_ne_nil option.1 option.2 start)

theorem otherOptions_eq_nil_iff {options : List (Value × Value)} :
    otherOptions options = [] ↔ ∀ option ∈ options, option.1.IsText := by
  have hstray : otherOptions options = [] ↔
      options.filter (fun option => option.1.text?.isNone) = [] := by
    rw [otherOptions]
    cases options.filter fun option => option.1.text?.isNone with
    | nil => exact iff_of_true rfl rfl
    | cons option rest =>
        refine iff_of_false ?_ (List.cons_ne_nil option rest)
        exact foldl_setStray_ne_nil rest (setStray_ne_nil option.1 option.2 [])
  rw [hstray, List.filter_eq_nil_iff]
  refine forall₂_congr fun option _ => ?_
  rw [Option.isNone_iff_eq_none, Value.isText_iff]

theorem exists_declared_iff :
    (∃ declared, optionsOfValue value = .ok declared) ↔
      value.GivesOptions (·.isScalar = true) := by
  simpa using @exists_optionsOfValue_iff value (fun _ => True) fun _ => trivial

/-- No option is a stray one if the keys of the options are texts. -/
theorem exists_textOptions_iff :
    (∃ declared, optionsOfValue value = .ok declared ∧ otherOptions declared = []) ↔
      value.GivesOptions Value.IsText := by
  simp only [otherOptions_eq_nil_iff]
  rw [exists_optionsOfValue_iff fun t => ⟨t, rfl⟩]
  exact ⟨fun h => h.mono fun _ => And.right, fun h => h.mono fun _ htext => ⟨htext.isScalar, htext⟩⟩

/-- None of the errors in reading options is announced. -/
theorem failsOnly_optionsOfValue :
    FailsOnly (fun error => ¬error.IsAnnounced) (optionsOfValue value) := by
  have hpair : ∀ part, FailsOnly (fun error => ¬error.IsAnnounced) (optionPair part) := by
    intro part
    unfold optionPair
    split <;> first | exact failsOnly_ok _ | exact failsOnly_error_iff.mpr (nomatch ·)
  unfold optionsOfValue
  split
  case isTrue => exact failsOnly_ok _
  case isFalse =>
    split
    case h_1 => exact failsOnly_ok _
    case h_2 =>
      refine Fallible.failsOnly_foldlM fun options part _ => ?_
      refine failsOnly_bind_iff.mpr ⟨hpair part, fun option _ => ?_⟩
      dsimp only
      split
      case isTrue => exact failsOnly_ok _
      case isFalse => exact failsOnly_error_iff.mpr (nomatch ·)
    all_goals exact failsOnly_error_iff.mpr (nomatch ·)

end Options

/-! ## Questionable settings -/

section Warnings

variable {value : Value}

/-- A slash can be looked for in the value as an artifact marker, and if there is one the value can
be shown. -/
structure IsExaminable (depth : Nat) (value : Value) : Prop where
  searchable : value.IsSearchable
  shown : hasSlash value = some true → value.IsShowable depth

theorem exists_suffixWarning_iff :
    (∃ warnings, suffixWarning value = .ok warnings) ↔ value.IsText := by
  cases value with
  | text t => exact iff_of_true ⟨_, rfl⟩ ⟨t, rfl⟩
  | _ => simp [suffixWarning, Value.IsText]

theorem holdsTexts_iff :
    value.HoldsTexts ↔ ∃ parts, parts? value = some parts ∧ ∀ part ∈ parts, part.IsText := by
  cases value with
  | text t =>
      refine iff_of_true (Or.inl ⟨t, rfl⟩) ⟨_, rfl, ?_⟩
      exact List.forall_mem_map.mpr fun c _ => ⟨_, rfl⟩
  | object entries =>
      refine iff_of_true (Or.inr (Or.inl ⟨entries, rfl⟩)) ⟨_, rfl, ?_⟩
      exact List.forall_mem_map.mpr fun entry _ => ⟨_, rfl⟩
  | _ => simp [Value.HoldsTexts, Value.IsText, parts?]

theorem exists_suffixWarnings_iff :
    (∃ warnings, suffixWarnings value = .ok warnings) ↔ value.HoldsTexts := by
  rw [holdsTexts_iff, suffixWarnings]
  cases hparts : parts? value with
  | none => simp
  | some parts =>
      simp only [Fallible.bind_eq_ok_iff, Option.some.injEq, exists_eq_left',
        ← exists_suffixWarning_iff, ← Fallible.exists_mapM_iff]
      constructor
      · rintro ⟨_, found, hfound, _⟩
        exact ⟨found, hfound⟩
      · rintro ⟨found, hfound⟩
        exact ⟨_, found, hfound, rfl⟩

theorem exists_markerWarning_iff {depth : Nat} :
    (∃ warnings, markerWarning depth value = .ok warnings) ↔ value.IsShowable depth := by
  rw [markerWarning, ← Value.exists_display_iff]
  cases value.display depth with
  | ok shown => exact iff_of_true ⟨_, rfl⟩ ⟨shown, rfl⟩
  | error fault => exact iff_of_false nofun nofun

theorem isSearchable_iff (hset : value.isTruthy = true) :
    value.IsSearchable ↔ hasSlash value ≠ none := by
  cases value <;> simp [Value.IsSearchable, Value.IsText, hset, hasSlash]

theorem exists_markerWarnings_iff {depth : Nat} :
    (∃ warnings, markerWarnings depth value = .ok warnings) ↔ IsExaminable depth value := by
  rw [markerWarnings]
  cases hset : value.isTruthy with
  | false =>
      have hshown : value.IsShowable depth := Value.isShowable_of_unset hset depth
      exact iff_of_true (exists_markerWarning_iff.mpr hshown) ⟨Or.inl hset, fun _ => hshown⟩
  | true =>
      have hsearchable := isSearchable_iff hset
      rw [Bool.not_true, if_neg Bool.false_ne_true]
      cases hslash : hasSlash value with
      | none =>
          refine iff_of_false nofun fun h => ?_
          exact hsearchable.mp h.searchable hslash
      | some slash =>
          have hparts : value.IsSearchable := hsearchable.mpr (hslash ▸ nofun)
          cases slash with
          | true =>
              refine exists_markerWarning_iff.trans ⟨fun h => ⟨hparts, fun _ => h⟩, fun h => ?_⟩
              exact h.shown hslash
          | false =>
              refine iff_of_true ⟨[], rfl⟩ ⟨hparts, fun h => ?_⟩
              cases hslash.symm.trans h

theorem exists_warnings_iff {settings : Settings} {machine : Machine} :
    (∃ warnings, settings.warnings machine = .ok warnings) ↔
      settings.schemaSuffixes.HoldsTexts ∧
        IsExaminable machine.shownDepth settings.artifactMarker := by
  rw [← exists_suffixWarnings_iff, ← exists_markerWarnings_iff]
  simp only [warnings, Fallible.bind_eq_ok_iff]
  constructor
  · rintro ⟨_, suffixes, hsuffixes, marker, hmarker, _⟩
    exact ⟨⟨suffixes, hsuffixes⟩, marker, hmarker⟩
  · rintro ⟨⟨suffixes, hsuffixes⟩, marker, hmarker⟩
    exact ⟨_, suffixes, hsuffixes, marker, hmarker, rfl⟩

/-- None of the errors in looking for questionable settings is announced. -/
theorem failsOnly_warnings (settings : Settings) (machine : Machine) :
    FailsOnly (fun error => ¬error.IsAnnounced) (settings.warnings machine) := by
  have hsuffix : ∀ suffix, FailsOnly (fun error => ¬error.IsAnnounced) (suffixWarning suffix) := by
    intro suffix
    unfold suffixWarning
    split
    case h_1 => exact failsOnly_ok _
    case h_2 => exact failsOnly_error_iff.mpr (nomatch ·)
  have hmarker : FailsOnly (fun error => ¬error.IsAnnounced)
      (markerWarning machine.shownDepth settings.artifactMarker) := by
    unfold markerWarning
    split
    case h_1 => exact failsOnly_ok _
    case h_2 fault _ => exact failsOnly_error_iff.mpr (not_isAnnounced_ofDisplay fault)
  refine failsOnly_bind_iff.mpr ⟨?_, fun _ _ =>
    failsOnly_bind_iff.mpr ⟨?_, fun _ _ => failsOnly_ok _⟩⟩
  · unfold suffixWarnings
    split
    case h_1 => exact failsOnly_error_iff.mpr (nomatch ·)
    case h_2 =>
      exact failsOnly_bind_iff.mpr
        ⟨Fallible.failsOnly_mapM fun suffix _ => hsuffix suffix, fun _ _ => failsOnly_ok _⟩
  · unfold markerWarnings
    split
    case isTrue => exact hmarker
    case isFalse =>
      split
      case h_1 => exact failsOnly_error_iff.mpr (nomatch ·)
      case h_2 => exact hmarker
      case h_3 => exact failsOnly_ok _

end Warnings

/-! ## Naming cases -/

/-- The first of the values given for the naming cases that gives no identifiers. -/
def misfitCase? (given? : Setting → Option Value) : Option Value :=
  caseSettings.findSome? fun setting => (given? setting).filter (!isIdentifierCase ·)

section Cases

variable {settings : Settings}

theorem checkCase_eq_ok_iff {setting : Setting} :
    settings.checkCase setting = .ok () ↔ isIdentifierCase (settings.get setting) = true := by
  rw [checkCase]
  cases hcase : isIdentifierCase (settings.get setting) with
  | true =>
      cases hvalue : settings.get setting with
      | text t => exact iff_of_true rfl rfl
      | _ => rw [hvalue] at hcase; cases hcase
  | false => split <;> simp

theorem failsOnly_checkCase_iff {setting : Setting} :
    FailsOnly SettingsError.IsAnnounced (settings.checkCase setting) ↔
      (isIdentifierCase (settings.get setting) = false → (settings.get setting).IsChoice) := by
  cases hcase : isIdentifierCase (settings.get setting) with
  | true =>
      rw [checkCase_eq_ok_iff.mpr hcase]
      exact iff_of_true (failsOnly_ok ()) nofun
  | false =>
      rw [checkCase, hcase]
      cases hscalar : (settings.get setting).isScalar with
      | true =>
          have hannounced : ∀ shown, (SettingsError.invalidCase setting shown).IsAnnounced :=
            fun _ => rfl
          rw [if_neg nofun, if_neg nofun, failsOnly_error_iff, isAnnounced_refusal_iff hannounced,
            Value.exists_displayPlain_iff]
          exact ⟨fun h _ => ⟨hscalar, h⟩, fun h => (h rfl).shown⟩
      | false =>
          refine iff_of_false (mt failsOnly_error_iff.mp (nomatch ·)) fun h => ?_
          cases hscalar.symm.trans (h rfl).scalar

/-- The first naming case that gives no identifiers decides whether its refusal is announced. -/
theorem failsOnly_checkCases_iff {cases : List Setting} :
    FailsOnly SettingsError.IsAnnounced (cases.forM settings.checkCase) ↔
      ∀ value, cases.findSome? (fun setting =>
          (some (settings.get setting)).filter (!isIdentifierCase ·)) = some value →
        value.IsChoice := by
  induction cases with
  | nil => exact iff_of_true (failsOnly_ok _) (nofun)
  | cons setting rest ih =>
      rw [List.forM, failsOnly_bind_iff, List.findSome?_cons, Option.filter_some]
      cases hcase : isIdentifierCase (settings.get setting) with
      | true =>
          rw [checkCase_eq_ok_iff.mpr hcase]
          exact ⟨fun h => ih.mp (h.2 () rfl), fun h => ⟨failsOnly_ok (), fun _ _ => ih.mpr h⟩⟩
      | false =>
          have hfails : ∀ done, settings.checkCase setting = .ok done →
              FailsOnly SettingsError.IsAnnounced (rest.forM settings.checkCase) := by
            intro done hdone
            rw [checkCase_eq_ok_iff.mp hdone] at hcase
            cases hcase
          rw [and_iff_left hfails, failsOnly_checkCase_iff]
          exact ⟨fun h value heq => Option.some.inj heq ▸ h hcase, fun h _ => h _ rfl⟩

/-- Naming cases that all give identifiers are not refused. -/
theorem exists_checked_iff :
    (∃ chosen, settings.checked = .ok chosen) ↔
      misfitCase? (fun setting => some (settings.get setting)) = none := by
  have hall : caseSettings.forM settings.checkCase = .ok () ↔
      misfitCase? (fun setting => some (settings.get setting)) = none := by
    rw [Fallible.forM_eq_ok_iff, misfitCase?, List.findSome?_eq_none_iff]
    refine forall₂_congr fun setting _ => ?_
    rw [checkCase_eq_ok_iff, Option.filter_some]
    cases isIdentifierCase (settings.get setting) <;> simp
  rw [← hall]
  constructor
  · rintro ⟨_, h⟩
    obtain ⟨_, hchecks, _⟩ := Fallible.bind_eq_ok_iff.mp h
    exact hchecks
  · exact fun h => ⟨settings, Fallible.bind_eq_ok_iff.mpr ⟨(), h, rfl⟩⟩

theorem failsOnly_checked_iff :
    FailsOnly SettingsError.IsAnnounced settings.checked ↔
      ∀ value, misfitCase? (fun setting => some (settings.get setting)) = some value →
        value.IsChoice := by
  rw [checked, failsOnly_bind_iff, failsOnly_checkCases_iff]
  exact and_iff_left fun _ _ => failsOnly_ok _

end Cases

/-! ## Settings from entries -/

section OfEntries

variable {entries : Entries}

/-- Entries give settings if their language options can be read and their naming cases give
identifiers. -/
theorem exists_ofEntries_iff (hentries : entries.keys.Nodup) :
    (∃ settings, ofEntries entries = .ok settings) ↔
      ((entries.get? Setting.languageOptions.key).getD .null).GivesOptions (·.isScalar = true) ∧
        misfitCase? (fun setting =>
          some ((entries.get? setting.key).getD (({} : Settings).get setting))) = none := by
  simp only [← get_putEntries hentries]
  rw [← exists_checked_iff, ← exists_declared_iff]
  simp only [ofEntries, Fallible.bind_eq_ok_iff]
  constructor
  · rintro ⟨_, declared, hdeclared, chosen, hchosen, _⟩
    exact ⟨⟨declared, hdeclared⟩, chosen, hchosen⟩
  · rintro ⟨⟨declared, hdeclared⟩, chosen, hchosen⟩
    exact ⟨_, declared, hdeclared, chosen, hchosen, rfl⟩

/-- The settings have no stray options if the keys of the options are texts. -/
theorem strayOptions_eq_nil_iff {settings : Settings} (h : ofEntries entries = .ok settings) :
    settings.strayOptions = [] ↔
      ((entries.get? Setting.languageOptions.key).getD .null).GivesOptions Value.IsText := by
  obtain ⟨declared, chosen, hdeclared, _, rfl⟩ := exists_declared_of_ofEntries h
  rw [← exists_textOptions_iff, hdeclared]
  simp only [Except.ok.injEq, exists_eq_left']

/-- Options are read before the naming cases are checked. -/
theorem failsOnly_ofEntries_iff (hentries : entries.keys.Nodup) :
    FailsOnly SettingsError.IsAnnounced (ofEntries entries) ↔
      ((entries.get? Setting.languageOptions.key).getD .null).GivesOptions (·.isScalar = true) ∧
        ∀ value, misfitCase? (fun setting =>
            some ((entries.get? setting.key).getD (({} : Settings).get setting))) = some value →
          value.IsChoice := by
  simp only [← get_putEntries hentries]
  rw [ofEntries, failsOnly_bind_iff, Fallible.failsOnly_iff_exists failsOnly_optionsOfValue,
    exists_declared_iff]
  refine and_congr_right fun hgives => ?_
  obtain ⟨declared, hdeclared⟩ := exists_declared_iff.mpr hgives
  simp only [hdeclared, Except.ok.injEq, forall_eq']
  rw [failsOnly_bind_iff, failsOnly_checked_iff]
  exact and_iff_left fun _ _ => failsOnly_ok _

end OfEntries

/-! ## Overrides over defaults -/

section Merge

variable {base layer merged : Entries}

theorem exists_mergeEntry {entry : Text × Value}
    (h : entry.1 = Setting.languageOptions.key → ∀ value,
      base.get? Setting.languageOptions.key = some value → ∃ options, value = .object options) :
    ∃ value, mergeEntry base entry = .ok (base.set entry.1 value) := by
  unfold mergeEntry
  split
  case h_1 key options =>
    split
    case isTrue hkey =>
      rw [beq_iff_eq] at hkey
      subst hkey
      cases hvalue : base.get? Setting.languageOptions.key with
      | none => exact ⟨_, rfl⟩
      | some value =>
          obtain ⟨current, rfl⟩ := h rfl value hvalue
          exact ⟨_, rfl⟩
    case isFalse => exact ⟨_, rfl⟩
  case h_2 => exact ⟨_, rfl⟩

/-- A layer can be merged over one with an object as its language options, because its own come
only once. -/
theorem exists_merge (hlayer : layer.keys.Nodup)
    (h : layer.get? Setting.languageOptions.key = none ∨ ∀ value,
      base.get? Setting.languageOptions.key = some value → ∃ options, value = .object options) :
    ∃ merged, merge base layer = .ok merged := by
  induction layer generalizing base with
  | nil => exact ⟨base, rfl⟩
  | cons entry rest ih =>
      obtain ⟨hnew, hrest⟩ := Entries.nodup_keys_cons.mp hlayer
      rw [Entries.get?_cons] at h
      by_cases hkey : Setting.languageOptions.key = entry.1
      · rw [if_pos hkey] at h
        obtain ⟨value, hentry⟩ := exists_mergeEntry fun _ => h.resolve_left nofun
        obtain ⟨merged, hmerged⟩ := @ih (base.set entry.1 value) hrest (Or.inl (hkey ▸ hnew))
        exact ⟨merged, Fallible.bind_eq_ok_iff.mpr ⟨_, hentry, hmerged⟩⟩
      · rw [if_neg hkey] at h
        obtain ⟨value, hentry⟩ :=
          @exists_mergeEntry base entry fun heq => absurd heq.symm hkey
        have hbelow := Entries.get?_set base entry.1 value Setting.languageOptions.key
        rw [if_neg hkey] at hbelow
        obtain ⟨merged, hmerged⟩ := @ih (base.set entry.1 value) hrest (hbelow ▸ h)
        exact ⟨merged, Fallible.bind_eq_ok_iff.mpr ⟨_, hentry, hmerged⟩⟩

/-- Options below are an object, so that only the layer can give some that cannot be read. -/
theorem givesOptions_merge_iff {p : Value → Prop}
    (hbase : ∀ value, base.get? Setting.languageOptions.key = some value →
      ∃ options, value = .object options)
    (hlayer : layer.keys.Nodup) (h : merge base layer = .ok merged) :
    ((merged.get? Setting.languageOptions.key).getD .null).GivesOptions p ↔
      ∀ value, layer.get? Setting.languageOptions.key = some value → value.GivesOptions p := by
  have hobject : ∀ options, (Value.object options).GivesOptions p := fun options =>
    Or.inr (Or.inl ⟨options, rfl⟩)
  have hover := optionsOver_merge hlayer h
  generalize merged.get? Setting.languageOptions.key = after at hover ⊢
  generalize base.get? Setting.languageOptions.key = below at hover hbase
  generalize layer.get? Setting.languageOptions.key = above at hover ⊢
  cases hover with
  | kept =>
      refine iff_of_true ?_ nofun
      cases after with
      | none => exact Or.inl rfl
      | some value =>
          obtain ⟨options, rfl⟩ := hbase value rfl
          exact hobject options
  | merged options hbelow =>
      exact iff_of_true (hobject _) fun _ heq => Option.some.inj heq ▸ hobject options
  | replaced => exact ⟨fun hgives _ heq => Option.some.inj heq ▸ hgives, fun hall => hall _ rfl⟩

/-- An option is of some kind if the one below is and the one of the layer is. -/
theorem forall_givenOption?_merge_iff {p : Value → Prop} {key : Text} (hbase : IsLayer base)
    (hlayer : IsLayer layer) (h : merge base layer = .ok merged) (hown : extraOptions base = [])
    (hbelow : ∀ value, givenOption? base key = some value → p value) :
    (∀ value, givenOption? merged key = some value → p value) ↔
      ∀ value, givenOption? layer key = some value → p value := by
  rw [givenOption?, hown, Entries.get?_nil, Option.none_or] at hbelow
  rw [givenOption?, get?_extraOptions_merge hlayer h, get?_nestedOptions_merge hbase hlayer h, hown,
    Entries.get?_nil, Option.or_none, ← Option.or_assoc, ← givenOption?]
  cases givenOption? layer key with
  | some value => rw [Option.some_or]
  | none =>
      constructor
      · rintro _ _ ⟨⟩
      · intro _ value hvalue
        rw [Option.none_or, Option.ite_none_left_eq_some] at hvalue
        exact hbelow value hvalue.2

/-- A setting is of some kind if it is without the layer and the one of the layer is. -/
theorem getD_merge_iff {p : Value → Prop} {key : Text} {default : Value}
    (hkey : key ≠ Setting.languageOptions.key) (hlayer : layer.keys.Nodup)
    (h : merge base layer = .ok merged) (hdefault : p default)
    (hbelow : ∀ value, base.get? key = some value → p value) :
    p ((merged.get? key).getD default) ↔ ∀ value, layer.get? key = some value → p value := by
  rw [get?_merge_of_ne hkey hlayer h]
  cases layer.get? key with
  | some value => exact ⟨fun hp _ heq => Option.some.inj heq ▸ hp, fun hall => hall value rfl⟩
  | none =>
      refine iff_of_true ?_ nofun
      cases hvalue : base.get? key with
      | none => exact hdefault
      | some value => exact hbelow value hvalue

/-- Over naming cases that give identifiers, those of the layer decide. -/
theorem misfitCase?_merge (hlayer : layer.keys.Nodup) (h : merge base layer = .ok merged)
    (hbase : misfitCase? (fun setting => base.get? setting.key) = none) :
    misfitCase? (fun setting =>
        some ((merged.get? setting.key).getD (({} : Settings).get setting))) =
      misfitCase? fun setting => layer.get? setting.key := by
  rw [misfitCase?, List.findSome?_eq_none_iff] at hbase
  have hgiven : ∀ setting ∈ caseSettings,
      (some ((merged.get? setting.key).getD (({} : Settings).get setting))).filter
          (!isIdentifierCase ·) =
        (layer.get? setting.key).filter (!isIdentifierCase ·) := by
    intro setting hsetting
    obtain ⟨hkey, hdefault⟩ : setting.key ≠ Setting.languageOptions.key ∧
        isIdentifierCase (({} : Settings).get setting) = true := by
      revert setting
      decide +kernel
    have hbelow := hbase setting hsetting
    rw [get?_merge_of_ne hkey hlayer h]
    cases layer.get? setting.key with
    | some value => rfl
    | none =>
        cases hvalue : base.get? setting.key with
        | none => simp [hdefault]
        | some value => simpa [hvalue] using hbelow
  have hfirst := congrArg (List.findSome? id) (List.map_congr_left hgiven)
  rw [List.findSome?_map, List.findSome?_map] at hfirst
  exact hfirst

end Merge

end Settings

end RecordSmith
