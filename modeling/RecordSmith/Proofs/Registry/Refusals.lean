import RecordSmith.Proofs.Registry.Routes
import RecordSmith.Proofs.Settings.Refusals

/-!
# Overrides that a registry answers

A registry answers a request for a generator if it creates one or refuses with a message.  What
overrides have to be like for that is read off in the order in which they are looked at: first the
language options are read, then the naming cases are checked, and only if these are accepted the
other settings and the options count.
-/

namespace RecordSmith

open Fallible (FailsOnly failsOnly_ok failsOnly_error_iff failsOnly_bind_iff)

/-! ## Overrides that are used or refused with a message -/

/-- The options of a language can be used, or are refused with a message. -/
structure LanguageOptions.Answered (machine : Machine) (target : Target)
    (given? : Text → Option Value) : Prop where
  unreserved : given? reservedKey = none
  keyword : target = .csharp → ∀ value, given? "type_keyword" = some value → value.IsChoice
  metadataKey : target = .python → ∀ value, given? "metadata_key" = some value →
    value.IsShowable machine.shownDepth

namespace Settings

/-- What is looked at when the naming cases have been accepted can be used, or is refused with a
message. -/
structure AnsweredLater (machine : Machine) (target : Target) (overrides : Entries) : Prop where
  options : ∀ value, overrides.get? Setting.languageOptions.key = some value →
    value.GivesOptions Value.IsText
  suffixes : ∀ value, overrides.get? Setting.schemaSuffixes.key = some value → value.HoldsTexts
  marker : ∀ value, overrides.get? Setting.artifactMarker.key = some value →
    IsExaminable machine.shownDepth value
  known : LanguageOptions.Answered machine target (givenOption? overrides)

/-- The overrides can be used, or are refused with a message. -/
structure Answered (machine : Machine) (target : Target) (overrides : Entries) : Prop where
  options : ∀ value, overrides.get? Setting.languageOptions.key = some value →
    value.GivesOptions (·.isScalar = true)
  cases : ∀ value, misfitCase? (fun setting => overrides.get? setting.key) = some value →
    value.IsChoice
  later : misfitCase? (fun setting => overrides.get? setting.key) = none →
    AnsweredLater machine target overrides

/-- Defaults that are no reason to refuse overrides. -/
structure SoundDefaults (base : Entries) : Prop where
  layer : IsLayer base
  object : ∀ value, base.get? Setting.languageOptions.key = some value →
    ∃ options, value = .object options
  own : extraOptions base = []
  cases : misfitCase? (fun setting => base.get? setting.key) = none
  later : ∀ machine target, AnsweredLater machine target base

end Settings

/-! ## Options of the languages -/

namespace LanguageOptions

variable {machine : Machine} {target : Target} {options : Entries}

theorem isText_of_ofValue? {value : Value} {keyword : Contract.TypeKeyword}
    (h : Contract.TypeKeyword.ofValue? value = some keyword) : value.IsText := by
  cases value with
  | text t => exact ⟨t, rfl⟩
  | _ => cases h

theorem isText_of_metadataKey? {value : Value} {key : Text}
    (h : Dataclass.metadataKey? value = some key) : value.IsText := by
  cases value with
  | text t => exact ⟨t, rfl⟩
  | _ => cases h

theorem isAnnounced_keywordError_iff {value : Value} :
    (keywordError value).IsAnnounced ↔ value.IsChoice := by
  rw [keywordError]
  cases hscalar : value.isScalar with
  | true =>
      have hannounced : ∀ shown, (SettingsError.invalidTypeKeyword shown).IsAnnounced :=
        fun _ => rfl
      rw [if_pos rfl, isAnnounced_refusal_iff hannounced, Value.exists_displayPlain_iff]
      exact ⟨fun h => ⟨hscalar, h⟩, fun h => h.shown⟩
  | false =>
      refine iff_of_false nofun fun h => ?_
      cases hscalar.symm.trans h.scalar

/-- Only a type keyword that could not have been chosen is refused without a message. -/
theorem failsOnly_contract_iff :
    FailsOnly SettingsError.IsAnnounced
        (match Contract.Options.ofEntries options with
          | .ok options => .ok (.contract options)
          | .error value => .error (keywordError value) : Except SettingsError LanguageOptions) ↔
      ∀ value, options.get? "type_keyword" = some value → value.IsChoice := by
  unfold Contract.Options.ofEntries
  cases options.get? "type_keyword" with
  | none => exact iff_of_true (failsOnly_ok _) nofun
  | some value =>
      rw [Option.getD_some]
      dsimp only
      cases hkeyword : Contract.TypeKeyword.ofValue? value with
      | some keyword =>
          exact iff_of_true (failsOnly_ok _) fun _ heq =>
            Option.some.inj heq ▸ (isText_of_ofValue? hkeyword).isChoice
      | none =>
          change FailsOnly _ (.error (keywordError value)) ↔ _
          rw [failsOnly_error_iff, isAnnounced_keywordError_iff]
          exact ⟨fun h _ heq => Option.some.inj heq ▸ h, fun h => h value rfl⟩

/-- Only a metadata key that cannot be shown is refused without a message. -/
theorem failsOnly_dataclass_iff {depth : Nat} :
    FailsOnly SettingsError.IsAnnounced
        (match Dataclass.Options.ofEntries options with
          | .ok options => .ok (.dataclass options)
          | .error value => .error (.refusal .invalidMetadataKey (value.display depth)) :
          Except SettingsError LanguageOptions) ↔
      ∀ value, options.get? "metadata_key" = some value → value.IsShowable depth := by
  unfold Dataclass.Options.ofEntries
  cases options.get? "metadata_key" with
  | none => exact iff_of_true (failsOnly_ok _) nofun
  | some value =>
      rw [Option.getD_some]
      dsimp only
      cases hkey : Dataclass.metadataKey? value with
      | some key =>
          exact iff_of_true (failsOnly_ok _) fun _ heq =>
            Option.some.inj heq ▸ (isText_of_metadataKey? hkey).isShowable depth
      | none =>
          have hannounced : ∀ shown, (SettingsError.invalidMetadataKey shown).IsAnnounced :=
            fun _ => rfl
          change FailsOnly _
            (.error (SettingsError.refusal .invalidMetadataKey (value.display depth))) ↔ _
          rw [failsOnly_error_iff, isAnnounced_refusal_iff hannounced, Value.exists_display_iff]
          exact ⟨fun h _ heq => Option.some.inj heq ▸ h, fun h => h value rfl⟩

/-- Besides a name that is taken, each language has one option that can be refused without a
message. -/
theorem failsOnly_ofEntries_iff :
    FailsOnly SettingsError.IsAnnounced (ofEntries target options machine) ↔
      Answered machine target options.get? := by
  unfold ofEntries
  cases hreserved : options.get? reservedKey with
  | some value =>
      refine iff_of_false (mt failsOnly_error_iff.mp nofun) fun h => ?_
      cases hreserved.symm.trans h.unreserved
  | none =>
      rw [Option.isSome_none, if_neg Bool.false_ne_true]
      cases target with
      | csharp =>
          refine failsOnly_contract_iff.trans ⟨fun h => ?_, fun h => h.keyword rfl⟩
          exact ⟨hreserved, fun _ => h, nofun⟩
      | python =>
          refine failsOnly_dataclass_iff.trans ⟨fun h => ?_, fun h => h.metadataKey rfl⟩
          exact ⟨hreserved, nofun, fun _ => h⟩

/-- Stray options are refused without a message as well. -/
theorem failsOnly_build_iff {settings : Settings} (h : settings.languageOptions = .object options) :
    FailsOnly SettingsError.IsAnnounced (Generator.build target settings machine) ↔
      settings.strayOptions = [] ∧ Answered machine target options.get? := by
  have hbuild : FailsOnly SettingsError.IsAnnounced (Generator.build target settings machine) ↔
      FailsOnly SettingsError.IsAnnounced (ofSettings target settings machine) := by
    rw [Generator.build, failsOnly_bind_iff]
    exact and_iff_left fun _ _ => failsOnly_ok _
  rw [hbuild, ofSettings, h]
  cases settings.strayOptions with
  | nil => exact failsOnly_ofEntries_iff.trans (and_iff_right rfl).symm
  | cons option rest =>
      refine iff_of_false ?_ fun h => List.cons_ne_nil _ _ h.1
      exact mt failsOnly_error_iff.mp nofun

end LanguageOptions

/-! ## Generators of a catalog -/

namespace Settings

variable {base overrides merged : Entries} {machine : Machine} {target : Target}

/-- Over sound defaults, the options of the overrides are those that may be refused. -/
theorem SoundDefaults.known_merge_iff (hbase : SoundDefaults base)
    (hoverrides : IsLayer overrides) (hmerged : merge base overrides = .ok merged) :
    LanguageOptions.Answered machine target (givenOption? merged) ↔
      LanguageOptions.Answered machine target (givenOption? overrides) := by
  have hbelow := (hbase.later machine target).known
  have hall := fun (p : Value → Prop) key =>
    @forall_givenOption?_merge_iff base overrides merged p key hbase.layer hoverrides hmerged
      hbase.own
  have hunreserved : givenOption? merged LanguageOptions.reservedKey = none ↔
      givenOption? overrides LanguageOptions.reservedKey = none := by
    rw [Option.eq_none_iff_forall_ne_some, Option.eq_none_iff_forall_ne_some]
    exact hall (fun _ => False) _ (Option.eq_none_iff_forall_ne_some.mp hbelow.unreserved)
  have hkeyword := fun htarget => hall Value.IsChoice "type_keyword" (hbelow.keyword htarget)
  have hmetadataKey := fun htarget =>
    hall (·.IsShowable machine.shownDepth) "metadata_key" (hbelow.metadataKey htarget)
  constructor
  · intro h
    exact ⟨hunreserved.mp h.unreserved, fun htarget => (hkeyword htarget).mp (h.keyword htarget),
      fun htarget => (hmetadataKey htarget).mp (h.metadataKey htarget)⟩
  · intro h
    exact ⟨hunreserved.mpr h.unreserved, fun htarget => (hkeyword htarget).mpr (h.keyword htarget),
      fun htarget => (hmetadataKey htarget).mpr (h.metadataKey htarget)⟩

/-- What is looked at later, in settings that are made from overrides over sound defaults. -/
theorem SoundDefaults.answeredLater_iff (hbase : SoundDefaults base)
    (hoverrides : IsLayer overrides) (hmerged : merge base overrides = .ok merged)
    {settings : Settings} (hsettings : ofEntries merged = .ok settings) :
    ((∃ warnings, settings.warnings machine = .ok warnings) ∧
        FailsOnly SettingsError.IsAnnounced (Generator.build target settings machine)) ↔
      AnsweredLater machine target overrides := by
  have hkeys := nodup_keys_merge hbase.layer.nodup_keys hmerged
  have hlater := hbase.later machine target
  have hoptions : settings.strayOptions = [] ↔ ∀ value,
      overrides.get? Setting.languageOptions.key = some value → value.GivesOptions Value.IsText :=
    (strayOptions_eq_nil_iff hsettings).trans
      (givesOptions_merge_iff hbase.object hoverrides.nodup_keys hmerged)
  have hsuffixes : settings.schemaSuffixes.HoldsTexts ↔
      ∀ value, overrides.get? Setting.schemaSuffixes.key = some value → value.HoldsTexts := by
    change (settings.get .schemaSuffixes).HoldsTexts ↔ _
    rw [get_ofEntries hkeys hsettings (by decide)]
    refine getD_merge_iff (by decide) hoverrides.nodup_keys hmerged ?_ hlater.suffixes
    exact Or.inr (Or.inr ⟨_, rfl, List.forall_mem_singleton.mpr ⟨_, rfl⟩⟩)
  have hmarker : IsExaminable machine.shownDepth settings.artifactMarker ↔
      ∀ value, overrides.get? Setting.artifactMarker.key = some value →
        IsExaminable machine.shownDepth value := by
    change IsExaminable machine.shownDepth (settings.get .artifactMarker) ↔ _
    rw [get_ofEntries hkeys hsettings (by decide)]
    refine getD_merge_iff (by decide) hoverrides.nodup_keys hmerged ?_ hlater.marker
    exact ⟨Or.inr (Or.inl ⟨_, rfl⟩), fun _ => Value.isShowable_text _ _⟩
  obtain ⟨chosen, hlanguageOptions, hchosen⟩ := get?_languageOptions_ofEntries hkeys hsettings
  have hknown : LanguageOptions.Answered machine target chosen.get? ↔
      LanguageOptions.Answered machine target (givenOption? overrides) := by
    have hsame : Entries.get? chosen = givenOption? merged := funext hchosen
    rw [hsame]
    exact hbase.known_merge_iff hoverrides hmerged
  rw [exists_warnings_iff, LanguageOptions.failsOnly_build_iff hlanguageOptions, hsuffixes, hmarker,
    hoptions, hknown]
  constructor
  · rintro ⟨⟨hsuffixes, hmarker⟩, hoptions, hknown⟩
    exact ⟨hoptions, hsuffixes, hmarker, hknown⟩
  · exact fun h => ⟨⟨h.suffixes, h.marker⟩, h.options, h.known⟩

end Settings

namespace Catalog

open Settings

variable {catalog : Catalog} {files : FileTree} {language : Option Text}
variable {base overrides : Entries}

/-- Over sound defaults, the overrides decide whether there is a generator or an announced
refusal. -/
theorem failsOnly_made_iff (hbase : catalog.defaultsOf language = .ok (.object base))
    (hsound : SoundDefaults base) (hoverrides : IsLayer overrides) {target : Target} :
    FailsOnly SettingsError.IsAnnounced (do
        Generator.build target (← catalog.settings files language (.object overrides))
          catalog.machine) ↔
      Answered catalog.machine target overrides := by
  obtain ⟨merged, hmerged⟩ := exists_merge hoverrides.nodup_keys (Or.inr hsound.object)
  have hkeys := nodup_keys_merge hsound.layer.nodup_keys hmerged
  have hgives := givesOptions_merge_iff (p := (·.isScalar = true)) hsound.object
    hoverrides.nodup_keys hmerged
  have hcases := misfitCase?_merge hoverrides.nodup_keys hmerged hsound.cases
  have hsettings := exists_ofEntries_iff hkeys
  rw [hcases, hgives] at hsettings
  rw [settings_of_merge hbase hmerged]
  simp only [bind_assoc, pure_bind, failsOnly_bind_iff]
  rw [failsOnly_ofEntries_iff hkeys, hcases, hgives]
  -- What follows the settings does not depend on them any more.
  have hlater : ∀ settings, ofEntries merged = .ok settings →
      ((FailsOnly SettingsError.IsAnnounced (settings.warnings catalog.machine) ∧
          ∀ warnings, settings.warnings catalog.machine = .ok warnings →
            FailsOnly SettingsError.IsAnnounced
              (Generator.build target settings catalog.machine)) ↔
        AnsweredLater catalog.machine target overrides) := by
    intro settings hmade
    rw [← hsound.answeredLater_iff hoverrides hmerged hmade,
      Fallible.failsOnly_iff_exists (failsOnly_warnings settings catalog.machine)]
    exact and_congr_right fun ⟨warnings, hwarnings⟩ =>
      ⟨fun h => h warnings hwarnings, fun h _ _ => h⟩
  constructor
  · rintro ⟨⟨hoptions, hchoices⟩, hrest⟩
    refine ⟨hoptions, hchoices, fun hfit => ?_⟩
    obtain ⟨settings, hmade⟩ := hsettings.mpr ⟨hoptions, hfit⟩
    exact (hlater settings hmade).mp (hrest settings hmade)
  · intro h
    refine ⟨⟨h.options, h.cases⟩, fun settings hmade => ?_⟩
    exact (hlater settings hmade).mpr (h.later (hsettings.mp ⟨settings, hmade⟩).2)

/-- Whatever the language, its built-in defaults are no reason to refuse overrides. -/
theorem builtin_soundDefaults (language : Option Text) :
    ∃ base, builtin.defaultsOf language = .ok (.object base) ∧ SoundDefaults base := by
  obtain ⟨base, hmem, hbase⟩ := exists_builtin_defaults language
  have hchecks : ∀ base ∈ [contractDefaults, dataclassDefaults, []],
      (Entries.get? base Setting.languageOptions.key).all (·.entries?.isSome) = true ∧
        (extraOptions base).isEmpty = true ∧
        (misfitCase? fun setting => Entries.get? base setting.key).isNone = true ∧
        (givenOption? base LanguageOptions.reservedKey).isNone = true ∧
        (givenOption? base "type_keyword").all (·.text?.isSome) = true ∧
        (givenOption? base "metadata_key").all (·.text?.isSome) = true := by
    decide +kernel
  obtain ⟨hentries, hown, hcases, hunreserved, hkeyword, hmetadataKey⟩ := hchecks base hmem
  rw [Option.all_eq_true] at hentries hkeyword hmetadataKey
  have hobject : ∀ value, base.get? Setting.languageOptions.key = some value →
      ∃ options, value = .object options := by
    intro value hvalue
    cases value with
    | object options => exact ⟨options, rfl⟩
    | _ => cases hentries _ hvalue
  have htext : ∀ value : Value, value.text?.isSome = true → value.IsText := fun value hvalue =>
    Value.isText_iff.mpr (Option.isSome_iff_ne_none.mp hvalue)
  have hnone : ∀ {setting : Setting} {value : Value} {p : Prop}, setting ∉ caseSettings →
      setting ≠ .languageOptions → base.get? setting.key = some value → p := by
    intro setting value p hcase hoptions hvalue
    rw [get?_builtin_defaults hbase hcase hoptions] at hvalue
    cases hvalue
  refine ⟨base, hbase, ?_⟩
  exact {
    layer := .of_wellFormed (defaultsOf_wellFormed (ofDefaults_wellFormed .null) hbase)
    object := hobject
    own := List.isEmpty_iff.mp hown
    cases := Option.isNone_iff_eq_none.mp hcases
    later := fun machine target => {
      options := fun value hvalue => Or.inr (Or.inl (hobject value hvalue))
      suffixes := fun _ => hnone (by decide) (by decide)
      marker := fun _ => hnone (by decide) (by decide)
      known := {
        unreserved := Option.isNone_iff_eq_none.mp hunreserved
        keyword := fun _ value hvalue => (htext value (hkeyword value hvalue)).isChoice
        metadataKey := fun _ value hvalue =>
          (htext value (hmetadataKey value hvalue)).isShowable machine.shownDepth } } }

end Catalog

/-! ## Requests for a generator -/

namespace Registry

variable {registry : Registry} {catalog : Catalog} {files : FileTree} {language : Text}
variable {overrides : Entries}

theorem create_of_find {entry : RegistryEntry} (h : registry.find language = .ok entry) :
    registry.create catalog files language (.layered (.object overrides)) =
      Except.mapError (.creationFailed language) (do
        Generator.build entry.target
          (← catalog.settings files entry.name (.object overrides)) catalog.machine) := by
  rw [create, h]
  rfl

/-- A request has an answer if the refusal of the settings, should there be one, is announced. -/
theorem answers_iff {made : Except SettingsError Generator} :
    (∃ generator, made.mapError (RegistryError.creationFailed language) = .ok generator) ∨
        (∃ error message, made.mapError (RegistryError.creationFailed language) = .error error ∧
          error.message? = some message) ↔
      FailsOnly SettingsError.IsAnnounced made := by
  cases made with
  | ok generator => exact iff_of_true (Or.inl ⟨generator, rfl⟩) (failsOnly_ok generator)
  | error reason =>
      have hfails : Except.mapError (RegistryError.creationFailed language)
          (.error reason : Except SettingsError Generator) =
        .error (.creationFailed language reason) := rfl
      rw [hfails, failsOnly_error_iff, SettingsError.IsAnnounced]
      simp [RegistryError.message?, Option.isSome_iff_exists]

/-- When a request for a generator of a built-in language leads to a generator or to a refusal with
a message, whatever overrides it is made with and whatever machine it is for. -/
theorem builtin_create_answers_iff {machine : Machine}
    (hlanguage : builtin.isSupported language = true)
    (hoverrides : (Value.object overrides).WellFormed) :
    ∃ entry, builtin.find language = .ok entry ∧
      ((∃ generator,
          builtin.create (.builtinOn machine) files language (.layered (.object overrides)) =
            .ok generator) ∨
        (∃ error message,
          builtin.create (.builtinOn machine) files language (.layered (.object overrides)) =
            .error error ∧ error.message? = some message) ↔
      Settings.Answered machine entry.target overrides) := by
  obtain ⟨name, hname⟩ := isSupported_iff.mp hlanguage
  obtain ⟨entry, hentry, _⟩ := wellFormed_builtin.routed.found language name hname
  obtain ⟨base, hbase, hsound⟩ := Catalog.builtin_soundDefaults (some entry.name)
  have hbaseOn : (Catalog.builtinOn machine).defaultsOf (some entry.name) = .ok (.object base) :=
    hbase
  refine ⟨entry, hentry, ?_⟩
  rw [create_of_find hentry, answers_iff]
  exact Catalog.failsOnly_made_iff hbaseOn hsound (.of_wellFormed hoverrides)

/-- Overrides of a naming case that gives no identifiers, and of suffixes that are no texts. -/
def kebabOverrides : Entries :=
  [(Setting.typeCase.key, .text "kebab"), (Setting.schemaSuffixes.key, .integer 5)]

/-- The refusal of the naming case comes before anything is done with the suffixes. -/
theorem kebabOverrides_answered :
    builtin.isSupported "C#" = true ∧ (Value.object kebabOverrides).WellFormed ∧
    ∃ entry, builtin.find "C#" = .ok entry ∧ Settings.Answered {} entry.target kebabOverrides ∧
      ((∃ generator,
          builtin.create (.builtinOn {}) {} "C#" (.layered (.object kebabOverrides)) =
            .ok generator) ∨
        ∃ error message,
          builtin.create (.builtinOn {}) {} "C#" (.layered (.object kebabOverrides)) =
            .error error ∧ error.message? = some message) := by
  have hlanguage : builtin.isSupported "C#" = true := by decide +kernel
  have hwellFormed : (Value.object kebabOverrides).WellFormed := by
    have hsettled : (Value.object kebabOverrides).settle = .object kebabOverrides := rfl
    exact hsettled ▸ (Value.object kebabOverrides).settle_wellFormed
  obtain ⟨entry, hentry, hanswers⟩ := builtin_create_answers_iff hlanguage hwellFormed
  have hmisfit : Settings.misfitCase? (fun setting => kebabOverrides.get? setting.key) =
      some (.text "kebab") := rfl
  have hanswered : Settings.Answered {} entry.target kebabOverrides := {
    options := nofun
    cases := fun value hvalue => by
      rw [hmisfit, Option.some.injEq] at hvalue
      exact hvalue ▸ ⟨rfl, Value.isShowable_text _ _⟩
    later := fun hfit => by
      rw [hmisfit] at hfit
      cases hfit }
  exact ⟨hlanguage, hwellFormed, entry, hentry, hanswered, hanswers.mpr hanswered⟩

/-- Suffixes that are no texts end a request with an error that nobody announced. -/
theorem numberSuffixes_unanswered :
    ¬∀ (files : FileTree) (language : Text) (overrides : Entries),
      builtin.isSupported language = true → (Value.object overrides).WellFormed →
      (∃ generator, builtin.create Catalog.builtin files language (.layered (.object overrides)) =
          .ok generator) ∨
        ∃ error message,
          builtin.create Catalog.builtin files language (.layered (.object overrides)) =
            .error error ∧ error.message? = some message := by
  intro hall
  have hwellFormed : (Value.object [(Setting.schemaSuffixes.key, .integer 5)]).WellFormed :=
    .object (by decide) (List.forall_mem_singleton.mpr (.integer 5))
  have hsilent : (match builtin.create Catalog.builtin {} "csharp"
        (.layered (.object [(Setting.schemaSuffixes.key, .integer 5)])) with
      | .ok _ => true
      | .error error => error.message?.isSome) = false := by decide +kernel
  rcases hall {} "csharp" _ (by decide +kernel) hwellFormed with
    ⟨generator, hcreate⟩ | ⟨error, message, hcreate, hmessage⟩
  · rw [hcreate] at hsilent
    cases hsilent
  · rw [hcreate] at hsilent
    simp only [hmessage, Option.isSome_some, Bool.true_eq_false] at hsilent

end Registry

end RecordSmith
