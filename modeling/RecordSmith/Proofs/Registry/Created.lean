import RecordSmith.Proofs.Generation.Outcome
import RecordSmith.Proofs.Settings.Refusals
import RecordSmith.Proofs.Settings.Saved
import RecordSmith.Registry

/-!
# Generators that a registry creates

A registry creates no generator with naming cases that give no identifiers.  These are the only
settings whose errors are announced, so that a created generator has no error to report: a document
has a result, or it ends the generation with an error that nobody announced.  The result fails to
appear if a source is due, and the indent cannot be written, the line ending is no text or the
marker cannot be shown.
-/

namespace RecordSmith

/-! ## Errors that are not announced -/

namespace Generator

variable {generator : Generator} {document : Schema.Document} {error : GenerationError}

theorem message?_of_indent (h : generator.indent = .error error) : error.message? = none := by
  have hwidth : ∀ width, indentOfWidth generator.machine width = .error error →
      error.message? = none := by
    intro width hfails
    rw [indentOfWidth] at hfails
    split at hfails
    · cases hfails
      rfl
    · split at hfails
      · cases hfails
      · cases hfails
        rfl
  unfold indent at h
  split at h
  · exact hwidth _ h
  · exact hwidth _ h
  · cases h
    rfl

theorem message?_of_lineEnding (h : generator.lineEnding = .error error) :
    error.message? = none := by
  unfold lineEnding at h
  split at h
  · cases h
  · cases h
    rfl

theorem message?_of_checkMarker (h : generator.checkMarker = .error error) :
    error.message? = none := by
  unfold checkMarker at h
  split at h
  · cases h
  · cases h
    rfl

/-- A source that cannot be emitted is not announced. -/
theorem message?_of_emit {record : Schema.Record} {type : TypeDeclaration}
    (h : generator.emit record type = .error error) : error.message? = none := by
  rcases Fallible.bind_eq_error_iff.mp h with hsource | ⟨_, _, hrest⟩
  · rcases Fallible.bind_eq_error_iff.mp hsource with hlay | ⟨_, _, hclean⟩
    · rcases Fallible.bind_eq_error_iff.mp hlay with hindent | ⟨_, _, hdone⟩
      · exact message?_of_indent hindent
      · cases hdone
    · rcases Fallible.bind_eq_error_iff.mp hclean with hending | ⟨_, _, hdone⟩
      · exact message?_of_lineEnding hending
      · cases hdone
  · rcases Fallible.bind_eq_error_iff.mp hrest with hmarker | ⟨_, _, hdone⟩
    · exact message?_of_checkMarker hmarker
    · cases hdone

theorem CasesFit.message?_of_generate (h : generator.CasesFit)
    (herror : generator.generate document = .error error) : error.message? = none := by
  rw [generate] at herror
  split at herror
  case h_1 => cases herror
  case h_2 record _ =>
    obtain ⟨frame, hframe⟩ := h.exists_frame record
    cases h.fields_looksAt record frame.typeName with
    | upTo _ _ _ hproblem =>
        rw [generateRecord_of_invalidDefault hframe hproblem] at herror
        cases herror
    | all _ hnone =>
        rcases Fallible.bind_eq_error_iff.mp herror with hfirst | ⟨found, hfound, hrest⟩
        · rw [hframe] at hfirst
          cases hfirst
        · rw [hframe, Except.ok.injEq] at hfound
          subst hfound
          simp only [hnone] at hrest
          rcases Fallible.bind_eq_error_iff.mp hrest with hemit | ⟨_, _, hdone⟩
          · exact message?_of_emit hemit
          · cases hdone

/-- With naming cases that give identifiers there is no error to report. -/
theorem CasesFit.generateReporting_eq (h : generator.CasesFit) (document : Schema.Document) :
    generator.generateReporting document = generator.generate document := by
  rw [generateReporting]
  cases hresult : generator.generate document with
  | ok result => rfl
  | error error => simp only [h.message?_of_generate hresult]

end Generator

theorem Verdict.ShownBy.not_generationError {verdict : Verdict} {document : Text}
    {result : GenerationResult} (h : verdict.ShownBy document result) :
    ∀ diagnostic ∈ result.diagnostics, diagnostic.finding.kind ≠ .generationError := by
  cases verdict with
  | skipped =>
      obtain ⟨_, reason, hdiagnostics⟩ := h
      rw [hdiagnostics, List.forall_mem_singleton]
      exact fun heq => nomatch heq
  | refused =>
      obtain ⟨before, field, _, earlier, problem, hdiagnostics, hearlier⟩ := h
      rw [hdiagnostics, List.forall_mem_append, List.forall_mem_singleton]
      refine ⟨fun diagnostic hdiagnostic heq => ?_, fun heq => nomatch heq⟩
      obtain ⟨_, other, _, hfield⟩ := hearlier diagnostic hdiagnostic
      cases hfinding : diagnostic.finding with
      | failed error => rw [hfinding] at hfield; cases hfield
      | _ => rw [hfinding] at heq; cases heq
  | accepted =>
      intro diagnostic hdiagnostic heq
      refine h.2 diagnostic hdiagnostic ?_
      rw [heq]
      decide

/-! ## Settings of created generators -/

namespace Catalog

/-- Overrides of settings without a built-in default win over the general one. -/
theorem get_builtin_settings {machine : Machine} {files : FileTree} {language : Option Text}
    {overrides : Entries} {settings : Settings} (hoverrides : overrides.keys.Nodup)
    (h : (builtinOn machine).settings files language (.object overrides) = .ok settings)
    {setting : Setting}
    (hcase : setting ∉ Settings.caseSettings) (hoptions : setting ≠ .languageOptions) :
    settings.get setting =
      (overrides.get? setting.key).getD (({} : Settings).get setting) := by
  obtain ⟨base, fromFile, withFile, merged, hbase, hfile, hwithFile, hmerged, hof⟩ :=
    exists_layers_of_settings h
  cases hfile
  cases hwithFile
  have hkeys : (Entries.keys base).Nodup :=
    (defaultsOf_wellFormed (ofDefaults_wellFormed .null) hbase).nodup_keys
  have hkey : setting.key ≠ Setting.languageOptions.key := by
    intro heq
    rw [← Setting.ofKey?_eq_some_iff, Setting.ofKey?_key, Option.some.injEq] at heq
    exact hoptions heq.symm
  rw [Settings.get_ofEntries (Settings.nodup_keys_merge hkeys hmerged) hof hoptions,
    Settings.get?_merge_of_ne hkey hoverrides hmerged, get?_builtin_defaults hbase hcase hoptions,
    Option.or_none]

end Catalog

namespace Registry

variable {registry : Registry} {catalog : Catalog} {files : FileTree} {language : Text}
variable {generator : Generator}

/-- What a creation that succeeds did. -/
theorem exists_settings_of_create {value : Value}
    (h : registry.create catalog files language (.layered value) = .ok generator) :
    ∃ entry, registry.find language = .ok entry ∧
      (SettingsSource.layered value).settings catalog files entry.name =
        .ok generator.settings ∧
      generator.machine = catalog.machine := by
  obtain ⟨entry, hentry, hrest⟩ := Fallible.bind_eq_ok_iff.mp h
  dsimp only at hrest
  split at hrest
  case isTrue => cases hrest
  case isFalse =>
    obtain ⟨settings, hsettings, hbuild⟩ :=
      Fallible.bind_eq_ok_iff.mp (Fallible.mapError_eq_ok_iff.mp hrest)
    obtain ⟨options, _, hgenerator⟩ := Fallible.bind_eq_ok_iff.mp hbuild
    cases hgenerator
    exact ⟨entry, hentry, hsettings, rfl⟩

/-- The naming cases of a created generator give identifiers. -/
theorem casesFit_of_create {value : Value}
    (h : registry.create catalog files language (.layered value) = .ok generator) :
    generator.CasesFit := by
  obtain ⟨entry, _, hsettings, _⟩ := exists_settings_of_create h
  have hadmissible : generator.settings.Admissible catalog.machine := by
    unfold SettingsSource.settings at hsettings
    split at hsettings
    · cases ‹SettingsSource.layered value = .given _›
    · exact Catalog.admissible_of_settings hsettings
    · exact Catalog.admissible_of_settings hsettings
  intro setting hsetting
  exact Settings.checkCase_eq_ok_iff.mp (hadmissible.cases setting hsetting)

/-- What becomes of a document with a built-in generator that overrides were given for.  The result
shows the verdict on the document, and no error is ever reported in it.  There is none exactly if a
source is due and the indent, the line ending or the marker that the overrides give, or else the
default, cannot be used on the machine. -/
theorem builtin_generateReporting {machine : Machine} {overrides : Entries}
    (hoverrides : overrides.keys.Nodup)
    (hcreate : builtin.create (.builtinOn machine) files language (.layered (.object overrides)) =
      .ok generator) (document : Schema.Document) :
    ((∃ result, generator.generateReporting document = .ok result) ↔
      (Verdict.accepted.AppliesTo document.content → generator.CanEmit)) ∧
    (∀ result, generator.generateReporting document = .ok result →
      (∃ verdict : Verdict, verdict.AppliesTo document.content ∧
        verdict.ShownBy document.name result) ∧
      ∀ diagnostic ∈ result.diagnostics, diagnostic.finding.kind ≠ .generationError) ∧
    generator.machine = machine ∧
    ∀ setting ∉ Settings.caseSettings, setting ≠ .languageOptions →
      generator.settings.get setting =
        (overrides.get? setting.key).getD (({} : Settings).get setting) := by
  have hcases := casesFit_of_create hcreate
  obtain ⟨entry, _, hsettings, hmachine⟩ := exists_settings_of_create hcreate
  obtain ⟨verdict, happlies⟩ := Verdict.exists_appliesTo document.content
  have haccepted : Verdict.accepted.AppliesTo document.content ↔ verdict = .accepted :=
    ⟨fun hother => happlies.unique hother, fun heq => heq ▸ happlies⟩
  obtain ⟨hresults, hshown⟩ := hcases.generate_spec happlies
  rw [hcases.generateReporting_eq, haccepted]
  refine ⟨hresults, fun result hresult => ?_, hmachine, fun setting => ?_⟩
  · obtain ⟨_, hshows, _⟩ := hshown result hresult
    exact ⟨⟨verdict, happlies, hshows⟩, hshows.not_generationError⟩
  · exact Catalog.get_builtin_settings hoverrides hsettings

/-- Overrides of the indent. -/
def narrowIndent : Entries := [(Setting.indentSize.key, .integer 2)]

theorem narrowIndent_generateReporting :
    narrowIndent.keys.Nodup ∧
    ∃ generator, builtin.create (.builtinOn {}) {} "py" (.layered (.object narrowIndent)) =
        .ok generator ∧
      generator.settings.indentSize = .integer 2 ∧ generator.CanEmit ∧
      ∃ result, generator.generateReporting mixedFields = .ok result ∧
        ∃ verdict : Verdict, verdict.ShownBy mixedFields.name result := by
  have hkeys : narrowIndent.keys.Nodup := by decide
  have hcreated : (builtin.create (.builtinOn {}) {} "py"
      (.layered (.object narrowIndent))).toOption.any (fun _ => true) = true := by
    decide +kernel
  obtain ⟨generator, hcreate, _⟩ := Fallible.exists_of_any hcreated
  obtain ⟨hresults, hshown, hmachine, hsettings⟩ :=
    builtin_generateReporting hkeys hcreate mixedFields
  have hindent : generator.settings.indentSize = .integer 2 :=
    hsettings .indentSize (by decide) (by decide)
  have hending : generator.settings.lineEnding = .text [0x0A] :=
    hsettings .lineEnding (by decide) (by decide)
  have hmarker : generator.settings.artifactMarker = .text "g" :=
    hsettings .artifactMarker (by decide) (by decide)
  have hemit : generator.CanEmit := {
    indent := ⟨2, by rw [hindent]; rfl, by decide, by decide, by rw [hmachine]; rfl⟩
    lineEnding := ⟨_, hending⟩
    marker := hmarker ▸ Value.isShowable_text _ _ }
  obtain ⟨result, hresult⟩ := hresults.mpr fun _ => hemit
  obtain ⟨⟨verdict, _, hshows⟩, _⟩ := hshown result hresult
  exact ⟨hkeys, generator, hcreate, hindent, hemit, result, hresult, verdict, hshows⟩

/-- A generator is created with a text as the indent, and then it has no result for a record. -/
theorem textIndent_has_no_result :
    ¬∀ (files : FileTree) (language : Text) (overrides : Entries) (generator : Generator)
      (document : Schema.Document), overrides.keys.Nodup →
      builtin.create Catalog.builtin files language (.layered (.object overrides)) =
        .ok generator →
      ∃ result, generator.generateReporting document = .ok result := by
  intro hall
  have hfails : (builtin.create Catalog.builtin {} "csharp"
      (.layered (.object [(Setting.indentSize.key, .text "x")]))).toOption.any (fun generator =>
        (generator.generateReporting mixedFields).toOption.isNone) = true := by
    decide +kernel
  obtain ⟨generator, hcreate, hnone⟩ := Fallible.exists_of_any hfails
  obtain ⟨result, hresult⟩ := hall _ _ _ generator mixedFields (by decide) hcreate
  rw [hresult] at hnone
  cases hnone

end Registry

end RecordSmith
