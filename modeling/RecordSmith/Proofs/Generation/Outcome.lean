import Mathlib.Logic.ExistsUnique
import RecordSmith.Proofs.Generation.Fields
import RecordSmith.Proofs.Generator.Source
import RecordSmith.Settings.Layers

/-!
# What becomes of a document

A document is skipped, refused or accepted.  It is skipped if it declares no record with
a namespace and fields, refused if a default does not fit its field, and accepted
otherwise.  With settings of the right kinds the result of the generation shows which
of the three it was, and nothing else can happen, an indent apart that no text can hold.
-/

namespace RecordSmith

open Schema (Field)

/-! ## Settings of the right kinds -/

/-- The settings hold what the generation asks for: a whole number as the indent, texts
as line ending and marker, and naming cases that give identifiers. -/
structure Generator.WellTyped (generator : Generator) : Prop where
  indentSize : ∃ width, generator.settings.indentSize.number? = some (.inl width)
  lineEnding : ∃ t, generator.settings.lineEnding = .text t
  artifactMarker : ∃ t, generator.settings.artifactMarker = .text t
  namingCases : ∀ setting ∈ Settings.caseSettings,
    Settings.isIdentifierCase (generator.settings.get setting) = true

/-- The naming cases of the settings give identifiers. -/
def Generator.CasesFit (generator : Generator) : Prop :=
  ∀ setting ∈ Settings.caseSettings,
    Settings.isIdentifierCase (generator.settings.get setting) = true

/-- What a source needs besides: an indent that can be written, a text as line ending, and a marker
that can be shown. -/
structure Generator.CanEmit (generator : Generator) : Prop where
  indent : generator.IndentFits
  lineEnding : ∃ t, generator.settings.lineEnding = .text t
  marker : generator.settings.artifactMarker.IsShowable generator.machine.shownDepth

namespace Generator

variable {generator : Generator}

theorem WellTyped.canEmit_iff (h : generator.WellTyped) :
    generator.CanEmit ↔ generator.IndentFits := by
  obtain ⟨marker, hmarker⟩ := h.artifactMarker
  have hshown : generator.settings.artifactMarker.IsShowable generator.machine.shownDepth :=
    hmarker ▸ Value.isShowable_text _ marker
  exact ⟨CanEmit.indent, fun hindent => ⟨hindent, h.lineEnding, hshown⟩⟩

theorem CasesFit.exists_namingCase (h : generator.CasesFit) {setting : Setting}
    (hsetting : setting ∈ Settings.caseSettings) :
    ∃ spelling, generator.namingCase setting = .ok spelling := by
  have hcase := h setting hsetting
  rw [namingCase]
  cases hname : (generator.settings.get setting).text?.bind NamingCase.ofName? with
  | none => simp [Settings.isIdentifierCase, hname] at hcase
  | some spelling => exact ⟨spelling, rfl⟩

theorem CasesFit.exists_frame (h : generator.CasesFit) (record : Schema.Record) :
    ∃ frame, generator.frame record = .ok frame := by
  have hspaceSetting : Setting.namespaceCase ∈ Settings.caseSettings := by decide
  have htypeSetting : Setting.typeCase ∈ Settings.caseSettings := by decide
  obtain ⟨spaceCase, hspace⟩ := h.exists_namingCase hspaceSetting
  obtain ⟨typeCase, htype⟩ := h.exists_namingCase htypeSetting
  rw [frame, hspace, htype]
  exact ⟨_, rfl⟩

/-- Nothing about the type decides on whether its source can be emitted. -/
theorem exists_emit_iff (record : Schema.Record) (type : TypeDeclaration) :
    (∃ generated, generator.emit record type = .ok generated) ↔ generator.CanEmit := by
  constructor
  · rintro ⟨generated, hemit⟩
    obtain ⟨source, hsource, hmarker, _⟩ := emit_eq_ok_iff.mp hemit
    obtain ⟨indent, ending, hindent, hending, _⟩ := source_eq_ok_iff.mp hsource
    exact ⟨exists_indent_iff.mp ⟨indent, hindent⟩, ⟨ending, hending⟩,
      checkMarker_eq_ok_iff.mp hmarker⟩
  · rintro ⟨hfits, ⟨ending, hending⟩, hmarker⟩
    obtain ⟨indent, hindent⟩ := exists_indent_iff.mpr hfits
    have hsource : generator.source type =
        .ok (Layout.cleanUp ending (generator.layout indent type).assemble) :=
      source_eq_ok_iff.mpr ⟨indent, ending, hindent, hending, rfl⟩
    exact ⟨_, emit_eq_ok_iff.mpr ⟨_, hsource, checkMarker_eq_ok_iff.mpr hmarker, rfl⟩⟩

end Generator

/-! ## Verdicts -/

/-- What can become of a document. -/
inductive Verdict where
  | skipped
  | refused
  | accepted

/-- The text declares a record with fields and with a namespace that is more than white
space once it is normalized. -/
structure DeclaresUsable (content : Text) (record : Schema.Record) : Prop where
  declares : Schema.Declaration.parse? content = some (.record record)
  space : Text.trim (Namespace.normalize (record.space.getD [])) ≠ []
  fields : record.fields ≠ []

/-- What the verdict says about the text of a document. -/
def Verdict.AppliesTo (content : Text) : Verdict → Prop
  | skipped => ∀ record, ¬DeclaresUsable content record
  | refused => ∃ record, DeclaresUsable content record ∧ ∃ field ∈ record.fields, field.Misfits
  | accepted => ∃ record, DeclaresUsable content record ∧
      ∀ field ∈ record.fields, ¬field.Misfits

/-- There is no output because the default of a field does not fit: that is the last
finding and the only one of its kind, and all others are about fields before. -/
def GenerationResult.RefusedFor (result : GenerationResult) (document : Text)
    (before : List Text) (field : Text) : Prop :=
  result.generated = none ∧ ∃ earlier problem,
    result.diagnostics = earlier ++ [⟨document, .invalidDefault field problem⟩] ∧
    ∀ diagnostic ∈ earlier, diagnostic.finding.kind ≠ .invalidDefault ∧
      ∃ other ∈ before, diagnostic.finding.field? = some other

/-- What the verdict says about the result for a document. -/
def Verdict.ShownBy (document : Text) (result : GenerationResult) : Verdict → Prop
  | skipped => result.generated = none ∧
      ∃ reason, result.diagnostics = [⟨document, .skipped reason⟩]
  | refused => ∃ before field, result.RefusedFor document before field
  | accepted => result.generated.isSome = true ∧ ∀ diagnostic ∈ result.diagnostics,
      diagnostic.finding.kind ∉
        [Finding.Kind.skippedDocument, .invalidDefault, .generationError]

section Verdicts

variable {content document : Text} {result : GenerationResult} {verdict other : Verdict}

theorem DeclaresUsable.unique {record found : Schema.Record}
    (h : DeclaresUsable content record) (hfound : DeclaresUsable content found) :
    record = found := by
  have hparse := h.declares
  rw [hfound.declares, Option.some.injEq, Schema.Declaration.record.injEq] at hparse
  exact hparse.symm

theorem Verdict.AppliesTo.unique (h : verdict.AppliesTo content)
    (hother : other.AppliesTo content) : verdict = other := by
  cases verdict with
  | skipped =>
      cases other with
      | skipped => rfl
      | refused => obtain ⟨record, husable, _⟩ := hother; exact absurd husable (h record)
      | accepted => obtain ⟨record, husable, _⟩ := hother; exact absurd husable (h record)
  | refused =>
      obtain ⟨record, husable, field, hfield, hmisfits⟩ := h
      cases other with
      | skipped => exact absurd husable (hother record)
      | refused => rfl
      | accepted =>
          obtain ⟨found, hfound, hfit⟩ := hother
          exact absurd hmisfits (hfit field (husable.unique hfound ▸ hfield))
  | accepted =>
      obtain ⟨record, husable, hfit⟩ := h
      cases other with
      | skipped => exact absurd husable (hother record)
      | refused =>
          obtain ⟨found, hfound, field, hfield, hmisfits⟩ := hother
          exact absurd hmisfits (hfit field (hfound.unique husable ▸ hfield))
      | accepted => rfl

theorem GenerationResult.RefusedFor.not_skipped {before : List Text} {field : Text}
    (h : result.RefusedFor document before field) :
    ¬Verdict.skipped.ShownBy document result := by
  obtain ⟨_, earlier, problem, hrefused, _⟩ := h
  rintro ⟨_, reason, hskipped⟩
  rw [hskipped] at hrefused
  have hlast := congrArg List.getLast? hrefused
  simp at hlast

theorem Verdict.ShownBy.unique (h : verdict.ShownBy document result)
    (hother : other.ShownBy document result) : verdict = other := by
  have hsource : ∀ {shown : Verdict}, shown.ShownBy document result →
      (shown = .accepted ↔ result.generated.isSome = true) := by
    intro shown hshown
    cases shown with
    | skipped => simp [hshown.1]
    | refused => obtain ⟨_, _, hnone, _⟩ := hshown; simp [hnone]
    | accepted => simp [hshown.1]
  have hboth : verdict = .accepted ↔ other = .accepted :=
    (hsource h).trans (hsource hother).symm
  cases verdict with
  | skipped =>
      cases other with
      | skipped => rfl
      | refused => obtain ⟨_, _, hrefused⟩ := hother; exact absurd h hrefused.not_skipped
      | accepted => simp at hboth
  | refused =>
      obtain ⟨_, _, hrefused⟩ := h
      cases other with
      | skipped => exact absurd hother hrefused.not_skipped
      | refused => rfl
      | accepted => simp at hboth
  | accepted => exact (hboth.mp rfl).symm

end Verdicts

/-! ## The verdict on a document -/

theorem eligibleRecord_eq_ok_iff {content : Text} {record : Schema.Record} :
    eligibleRecord content = .ok record ↔ DeclaresUsable content record := by
  constructor
  · intro h
    unfold eligibleRecord at h
    split at h
    case h_1 => cases h
    case h_2 => cases h
    case h_3 found hparse =>
      split at h
      case isTrue => cases h
      case isFalse hspace =>
        split at h
        case isTrue => cases h
        case isFalse hfields =>
          cases h
          exact ⟨hparse, by simpa [Schema.Record.hasNamespace] using hspace,
            by simpa using hfields⟩
  · intro h
    have hspace : record.hasNamespace = true := by
      simpa [Schema.Record.hasNamespace] using h.space
    have hfields : record.fields.isEmpty = false := by simpa using h.fields
    simp [eligibleRecord, h.declares, hspace, hfields]

/-- The fields of a record have been looked at up to the first one that misfits. -/
inductive FieldOutcomes.LooksAt (fields : List Field) (outcomes : FieldOutcomes) : Prop where
  | all (hfit : ∀ field ∈ fields, ¬field.Misfits) (hnone : outcomes.interruption = none)
  | upTo {before after : List Field} {field : Field} {problem : DefaultProblem}
      (hfields : fields = before ++ field :: after) (hfit : ∀ earlier ∈ before, ¬earlier.Misfits)
      (hmisfits : field.Misfits)
      (hproblem : outcomes.interruption = some (.invalidDefault field.name problem))
      (hfindings : ∀ finding ∈ outcomes.findings,
        ∃ earlier ∈ before, finding.field? = some earlier.name)

theorem declareFields_looksAt (target : Target) (spelling : NamingCase) (pool : NamePool)
    (fields : List Field) :
    (declareFields target (.ok spelling) pool fields).LooksAt fields := by
  obtain ⟨seen, rest, hfields, houtcomes, hstop⟩ :=
    declareFields_spec target (.ok spelling) pool fields
  have hfit : ∀ field ∈ seen, ¬field.Misfits := by
    have hboth := houtcomes.imp fun _ _ hanswers => And.intro hanswers.not_misfits hanswers
    exact ((List.forall₂_and_left seen _).mp hboth).1
  generalize hinterruption :
    (declareFields target (.ok spelling) pool fields).interruption = interruption at hstop
  cases hstop with
  | done =>
      rw [List.append_nil] at hfields
      exact .all (hfields ▸ hfit) hinterruption
  | misfit hmisfits problem after =>
      refine .upTo hfields hfit hmisfits hinterruption fun finding hfinding => ?_
      have hmem := (findings_sublist houtcomes).subset
        (List.mem_map.mpr ⟨finding, hfinding, rfl⟩)
      obtain ⟨earlier, hearlier, heq⟩ := List.mem_map.mp hmem
      exact ⟨earlier, hearlier, heq.symm⟩
  | failed hcase => cases hcase

/-! ## Results that show the verdict -/

namespace Generator

variable {generator : Generator} {document : Schema.Document}

theorem generate_of_usable {record : Schema.Record}
    (husable : DeclaresUsable document.content record) :
    generator.generate document = generator.generateRecord document.name record := by
  rw [generate, eligibleRecord_eq_ok_iff.mpr husable]

theorem exists_generate_skipped (generator : Generator)
    (h : Verdict.skipped.AppliesTo document.content) :
    ∃ reason, generator.generate document =
      .ok (.withoutOutput document.name [.skipped reason]) := by
  cases heligible : eligibleRecord document.content with
  | ok record => exact absurd (eligibleRecord_eq_ok_iff.mp heligible) (h record)
  | error reason => exact ⟨reason, by rw [generate, heligible]⟩

/-- The fields of a record are looked at up to the first one that misfits. -/
theorem CasesFit.fields_looksAt (h : generator.CasesFit) (record : Schema.Record)
    (typeName : Text) : (generator.fields record typeName).LooksAt record.fields := by
  have hsetting : Setting.fieldCase ∈ Settings.caseSettings := by decide
  obtain ⟨spelling, hspelling⟩ := h.exists_namingCase hsetting
  rw [fields, hspelling]
  exact declareFields_looksAt _ _ _ _

/-- The document is refused for the first field of its record that misfits. -/
def RefusesFirstMisfit (document : Schema.Document) (result : GenerationResult) : Prop :=
  ∃ record before field after, DeclaresUsable document.content record ∧
    record.fields = before ++ field :: after ∧
    (∀ earlier ∈ before, ¬earlier.Misfits) ∧ field.Misfits ∧
    result.RefusedFor document.name (before.map (·.name)) field.name

theorem RefusesFirstMisfit.shownBy {result : GenerationResult}
    (h : RefusesFirstMisfit document result) :
    Verdict.refused.ShownBy document.name result := by
  obtain ⟨_, _, _, _, _, _, _, _, hrefused⟩ := h
  exact ⟨_, _, hrefused⟩

/-- A record with a field that misfits is refused for the first such field. -/
theorem CasesFit.exists_generate_refused (h : generator.CasesFit)
    (hrefused : Verdict.refused.AppliesTo document.content) :
    ∃ result, generator.generate document = .ok result ∧
      result.documentName = document.name ∧ RefusesFirstMisfit document result := by
  obtain ⟨record, husable, misfit, hmem, hmisfit⟩ := hrefused
  obtain ⟨frame, hframe⟩ := h.exists_frame record
  cases h.fields_looksAt record frame.typeName with
  | all hfit _ => exact absurd hmisfit (hfit misfit hmem)
  | @upTo before after field problem hfields hfit hmisfits hproblem hfindings =>
      let findings := (generator.fields record frame.typeName).findings
      let result := GenerationResult.withoutOutput document.name
        (findings ++ [.invalidDefault field.name problem])
      have hresult : generator.generate document = .ok result := by
        rw [generate_of_usable husable, generateRecord_of_invalidDefault hframe hproblem]
      have hdiagnostics : result.diagnostics = findings.map (⟨document.name, ·⟩) ++
          [⟨document.name, .invalidDefault field.name problem⟩] := List.map_append
      refine ⟨result, hresult, rfl, record, before, field, after, husable, hfields, hfit,
        hmisfits, rfl, _, problem, hdiagnostics, fun diagnostic hdiagnostic => ?_⟩
      obtain ⟨finding, hfinding, rfl⟩ := List.mem_map.mp hdiagnostic
      obtain ⟨earlier, hearlier, hname⟩ := hfindings finding hfinding
      constructor
      · rcases kind_of_mem_findings _ finding hfinding with hkind | hkind
        · simp [hkind]
        · simp [hkind]
      · exact ⟨earlier.name, List.mem_map.mpr ⟨earlier, hearlier, rfl⟩, hname⟩

/-- A record without such a field gives a source if one can be emitted. -/
theorem CasesFit.generate_accepted (h : generator.CasesFit)
    (haccepted : Verdict.accepted.AppliesTo document.content) :
    ((∃ result, generator.generate document = .ok result) ↔ generator.CanEmit) ∧
      ∀ result, generator.generate document = .ok result →
        result.documentName = document.name ∧
        Verdict.accepted.ShownBy document.name result := by
  obtain ⟨record, husable, hfit⟩ := haccepted
  obtain ⟨frame, hframe⟩ := h.exists_frame record
  rw [generate_of_usable husable]
  cases h.fields_looksAt record frame.typeName with
  | upTo hfields _ hmisfits =>
      exact absurd hmisfits (hfit _ (hfields ▸ List.mem_append_right _ List.mem_cons_self))
  | all _ hnone =>
      constructor
      · rw [← exists_emit_iff record
          { frame with members := (generator.fields record frame.typeName).members }]
        constructor
        · rintro ⟨result, hresult⟩
          obtain ⟨generated, hemit, _⟩ := (generateRecord_eq_ok_iff hframe hnone).mp hresult
          exact ⟨generated, hemit⟩
        · rintro ⟨generated, hemit⟩
          exact ⟨_, (generateRecord_eq_ok_iff hframe hnone).mpr ⟨generated, hemit, rfl⟩⟩
      · intro result hresult
        obtain ⟨generated, _, rfl⟩ := (generateRecord_eq_ok_iff hframe hnone).mp hresult
        refine ⟨rfl, rfl, fun diagnostic hdiagnostic => ?_⟩
        obtain ⟨finding, hfinding, rfl⟩ := List.mem_map.mp hdiagnostic
        rcases kind_of_mem_findings _ finding hfinding with hkind | hkind
        · simp [hkind]
        · simp [hkind]

/-- What the verdict on a document means for its generation. -/
theorem CasesFit.generate_spec (h : generator.CasesFit) {verdict : Verdict}
    (happlies : verdict.AppliesTo document.content) :
    ((∃ result, generator.generate document = .ok result) ↔
      (verdict = .accepted → generator.CanEmit)) ∧
    ∀ result, generator.generate document = .ok result →
      result.documentName = document.name ∧ verdict.ShownBy document.name result ∧
        (verdict = .refused → RefusesFirstMisfit document result) := by
  cases verdict with
  | skipped =>
      obtain ⟨reason, hresult⟩ := exists_generate_skipped generator happlies
      rw [hresult]
      refine ⟨⟨fun _ heq => (nomatch heq), fun _ => ⟨_, rfl⟩⟩, fun result heq => ?_⟩
      cases heq
      exact ⟨rfl, ⟨rfl, reason, rfl⟩, fun heq => nomatch heq⟩
  | refused =>
      obtain ⟨result, hresult, hname, hrefuses⟩ := h.exists_generate_refused happlies
      rw [hresult]
      refine ⟨⟨fun _ heq => (nomatch heq), fun _ => ⟨_, rfl⟩⟩, fun result heq => ?_⟩
      cases heq
      exact ⟨hname, hrefuses.shownBy, fun _ => hrefuses⟩
  | accepted =>
      obtain ⟨hiff, hshown⟩ := h.generate_accepted happlies
      refine ⟨by simpa using hiff, fun result hresult => ?_⟩
      obtain ⟨hname, hsource⟩ := hshown result hresult
      exact ⟨hname, hsource, fun heq => nomatch heq⟩

theorem WellTyped.generate_spec (h : generator.WellTyped) {verdict : Verdict}
    (happlies : verdict.AppliesTo document.content) :
    ((∃ result, generator.generate document = .ok result) ↔
      (verdict = .accepted → generator.IndentFits)) ∧
    ∀ result, generator.generate document = .ok result →
      result.documentName = document.name ∧ verdict.ShownBy document.name result ∧
        (verdict = .refused → RefusesFirstMisfit document result) := by
  have hcases : generator.CasesFit := h.namingCases
  rw [← h.canEmit_iff]
  exact hcases.generate_spec happlies

end Generator

theorem Verdict.exists_appliesTo (content : Text) :
    ∃ verdict : Verdict, verdict.AppliesTo content := by
  by_cases husable : ∃ record, DeclaresUsable content record
  · obtain ⟨record, husable⟩ := husable
    by_cases hmisfit : ∃ field ∈ record.fields, field.Misfits
    · exact ⟨.refused, record, husable, hmisfit⟩
    · exact ⟨.accepted, record, husable, fun field hfield hmisfits =>
        hmisfit ⟨field, hfield, hmisfits⟩⟩
  · exact ⟨.skipped, fun record h => husable ⟨record, h⟩⟩

/-- With settings of the right kinds the generation has a result, unless a source is due
and the indent cannot be written.  The result shows one verdict, which is the one that
applies to the document; a refusal names the first field that misfits. -/
theorem document_has_one_verdict {generator : Generator} (h : generator.WellTyped)
    (document : Schema.Document) :
    ((∃ result, generator.generate document = .ok result) ↔
      (Verdict.accepted.AppliesTo document.content → generator.IndentFits)) ∧
    ∀ result, generator.generate document = .ok result →
      result.documentName = document.name ∧
      (∃! verdict, Verdict.ShownBy document.name result verdict) ∧
      (∀ verdict, Verdict.ShownBy document.name result verdict ↔
        Verdict.AppliesTo document.content verdict) ∧
      (Verdict.refused.AppliesTo document.content →
        Generator.RefusesFirstMisfit document result) := by
  obtain ⟨verdict, happlies⟩ := Verdict.exists_appliesTo document.content
  obtain ⟨hresults, hshown⟩ := h.generate_spec happlies
  have hverdict : ∀ other : Verdict, other.AppliesTo document.content ↔ verdict = other :=
    fun other => ⟨fun hother => happlies.unique hother, fun heq => heq ▸ happlies⟩
  constructor
  · rw [hverdict]
    exact hresults
  · intro result hresult
    obtain ⟨hname, hshows, hrefuses⟩ := hshown result hresult
    refine ⟨hname, ⟨verdict, hshows, fun other hother => hother.unique hshows⟩, ?_, ?_⟩
    · intro other
      rw [hverdict]
      exact ⟨fun hother => hshows.unique hother, fun heq => heq ▸ hshows⟩
    · rw [hverdict]
      exact hrefuses

theorem Generator.wellTyped_standard (target : Target) : (standard target).WellTyped := by
  cases target with
  | csharp => exact ⟨⟨4, rfl⟩, ⟨_, rfl⟩, ⟨_, rfl⟩, by decide +kernel⟩
  | python => exact ⟨⟨4, rfl⟩, ⟨_, rfl⟩, ⟨_, rfl⟩, by decide +kernel⟩

/-- A record with a field of another type, one whose default fits, and one that is not
nullable but has null as its default. -/
def misfitField : Schema.Document where
  name := "misfit"
  content :=
    ["\x7b\"type\": \"record\", ", "\"name\": \"Misfit\", ", "\"namespace\": \"a\", ",
      "\"fields\": [", "\x7b\"name\": \"id\", ", "\"type\": \"long\"\x7d, ",
      "\x7b\"name\": \"flag\", ", "\"type\": [\"null\", \"boolean\"], ",
      "\"default\": true\x7d, ", "\x7b\"name\": \"text\", ", "\"type\": \"string\", ",
      "\"default\": null\x7d]\x7d"].flatMap Text.ofString

theorem misfitField_has_one_verdict :
    (Generator.standard .python).WellTyped ∧
    ∃ result, (Generator.standard .python).generate misfitField = .ok result ∧
      (∃! verdict, Verdict.ShownBy misfitField.name result verdict) ∧
      Verdict.refused.AppliesTo misfitField.content ∧
      Generator.RefusesFirstMisfit misfitField result := by
  have hwellTyped := Generator.wellTyped_standard .python
  have hrefused : ((Generator.standard .python).generate misfitField).toOption.any
      (fun result => !result.success && result.diagnostics.length == 2) = true := by
    decide +kernel
  obtain ⟨result, hresult, hshape⟩ := Fallible.exists_of_any hrefused
  rw [Bool.and_eq_true, Bool.not_eq_true', beq_iff_eq] at hshape
  obtain ⟨hnone, hlength⟩ := hshape
  obtain ⟨_, hunique, hiff, hrefuses⟩ :=
    (document_has_one_verdict hwellTyped misfitField).2 result hresult
  have happlies : Verdict.refused.AppliesTo misfitField.content := by
    obtain ⟨verdict, hshown, _⟩ := hunique
    cases verdict with
    | skipped =>
        obtain ⟨_, reason, hdiagnostics⟩ := hshown
        rw [hdiagnostics] at hlength
        cases hlength
    | refused => exact (hiff .refused).mp hshown
    | accepted =>
        rw [GenerationResult.success, hshown.1] at hnone
        cases hnone
  exact ⟨hwellTyped, result, hresult, hunique, happlies, hrefuses happlies⟩

/-- The standard generator with an indent below the numbers that can be counted. -/
def countlessIndent : Generator :=
  { Generator.standard .csharp with
    settings := { (Generator.standard .csharp).settings with
      indentSize := .integer (-(Generator.countLimit : Int) - 1) } }

/-- A whole number as the indent is not enough for a result. -/
theorem countlessIndent_has_no_result :
    ¬∀ (generator : Generator) (document : Schema.Document), generator.WellTyped →
      ∃ result, generator.generate document = .ok result := by
  intro hall
  have hwellTyped : countlessIndent.WellTyped :=
    ⟨⟨_, rfl⟩, ⟨_, rfl⟩, ⟨_, rfl⟩, by decide +kernel⟩
  obtain ⟨result, hresult⟩ := hall countlessIndent mixedFields hwellTyped
  have hfails : (countlessIndent.generate mixedFields).toOption.isNone = true := by
    decide +kernel
  rw [hresult] at hfails
  cases hfails

end RecordSmith
