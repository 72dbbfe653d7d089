import RecordSmith.Proofs.Generation.Fields
import RecordSmith.Proofs.Generation.Names

/-!
# Reports of name collisions

A member gets the identifier that its field wants, unless the type or a member before it is called
like that.  Then it gets the least number that makes the identifier a new one, and one collision is
reported for its field.  No other collisions are reported.
-/

namespace RecordSmith

open Schema (Field)

/-! ## Names in turn -/

/-- The field that an outcome is about. -/
def FieldOutcome.field : FieldOutcome → Text
  | member declaration _ => declaration.wireName
  | dropped field _ => field

section Turns

variable {wish : Text → Text} {used : List Text} {before after : List FieldOutcome}
variable {member : MemberDeclaration} {wanted : Option Text}

/-- Where a member has its turn, the names before it are used. -/
theorem NamedInTurn.at_member
    (h : NamedInTurn wish used (before ++ .member member wanted :: after)) :
    let taken := used ++ (before.filterMap FieldOutcome.member?).map (·.name)
    member.name =
        NamePool.resolveConflict taken (wish member.wireName) NamePool.defaultSuffix ∧
      wanted = if wish member.wireName ∈ taken then some (wish member.wireName) else none := by
  induction before generalizing used with
  | nil =>
      simp only [List.filterMap_nil, List.map_nil, List.append_nil]
      cases h with
      | member hname _ => exact ⟨hname, rfl⟩
  | cons outcome rest ih =>
      cases h with
      | dropped field reason h => exact ih h
      | @member _ _ declaration hname h =>
          have hturn := ih h
          dsimp only at hturn
          rw [List.append_assoc] at hturn
          exact hturn

/-- The members of a list of outcomes split where the list does. -/
theorem exists_outcomes_of_members {outcomes : List FieldOutcome}
    {earlier later : List MemberDeclaration}
    (h : outcomes.filterMap FieldOutcome.member? = earlier ++ member :: later) :
    ∃ before wanted after, outcomes = before ++ .member member wanted :: after ∧
      before.filterMap FieldOutcome.member? = earlier := by
  obtain ⟨first, second, rfl, hearlier, hrest⟩ := List.filterMap_eq_append_iff.mp h
  obtain ⟨skipped, outcome, after, rfl, hskipped, houtcome, _⟩ :=
    List.filterMap_eq_cons_iff.mp hrest
  have hnone : skipped.filterMap FieldOutcome.member? = [] :=
    List.filterMap_eq_nil_iff.mpr hskipped
  cases outcome with
  | dropped field reason => cases houtcome
  | member declaration wanted =>
      cases houtcome
      refine ⟨first ++ skipped, wanted, after, (List.append_assoc _ _ _).symm, ?_⟩
      rw [List.filterMap_append, hearlier, hnone, List.append_nil]

end Turns

/-! ## Findings about a field -/

section Findings

variable {outcome : FieldOutcome} {before after outcomes : List FieldOutcome}

/-- A finding names the field of its outcome. -/
theorem FieldOutcome.field?_of_finding? {finding : Finding}
    (h : outcome.finding? = some finding) : finding.field? = some outcome.field := by
  cases outcome with
  | member declaration wanted =>
      obtain ⟨identifier, _, rfl⟩ := Option.map_eq_some_iff.mp h
      rfl
  | dropped field reason =>
      cases h
      rfl

theorem map_field_of_answers {target : Target} {fields : List Field}
    (h : List.Forall₂ (FieldOutcome.Answers target) fields outcomes) :
    outcomes.map FieldOutcome.field = fields.map (·.name) := by
  induction h with
  | nil => rfl
  | cons hfirst _ ih =>
      rw [List.map_cons, List.map_cons, ih]
      cases hfirst with
      | member hdeclares wanted => rw [FieldOutcome.field, hdeclares.wireName]
      | dropped hunsupported reason => rfl

/-- Outcomes of other fields have no findings about this one. -/
theorem filter_findings_of_ne {field : Text}
    (h : ∀ outcome ∈ outcomes, outcome.field ≠ field) :
    (outcomes.filterMap FieldOutcome.finding?).filter (·.field? == some field) = [] := by
  refine List.filter_eq_nil_iff.mpr fun finding hfinding => ?_
  obtain ⟨outcome, houtcome, hfound⟩ := List.mem_filterMap.mp hfinding
  rw [FieldOutcome.field?_of_finding? hfound]
  simpa using h outcome houtcome

/-- All that is found about a field is what its outcome says, if fields have different names. -/
theorem filter_findings (h : ((before ++ outcome :: after).map FieldOutcome.field).Nodup) :
    ((before ++ outcome :: after).filterMap FieldOutcome.finding?).filter
        (·.field? == some outcome.field) = outcome.finding?.toList := by
  rw [List.map_append, List.map_cons, List.nodup_append, List.nodup_cons] at h
  obtain ⟨_, ⟨hafter, _⟩, hbefore⟩ := h
  have hotherBefore : ∀ other ∈ before, other.field ≠ outcome.field :=
    fun other hother => hbefore _ (List.mem_map_of_mem hother) _ List.mem_cons_self
  have hotherAfter : ∀ other ∈ after, other.field ≠ outcome.field :=
    fun other hother heq => hafter (heq ▸ List.mem_map_of_mem hother)
  rw [List.filterMap_append, List.filter_append, filter_findings_of_ne hotherBefore,
    List.nil_append, List.filterMap_cons]
  cases hfound : outcome.finding? with
  | none => exact filter_findings_of_ne hotherAfter
  | some finding =>
      rw [List.filter_cons_of_pos (by simp [FieldOutcome.field?_of_finding? hfound]),
        filter_findings_of_ne hotherAfter]
      rfl

end Findings

/-! ## Reports -/

/-- The name collisions that are reported about a field. -/
def collisionsAbout (field : Text) (diagnostics : List Diagnostic) : List Diagnostic :=
  diagnostics.filter fun diagnostic =>
    diagnostic.finding.kind == .nameCollision && diagnostic.finding.field? == some field

/-- The names that a member may not have: in C# that of the type, and those of the members before
it. -/
def takenNames (target : Target) (typeName : Text) (earlier : List MemberDeclaration) :
    List Text :=
  (if target = .csharp then [typeName] else []) ++ earlier.map (·.name)

/-- How a member is named that wants an identifier, and which collisions are reported about it. -/
inductive NameReported (document : Text) (taken : List Text) (wanted : Text)
    (member : MemberDeclaration) : List Diagnostic → Prop where
  | granted (hfree : wanted ∉ taken) (hname : member.name = wanted) :
      NameReported document taken wanted member []
  | numbered (htaken : wanted ∈ taken) (k : Nat) (hk : 1 ≤ k)
      (hname : member.name = wanted ++ "_" ++ Text.ofNat k) (hfree : member.name ∉ taken)
      (hleast : ∀ j, 1 ≤ j → j < k → wanted ++ "_" ++ Text.ofNat j ∈ taken) :
      NameReported document taken wanted member
        [⟨document, .nameTaken member.wireName wanted member.name⟩]

theorem NamePool.forType_used (target : Target) (typeName : Text) :
    (forType target typeName).used = takenNames target typeName [] := by
  cases target with
  | csharp => rfl
  | python => rfl

theorem NamePool.forType_wanted (target : Target) (typeName name : Text) (spelling : NamingCase) :
    (forType target typeName).wanted name spelling = (ofTarget target).wanted name spelling := by
  cases target with
  | csharp => rfl
  | python => rfl

/-- A name that was resolved against the taken ones is reported if it is another one. -/
theorem nameReported_of_resolved {document wanted : Text} {taken : List Text}
    {member : MemberDeclaration}
    (hname : member.name = NamePool.resolveConflict taken wanted NamePool.defaultSuffix) :
    NameReported document taken wanted member
      (((if wanted ∈ taken then some wanted else none).map fun identifier =>
        (⟨document, .nameTaken member.wireName identifier member.name⟩ : Diagnostic)).toList) := by
  rcases NamePool.resolveConflict_spec taken wanted NamePool.defaultSuffix with
    ⟨hfree, heq⟩ | ⟨htaken, k, hk, heq, hfree, hleast⟩
  · rw [if_neg hfree]
    exact .granted hfree (hname.trans heq)
  · rw [if_pos htaken]
    have hmember : member.name ∉ taken := by
      rw [hname, heq]
      exact hfree
    exact .numbered htaken k hk (hname.trans heq) hmember hleast

/-- What is reported about the field of a member is that its identifier was taken, if it was. -/
theorem collisionsAbout_member {document : Text} {member : MemberDeclaration}
    {wanted : Option Text} {before after : List FieldOutcome}
    (h : ((before ++ .member member wanted :: after).map FieldOutcome.field).Nodup) :
    collisionsAbout member.wireName
        (((before ++ .member member wanted :: after).filterMap FieldOutcome.finding?).map
          fun finding => ⟨document, finding⟩) =
      (wanted.map fun identifier =>
        (⟨document, .nameTaken member.wireName identifier member.name⟩ : Diagnostic)).toList := by
  have hfound := filter_findings h
  rw [collisionsAbout, List.filter_map, Function.comp_def, ← List.filter_filter]
  rw [FieldOutcome.field] at hfound
  rw [hfound]
  cases wanted with
  | none => rfl
  | some identifier => rfl

/-- Collisions are reported about members only. -/
theorem exists_member_of_collision {outcomes : List FieldOutcome} {finding : Finding}
    (h : finding ∈ outcomes.filterMap FieldOutcome.finding?)
    (hkind : finding.kind = .nameCollision) :
    ∃ member ∈ outcomes.filterMap FieldOutcome.member?,
      finding.field? = some member.wireName := by
  obtain ⟨outcome, houtcome, hfound⟩ := List.mem_filterMap.mp h
  have hfield := FieldOutcome.field?_of_finding? hfound
  cases outcome with
  | member declaration wanted =>
      exact ⟨declaration, List.mem_filterMap.mpr ⟨_, houtcome, rfl⟩, hfield⟩
  | dropped field reason =>
      cases hfound
      cases hkind

/-- If a field becomes a member, there is a naming case, and all members are named in their turn. -/
theorem Generator.exists_namedInTurn {generator : Generator} {record : Schema.Record}
    {typeName : Text} {member : MemberDeclaration} (hnames : (record.fields.map (·.name)).Nodup)
    (hmember : member ∈ (generator.fields record typeName).members) :
    ∃ spelling, generator.namingCase .fieldCase = .ok spelling ∧
      NamedInTurn ((NamePool.ofTarget generator.target).wanted · spelling)
        (takenNames generator.target typeName [])
        (generator.fields record typeName).outcomes := by
  cases hcase : generator.namingCase .fieldCase with
  | error error =>
      rw [fields_error_members hcase] at hmember
      cases hmember
  | ok spelling =>
      refine ⟨spelling, rfl, ?_⟩
      simpa only [NamePool.forType_wanted, NamePool.forType_used] using
        fields_namedInTurn hnames hcase typeName

/-- Whatever a document holds and whatever the settings are: if a source is generated for it, every
member has the identifier that its field wants, or that identifier was taken before and a collision
is reported, once and with both identifiers. -/
theorem generated_reports_collisions {generator : Generator} {document : Schema.Document}
    {result : GenerationResult} {generated : Generated}
    (hresult : generator.generate document = .ok result)
    (hgenerated : result.generated = some generated) :
    ∃ record type, eligibleRecord document.content = .ok record ∧
      generator.declare record = .ok type ∧ generator.emit record type = .ok generated ∧
      (∀ earlier member later, type.members = earlier ++ member :: later →
        member.wireName ∈ record.fields.map (·.name) ∧
        ∃ spelling, generator.namingCase .fieldCase = .ok spelling ∧
          NameReported document.name (takenNames generator.target type.typeName earlier)
            ((NamePool.ofTarget generator.target).wanted member.wireName spelling) member
            (collisionsAbout member.wireName result.diagnostics)) ∧
      ∀ diagnostic ∈ result.diagnostics, diagnostic.finding.kind = .nameCollision →
        ∃ member ∈ type.members, diagnostic.finding.field? = some member.wireName := by
  obtain ⟨record, frame, heligible, hframe, hnone, hemit, hreport⟩ :=
    Generator.exists_fields_of_generated hresult hgenerated
  have hdeclare : generator.declare record = .ok
      { frame with members := (generator.fields record frame.typeName).members } := by
    rw [Generator.declare, hframe]
    rfl
  have hnames := Generator.eligibleRecord_names heligible
  have hfields : (generator.fields record frame.typeName).outcomes.map FieldOutcome.field =
      record.fields.map (·.name) := map_field_of_answers (answers_of_uninterrupted hnone)
  refine ⟨record, _, heligible, hdeclare, hemit, fun earlier member later hmembers => ?_,
    fun diagnostic hdiagnostic hkind => ?_⟩
  · have hsplit : (generator.fields record frame.typeName).members =
        earlier ++ member :: later := hmembers
    have hmember : member ∈ (generator.fields record frame.typeName).members := by
      rw [hsplit]
      exact List.mem_append_right earlier List.mem_cons_self
    obtain ⟨spelling, hcase, hturns⟩ := Generator.exists_namedInTurn hnames hmember
    obtain ⟨before, wanted, after, houtcomes, rfl⟩ := exists_outcomes_of_members hsplit
    rw [houtcomes] at hturns hfields
    obtain ⟨hname, rfl⟩ := hturns.at_member
    refine ⟨?_, spelling, hcase, ?_⟩
    · rw [← hfields]
      exact List.mem_map.mpr ⟨_, List.mem_append_right before List.mem_cons_self, rfl⟩
    · have hdiffer := hnames
      rw [← hfields] at hdiffer
      rw [hreport, GenerationResult.withoutOutput, FieldOutcomes.findings, houtcomes,
        collisionsAbout_member hdiffer]
      simpa [takenNames] using nameReported_of_resolved hname
  · rw [hreport] at hdiagnostic
    obtain ⟨finding, hfinding, rfl⟩ := List.mem_map.mp hdiagnostic
    exact exists_member_of_collision hfinding hkind

/-- A record with a field that wants the identifier of its type, and with three that want the same
one. -/
def sharedNames : Schema.Document where
  name := "shared"
  content :=
    ["\x7b\"type\": \"record\", ", "\"name\": \"order\", ", "\"namespace\": \"a\", ",
      "\"fields\": [", "\x7b\"name\": \"order\", ", "\"type\": \"string\"\x7d, ",
      "\x7b\"name\": \"first_name\", ", "\"type\": \"string\"\x7d, ",
      "\x7b\"name\": \"firstName\", ", "\"type\": \"string\"\x7d, ",
      "\x7b\"name\": \"first-name\", ", "\"type\": \"boolean\"\x7d]\x7d"].flatMap Text.ofString

theorem sharedNames_reports_collisions :
    ∃ result generated record type,
      (Generator.standard .csharp).generate sharedNames = .ok result ∧
      result.generated = some generated ∧
      eligibleRecord sharedNames.content = .ok record ∧
      (Generator.standard .csharp).declare record = .ok type ∧
      (Generator.standard .csharp).emit record type = .ok generated ∧
      (∀ earlier member later, type.members = earlier ++ member :: later →
        member.wireName ∈ record.fields.map (·.name) ∧
        ∃ spelling, (Generator.standard .csharp).namingCase .fieldCase = .ok spelling ∧
          NameReported sharedNames.name (takenNames .csharp type.typeName earlier)
            ((NamePool.ofTarget .csharp).wanted member.wireName spelling) member
            (collisionsAbout member.wireName result.diagnostics)) ∧
      ∀ diagnostic ∈ result.diagnostics, diagnostic.finding.kind = .nameCollision →
        ∃ member ∈ type.members, diagnostic.finding.field? = some member.wireName := by
  have hgenerates : (Generator.standard .csharp).generates sharedNames = true := by
    decide +kernel
  obtain ⟨result, generated, hresult, hgenerated⟩ := Generator.exists_of_generates hgenerates
  obtain ⟨record, type, heligible, hdeclare, hemit, hmembers, hcollisions⟩ :=
    generated_reports_collisions hresult hgenerated
  exact ⟨result, generated, record, type, hresult, hgenerated, heligible, hdeclare, hemit,
    hmembers, hcollisions⟩

end RecordSmith
