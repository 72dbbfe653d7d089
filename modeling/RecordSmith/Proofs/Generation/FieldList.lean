import RecordSmith.Proofs.Generation.Steps
import RecordSmith.Proofs.Schema.FieldList
import RecordSmith.Proofs.Value.Same

/-!
# Changes to the list of fields

What two documents generate that differ in their lists of fields only.  A field that is dropped
leaves no trace but a report about itself, wherever it stands.  Fields at the end leave the members
before them as they are.
-/

namespace RecordSmith

open Schema (Field ReplacesFields DeclaresField fieldNames)

/-! ## Eligible records -/

/-- The record with the fields that a list reads as, if code can be generated for it. -/
def eligibleWith (record : Schema.Record) : Option (List Field) → Except SkipReason Schema.Record
  | none => .error .unreadable
  | some fields =>
    if !record.hasNamespace then .error (.noNamespace record.name)
    else if fields.isEmpty then .error (.noFields record.name)
    else .ok { record with fields }

section Eligible

variable {t u : Text} {items changed before after : List Value} {attributes : Entries}
variable {record : Schema.Record} {fields others : List Field} {field : Field}

theorem eligibleRecord_of_parse? {read : Option (List Field)}
    (h : Schema.Declaration.parse? t = read.map fun fields => .record { record with fields }) :
    eligibleRecord t = eligibleWith record read := by
  rw [eligibleRecord, h]
  cases read with
  | none => rfl
  | some fields => rfl

/-- Texts that differ in their fields only are skipped for the same reason, or declare the same
record but for the fields that their lists read as. -/
theorem eligibleRecord_replaced (h : ReplacesFields t u items changed) :
    (∃ reason, eligibleRecord t = .error reason ∧ eligibleRecord u = .error reason) ∨
    ∃ record, eligibleRecord t = eligibleWith record (Schema.readFields [] items) ∧
      eligibleRecord u = eligibleWith record (Schema.readFields [] changed) := by
  rcases Schema.Declaration.parse?_replaced h with ⟨hsame, hno⟩ | ⟨record, ht, hu⟩
  · left
    rw [eligibleRecord, eligibleRecord, hsame]
    cases hparse : Schema.Declaration.parse? t with
    | none => exact ⟨_, rfl, rfl⟩
    | some declaration =>
        cases declaration with
        | record found => exact absurd hparse (hno found)
        | other type => exact ⟨_, rfl, rfl⟩
  · exact Or.inr ⟨record, eligibleRecord_of_parse? ht, eligibleRecord_of_parse? hu⟩

theorem exists_fields_of_eligibleWith {read : Option (List Field)} {found : Schema.Record}
    (h : eligibleWith record read = .ok found) :
    ∃ fields, read = some fields ∧ found = { record with fields } := by
  cases read with
  | none => cases h
  | some fields =>
      rw [eligibleWith] at h
      split at h
      · cases h
      · split at h
        · cases h
        · cases h
          exact ⟨fields, rfl, rfl⟩

/-- Which fields a record has does not matter for its eligibility, as long as it has any. -/
theorem eligibleWith_congr (record : Schema.Record) (h : fields = [] ↔ others = []) :
    (∃ reason, eligibleWith record (some fields) = .error reason ∧
      eligibleWith record (some others) = .error reason) ∨
    eligibleWith record (some fields) = .ok { record with fields } ∧
      eligibleWith record (some others) = .ok { record with fields := others } := by
  have hempty : others.isEmpty = fields.isEmpty := by
    rw [Bool.eq_iff_iff, List.isEmpty_iff, List.isEmpty_iff, h]
  simp only [eligibleWith, hempty]
  by_cases hspace : record.hasNamespace = true
  · cases fields with
    | nil => exact Or.inl ⟨.noFields record.name, by simp [hspace], by simp [hspace]⟩
    | cons => exact Or.inr ⟨by simp [hspace], by simp [hspace]⟩
  · exact Or.inl ⟨.noNamespace record.name, by simp [hspace], by simp [hspace]⟩

theorem eligibleRecord_insert
    (h : ReplacesFields t u (before ++ after) (before ++ .object attributes :: after))
    (hfields : before ++ after ≠ []) (hdeclares : DeclaresField attributes field)
    (hfresh : field.name ∉ fieldNames (before ++ after)) :
    (∃ reason, eligibleRecord t = .error reason ∧ eligibleRecord u = .error reason) ∨
    ∃ (record : Schema.Record) (earlier later : List Field),
      eligibleRecord t = .ok { record with fields := earlier ++ later } ∧
      eligibleRecord u = .ok { record with fields := earlier ++ field :: later } ∧
      fieldNames before = earlier.map (·.name) ∧ fieldNames after = later.map (·.name) := by
  rcases eligibleRecord_replaced h with hskipped | ⟨record, ht, hu⟩
  · exact Or.inl hskipped
  rw [ht, hu]
  rcases Schema.readFields_insert hdeclares hfresh with
    ⟨hnone, hinserted⟩ | ⟨earlier, later, hread, hinserted, hearlier, hlater⟩
  · rw [hnone, hinserted]
    exact Or.inl ⟨_, rfl, rfl⟩
  · rw [hread, hinserted]
    have hlength : (before ++ after).length = (earlier ++ later).length :=
      (List.rel_append hearlier hlater).length_eq
    have hne : earlier ++ later ≠ [] := by
      rw [← List.length_pos_iff, ← hlength, List.length_pos_iff]
      exact hfields
    have hsame : earlier ++ later = [] ↔ earlier ++ field :: later = [] :=
      iff_of_false hne (by simp)
    refine (eligibleWith_congr record hsame).imp_right fun ⟨hok, hokInserted⟩ => ?_
    exact ⟨record, earlier, later, hok, hokInserted, hearlier.fieldNames, hlater.fieldNames⟩

theorem eligibleRecord_append {more : List Value} {extended : Schema.Record}
    (h : ReplacesFields t u items (items ++ more)) (ht : eligibleRecord t = .ok record)
    (hu : eligibleRecord u = .ok extended) :
    ∃ later, extended = { record with fields := record.fields ++ later } := by
  rcases eligibleRecord_replaced h with ⟨reason, hskipped, _⟩ | ⟨base, hbase, hextended⟩
  · rw [ht] at hskipped
    cases hskipped
  · rw [ht] at hbase
    rw [hu] at hextended
    obtain ⟨fields, hread, rfl⟩ := exists_fields_of_eligibleWith hbase.symm
    obtain ⟨all, hall, rfl⟩ := exists_fields_of_eligibleWith hextended.symm
    obtain ⟨earlier, later, hearlier, rfl⟩ := Schema.readFields_append hall
    rw [hread] at hearlier
    cases hearlier
    exact ⟨later, rfl⟩

end Eligible

/-! ## Dropped fields -/

/-- The diagnostics are about fields of the names. -/
def ReportOn (names : List Text) (diagnostics : List Diagnostic) : Prop :=
  ∀ diagnostic ∈ diagnostics, ∃ name ∈ names, diagnostic.finding.field? = some name

theorem reportOn_of_areAbout {fields : List Field} {findings : List Finding}
    (h : AreAbout fields findings) (document : Text) :
    ReportOn (fields.map (·.name)) (findings.map (⟨document, ·⟩)) := by
  intro diagnostic hdiagnostic
  obtain ⟨finding, hfinding, rfl⟩ := List.mem_map.mp hdiagnostic
  obtain ⟨field, hfield, heq⟩ := h finding hfinding
  exact ⟨field.name, List.mem_map.mpr ⟨field, hfield, rfl⟩, heq⟩

namespace Generator

variable {generator : Generator} {document : Schema.Document} {content : Text}
variable {items before after : List Value} {attributes : Entries}
variable {field : Field} {reason : Schema.Unsupported}

theorem generate_of_skipped {skip : SkipReason}
    (h : eligibleRecord document.content = .error skip) :
    generator.generate document = .ok (.withoutOutput document.name [.skipped skip]) := by
  rw [generate, h]

theorem generate_of_eligible {record : Schema.Record}
    (h : eligibleRecord document.content = .ok record) :
    generator.generate document = generator.generateRecord document.name record := by
  rw [generate, h]

/-- If a source is generated for a record, no field interrupts, and what was found about the fields
is reported. -/
theorem generateRecord_success {name : Text} {record : Schema.Record} {result : GenerationResult}
    (hresult : generator.generateRecord name record = .ok result)
    (hsuccess : result.success = true) :
    ∃ frame, generator.frame record = .ok frame ∧
      (generator.fields record frame.typeName).interruption = none ∧
      result.diagnostics = (generator.fields record frame.typeName).findings.map (⟨name, ·⟩) := by
  obtain ⟨frame, hframe, _⟩ := Fallible.bind_eq_ok_iff.mp hresult
  have hnone : (generator.fields record frame.typeName).interruption = none := by
    have houtput := map_output?_generateRecord name hframe
    rw [hresult, output?] at houtput
    obtain ⟨generated, hgenerated⟩ := Option.isSome_iff_exists.mp hsuccess
    cases hstop : (generator.fields record frame.typeName).interruption with
    | none => rfl
    | some interruption =>
        cases interruption with
        | failed error => simp [hstop, Except.map] at houtput
        | invalidDefault misfit problem =>
            simp [hstop, Except.map, GenerationResult.output?, hgenerated] at houtput
  obtain ⟨_, _, rfl⟩ := (generateRecord_eq_ok_iff hframe hnone).mp hresult
  exact ⟨frame, hframe, hnone, rfl⟩

/-- The output of a record is the same with a field that is dropped. -/
theorem map_output?_generateRecord_insert (name : Text) (record : Schema.Record)
    {earlier later : List Field} (hshape : field.type.shape = .dropped reason) :
    (generator.generateRecord name { record with fields := earlier ++ field :: later }).map
        GenerationResult.output? =
      (generator.generateRecord name { record with fields := earlier ++ later }).map
        GenerationResult.output? :=
  map_output?_generateRecord_congr name rfl fun _ => (declareFields_insert_dropped hshape).1

/-- The report about a dropped field stands between the reports about the others. -/
theorem diagnostics_insert {name : Text} {record : Schema.Record} {earlier later : List Field}
    {result : GenerationResult} (hshape : field.type.shape = .dropped reason)
    (hresult :
      generator.generateRecord name { record with fields := earlier ++ later } = .ok result)
    (hsuccess : result.success = true) :
    ∃ extended first last,
      generator.generateRecord name { record with fields := earlier ++ field :: later } =
        .ok extended ∧
      ReportOn (earlier.map (·.name)) first ∧ ReportOn (later.map (·.name)) last ∧
      result.diagnostics = first ++ last ∧
      extended.diagnostics = first ++ ⟨name, .unsupported field.name reason⟩ :: last := by
  have hsame : (generator.generateRecord name
      { record with fields := earlier ++ field :: later }).map GenerationResult.output? =
      .ok result.output? := by
    rw [map_output?_generateRecord_insert name record hshape, hresult]
    rfl
  obtain ⟨extended, hextended, houtput⟩ := Fallible.map_eq_ok_iff.mp hsame
  have hsuccessExtended : extended.success = true := by
    rw [← extended.isSome_output?, houtput, result.isSome_output?, hsuccess]
  obtain ⟨frame, hframe, hnone, hdiagnostics⟩ := generateRecord_success hresult hsuccess
  obtain ⟨other, hother, _, hdiagnosticsExtended⟩ :=
    generateRecord_success hextended hsuccessExtended
  obtain rfl : frame = other := Except.ok.inj (hframe.symm.trans hother)
  obtain ⟨first, last, hfirst, hlast, hfound, hfoundExtended⟩ :=
    (declareFields_insert_dropped hshape).2 hnone
  refine ⟨extended, first.map (⟨name, ·⟩), last.map (⟨name, ·⟩), hextended,
    reportOn_of_areAbout hfirst name, reportOn_of_areAbout hlast name, ?_, ?_⟩
  · rw [hdiagnostics, ← List.map_append, ← hfound]
    rfl
  · have hreport : first.map (⟨name, ·⟩) ++ ⟨name, .unsupported field.name reason⟩ ::
        last.map (⟨name, ·⟩) =
        (first ++ .unsupported field.name reason :: last).map (Diagnostic.mk name) := by
      rw [List.map_append, List.map_cons]
    rw [hdiagnosticsExtended, hreport, ← hfoundExtended]
    rfl

/-- A field that is dropped changes neither the name nor the text of what is generated, nor whether
anything is, wherever it is put into a list of fields.  What is reported about the others is as it
was, and the report about the field stands between them. -/
theorem generate_insert_dropped (generator : Generator)
    (hinsert : ReplacesFields document.content content (before ++ after)
      (before ++ .object attributes :: after))
    (hfields : before ++ after ≠ []) (hdeclares : DeclaresField attributes field)
    (hunsupported : ¬field.Supported) (hfresh : field.name ∉ fieldNames (before ++ after)) :
    (generator.generate { document with content }).map GenerationResult.output? =
        (generator.generate document).map GenerationResult.output? ∧
    ∀ result, generator.generate document = .ok result → result.success = true →
      ∃ extended reason earlier later, generator.generate { document with content } = .ok extended ∧
        field.type.shape = .dropped reason ∧
        ReportOn (fieldNames before) earlier ∧ ReportOn (fieldNames after) later ∧
        result.diagnostics = earlier ++ later ∧
        extended.diagnostics =
          earlier ++ ⟨document.name, .unsupported field.name reason⟩ :: later := by
  obtain ⟨reason, hshape⟩ : ∃ reason, field.type.shape = .dropped reason := by
    simpa [Schema.Field.supported_iff] using hunsupported
  rcases eligibleRecord_insert hinsert hfields hdeclares hfresh with
    ⟨skip, hskipped, hinserted⟩ |
    ⟨record, earlier, later, heligible, hinserted, hbefore, hafter⟩
  · rw [generate_of_skipped hskipped, generate_of_skipped hinserted]
    refine ⟨rfl, fun result hresult hsuccess => ?_⟩
    cases hresult
    cases hsuccess
  · rw [generate_of_eligible heligible, generate_of_eligible hinserted, hbefore, hafter]
    refine ⟨map_output?_generateRecord_insert document.name record hshape,
      fun result hresult hsuccess => ?_⟩
    obtain ⟨extended, first, last, hextended, hrest⟩ :=
      diagnostics_insert hshape hresult hsuccess
    exact ⟨extended, reason, first, last, hextended, hshape, hrest⟩

end Generator

/-- A field with a name and a type, and nothing else. -/
def plainField (field : String × Value) : Value :=
  .object [("name", .text field.1), ("type", field.2)]

/-- The entries of a record with such fields. -/
def mixedEntries (fields : List (String × Value)) : Entries :=
  [("type", .text "record"), ("name", .text "Mixed"), ("namespace", .text "a"),
    ("fields", .list (fields.map plainField))]

/-- A document with such a record; the types are given as they are spelled. -/
def mixedDocument (fields : List (String × List String)) : Schema.Document where
  name := "mixed"
  content :=
    (["\x7b\"type\": \"record\", ", "\"name\": \"Mixed\", ", "\"namespace\": \"a\", ",
        "\"fields\": ["] ++
      [", "].intercalate (fields.map fun field =>
        ["\x7b\"name\": \"", field.1, "\", \"type\": "] ++ field.2 ++ ["\x7d"]) ++
      ["]\x7d"]).flatMap Text.ofString

theorem replacesFields_mixed {t u : Text} {items changed : List (String × Value)}
    (ht : Json.read t = .ok (.object (mixedEntries items)))
    (hu : Json.read u = .ok (.object (mixedEntries changed))) :
    ReplacesFields t u (items.map plainField) (changed.map plainField) := by
  refine ⟨_, _, ht, hu, rfl, rfl, fun key hkey => ?_⟩
  simp [mixedEntries, Entries.get?_cons, Entries.get?_nil, hkey]

def twoFields : Schema.Document :=
  mixedDocument [("id", ["\"string\""]), ("on", ["\"boolean\""])]

/-- The same fields with one of a numeric type between them. -/
def threeFields : Schema.Document :=
  mixedDocument [("id", ["\"string\""]), ("count", ["\"int\""]), ("on", ["\"boolean\""])]

theorem twoFields_insert_dropped :
    ((Generator.standard .csharp).generate threeFields).map GenerationResult.output? =
        ((Generator.standard .csharp).generate twoFields).map GenerationResult.output? ∧
    ∃ result extended reason earlier later,
      (Generator.standard .csharp).generate twoFields = .ok result ∧ result.success = true ∧
      (Generator.standard .csharp).generate threeFields = .ok extended ∧
      result.diagnostics = earlier ++ later ∧
      extended.diagnostics = earlier ++ ⟨"mixed", .unsupported "count" reason⟩ :: later := by
  have htwo : Json.read twoFields.content = .ok (.object (mixedEntries
      [("id", .text "string"), ("on", .text "boolean")])) := by decide +kernel
  have hthree : Json.read threeFields.content = .ok (.object (mixedEntries
      [("id", .text "string"), ("count", .text "int"), ("on", .text "boolean")])) := by
    decide +kernel
  have hinsert : ReplacesFields twoFields.content threeFields.content
      ([plainField ("id", .text "string")] ++ [plainField ("on", .text "boolean")])
      ([plainField ("id", .text "string")] ++ plainField ("count", .text "int") ::
        [plainField ("on", .text "boolean")]) := replacesFields_mixed htwo hthree
  let field : Field := ⟨"count", .single (.primitive .int), none, none⟩
  have hdeclares : DeclaresField [("name", .text "count"), ("type", .text "int")] field :=
    ⟨rfl, by decide, ⟨_, rfl, .word "int"⟩, rfl, by decide, rfl⟩
  have hunsupported : ¬field.Supported := by decide
  obtain ⟨houtput, hdiagnostics⟩ := (Generator.standard .csharp).generate_insert_dropped hinsert
    (by simp) hdeclares hunsupported (by decide)
  have hgenerates : (Generator.standard .csharp).generates twoFields = true := by decide +kernel
  obtain ⟨result, generated, hresult, hgenerated⟩ := Generator.exists_of_generates hgenerates
  have hsuccess : result.success = true := Option.isSome_iff_exists.mpr ⟨_, hgenerated⟩
  obtain ⟨extended, reason, earlier, later, hextended, _, _, _, hreport⟩ :=
    hdiagnostics result hresult hsuccess
  exact ⟨houtput, result, extended, reason, earlier, later, hresult, hsuccess, hextended, hreport⟩

/-! ## Fields at the end -/

/-- Fields behind the others rename nothing: the members that there were are the first ones of the
longer record, and its type and source are called the same. -/
theorem Generator.generated_append_fields {generator : Generator}
    {document other : Schema.Document} {items more : List Value}
    {result extended : GenerationResult} {generated longer : Generated}
    (happend : ReplacesFields document.content other.content items (items ++ more))
    (hresult : generator.generate document = .ok result)
    (hgenerated : result.generated = some generated)
    (hextended : generator.generate other = .ok extended)
    (hlonger : extended.generated = some longer) :
    ∃ record type wide wider, eligibleRecord document.content = .ok record ∧
      generator.declare record = .ok type ∧ generator.emit record type = .ok generated ∧
      eligibleRecord other.content = .ok wide ∧ generator.declare wide = .ok wider ∧
      generator.emit wide wider = .ok longer ∧
      type.members <+: wider.members ∧ wider.typeName = type.typeName ∧
      wider.space = type.space ∧ longer.artifactName = generated.artifactName := by
  obtain ⟨record, type, heligible, hdeclare, hemit⟩ :=
    exists_declare_of_generated hresult hgenerated
  obtain ⟨wide, wider, hwide, hdeclareWide, hemitWide⟩ :=
    exists_declare_of_generated hextended hlonger
  obtain ⟨later, rfl⟩ := eligibleRecord_append happend heligible hwide
  obtain ⟨frame, hframe, htype⟩ := Fallible.bind_eq_ok_iff.mp hdeclare
  have hframeWide : generator.frame { record with fields := record.fields ++ later } = .ok frame :=
    hframe
  obtain ⟨other, hother, hwider⟩ := Fallible.bind_eq_ok_iff.mp hdeclareWide
  obtain rfl : frame = other := Except.ok.inj (hframeWide.symm.trans hother)
  cases htype
  cases hwider
  refine ⟨record, _, _, _, heligible, hdeclare, hemit, hwide, hdeclareWide, hemitWide, ?_, rfl, rfl,
    ?_⟩
  · exact members_prefix_append record.fields later
  · rw [emit_artifactName hemit, emit_artifactName hemitWide]

def userField : Schema.Document := mixedDocument [("user_id", ["\"string\""])]

/-- A field more, which wants the same identifier. -/
def userFields : Schema.Document :=
  mixedDocument [("user_id", ["\"string\""]), ("userId", ["\"boolean\""])]

theorem userField_append_fields :
    ∃ record type wide wider, eligibleRecord userField.content = .ok record ∧
      (Generator.standard .csharp).declare record = .ok type ∧
      eligibleRecord userFields.content = .ok wide ∧
      (Generator.standard .csharp).declare wide = .ok wider ∧ type.members <+: wider.members := by
  have hone : Json.read userField.content = .ok (.object (mixedEntries
      [("user_id", .text "string")])) := by decide +kernel
  have htwo : Json.read userFields.content = .ok (.object (mixedEntries
      [("user_id", .text "string"), ("userId", .text "boolean")])) := by decide +kernel
  have happend : ReplacesFields userField.content userFields.content
      [plainField ("user_id", .text "string")]
      ([plainField ("user_id", .text "string")] ++ [plainField ("userId", .text "boolean")]) :=
    replacesFields_mixed hone htwo
  have hgenerates : (Generator.standard .csharp).generates userField = true := by decide +kernel
  have hgeneratesMore : (Generator.standard .csharp).generates userFields = true := by
    decide +kernel
  obtain ⟨result, generated, hresult, hgenerated⟩ := Generator.exists_of_generates hgenerates
  obtain ⟨extended, longer, hextended, hlonger⟩ := Generator.exists_of_generates hgeneratesMore
  obtain ⟨record, type, wide, wider, heligible, hdeclare, _, hwide, hdeclareWide, _, hprefix, _⟩ :=
    Generator.generated_append_fields happend hresult hgenerated hextended hlonger
  exact ⟨record, type, wide, wider, heligible, hdeclare, hwide, hdeclareWide, hprefix⟩

end RecordSmith
