import RecordSmith.Proofs.Generation.Fields
import RecordSmith.Proofs.Generation.Names
import RecordSmith.Proofs.Generator.Source
import RecordSmith.Proofs.Layout.Source
import RecordSmith.Proofs.Naming.Namespace
import RecordSmith.Proofs.Naming.Shape
import RecordSmith.Proofs.Target.Literal

/-!
# Encoding of sources

A source can be written to a file, whatever surrogates the document holds.  The names of the record
hold none, or the record was refused; identifiers hold none, because no letter or digit is one;
literals escape them; and documentation replaces them.  Only the line ending is used as it is.
-/

namespace RecordSmith

open Text

/-! ## Declarations -/

/-- Nothing that a member is declared with holds a surrogate, its name in the schema apart. -/
structure MemberDeclaration.Encodable (member : MemberDeclaration) : Prop where
  name : member.name.SurrogateFree
  typeName : member.typeName.SurrogateFree
  literal : ∀ literal ∈ member.defaultLiteral, literal.SurrogateFree

/-- Nothing that a type is declared with holds a surrogate, its documentation apart. -/
structure TypeDeclaration.Encodable (type : TypeDeclaration) : Prop where
  space : type.space.SurrogateFree
  typeName : type.typeName.SurrogateFree
  wireName : type.wireName.SurrogateFree
  wireSpace : type.wireSpace.SurrogateFree
  members : ∀ member ∈ type.members, member.Encodable

theorem TypeDeclaration.Encodable.wireFullName {type : TypeDeclaration} (h : type.Encodable) :
    type.wireFullName.SurrogateFree := by
  have hstop : (Text.ofString ".").SurrogateFree := by decide
  rw [TypeDeclaration.wireFullName]
  split
  · exact h.wireName
  · simp [h.wireSpace, hstop, h.wireName]

theorem isSurrogate_of_isAlphanumeric {c : CodePoint} (hc : isAlphanumeric c = true) :
    isSurrogate c = false :=
  (Identifier.isPart_of_not_excluded (Identifier.not_excluded_of_isAlphanumeric hc)).not_surrogate

/-- Conversion makes no surrogates. -/
theorem isKept_not_surrogate : Identifier.IsKept fun c => isSurrogate c = false where
  casing := by
    have hranges : casingAvoids [(0xD800, 0xDFFF)] = true := by decide +kernel
    refine caseClosed_of_avoids hranges fun c hc => ?_
    exact isSurrogate_eq_false_iff.mpr (inRanges_eq_false_iff.mp hc _ List.mem_cons_self)
  lowLine := by decide
  fallback := by decide

/-- What a member declares holds no surrogate as soon as its identifier holds none. -/
theorem MemberDeclaration.Declares.encodable {target : Target} {field : Schema.Field}
    {member : MemberDeclaration} (h : member.Declares target field)
    (hname : member.name.SurrogateFree) : member.Encodable := by
  refine ⟨hname, h.isPlain_typeName.surrogateFree, fun literal hliteral => ?_⟩
  rcases h.literal_cases literal hliteral with hplain | ⟨t, rfl⟩
  · exact hplain.surrogateFree
  · exact target.surrogateFree_textLiteral t

/-- A record whose names hold no surrogates becomes a type without any. -/
theorem Generator.declare_encodable {generator : Generator} {record : Schema.Record}
    {type : TypeDeclaration} {entries : Entries} (hrecord : Schema.DeclaresRecord entries record)
    (hdeclare : generator.declare record = .ok type)
    (hfields : List.Forall₂ (MemberDeclaration.Declares generator.target)
      (record.fields.filter (·.Supported)) type.members) : type.Encodable := by
  obtain ⟨spelling, wires, hassign⟩ := declare_names hrecord.names_nodup hdeclare
  obtain ⟨spaceCase, typeCase, rfl⟩ := declare_eq_ok hdeclare
  have hhyphen : ∀ {spelling : NamingCase}, spelling = .kebab → isSurrogate 0x2D = false :=
    fun _ => by decide
  constructor
  case space =>
    exact Namespace.forall_mem_convert isKept_not_surrogate hhyphen hrecord.space_encodable
  case typeName =>
    exact NamePool.forall_mem_wanted isKept_not_surrogate hhyphen _
      fun _ _ => isSurrogate_of_isAlphanumeric
  case wireName => exact hrecord.name_encodable
  case wireSpace => exact hrecord.space_encodable
  case members =>
    intro member hmember
    obtain ⟨field, _, hdeclares⟩ := exists_declares_of_mem hfields hmember
    apply hdeclares.encodable
    have hassigned := List.mem_map_of_mem (f := (·.name)) hmember
    rw [hassign] at hassigned
    exact NamePool.forall_mem_of_mem_assign isKept_not_surrogate hhyphen
      (fun _ hdigit => isSurrogate_of_isAlphanumeric (isAlphanumeric_of_isAsciiDigit hdigit))
      (fun _ _ _ _ => isSurrogate_of_isAlphanumeric) hassigned

/-! ## Lines of the layouts -/

namespace Contract

variable {style : Style} {type : TypeDeclaration} {member : MemberDeclaration}

theorem surrogateFree_stringLiteral (t : Text) : (stringLiteral t).SurrogateFree :=
  Target.surrogateFree_textLiteral .csharp t

theorem surrogateFree_summary (doc : Text) : ∀ line ∈ summary doc, line.SurrogateFree := by
  have hmark : (Text.ofString "/// ").SurrogateFree := by decide
  simp only [summary, List.forall_mem_append, List.forall_mem_cons, List.forall_mem_map]
  refine ⟨⟨by decide, fun line _ => ?_⟩, by decide⟩
  exact surrogateFree_append.mpr ⟨hmark, surrogateFree_xmlText line⟩

/-- Whatever the documentation, no line before the members holds a surrogate. -/
theorem surrogateFree_header (style : Style) (htype : type.Encodable) :
    ∀ line ∈ header style type, line.SurrogateFree := by
  have hkeyword : style.typeKeyword.text.SurrogateFree := by
    cases style.typeKeyword with
    | record | recordClass | recordStruct | plainClass => decide
  simp only [header, List.forall_mem_append]
  refine ⟨⟨⟨?_, ?_⟩, ?_⟩, ?_⟩
  · split
    · simp +decide [notice, htype.wireFullName]
    · simp
  · rw [preamble]
    split
    · simp +decide [htype.space]
    · simp +decide [htype.space]
  · split
    · cases type.shownDoc? with
      | none => simp
      | some doc => exact surrogateFree_summary doc
    · simp
  · simp +decide [typeLines, surrogateFree_stringLiteral, hkeyword, htype.typeName]

theorem surrogateFree_memberLines (hindent : style.indent.SurrogateFree)
    (hmember : member.Encodable) : ∀ line ∈ memberLines style member, line.SurrogateFree := by
  have hproperty : (property member).SurrogateFree := by
    rw [property]
    split
    case h_1 => simp +decide [hmember.typeName, hmember.name]
    case h_2 literal hliteral =>
      have hshown := hmember.literal literal hliteral
      simp +decide [hmember.typeName, hmember.name, hshown]
  simp +decide [memberLines, hindent, surrogateFree_stringLiteral, hproperty]

end Contract

namespace Dataclass

variable {style : Style} {type : TypeDeclaration} {member : MemberDeclaration}

theorem surrogateFree_stringLiteral (t : Text) : (stringLiteral t).SurrogateFree :=
  Target.surrogateFree_textLiteral .python t

theorem surrogateFree_documentation (type : TypeDeclaration) :
    (documentation type).SurrogateFree := by
  rw [documentation]
  split
  case h_1 => exact surrogateFree_docstring _
  case h_2 => simp +decide [surrogateFree_docstring]

/-- Whatever the documentation, no line before the members holds a surrogate. -/
theorem surrogateFree_header (hindent : style.indent.SurrogateFree) (htype : type.Encodable) :
    ∀ line ∈ header style type, line.SurrogateFree := by
  have harguments : (decoratorArguments style.slots).SurrogateFree := by
    rw [decoratorArguments]
    split
    · decide
    · decide
  simp only [header, List.forall_mem_append]
  refine ⟨⟨⟨⟨⟨?_, ?_⟩, ?_⟩, ?_⟩, ?_⟩, ?_⟩
  · split
    · simp +decide [notice, htype.wireFullName, htype.space]
    · simp
  · exact (by decide : ∀ line ∈ imports, line.SurrogateFree)
  · simp +decide [classLines, harguments, htype.typeName]
  · split
    · simp +decide [documentationLiteral, hindent, surrogateFree_documentation]
    · simp
  · simp +decide [wireNames, hindent, surrogateFree_stringLiteral]
  · simp

theorem surrogateFree_memberLines (hindent : style.indent.SurrogateFree)
    (hmember : member.Encodable) : ∀ line ∈ memberLines style member, line.SurrogateFree := by
  have harguments : (fieldArguments style member).SurrogateFree := by
    rw [fieldArguments]
    split
    case h_1 => simp +decide [fieldMetadata, surrogateFree_stringLiteral]
    case h_2 literal hliteral =>
      have hshown := hmember.literal literal hliteral
      simp +decide [fieldMetadata, surrogateFree_stringLiteral, hshown]
  simp +decide [memberLines, hindent, hmember.name, hmember.typeName, harguments]

end Dataclass

/-- The layout of a type without surrogates has none. -/
theorem Generator.surrogateFree_assemble (generator : Generator) {indent : Text}
    {type : TypeDeclaration} (hindent : indent.SurrogateFree) (htype : type.Encodable) :
    (generator.layout indent type).assemble.SurrogateFree := by
  obtain ⟨settings, options, machine⟩ := generator
  apply Layout.forall_mem_assemble
  case hfeed => decide
  case hheader =>
    cases options with
    | contract options => exact Contract.surrogateFree_header _ htype
    | dataclass options => exact Dataclass.surrogateFree_header hindent htype
  case hmembers =>
    cases options with
    | contract options =>
        refine List.forall_mem_map.mpr fun member hmember => ?_
        exact Contract.surrogateFree_memberLines hindent (htype.members member hmember)
    | dataclass options =>
        refine List.forall_mem_map.mpr fun member hmember => ?_
        exact Dataclass.surrogateFree_memberLines hindent (htype.members member hmember)
  case hfooter =>
    cases options with
    | contract options => exact (by decide : ∀ line ∈ Contract.footer, line.SurrogateFree)
    | dataclass options => exact List.forall_mem_nil _

/-- Whatever a document holds: if a source is generated for it, the source holds no surrogate
exactly if the line ending of the settings holds none, and then it can be encoded. -/
theorem generated_encodable_iff {generator : Generator} {document : Schema.Document}
    {result : GenerationResult} {generated : Generated} {ending : Text}
    (hresult : generator.generate document = .ok result)
    (hgenerated : result.generated = some generated)
    (hending : generator.settings.lineEnding = .text ending) :
    (generated.source.SurrogateFree ↔ ending.SurrogateFree) ∧
      (ending.SurrogateFree → (∀ c ∈ generated.source, c < 0x110000) →
        (toUtf8? generated.source).isSome) := by
  obtain ⟨record, type, heligible, hdeclare, hemit, hdeclares⟩ :=
    Generator.exists_declares_of_generated hresult hgenerated
  obtain ⟨entries, _, hrecord⟩ := Generator.eligibleRecord_declares heligible
  obtain ⟨indent, used, hindent, hused, hsource⟩ :=
    Generator.source_eq_ok_iff.mp (Generator.emit_source hemit)
  have hsame : used = ending := by simpa [hending] using hused.symm
  have hblanks : indent.SurrogateFree := by
    obtain ⟨width, rfl⟩ := Generator.eq_replicate_of_indent hindent
    exact (isPlain_replicate_blank width).surrogateFree
  have htype := Generator.declare_encodable hrecord hdeclare hdeclares
  have hfree : generated.source.SurrogateFree ↔ ending.SurrogateFree := by
    rw [hsource, hsame]
    constructor
    · exact fun h c hc => h c (List.mem_append_right _ hc)
    · intro h c hc
      rcases Layout.mem_of_mem_cleanUp hc with hmem | hmem
      · exact h c hmem
      · exact generator.surrogateFree_assemble hblanks htype c hmem
  exact ⟨hfree, fun h hrange => toUtf8?_isSome_iff.mpr ⟨hfree.mpr h, hrange⟩⟩

/-- A record with surrogates in its documentation and in the name and the default of a field. -/
def surrogateField : Schema.Document where
  name := "surrogates"
  content :=
    ["\x7b\"type\": \"record\", ", "\"name\": \"Broken\", ", "\"namespace\": \"a\", ",
      "\"doc\": \"first \\udc00\", ", "\"fields\": [", "\x7b\"name\": \"x\\ud83dy\", ",
      "\"type\": \"string\", ", "\"default\": \"\\ud800\"\x7d]\x7d"].flatMap ofString

theorem surrogateField_encodable :
    ∃ result generated,
      (Generator.standard .csharp).generate surrogateField = .ok result ∧
      result.generated = some generated ∧
      (Generator.standard .csharp).settings.lineEnding = .text [0x0A] ∧
      generated.source.SurrogateFree ∧ (toUtf8? generated.source).isSome := by
  have hrange : ((Generator.standard .csharp).generate surrogateField).toOption.any
      (fun result => result.generated.any fun generated =>
        generated.source.all fun c => c < 0x110000) = true := by decide +kernel
  have hending : (Generator.standard .csharp).settings.lineEnding = .text [0x0A] := rfl
  have hfeed : SurrogateFree [0x0A] := by decide
  obtain ⟨result, hresult, hsome⟩ := Fallible.exists_of_any hrange
  obtain ⟨generated, hgenerated, hall⟩ := (Option.any_eq_true _ _).mp hsome
  obtain ⟨hfree, hencodes⟩ := generated_encodable_iff hresult hgenerated hending
  refine ⟨result, generated, hresult, hgenerated, hending, hfree.mpr hfeed, hencodes hfeed ?_⟩
  simpa using hall

end RecordSmith
