import RecordSmith.Proofs.Generation.Outcome
import RecordSmith.Proofs.Generator.Notice
import RecordSmith.Proofs.Naming.Segments

/-!
# The namespace of C# sources

A C# source declares its namespace on a line of its own.  The namespace is the one of the schema in
Pascal case: it is never empty and holds no white space, but whether it is a dotted name is left to
the schema.
-/

namespace RecordSmith

namespace Generator

/-- The line that declares a namespace. -/
def namespaceLine (space : Text) : Text := Text.ofString "namespace " ++ space ++ Text.ofString ";"

section Line

variable {space : Text}

theorem endsSolid_namespaceLine (space : Text) : Text.EndsSolid (namespaceLine space) :=
  ⟨Text.ofString "namespace " ++ space, 0x3B, rfl, by decide⟩

theorem onOneLine_namespaceLine (h : Target.csharp.OnOneLine space) :
    Target.csharp.OnOneLine (namespaceLine space) := by
  have hkeyword : Target.csharp.OnOneLine (Text.ofString "namespace ") := by decide
  have hstop : Target.csharp.OnOneLine (Text.ofString ";") := by decide
  rw [namespaceLine, Target.onOneLine_append, Target.onOneLine_append]
  exact ⟨⟨hkeyword, h⟩, hstop⟩

/-- All line terminators of C# break words. -/
theorem onOneLine_normalize (t : Text) : Target.csharp.OnOneLine (Namespace.normalize t) := by
  have hends : ∀ c ∈ Target.csharp.lineEnds, Namespace.isWordBreak c = true := by decide
  intro c hc hend
  have hbreak := hends c hend
  rw [Namespace.not_isWordBreak_of_mem_normalize c hc] at hbreak
  cases hbreak

end Line

theorem namespaceLine_mem_header (style : Contract.Style) (type : TypeDeclaration) :
    namespaceLine type.space ∈ Contract.header style type := by
  have hpreamble : namespaceLine type.space ∈ Contract.preamble style type :=
    List.mem_append_right _ (by simp [namespaceLine])
  rw [Contract.header]
  exact List.mem_append_left _ (List.mem_append_left _ (List.mem_append_right _ hpreamble))

/-- The declaration of the namespace is a line of the source. -/
theorem namespaceLine_mem_lines {settings : Settings} {contract : Contract.Options}
    {machine : Machine} {ending indent : Text} {type : TypeDeclaration}
    (hending : Target.csharp.IsLineBreak ending) (hspace : Target.csharp.OnOneLine type.space) :
    namespaceLine type.space ∈ Target.csharp.lines (Layout.cleanUp ending
      (layout ⟨settings, .contract contract, machine⟩ indent type).assemble) := by
  have hline := onOneLine_namespaceLine hspace
  obtain ⟨before, after, hheader⟩ : ∃ before after,
      (layout ⟨settings, .contract contract, machine⟩ indent type).header =
        before ++ namespaceLine type.space :: after :=
    List.append_of_mem (namespaceLine_mem_header _ type)
  obtain ⟨rest, hrest⟩ := Layout.cleanLines_assemble_header hheader
    (Target.not_mem_of_onOneLine hline) (endsSolid_namespaceLine _)
    (by simp [layout, Contract.memberLines])
  rw [lines_cleanUp hending (by simp [hrest]), List.mem_append, List.mem_flatMap]
  refine Or.inl ⟨namespaceLine type.space, ?_, ?_⟩
  · rw [hrest]
    exact List.mem_append_right _ List.mem_cons_self
  · rw [Target.cut_of_onOneLine hline]
    exact List.mem_singleton_self _

theorem declare_standard_space {record : Schema.Record} {type : TypeDeclaration}
    (h : (standard .csharp).declare record = .ok type) :
    type.space = Namespace.normalize (record.space.getD []) := by
  obtain ⟨frame, hframe, htype⟩ := Fallible.bind_eq_ok_iff.mp h
  obtain ⟨spaceCase, hcase, hspace⟩ := Fallible.bind_eq_ok_iff.mp hframe
  obtain ⟨typeCase, _, hname⟩ := Fallible.bind_eq_ok_iff.mp hspace
  have hpascal : (standard .csharp).namingCase .namespaceCase = .ok .pascal := rfl
  rw [hpascal] at hcase
  cases hcase
  cases hname
  cases htype
  rfl

/-- The namespace of a record that is generated is not left empty by the conversion. -/
theorem exists_space_of_eligible {content : Text} {record : Schema.Record}
    (h : eligibleRecord content = .ok record) :
    ∃ space, record.space = some space ∧ Namespace.normalize space ≠ [] := by
  have hspace := (eligibleRecord_eq_ok_iff.mp h).space
  cases hrecord : record.space with
  | none =>
      rw [hrecord] at hspace
      exact absurd rfl hspace
  | some space =>
      rw [hrecord, Option.getD_some] at hspace
      refine ⟨space, rfl, fun hempty => hspace ?_⟩
      rw [hempty]
      rfl

/-- The source with the standard settings declares the namespace of its type, which is the one of
the record in Pascal case. -/
structure DeclaresNamespace (record : Schema.Record) (type : TypeDeclaration) (space : Text)
    (source : Text) : Prop where
  wireSpace : record.space = some space
  space : type.space = Namespace.normalize space
  line : namespaceLine type.space ∈ Target.csharp.lines source
  ne_nil : type.space ≠ []
  unbroken : ∀ c ∈ type.space, Namespace.isWordBreak c = false

theorem exists_declaresNamespace {document : Schema.Document} {result : GenerationResult}
    {generated : Generated} (hresult : (standard .csharp).generate document = .ok result)
    (hgenerated : result.generated = some generated) :
    ∃ record type space, eligibleRecord document.content = .ok record ∧
      (standard .csharp).declare record = .ok type ∧
      DeclaresNamespace record type space generated.source := by
  obtain ⟨record, type, heligible, hdeclare, hemit⟩ :=
    exists_declare_of_generated hresult hgenerated
  obtain ⟨indent, ending, _, hending, hsource⟩ := source_eq_ok_iff.mp (emit_source hemit)
  obtain ⟨space, hrecord, hne⟩ := exists_space_of_eligible heligible
  have hspace := declare_standard_space hdeclare
  rw [hrecord, Option.getD_some] at hspace
  refine ⟨record, type, space, heligible, hdeclare, hrecord, hspace, ?_, ?_, ?_⟩
  · have hbreak : Target.csharp.IsLineBreak ending := by
      cases hending
      exact Or.inr ⟨0x0A, by decide, rfl⟩
    rw [hsource]
    exact namespaceLine_mem_lines hbreak (hspace ▸ onOneLine_normalize space)
  · rw [hspace]
    exact hne
  · rw [hspace]
    exact Namespace.not_isWordBreak_of_mem_normalize

/-- Whatever the namespace of the schema is, the source declares it in Pascal case, and what it
declares is a dotted name exactly if the namespace was fit for one. -/
theorem standard_declares_namespace {document : Schema.Document} {result : GenerationResult}
    {generated : Generated} (hresult : (standard .csharp).generate document = .ok result)
    (hgenerated : result.generated = some generated) :
    ∃ record type space, eligibleRecord document.content = .ok record ∧
      (standard .csharp).declare record = .ok type ∧
      DeclaresNamespace record type space generated.source ∧
      (Namespace.IsDotted type.space ↔ Namespace.IsDottable space) := by
  obtain ⟨record, type, space, heligible, hdeclare, hdeclares⟩ :=
    exists_declaresNamespace hresult hgenerated
  refine ⟨record, type, space, heligible, hdeclare, hdeclares, ?_⟩
  rw [hdeclares.space]
  exact Namespace.isDotted_normalize_iff

/-- A document with a record in a namespace. -/
def spacedDocument (space : String) : Schema.Document where
  name := "spaced"
  content :=
    ["\x7b\"type\": \"record\", ", "\"name\": \"User\", ", "\"namespace\": \"", space, "\", ",
      "\"fields\": [", "\x7b\"name\": \"id\", ", "\"type\": \"string\"\x7d]\x7d"].flatMap
        Text.ofString

theorem space_eq_of_eligible {content space : Text} {record : Schema.Record}
    (hspace : (eligibleRecord content).toOption.any (·.space == some space) = true)
    (heligible : eligibleRecord content = .ok record) : record.space = some space := by
  obtain ⟨found, hfound, hcheck⟩ := Fallible.exists_of_any hspace
  obtain rfl : found = record := Except.ok.inj (hfound.symm.trans heligible)
  exact eq_of_beq hcheck

theorem spacedDocument_declares_dotted :
    ∃ result generated record type,
      (standard .csharp).generate (spacedDocument "com.my_app") = .ok result ∧
      result.generated = some generated ∧ (standard .csharp).declare record = .ok type ∧
      DeclaresNamespace record type (Text.ofString "com.my_app") generated.source ∧
      Namespace.IsDotted type.space := by
  have hgenerates : (standard .csharp).generates (spacedDocument "com.my_app") = true := by
    decide +kernel
  obtain ⟨result, generated, hresult, hgenerated⟩ := exists_of_generates hgenerates
  obtain ⟨record, type, space, heligible, hdeclare, hdeclares, hiff⟩ :=
    standard_declares_namespace hresult hgenerated
  have hspace : record.space = some (Text.ofString "com.my_app") :=
    space_eq_of_eligible (by decide +kernel) heligible
  obtain rfl : space = Text.ofString "com.my_app" :=
    Option.some.inj (hdeclares.wireSpace.symm.trans hspace)
  exact ⟨result, generated, record, type, hresult, hgenerated, hdeclare, hdeclares,
    hiff.mpr (by decide +kernel)⟩

/-- A source is generated, and the namespace that it declares is no dotted name. -/
def DeclaresUndotted (document : Schema.Document) : Prop :=
  ∃ result generated record type space, (standard .csharp).generate document = .ok result ∧
    result.generated = some generated ∧ (standard .csharp).declare record = .ok type ∧
    DeclaresNamespace record type space generated.source ∧ ¬Namespace.IsDotted type.space

theorem spacedDocument_declaresUndotted {space : String}
    (hgenerates : (standard .csharp).generates (spacedDocument space) = true)
    (hspace : (eligibleRecord (spacedDocument space).content).toOption.any
      (·.space == some (Text.ofString space)) = true)
    (hundottable : ¬Namespace.IsDottable (Text.ofString space)) :
    DeclaresUndotted (spacedDocument space) := by
  obtain ⟨result, generated, hresult, hgenerated⟩ := exists_of_generates hgenerates
  obtain ⟨record, type, wireSpace, heligible, hdeclare, hdeclares⟩ :=
    exists_declaresNamespace hresult hgenerated
  obtain rfl : wireSpace = Text.ofString space :=
    Option.some.inj (hdeclares.wireSpace.symm.trans (space_eq_of_eligible hspace heligible))
  refine ⟨result, generated, record, type, _, hresult, hgenerated, hdeclare, hdeclares, ?_⟩
  rw [hdeclares.space, Namespace.isDotted_normalize_iff]
  exact hundottable

/-- A slash, an empty segment, a leading digit and a punctuation mark all reach the source. -/
theorem spacedDocument_declares_undotted :
    DeclaresUndotted (spacedDocument "a/b") ∧ DeclaresUndotted (spacedDocument "a..b") ∧
      DeclaresUndotted (spacedDocument "1a") ∧ DeclaresUndotted (spacedDocument "a!") :=
  ⟨spacedDocument_declaresUndotted (by decide +kernel) (by decide +kernel) (by decide +kernel),
    spacedDocument_declaresUndotted (by decide +kernel) (by decide +kernel) (by decide +kernel),
    spacedDocument_declaresUndotted (by decide +kernel) (by decide +kernel) (by decide +kernel),
    spacedDocument_declaresUndotted (by decide +kernel) (by decide +kernel) (by decide +kernel)⟩

end Generator

end RecordSmith
