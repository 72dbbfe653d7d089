import RecordSmith.Proofs.Generator.Source
import RecordSmith.Proofs.Layout.Source
import RecordSmith.Proofs.Target.Lines

/-!
# Members in sources

Each member of a type stands in the source as it is declared.  Its lines end in a bracket,
a brace or a semicolon and hold nothing that ends a line, so the clean-up finds nothing in
them to change, and the member section of a source can be written down from the
declaration alone.
-/

namespace RecordSmith

/-! ## The lines of a member -/

namespace Contract

/-- The initial value of a property, if it has one. -/
def initializer (member : MemberDeclaration) : Text :=
  match member.defaultLiteral with
  | none => []
  | some literal => " = " ++ literal ++ ";"

/-- The lines that declare a member. -/
def declarationLines (indent : Text) (member : MemberDeclaration) : List Text :=
  [indent ++ "[DataMember(Name = " ++ stringLiteral member.wireName ++ ")]",
    indent ++ "public " ++ (if member.required then Text.ofString "required " else []) ++
      member.typeName ++ " " ++ member.name ++ " \x7b get; init; \x7d" ++ initializer member]

theorem memberLines_eq (style : Style) (member : MemberDeclaration) :
    memberLines style member = declarationLines style.indent member := by
  cases hliteral : member.defaultLiteral with
  | none =>
      simp [memberLines, declarationLines, property, initializer, MemberDeclaration.required,
        hliteral, Text.ofString]
  | some literal =>
      simp [memberLines, declarationLines, property, initializer, MemberDeclaration.required,
        hliteral, Text.ofString]

theorem onOneLine_declarationLines {indent : Text} {member : MemberDeclaration}
    (hindent : Target.csharp.OnOneLine indent) (hmember : member.OnOneLine .csharp) :
    ∀ line ∈ declarationLines indent member, Target.csharp.OnOneLine line := by
  have hwire : Target.csharp.OnOneLine (stringLiteral member.wireName) :=
    Target.onOneLine_textLiteral .csharp member.wireName
  have hrequired : Target.csharp.OnOneLine
      (if member.required then Text.ofString "required " else []) := by
    split
    · decide
    · decide
  have hinitializer : Target.csharp.OnOneLine (initializer member) := by
    rw [initializer]
    split
    case h_1 => decide
    case h_2 literal hliteral =>
      have hone : Target.csharp.OnOneLine literal := hmember.literal literal hliteral
      simp +decide [hone]
  simp +decide [declarationLines, hindent, hwire, hrequired, hinitializer, hmember.name,
    hmember.typeName]

theorem endsSolid_declarationLines (indent : Text) (member : MemberDeclaration) :
    ∀ line ∈ declarationLines indent member, Text.EndsSolid line := by
  have hbracket : Text.EndsSolid ")]" := ⟨[0x29], 0x5D, rfl, by decide⟩
  have hbrace : Text.EndsSolid " \x7b get; init; \x7d" :=
    ⟨" \x7b get; init; ", 0x7D, rfl, by decide⟩
  have hsemicolon : Text.EndsSolid ";" := ⟨[], 0x3B, rfl, by decide⟩
  intro line hline
  rw [declarationLines, List.mem_cons, List.mem_singleton] at hline
  rcases hline with rfl | rfl
  · exact hbracket.append _
  · cases hliteral : member.defaultLiteral with
    | none =>
        simp only [initializer, hliteral, List.append_nil]
        exact hbrace.append _
    | some literal =>
        simp only [initializer, hliteral]
        exact (hsemicolon.append _).append _

/-- The clean-up leaves the lines of a member alone. -/
theorem solid_declarationLines {indent : Text} {member : MemberDeclaration}
    (hindent : Target.csharp.OnOneLine indent) (hmember : member.OnOneLine .csharp) :
    Layout.Solid (declarationLines indent member) := by
  refine ⟨List.cons_ne_nil _ _, fun line hline => ⟨?_, ?_⟩⟩
  · exact Target.not_mem_of_onOneLine
      (onOneLine_declarationLines hindent hmember line hline)
  · exact endsSolid_declarationLines indent member line hline

end Contract

namespace Dataclass

/-- The argument for the default of a field, if it has one. -/
def defaultArgument (member : MemberDeclaration) : Text :=
  match member.defaultLiteral with
  | none => []
  | some literal => "default=" ++ literal ++ ", "

/-- The line that declares a member. -/
def declarationLine (metadataKey indent : Text) (member : MemberDeclaration) : Text :=
  indent ++ member.name ++ ": " ++ member.typeName ++ " = field(" ++ defaultArgument member ++
    "metadata=\x7b" ++ stringLiteral metadataKey ++ ": " ++ stringLiteral member.wireName ++
    "\x7d)"

theorem memberLines_eq (style : Style) (member : MemberDeclaration) :
    memberLines style member = [declarationLine style.metadataKey style.indent member] := by
  cases hliteral : member.defaultLiteral with
  | none =>
      simp [memberLines, declarationLine, fieldArguments, fieldMetadata, defaultArgument,
        hliteral, Text.ofString]
  | some literal =>
      simp [memberLines, declarationLine, fieldArguments, fieldMetadata, defaultArgument,
        hliteral, Text.ofString]

theorem map_memberLines (style : Style) (members : List MemberDeclaration) :
    members.map (memberLines style) =
      members.map fun member => [declarationLine style.metadataKey style.indent member] :=
  List.map_congr_left fun member _ => memberLines_eq style member

theorem onOneLine_declarationLine {metadataKey indent : Text} {member : MemberDeclaration}
    (hindent : Target.python.OnOneLine indent) (hmember : member.OnOneLine .python) :
    Target.python.OnOneLine (declarationLine metadataKey indent member) := by
  have htext : ∀ t, Target.python.OnOneLine (stringLiteral t) :=
    Target.onOneLine_textLiteral .python
  have hdefault : Target.python.OnOneLine (defaultArgument member) := by
    rw [defaultArgument]
    split
    case h_1 => decide
    case h_2 literal hliteral =>
      have hone : Target.python.OnOneLine literal := hmember.literal literal hliteral
      simp +decide [hone]
  simp +decide [declarationLine, hindent, htext, hdefault, hmember.name, hmember.typeName]

theorem endsSolid_declarationLine (metadataKey indent : Text) (member : MemberDeclaration) :
    Text.EndsSolid (declarationLine metadataKey indent member) :=
  Text.EndsSolid.append ⟨[0x7D], 0x29, rfl, by decide⟩ _

theorem solid_declarationLine {metadataKey indent : Text} {member : MemberDeclaration}
    (hindent : Target.python.OnOneLine indent) (hmember : member.OnOneLine .python) :
    Layout.Solid [declarationLine metadataKey indent member] := by
  refine ⟨List.cons_ne_nil _ _, List.forall_mem_singleton.mpr ⟨?_, ?_⟩⟩
  · exact Target.not_mem_of_onOneLine (onOneLine_declarationLine hindent hmember)
  · exact endsSolid_declarationLine metadataKey indent member

end Dataclass

/-! ## The member section -/

namespace Generator

/-- The lines of a source behind its header: what declares each member, with an empty line
behind it, and the closing brace in a C# source; in a Python source nothing closes the
class, and nothing empty is left behind the last member. -/
def memberSection (generator : Generator) (indent : Text) (members : List MemberDeclaration) :
    List Text :=
  match generator.options with
  | .contract _ =>
    members.flatMap (fun member => Contract.declarationLines indent member ++ [[]]) ++
      [Text.ofString "\x7d"]
  | .dataclass options =>
    List.intercalate [[]]
      (members.map fun member => [Dataclass.declarationLine options.metadataKey indent member])

/-- The cleaned up lines before the members. -/
def headerLines (generator : Generator) (indent : Text) (type : TypeDeclaration) : List Text :=
  let lines := Layout.squeeze 0
    ((generator.layout indent type).header.flatMap Text.splitLines)
  if (generator.memberSection indent type.members).isEmpty then Layout.dropFinalEmpty lines
  else lines

variable {generator : Generator} {indent : Text} {type : TypeDeclaration}

theorem onOneLine_memberSection {members : List MemberDeclaration}
    (hindent : generator.target.OnOneLine indent)
    (hmembers : ∀ member ∈ members, member.OnOneLine generator.target) :
    ∀ line ∈ generator.memberSection indent members, generator.target.OnOneLine line := by
  obtain ⟨settings, options, machine⟩ := generator
  intro line hline
  cases options with
  | contract options =>
      rcases List.mem_append.mp hline with hblock | hbrace
      · obtain ⟨member, hmember, hmem⟩ := List.mem_flatMap.mp hblock
        rcases List.mem_append.mp hmem with hdeclares | hempty
        · exact Contract.onOneLine_declarationLines hindent (hmembers member hmember) line
            hdeclares
        · rw [List.mem_singleton.mp hempty]
          exact Target.onOneLine_nil
      · have hone : Target.csharp.OnOneLine "\x7d" := by decide
        exact List.mem_singleton.mp hbrace ▸ hone
  | dataclass options =>
      rcases Text.mem_of_mem_intercalate hline with hempty | ⟨block, hblock, hmem⟩
      · rw [List.mem_singleton.mp hempty]
        exact Target.onOneLine_nil
      · obtain ⟨member, hmember, rfl⟩ := List.mem_map.mp hblock
        rw [List.mem_singleton.mp hmem]
        exact Dataclass.onOneLine_declarationLine hindent (hmembers member hmember)

/-- Every header holds a line that the clean-up cannot drop. -/
theorem exists_solid_header (generator : Generator) (indent : Text) (type : TypeDeclaration) :
    ∃ line ∈ (generator.layout indent type).header, 0x0A ∉ line ∧ Text.EndsSolid line := by
  obtain ⟨settings, options, machine⟩ := generator
  cases options with
  | contract options =>
      refine ⟨"using System.Runtime.Serialization;", ?_, by decide, ?_⟩
      · simp [layout, Contract.header, Contract.preamble]
      · exact ⟨"using System.Runtime.Serialization", 0x3B, rfl, by decide⟩
  | dataclass options =>
      refine ⟨"from typing import ClassVar", ?_, by decide, ?_⟩
      · simp [layout, Dataclass.header, Dataclass.imports]
      · exact ⟨"from typing import ClassVa", 0x72, rfl, by decide⟩

theorem headerLines_ne_nil (generator : Generator) (indent : Text) (type : TypeDeclaration) :
    generator.headerLines indent type ≠ [] := by
  obtain ⟨line, hline, hfree, hsolid⟩ := exists_solid_header generator indent type
  have hcut : line ∈ (generator.layout indent type).header.flatMap Text.splitLines := by
    refine List.mem_flatMap.mpr ⟨line, hline, ?_⟩
    rw [Text.splitLines_of_free hfree]
    exact List.mem_singleton_self line
  have hkept : line ∈ Layout.squeeze 0
      ((generator.layout indent type).header.flatMap Text.splitLines) :=
    (Layout.mem_squeeze_iff (by decide)).mpr ⟨line, hcut, hsolid.trimEnd_eq.symm⟩
  rw [headerLines]
  split
  · exact List.ne_nil_of_mem (Layout.mem_dropFinalEmpty hkept hsolid.ne_nil)
  · exact List.ne_nil_of_mem hkept

/-- Cleaned up, a source consists of its header and the member section. -/
theorem cleanLines_layout (hindent : generator.target.OnOneLine indent)
    (hmembers : ∀ member ∈ type.members, member.OnOneLine generator.target) :
    Layout.cleanLines (generator.layout indent type).assemble =
      generator.headerLines indent type ++ generator.memberSection indent type.members := by
  obtain ⟨line, hline, _⟩ := exists_solid_header generator indent type
  have hheader : (generator.layout indent type).header ≠ [] := List.ne_nil_of_mem hline
  obtain ⟨settings, options, machine⟩ := generator
  cases options with
  | contract options =>
      have hbrace : Text.EndsSolid "\x7d" := ⟨[], 0x7D, rfl, by decide⟩
      have hfooter : Layout.Solid Contract.footer :=
        ⟨List.cons_ne_nil _ _, List.forall_mem_singleton.mpr ⟨by decide, hbrace⟩⟩
      rw [Layout.cleanLines_assemble_footer hheader ?members hfooter fun run =>
        Layout.squeeze_solid_cons hbrace run []]
      case members =>
        intro lines hlines
        obtain ⟨member, hmember, rfl⟩ := List.mem_map.mp hlines
        rw [Contract.memberLines_eq]
        exact Contract.solid_declarationLines hindent (hmembers member hmember)
      simp [headerLines, memberSection, layout, Contract.memberLines_eq, Contract.footer,
        List.flatMap_map]
  | dataclass options =>
      rw [Layout.cleanLines_assemble_noFooter hheader ?members rfl]
      case members =>
        intro lines hlines
        obtain ⟨member, hmember, rfl⟩ := List.mem_map.mp hlines
        rw [Dataclass.memberLines_eq]
        exact Dataclass.solid_declarationLine hindent (hmembers member hmember)
      simp only [headerLines, memberSection, layout, Dataclass.map_memberLines]
      cases type.members with
      | nil => simp [List.intercalate]
      | cons first rest => cases rest with
        | nil => simp
        | cons next others => simp [List.intercalate_cons_cons]

/-- With line feeds as line endings these are the lines of the source. -/
theorem splitLines_source (hindent : generator.target.OnOneLine indent)
    (hmembers : ∀ member ∈ type.members, member.OnOneLine generator.target) :
    Text.splitLines (Layout.cleanUp [0x0A] (generator.layout indent type).assemble) =
      generator.headerLines indent type ++ generator.memberSection indent type.members ++
        [[]] := by
  have hlines := cleanLines_layout hindent hmembers
  have hne : Layout.cleanLines (generator.layout indent type).assemble ≠ [] := by
    rw [hlines]
    exact List.append_ne_nil_of_left_ne_nil (headerLines_ne_nil generator indent type) _
  rw [Layout.splitLines_cleanUp hne, hlines]

/-- The source shows the members of a type as they are declared, for the fields of
supported types in their order, and each on lines that nothing in it breaks. -/
structure ShowsMembers (generator : Generator) (record : Schema.Record)
    (type : TypeDeclaration) (indent source : Text) : Prop where
  declared : List.Forall₂ (MemberDeclaration.Declares generator.target)
    (record.fields.filter (·.Supported)) type.members
  lines : Text.splitLines source = generator.headerLines indent type ++
    generator.memberSection indent type.members ++ [[]]
  unbroken : ∀ line ∈ generator.memberSection indent type.members,
    generator.target.OnOneLine line

end Generator

/-- Whatever a document holds: if a source is generated for it with line feeds as line
endings, the lines behind the cleaned up header are those that declare the members. -/
theorem generated_shows_members {generator : Generator} {document : Schema.Document}
    {result : GenerationResult} {generated : Generated}
    (hresult : generator.generate document = .ok result)
    (hgenerated : result.generated = some generated)
    (hending : generator.settings.lineEnding = .text [0x0A]) :
    ∃ record type indent, eligibleRecord document.content = .ok record ∧
      generator.declare record = .ok type ∧
      generator.emit record type = .ok generated ∧
      generator.indent = .ok indent ∧
      generator.ShowsMembers record type indent generated.source := by
  obtain ⟨record, type, heligible, hdeclare, hemit, hdeclares⟩ :=
    Generator.exists_declares_of_generated hresult hgenerated
  obtain ⟨indent, ending, hindent, hsetting, hsource⟩ :=
    Generator.source_eq_ok_iff.mp (Generator.emit_source hemit)
  have hfeed : ending = [0x0A] := by simpa [hending] using hsetting.symm
  have hmembers : ∀ member ∈ type.members, member.OnOneLine generator.target :=
    Generator.declare_members (Generator.eligibleRecord_names heligible) hdeclare hdeclares
  have hblanks : generator.target.OnOneLine indent := by
    obtain ⟨width, hwidth⟩ := Generator.eq_replicate_of_indent hindent
    rw [hwidth]
    exact Target.onOneLine_of_isPlain (Text.isPlain_replicate_blank width)
  refine ⟨record, type, indent, heligible, hdeclare, hemit, hindent, ?_⟩
  rw [hsource, hfeed]
  constructor
  case declared => exact hdeclares
  case lines => exact Generator.splitLines_source hblanks hmembers
  case unbroken => exact Generator.onOneLine_memberSection hblanks hmembers

/-- A record with line terminators in the name and in the default of a field. -/
def brokenNames : Schema.Document where
  name := "broken"
  content :=
    ["\x7b\"type\": \"record\", ", "\"name\": \"Broken\", ", "\"namespace\": \"a\", ",
      "\"fields\": [", "\x7b\"name\": \"first\\u2028second\\n\", ",
      "\"type\": \"string\", ", "\"default\": \"a\\r\\nb\"\x7d, ",
      "\x7b\"name\": \"kept\", ",
      "\"type\": [\"null\", \"boolean\"]\x7d]\x7d"].flatMap Text.ofString

theorem brokenNames_shows_members :
    ∃ result generated record type indent,
      (Generator.standard .csharp).generate brokenNames = .ok result ∧
      result.generated = some generated ∧
      (Generator.standard .csharp).settings.lineEnding = .text [0x0A] ∧
      (Generator.standard .csharp).declare record = .ok type ∧
      (Generator.standard .csharp).emit record type = .ok generated ∧
      (Generator.standard .csharp).indent = .ok indent ∧
      (Generator.standard .csharp).ShowsMembers record type indent generated.source := by
  have hgenerates : (Generator.standard .csharp).generates brokenNames = true := by
    decide +kernel
  have hending : (Generator.standard .csharp).settings.lineEnding = .text [0x0A] := rfl
  obtain ⟨result, generated, hresult, hgenerated⟩ := Generator.exists_of_generates hgenerates
  obtain ⟨record, type, indent, _, hdeclare, hemit, hindent, hshows⟩ :=
    generated_shows_members hresult hgenerated hending
  exact ⟨result, generated, record, type, indent, hresult, hgenerated, hending, hdeclare,
    hemit, hindent, hshows⟩

end RecordSmith
