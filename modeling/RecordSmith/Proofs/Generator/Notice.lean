import RecordSmith.Proofs.Generator.Source
import RecordSmith.Proofs.Layout.Source
import RecordSmith.Proofs.Naming.Namespace
import RecordSmith.Proofs.Target.Lines

/-!
# The notice at the start of sources

A source with comments starts with a notice that quotes the name of the record in the
schema.  The name is quoted as it is, so a line terminator in it ends the comment, and
what follows is part of the code unless it starts a comment again.
-/

namespace RecordSmith

namespace Target

/-- What makes the rest of a line a comment. -/
def commentMark : Target → Text
  | csharp => "//"
  | python => "#"

/-- What the notice quotes from the declaration, to the end of its sentence. -/
def quotation (target : Target) (type : TypeDeclaration) : Text :=
  match target with
  | csharp => type.wireFullName ++ ". Changes to this file will be lost."
  | python => type.wireFullName ++ " into module " ++ type.space ++ "."

/-- The start of the line with the quotation. -/
def quotationLead : Target → Text
  | csharp => "// Generated from Avro schema "
  | python => "# Generated from Avro schema "

/-- The lines that a cleaned up text has in a source. -/
def shownLines (target : Target) (t : Text) : List Text :=
  (Layout.squeeze 0 (Text.splitLines t)).flatMap target.cut

/-- The lines of the notice in a source. -/
def noticeLines (target : Target) (type : TypeDeclaration) : List Text :=
  let quoting := target.shownLines (target.quotationLead ++ target.quotation type)
  match target with
  | csharp => Text.ofString "// <auto-generated>" :: quoting ++
    [Text.ofString "// </auto-generated>"]
  | python => quoting ++ [Text.ofString "# Changes to this file will be lost."]

/-- Every line of a quotation but the first is a comment of its own; white space before a
line feed is left out. -/
def StaysInComment (target : Target) (quotation : Text) : Prop :=
  ∀ line ∈ ((Text.splitLines quotation).flatMap fun line =>
    target.cut (Text.trimEnd line)).tail, target.commentMark <+: line

section Quotation

variable {target : Target}

theorem onOneLine_quotationLead (target : Target) : target.OnOneLine target.quotationLead := by
  cases target with
  | csharp => decide
  | python => decide

theorem commentMark_prefix_quotationLead (target : Target) :
    target.commentMark <+: Text.trimEnd target.quotationLead := by
  cases target with
  | csharp => decide +kernel
  | python => decide +kernel

theorem mem_shownLines {t line : Text} :
    line ∈ target.shownLines t ↔
      line ∈ (Text.splitLines t).flatMap fun part => target.cut (Text.trimEnd part) := by
  have hlimit : 0 < Layout.maxEmptyLines := by decide
  simp only [shownLines, List.mem_flatMap, Layout.mem_squeeze_iff hlimit]
  constructor
  · rintro ⟨_, ⟨part, hpart, rfl⟩, hline⟩
    exact ⟨part, hpart, hline⟩
  · rintro ⟨part, hpart, hline⟩
    exact ⟨_, ⟨part, hpart, rfl⟩, hline⟩

/-- Behind the start of its line a quotation has the lines that it has by itself. -/
theorem exists_cut_quotation (target : Target) (quotation : Text) :
    ∃ first quoted others,
      ((Text.splitLines quotation).flatMap fun part => target.cut (Text.trimEnd part)) =
        quoted :: others ∧
      ((Text.splitLines (target.quotationLead ++ quotation)).flatMap fun part =>
        target.cut (Text.trimEnd part)) = first :: others ∧
      target.commentMark <+: first := by
  have hlead := onOneLine_quotationLead target
  have hmark := commentMark_prefix_quotationLead target
  have hfree : ∀ c ∈ target.quotationLead, (c == 0x0A) = false := fun c hc =>
    beq_false_of_ne fun heq => not_mem_of_onOneLine hlead (heq ▸ hc)
  obtain ⟨part, parts, hparts, hleadParts⟩ := Text.exists_splitOn_append hfree quotation
  have htrim := Text.trimEnd_isPrefix target.quotationLead
  simp only [Text.splitLines, hparts, hleadParts, List.flatMap_cons, Text.trimEnd_append]
  by_cases hblank : Text.trimEnd part = []
  · have htrimmed : target.OnOneLine (Text.trimEnd target.quotationLead) :=
      fun c hc => hlead c (htrim.subset hc)
    rw [if_pos hblank, hblank, cut_of_onOneLine htrimmed, cut_of_onOneLine onOneLine_nil]
    exact ⟨_, _, _, rfl, rfl, hmark⟩
  · obtain ⟨first, others, hcut, hleadCut⟩ := exists_cut_append hlead (Text.trimEnd part)
    rw [if_neg hblank, hcut, hleadCut]
    exact ⟨_, _, _, rfl, rfl, (hmark.trans htrim).trans (List.prefix_append _ _)⟩

/-- The line with the quotation is all comment exactly if the quotation stays in it. -/
theorem shownLines_comment_iff (target : Target) (quotation : Text) :
    (∀ line ∈ target.shownLines (target.quotationLead ++ quotation),
        target.commentMark <+: line) ↔
      target.StaysInComment quotation := by
  obtain ⟨first, quoted, others, hquoted, hshown, hfirst⟩ :=
    exists_cut_quotation target quotation
  simp only [mem_shownLines, hshown, StaysInComment, hquoted, List.forall_mem_cons,
    List.tail_cons]
  exact and_iff_right hfirst

theorem noticeLines_comment_iff (target : Target) (type : TypeDeclaration) :
    (∀ line ∈ target.noticeLines type, target.commentMark <+: line) ↔
      target.StaysInComment (target.quotation type) := by
  rw [← shownLines_comment_iff]
  cases target with
  | csharp =>
      have hopening : csharp.commentMark <+: Text.ofString "// <auto-generated>" := by
        decide +kernel
      have hclosing : csharp.commentMark <+: Text.ofString "// </auto-generated>" := by
        decide +kernel
      simp only [noticeLines, List.forall_mem_append, List.forall_mem_cons]
      simp [hopening, hclosing]
  | python =>
      have hwarning : python.commentMark <+:
          Text.ofString "# Changes to this file will be lost." := by decide +kernel
      simp only [noticeLines, List.forall_mem_append, List.forall_mem_singleton]
      exact and_iff_left hwarning

/-- A quotation without line terminators stays in the comment. -/
theorem staysInComment_of_onOneLine {quotation : Text} (h : target.OnOneLine quotation) :
    target.StaysInComment quotation := by
  have htrimmed : target.OnOneLine (Text.trimEnd quotation) :=
    fun c hc => h c ((Text.trimEnd_isPrefix quotation).subset hc)
  intro line hline
  rw [Text.splitLines_of_free (not_mem_of_onOneLine h), List.flatMap_singleton,
    cut_of_onOneLine htrimmed] at hline
  cases hline

/-- Names without line terminators are quoted without any. -/
theorem onOneLine_quotation {type : TypeDeclaration} (hname : target.OnOneLine type.wireName)
    (hwire : target.OnOneLine type.wireSpace) (hspace : target.OnOneLine type.space) :
    target.OnOneLine (target.quotation type) := by
  have hstop : target.OnOneLine (Text.ofString ".") := by
    cases target with
    | csharp => decide
    | python => decide
  have hfull : target.OnOneLine type.wireFullName := by
    rw [TypeDeclaration.wireFullName]
    split
    · exact hname
    · simp [hwire, hstop, hname]
  cases target with
  | csharp => simp +decide [quotation, hfull]
  | python => simp +decide [quotation, hfull, hspace]

end Quotation

end Target

/-! ## Sources with a notice -/

namespace Generator

variable {generator : Generator} {type : TypeDeclaration}

/-- The lines of a source are those of the cleaned up text, and what is behind the last
line ending. -/
theorem lines_cleanUp {target : Target} {ending t : Text} (hending : target.IsLineBreak ending)
    (h : Layout.cleanLines t ≠ []) :
    target.lines (Layout.cleanUp ending t) =
      (Layout.cleanLines t).flatMap target.cut ++ [[]] := by
  have hparts : ∀ part ∈ Layout.cleanLines t ++ [[]],
      0x0A ∉ part ∧ part.getLast? ≠ some 0x0D := by
    rw [List.forall_mem_append, List.forall_mem_singleton]
    refine ⟨fun line hline => ⟨Layout.not_mem_of_mem_cleanLines hline, ?_⟩, by decide⟩
    obtain ⟨original, _, rfl⟩ := Layout.exists_of_mem_cleanLines hline
    exact Text.getLast?_trimEnd_ne (by decide) original
  have hne : Layout.cleanLines t ++ [[]] ≠ [] := List.append_ne_nil_of_left_ne_nil h _
  rw [Layout.cleanUp, ← Text.join_append_nil h, Target.lines_join hending hne hparts,
    List.flatMap_append]
  rfl

section Layouts

variable {settings : Settings} {machine : Machine}
variable {contract : Contract.Options} {dataclass : Dataclass.Options}

/-- The notice of a C# source is cleaned up by itself: its first and its last line are left
alone, and so is what stands around it. -/
theorem exists_cleanLines_contract
    (hcomments : comments ⟨settings, .contract contract, machine⟩ = true) (indent : Text)
    (type : TypeDeclaration) :
    ∃ code, Layout.cleanLines
        (layout ⟨settings, .contract contract, machine⟩ indent type).assemble =
      Text.ofString "// <auto-generated>" ::
        (Layout.squeeze 0 (Text.splitLines
          (Target.csharp.quotationLead ++ Target.csharp.quotation type)) ++
        Text.ofString "// </auto-generated>" :: code) := by
  have hopening : Text.EndsSolid "// <auto-generated>" :=
    ⟨"// <auto-generated", 0x3E, rfl, by decide⟩
  have hclosing : Text.EndsSolid "// </auto-generated>" :=
    ⟨"// </auto-generated", 0x3E, rfl, by decide⟩
  let quoting := Target.csharp.quotationLead ++ Target.csharp.quotation type
  have hheader : ∃ after, (layout ⟨settings, .contract contract, machine⟩ indent type).header =
      [Text.ofString "// <auto-generated>", quoting] ++
        Text.ofString "// </auto-generated>" :: after := by
    simp only [layout, Contract.header, hcomments, Contract.notice]
    exact ⟨_, rfl⟩
  obtain ⟨after, hafter⟩ := hheader
  obtain ⟨code, hcode⟩ := Layout.cleanLines_assemble_header hafter (by decide) hclosing
    (by simp [layout, Contract.memberLines])
  refine ⟨code, hcode.trans ?_⟩
  rw [List.flatMap_cons, List.flatMap_singleton, Text.splitLines_of_free (by decide),
    List.singleton_append, Layout.squeeze_solid_cons hopening, List.cons_append]

/-- The notice of a Python source is cleaned up by itself, too. -/
theorem exists_cleanLines_dataclass
    (hcomments : comments ⟨settings, .dataclass dataclass, machine⟩ = true) (indent : Text)
    (type : TypeDeclaration) :
    ∃ code, Layout.cleanLines
        (layout ⟨settings, .dataclass dataclass, machine⟩ indent type).assemble =
      Layout.squeeze 0 (Text.splitLines
        (Target.python.quotationLead ++ Target.python.quotation type)) ++
      Text.ofString "# Changes to this file will be lost." ::
        Text.ofString "from dataclasses import dataclass, field" :: code := by
  have hwarning : Text.EndsSolid "# Changes to this file will be lost." :=
    ⟨"# Changes to this file will be lost", 0x2E, rfl, by decide⟩
  have himport : Text.EndsSolid "from dataclasses import dataclass, field" :=
    ⟨"from dataclasses import dataclass, fiel", 0x64, rfl, by decide⟩
  let quoting := Target.python.quotationLead ++ Target.python.quotation type
  have hheader : ∃ after, (layout ⟨settings, .dataclass dataclass, machine⟩ indent type).header =
      [quoting, Text.ofString "# Changes to this file will be lost."] ++
        Text.ofString "from dataclasses import dataclass, field" :: after := by
    simp only [layout, Dataclass.header, hcomments, Dataclass.notice]
    exact ⟨_, rfl⟩
  obtain ⟨after, hafter⟩ := hheader
  obtain ⟨code, hcode⟩ := Layout.cleanLines_assemble_header hafter (by decide) himport
    (by simp [layout, Dataclass.memberLines])
  refine ⟨code, hcode.trans ?_⟩
  rw [List.flatMap_cons, List.flatMap_singleton, Layout.squeeze_append,
    Text.splitLines_of_free (t := "# Changes to this file will be lost.") (by decide),
    Layout.squeeze_solid_cons hwarning, List.append_assoc]
  rfl

end Layouts

/-- The lines of the notice come first in the source, those of the code behind them. -/
theorem exists_lines_source {ending : Text} (hcomments : generator.comments = true)
    (hending : generator.target.IsLineBreak ending) (indent : Text) (type : TypeDeclaration) :
    ∃ code, generator.target.lines
        (Layout.cleanUp ending (generator.layout indent type).assemble) =
          generator.target.noticeLines type ++ code ∧
      (generator.target = .python →
        code.head? = some (Text.ofString "from dataclasses import dataclass, field")) := by
  obtain ⟨settings, options, machine⟩ := generator
  cases options with
  | contract options =>
      obtain ⟨code, hcode⟩ := exists_cleanLines_contract hcomments indent type
      have hopening : Target.csharp.OnOneLine "// <auto-generated>" := by decide
      have hclosing : Target.csharp.OnOneLine "// </auto-generated>" := by decide
      refine ⟨code.flatMap Target.csharp.cut ++ [[]], ?_, nofun⟩
      rw [lines_cleanUp hending (by simp [hcode]), hcode]
      change List.flatMap Target.csharp.cut _ ++ [[]] = Target.csharp.noticeLines type ++ _
      simp [Target.noticeLines, Target.shownLines, Target.cut_of_onOneLine hopening,
        Target.cut_of_onOneLine hclosing]
  | dataclass options =>
      obtain ⟨code, hcode⟩ := exists_cleanLines_dataclass hcomments indent type
      have hwarning : Target.python.OnOneLine "# Changes to this file will be lost." := by
        decide
      have himport : Target.python.OnOneLine "from dataclasses import dataclass, field" := by
        decide
      refine ⟨Text.ofString "from dataclasses import dataclass, field" ::
        (code.flatMap Target.python.cut ++ [[]]), ?_, fun _ => rfl⟩
      rw [lines_cleanUp hending (by simp [hcode]), hcode]
      change List.flatMap Target.python.cut _ ++ [[]] = Target.python.noticeLines type ++ _
      simp [Target.noticeLines, Target.shownLines, Target.cut_of_onOneLine hwarning,
        Target.cut_of_onOneLine himport]

/-- Conversion puts no line terminator into the namespace. -/
theorem onOneLine_declare_space {record : Schema.Record}
    (hdeclare : generator.declare record = .ok type)
    (hspace : generator.target.OnOneLine type.wireSpace) :
    generator.target.OnOneLine type.space := by
  obtain ⟨spaceCase, hconverted⟩ := declare_space hdeclare
  intro c hc hend
  rw [hconverted] at hc
  have hwire : c ∉ type.wireSpace := fun hmem => hspace c hmem hend
  exact Namespace.not_mem_convert (Target.isRemoved_of_mem_lineEnds hend) hwire spaceCase hc

end Generator

/-- The notice stands at the start of the source, and it is all comment exactly if what it
quotes stays in the comment. -/
structure Target.ShowsNotice (target : Target) (type : TypeDeclaration) (source : Text) :
    Prop where
  lines : ∃ code, target.lines source = target.noticeLines type ++ code ∧
    (target = .python →
      code.head? = some (Text.ofString "from dataclasses import dataclass, field"))
  comment_iff : (∀ line ∈ target.noticeLines type, target.commentMark <+: line) ↔
    target.StaysInComment (target.quotation type)
  comment_of_plain : target.OnOneLine type.wireName → target.OnOneLine type.wireSpace →
    ∀ line ∈ target.noticeLines type, target.commentMark <+: line

/-- Whatever a document holds: if a source with comments is generated for it, the lines of
its notice are comments exactly if the names that it quotes do not lead out of them. -/
theorem generated_notice_comment_iff {generator : Generator} {document : Schema.Document}
    {result : GenerationResult} {generated : Generated} {ending : Text}
    (hresult : generator.generate document = .ok result)
    (hgenerated : result.generated = some generated)
    (hcomments : generator.comments = true)
    (hending : generator.settings.lineEnding = .text ending)
    (hbreak : generator.target.IsLineBreak ending) :
    ∃ record type, eligibleRecord document.content = .ok record ∧
      generator.declare record = .ok type ∧
      generator.emit record type = .ok generated ∧
      generator.target.ShowsNotice type generated.source := by
  obtain ⟨record, type, heligible, hdeclare, hemit⟩ :=
    Generator.exists_declare_of_generated hresult hgenerated
  obtain ⟨indent, used, _, hused, hsource⟩ :=
    Generator.source_eq_ok_iff.mp (Generator.emit_source hemit)
  have hsame : used = ending := by simpa [hending] using hused.symm
  refine ⟨record, type, heligible, hdeclare, hemit, ?_⟩
  constructor
  case lines =>
    rw [hsource, hsame]
    exact Generator.exists_lines_source hcomments hbreak indent type
  case comment_iff => exact Target.noticeLines_comment_iff _ type
  case comment_of_plain =>
    intro hname hspace
    apply (Target.noticeLines_comment_iff _ type).mpr
    exact Target.staysInComment_of_onOneLine (Target.onOneLine_quotation hname hspace
      (Generator.onOneLine_declare_space hdeclare hspace))

/-- A record whose name has a line feed in it. -/
def brokenName : Schema.Document where
  name := "broken"
  content :=
    ["\x7b\"type\": \"record\", ", "\"name\": \"A\\nB\", ", "\"namespace\": \"a\", ",
      "\"fields\": [", "\x7b\"name\": \"id\", ",
      "\"type\": \"string\"\x7d]\x7d"].flatMap Text.ofString

theorem brokenName_notice_comment_iff :
    ∃ result generated record type,
      (Generator.standard .csharp).generate brokenName = .ok result ∧
      result.generated = some generated ∧
      (Generator.standard .csharp).comments = true ∧
      (Generator.standard .csharp).settings.lineEnding = .text [0x0A] ∧
      Target.csharp.IsLineBreak [0x0A] ∧
      (Generator.standard .csharp).declare record = .ok type ∧
      (Generator.standard .csharp).emit record type = .ok generated ∧
      Target.csharp.ShowsNotice type generated.source := by
  have hgenerates : (Generator.standard .csharp).generates brokenName = true := by
    decide +kernel
  have hcomments : (Generator.standard .csharp).comments = true := rfl
  have hending : (Generator.standard .csharp).settings.lineEnding = .text [0x0A] := rfl
  have hbreak : Target.csharp.IsLineBreak [0x0A] := Or.inr ⟨0x0A, by decide, rfl⟩
  obtain ⟨result, generated, hresult, hgenerated⟩ :=
    Generator.exists_of_generates hgenerates
  obtain ⟨record, type, _, hdeclare, hemit, hnotice⟩ :=
    generated_notice_comment_iff hresult hgenerated hcomments hending hbreak
  exact ⟨result, generated, record, type, hresult, hgenerated, hcomments, hending, hbreak,
    hdeclare, hemit, hnotice⟩

/-- The part of the name behind the line feed stands between two comments and is none. -/
theorem brokenName_leaves_comment :
    ∃ result generated,
      (Generator.standard .csharp).generate brokenName = .ok result ∧
      result.generated = some generated ∧
      (Target.csharp.lines generated.source).take 4 =
        [Text.ofString "// <auto-generated>",
          Text.ofString "// Generated from Avro schema a.A",
          Text.ofString "B. Changes to this file will be lost.",
          Text.ofString "// </auto-generated>"] ∧
      ¬Target.csharp.commentMark <+: Text.ofString "B. Changes to this file will be lost." := by
  have hfirst : ((Generator.standard .csharp).generate brokenName).toOption.any (fun result =>
      result.generated.any fun generated => (Target.csharp.lines generated.source).take 4 ==
        [Text.ofString "// <auto-generated>",
          Text.ofString "// Generated from Avro schema a.A",
          Text.ofString "B. Changes to this file will be lost.",
          Text.ofString "// </auto-generated>"]) = true := by decide +kernel
  obtain ⟨result, hresult, hsource⟩ := Fallible.exists_of_any hfirst
  obtain ⟨generated, hgenerated, hlines⟩ :=
    (Option.any_eq_true _ _).mp hsource
  exact ⟨result, generated, hresult, hgenerated, eq_of_beq hlines, by decide +kernel⟩

end RecordSmith
