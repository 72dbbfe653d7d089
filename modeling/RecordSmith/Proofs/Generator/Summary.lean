import RecordSmith.Proofs.Generator.Notice
import RecordSmith.Proofs.Target.XmlText

/-!
# The summary of a type

A C# source with comments shows the documentation of a record as an XML summary.  Documentation is
cut at every boundary that ends a line of a source, so each of its lines gets a comment of its own,
and escaping keeps markup out of it.  The clean-up takes the white space at the ends of the comments
away and leaves their number as it is.
-/

namespace RecordSmith

namespace Contract

/-- The comment that a line of documentation has in a source. -/
def commentLine (line : Text) : Text := Text.trimEnd ("/// " ++ xmlText line)

/-- The comments between the start and the end of the summary. -/
def commentLines (doc : Text) : List Text := (Text.documentationLines doc).map commentLine

/-- The lines of the summary in a source. -/
def summaryLines (doc : Text) : List Text :=
  Text.ofString "/// <summary>" :: (commentLines doc ++ [Text.ofString "/// </summary>"])

/-- The cleaned up lines before the summary. -/
def leadingLines (style : Style) (type : TypeDeclaration) : List Text :=
  Layout.squeeze 0 ((notice type ++ preamble style type).flatMap Text.splitLines)

/-! ## Comments -/

theorem map_trimEnd_summary (doc : Text) :
    (summary doc).map Text.trimEnd = summaryLines doc := by
  have hopening : Text.EndsSolid "/// <summary>" := ⟨"/// <summary", 0x3E, rfl, by decide⟩
  have hclosing : Text.EndsSolid "/// </summary>" := ⟨"/// </summary", 0x3E, rfl, by decide⟩
  rw [summary, summaryLines, List.cons_append, List.map_cons, List.map_append, List.map_map,
    List.map_singleton, hopening.trimEnd_eq, hclosing.trimEnd_eq]
  rfl

/-- A comment is the mark alone, or the mark and the escaped line without its end. -/
theorem commentLine_eq (line : Text) :
    commentLine line = if xmlText (Text.trimEnd line) = [] then Text.ofString "///"
      else "/// " ++ xmlText (Text.trimEnd line) := by
  rw [commentLine, Text.trimEnd_append, trimEnd_xmlText]
  rfl

theorem commentLine_ne_nil (line : Text) : commentLine line ≠ [] := by
  rw [commentLine_eq]
  split
  · decide
  · exact List.append_ne_nil_of_left_ne_nil (by decide) _

theorem onOneLine_of_mem_documentationLines {doc line : Text}
    (h : line ∈ Text.documentationLines doc) : Target.csharp.OnOneLine line := by
  have hends : ∀ c ∈ Target.csharp.lineEnds, Text.isLineBoundary c = true := by decide
  intro c hc hend
  have hinside := Text.not_isLineBoundary_of_mem_documentationLines h c hc
  rw [hends c hend] at hinside
  cases hinside

theorem onOneLine_comment {line : Text} (h : Target.csharp.OnOneLine line) :
    Target.csharp.OnOneLine ("/// " ++ xmlText line) :=
  Target.onOneLine_append.mpr ⟨by decide, onOneLine_xmlText h⟩

theorem isXmlText_commentLine (line : Text) : IsXmlText (commentLine line) := by
  have hmark : ∀ c ∈ Text.ofString "/// ", isMarkup c = false := by decide
  have hbare : ∀ c ∈ Text.ofString "///", isMarkup c = false := by decide
  rw [commentLine_eq]
  split
  · exact (isXmlText_xmlText []).append_plain hbare
  · exact (isXmlText_xmlText _).append_plain hmark

theorem onOneLine_commentLine {line : Text} (h : Target.csharp.OnOneLine line) :
    Target.csharp.OnOneLine (commentLine line) :=
  fun c hc => onOneLine_comment h c ((Text.trimEnd_isPrefix _).subset hc)

/-- The lines of the summary in a source are one line each. -/
theorem flatMap_cut_summaryLines (doc : Text) :
    (summaryLines doc).flatMap Target.csharp.cut = summaryLines doc := by
  have hone : ∀ line ∈ summaryLines doc, Target.csharp.OnOneLine line := by
    simp only [summaryLines, commentLines, List.forall_mem_cons, List.forall_mem_append,
      List.forall_mem_map]
    refine ⟨by decide, fun line hline => ?_, by decide⟩
    exact onOneLine_commentLine (onOneLine_of_mem_documentationLines hline)
  calc (summaryLines doc).flatMap Target.csharp.cut
    _ = (summaryLines doc).flatMap fun line => [line] :=
      List.flatMap_congr fun line hline => Target.cut_of_onOneLine (hone line hline)
    _ = summaryLines doc := List.flatMap_singleton' _

theorem summary_shown (doc : Text) :
    ∀ line ∈ summary doc, 0x0A ∉ line ∧ Text.trimEnd line ≠ [] := by
  simp only [summary, List.forall_mem_cons, List.forall_mem_append, List.forall_mem_map,
    List.cons_append]
  refine ⟨by decide, fun line hline => ⟨?_, commentLine_ne_nil line⟩, by decide⟩
  exact Target.not_mem_of_onOneLine
    (onOneLine_comment (onOneLine_of_mem_documentationLines hline))

/-- The summary of a source is cleaned up line by line, and what stands before it by itself. -/
theorem exists_cleanLines_summary {style : Style} {type : TypeDeclaration} {doc : Text}
    {source : Layout.Source} (hheader : source.header = header style type)
    (hmembers : ∀ member ∈ source.members, member ≠ []) (hcomments : style.comments = true)
    (hdoc : type.shownDoc? = some doc) :
    ∃ code, Layout.cleanLines source.assemble =
      leadingLines style type ++ (summaryLines doc ++ code) := by
  have hblock : source.header =
      (notice type ++ preamble style type) ++ (summary doc ++ typeLines style type) := by
    simp [hheader, header, hcomments, hdoc]
  obtain ⟨code, hcode⟩ := Layout.cleanLines_assemble_block hblock (by simp [summary])
    (summary_shown doc) hmembers
  rw [map_trimEnd_summary] at hcode
  exact ⟨code, hcode⟩

/-- The source shows the documentation of a type: behind the notice and the preamble, one comment
for each line of it, between the comments that start and end the summary. -/
structure ShowsSummary (style : Style) (type : TypeDeclaration) (doc ending source : Text) :
    Prop where
  joined : ∃ code, source =
    Text.join ending (leadingLines style type ++ (summaryLines doc ++ code)) ++ ending
  lines : Target.csharp.IsLineBreak ending → ∃ code, Target.csharp.lines source =
    (leadingLines style type).flatMap Target.csharp.cut ++ (summaryLines doc ++ code)
  contained : ∀ line ∈ commentLines doc, Target.csharp.OnOneLine line ∧ IsXmlText line
  restored : ∀ line ∈ Text.documentationLines doc,
    undoXml (xmlText line) = line.replaceSurrogates
  replaced : ∀ line ∈ Text.documentationLines doc,
    xmlText line = Text.replace [0x3E] "&gt;" (Text.replace [0x3C] "&lt;"
      (Text.replace [0x26] "&amp;" line.replaceSurrogates))

theorem showsSummary_of_cleanLines {style : Style} {type : TypeDeclaration} {doc t : Text}
    {code : List Text}
    (hcode : Layout.cleanLines t = leadingLines style type ++ (summaryLines doc ++ code))
    (ending : Text) : ShowsSummary style type doc ending (Layout.cleanUp ending t) := by
  constructor
  case joined => exact ⟨code, by rw [Layout.cleanUp, hcode]⟩
  case lines =>
    intro hending
    have hne : Layout.cleanLines t ≠ [] := by simp [hcode, summaryLines]
    refine ⟨code.flatMap Target.csharp.cut ++ [[]], ?_⟩
    rw [Generator.lines_cleanUp hending hne, hcode, List.flatMap_append, List.flatMap_append,
      flatMap_cut_summaryLines]
    simp only [List.append_assoc]
  case contained =>
    refine List.forall_mem_map.mpr fun line hline => ⟨?_, isXmlText_commentLine line⟩
    exact onOneLine_commentLine (onOneLine_of_mem_documentationLines hline)
  case restored => exact fun line _ => undoXml_xmlText line
  case replaced => exact fun line _ => xmlText_eq_replace line

/-- A C# source starts with the header of a style that has comments if the settings ask for
them. -/
theorem exists_style {generator : Generator} (hlanguage : generator.target = .csharp)
    (indent : Text) (type : TypeDeclaration) :
    ∃ style, style.comments = generator.comments ∧
      (generator.layout indent type).header = header style type ∧
      ∀ member ∈ (generator.layout indent type).members, member ≠ [] := by
  obtain ⟨settings, options, machine⟩ := generator
  cases options with
  | dataclass options => cases hlanguage
  | contract options => exact ⟨_, rfl, rfl, by simp [Generator.layout, memberLines]⟩

end Contract

/-- Whatever the documentation of a type: if a C# source with comments is generated for the type,
the source shows the documentation, and nothing in it leads out of the comments. -/
theorem source_shows_summary {generator : Generator} {type : TypeDeclaration} {doc source : Text}
    (hlanguage : generator.target = .csharp) (hcomments : generator.comments = true)
    (hdoc : type.doc = some doc) (hne : doc ≠ [])
    (hsource : generator.source type = .ok source) :
    ∃ style indent ending, generator.indent = .ok indent ∧
      generator.settings.lineEnding = .text ending ∧
      (generator.layout indent type).header = Contract.header style type ∧
      Contract.ShowsSummary style type doc ending source := by
  obtain ⟨indent, ending, hindent, hending, rfl⟩ := Generator.source_eq_ok_iff.mp hsource
  obtain ⟨style, hstyle, hheader, hmembers⟩ := Contract.exists_style hlanguage indent type
  have hshown : type.shownDoc? = some doc := by simp [TypeDeclaration.shownDoc?, hdoc, hne]
  obtain ⟨code, hcode⟩ := Contract.exists_cleanLines_summary hheader hmembers
    (hstyle.trans hcomments) hshown
  exact ⟨style, indent, ending, hindent, hending, hheader,
    Contract.showsSummary_of_cleanLines hcode ending⟩

/-- Documentation with markup, white space at the end of a line, and three kinds of line ends. -/
def markedText : Text :=
  Text.ofString "if (a < b && c) \r\n\u2028&lt; </summary>\u0085// code" ++ [0xD800]

/-- A record with this documentation. -/
def markedDoc : Schema.Document where
  name := "marked"
  content :=
    ["\x7b\"type\": \"record\", ", "\"name\": \"User\", ", "\"namespace\": \"a\", ",
      "\"doc\": \"if (a < b && c) \\r\\n\\u2028&lt; </summary>\\u0085// code\\ud800\", ",
      "\"fields\": [", "\x7b\"name\": \"id\", ", "\"type\": \"string\"\x7d]\x7d"].flatMap
      Text.ofString

theorem markedDoc_shows_summary :
    ∃ result generated type,
      (Generator.standard .csharp).generate markedDoc = .ok result ∧
      result.generated = some generated ∧
      (Generator.standard .csharp).target = .csharp ∧
      (Generator.standard .csharp).comments = true ∧
      type.doc = some markedText ∧ markedText ≠ [] ∧
      (Generator.standard .csharp).source type = .ok generated.source ∧
      ∃ style indent ending, (Generator.standard .csharp).indent = .ok indent ∧
        (Generator.standard .csharp).settings.lineEnding = .text ending ∧
        ((Generator.standard .csharp).layout indent type).header = Contract.header style type ∧
        Contract.ShowsSummary style type markedText ending generated.source := by
  have hgenerates : (Generator.standard .csharp).generates markedDoc = true := by decide +kernel
  have hread : (eligibleRecord markedDoc.content).toOption.any
      (fun record => record.doc == some markedText) = true := by decide +kernel
  have hcomments : (Generator.standard .csharp).comments = true := rfl
  have hne : markedText ≠ [] := by decide
  obtain ⟨result, generated, hresult, hgenerated⟩ := Generator.exists_of_generates hgenerates
  obtain ⟨record, type, heligible, hdeclare, hemit⟩ :=
    Generator.exists_declare_of_generated hresult hgenerated
  have hdoc : type.doc = some markedText := by
    obtain ⟨found, hfound, hshown⟩ := Fallible.exists_of_any hread
    obtain ⟨_, _, rfl⟩ := Generator.declare_eq_ok hdeclare
    cases hfound.symm.trans heligible
    exact eq_of_beq hshown
  have hsource := Generator.emit_source hemit
  exact ⟨result, generated, type, hresult, hgenerated, rfl, hcomments, hdoc, hne, hsource,
    source_shows_summary rfl hcomments hdoc hne hsource⟩

end RecordSmith
