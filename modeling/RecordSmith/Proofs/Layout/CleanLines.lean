import RecordSmith.Proofs.Generator.Standard
import RecordSmith.Proofs.Generator.Source
import RecordSmith.Proofs.Layout.Source

/-!
# What the clean-up makes of a text

The lines of a text fall into the ones that show something, each with the blank lines directly
before it, and blank lines at the end.  The clean-up keeps the former, with two empty lines before
each of them at most, and drops the latter.  What it makes is clean, and a text of clean lines is
kept as it is.
-/

namespace RecordSmith.Layout

open RecordSmith.Text

/-! ## Clean lines -/

/-- What the lines of a cleaned up text look like. -/
structure IsClean (lines : List Text) : Prop where
  /-- No line ends in white space. -/
  trimmed : ∀ line ∈ lines, ∀ c ∈ line.getLast?, isBlank c = false
  /-- No empty line stands at the end. -/
  ended : lines.getLast? ≠ some []
  /-- No three empty lines follow one another. -/
  spaced : ¬[[], [], []] <:+: lines

/-- A line that is not blank, with the blank lines directly before it. -/
structure SpacedLine where
  blanks : List Text
  line : Text
  blanks_blank : ∀ blank ∈ blanks, trimEnd blank = []
  line_shown : trimEnd line ≠ []

namespace SpacedLine

/-- The lines as they stand in the text. -/
def lines (spaced : SpacedLine) : List Text := spaced.blanks ++ [spaced.line]

/-- What the clean-up makes of them. -/
def cleaned (spaced : SpacedLine) : List Text :=
  List.replicate (min spaced.blanks.length 2) [] ++ [trimEnd spaced.line]

end SpacedLine

/-- The lines are what the clean-up has to make of the lines of a text. -/
structure Cleans (source lines : List Text) : Prop where
  clean : IsClean lines
  /-- The lines that are not blank are there in their order, without their ends. -/
  shown : lines.filter (· ≠ []) = (source.filter (trimEnd · ≠ [])).map trimEnd
  /-- Blank lines before one that is not blank become empty lines, two at most. -/
  runs : ∃ (spaced : List SpacedLine) (final : List Text),
    source = spaced.flatMap SpacedLine.lines ++ final ∧
      (∀ blank ∈ final, trimEnd blank = []) ∧ lines = spaced.flatMap SpacedLine.cleaned

/-! ## Runs of blank lines -/

/-- Blank lines become empty ones up to the limit, and count towards it. -/
theorem squeeze_blanks {blanks : List Text} (hblanks : ∀ blank ∈ blanks, trimEnd blank = [])
    (run : Nat) (rest : List Text) :
    squeeze run (blanks ++ rest) =
      List.replicate (min blanks.length (maxEmptyLines - run)) [] ++
        squeeze (run + blanks.length) rest := by
  induction blanks generalizing run with
  | nil => simp
  | cons blank others ih =>
      obtain ⟨hblank, hothers⟩ := List.forall_mem_cons.mp hblanks
      rw [List.cons_append, squeeze_cons, hblank, List.isEmpty_nil, if_pos rfl, ih hothers,
        List.length_cons, Nat.add_assoc, Nat.add_comm 1]
      by_cases hrun : run < maxEmptyLines
      · have hcount : min (others.length + 1) (maxEmptyLines - run) =
            min others.length (maxEmptyLines - (run + 1)) + 1 := by omega
        simp [hrun, hcount, List.replicate_succ]
      · have hnone : maxEmptyLines - run = 0 := by omega
        have hlater : maxEmptyLines - (run + 1) = 0 := by omega
        simp [hrun, hnone, hlater]

theorem squeeze_spaced (spaced : SpacedLine) (rest : List Text) :
    squeeze 0 (spaced.lines ++ rest) = spaced.cleaned ++ squeeze 0 rest := by
  have hshown : (trimEnd spaced.line).isEmpty = false :=
    List.isEmpty_eq_false_iff.mpr spaced.line_shown
  rw [SpacedLine.lines, List.append_assoc, squeeze_blanks spaced.blanks_blank,
    List.singleton_append, squeeze_cons, hshown, SpacedLine.cleaned, List.append_assoc]
  rfl

/-- Every text falls into lines that are not blank, the blank ones before each of them, and those
at the end. -/
theorem exists_spaced (source : List Text) :
    ∃ (spaced : List SpacedLine) (final : List Text),
      source = spaced.flatMap SpacedLine.lines ++ final ∧ ∀ blank ∈ final, trimEnd blank = [] := by
  induction source with
  | nil => exact ⟨[], [], rfl, List.forall_mem_nil _⟩
  | cons line rest ih =>
      obtain ⟨spaced, final, rfl, hfinal⟩ := ih
      by_cases hline : trimEnd line = []
      · -- A blank line joins the group behind it, or the end if no group follows.
        cases spaced with
        | nil => exact ⟨[], line :: final, rfl, List.forall_mem_cons.mpr ⟨hline, hfinal⟩⟩
        | cons next others =>
            let joined : SpacedLine :=
              { next with
                blanks := line :: next.blanks
                blanks_blank := List.forall_mem_cons.mpr ⟨hline, next.blanks_blank⟩ }
            exact ⟨joined :: others, final, rfl, hfinal⟩
      · let alone : SpacedLine :=
          { blanks := [], line, blanks_blank := List.forall_mem_nil _, line_shown := hline }
        exact ⟨alone :: spaced, final, rfl, hfinal⟩

section Runs

variable (spaced : List SpacedLine) {final : List Text}

theorem squeeze_runs (hfinal : ∀ blank ∈ final, trimEnd blank = []) :
    squeeze 0 (spaced.flatMap SpacedLine.lines ++ final) =
      spaced.flatMap SpacedLine.cleaned ++
        List.replicate (min final.length maxEmptyLines) [] := by
  induction spaced with
  | nil =>
      have hempty := squeeze_blanks hfinal 0 []
      simpa [squeeze] using hempty
  | cons first others ih =>
      rw [List.flatMap_cons, List.append_assoc, squeeze_spaced, ih, List.flatMap_cons,
        List.append_assoc]

theorem dropFinalEmpty_append_replicate (lines : List Text) (count : Nat) :
    dropFinalEmpty (lines ++ List.replicate count []) = dropFinalEmpty lines := by
  induction count with
  | zero => rw [List.replicate_zero, List.append_nil]
  | succ count ih =>
      rw [List.replicate_succ', ← List.append_assoc, dropFinalEmpty_append_nil, ih]

/-- The last line of a spaced one is not empty. -/
theorem dropFinalEmpty_cleaned :
    dropFinalEmpty (spaced.flatMap SpacedLine.cleaned) = spaced.flatMap SpacedLine.cleaned := by
  rcases List.eq_nil_or_concat spaced with rfl | ⟨others, last, rfl⟩
  · rfl
  · rw [List.concat_eq_append, List.flatMap_append, List.flatMap_singleton, SpacedLine.cleaned,
      ← List.append_assoc, dropFinalEmpty_of_last _ last.line_shown]

theorem dropFinalEmpty_squeeze_runs (hfinal : ∀ blank ∈ final, trimEnd blank = []) :
    dropFinalEmpty (squeeze 0 (spaced.flatMap SpacedLine.lines ++ final)) =
      spaced.flatMap SpacedLine.cleaned := by
  rw [squeeze_runs spaced hfinal, dropFinalEmpty_append_replicate, dropFinalEmpty_cleaned]

/-- The lines that show something are the last ones of their groups. -/
theorem filter_runs (hfinal : ∀ blank ∈ final, trimEnd blank = []) :
    (spaced.flatMap SpacedLine.cleaned).filter (· ≠ []) =
      ((spaced.flatMap SpacedLine.lines ++ final).filter (trimEnd · ≠ [])).map trimEnd := by
  have hnone : ∀ {blanks : List Text}, (∀ blank ∈ blanks, trimEnd blank = []) →
      blanks.filter (trimEnd · ≠ []) = [] := by
    intro blanks hblanks
    exact List.filter_eq_nil_iff.mpr fun blank hblank => by simp [hblanks blank hblank]
  rw [List.filter_append, hnone hfinal, List.append_nil]
  induction spaced with
  | nil => rfl
  | cons first others ih =>
      rw [List.flatMap_cons, List.flatMap_cons, List.filter_append, List.filter_append,
        List.map_append, ih, SpacedLine.lines, List.filter_append, hnone first.blanks_blank]
      simp [SpacedLine.cleaned, first.line_shown]

end Runs

/-! ## Empty lines in a row -/

/-- Squeezed lines start with no more empty ones than the limit leaves. -/
theorem le_of_replicate_prefix {run : Nat} {lines : List Text} {count : Nat}
    (h : List.replicate count [] <+: squeeze run lines) : count ≤ maxEmptyLines - run := by
  induction lines generalizing run count with
  | nil =>
      rw [squeeze, List.prefix_nil, List.replicate_eq_nil_iff] at h
      omega
  | cons line rest ih =>
      cases count with
      | zero => exact Nat.zero_le _
      | succ count =>
          rw [squeeze_cons] at h
          by_cases hline : trimEnd line = []
          · by_cases hrun : run < maxEmptyLines
            · have hrest : List.replicate count [] <+: squeeze (run + 1) rest := by
                simpa [hline, hrun, List.replicate_succ] using h
              have hcount := ih hrest
              omega
            · have hrest : List.replicate (count + 1) [] <+: squeeze (run + 1) rest := by
                simpa [hline, hrun] using h
              have hcount := ih hrest
              omega
          · simp [hline, List.replicate_succ] at h

/-- Nowhere in squeezed lines stand more empty ones than the limit allows. -/
theorem not_replicate_infix_squeeze (run : Nat) (lines : List Text) :
    ¬List.replicate (maxEmptyLines + 1) [] <:+: squeeze run lines := by
  induction lines generalizing run with
  | nil => simp [squeeze]
  | cons line rest ih =>
      intro h
      have hstart : ¬List.replicate (maxEmptyLines + 1) [] <+: squeeze run (line :: rest) := by
        intro hprefix
        have hcount := le_of_replicate_prefix hprefix
        omega
      rw [squeeze_cons] at h hstart
      split at h
      case isTrue => exact ih _ h
      case isFalse hkept =>
        rw [if_neg hkept] at hstart
        exact ih _ ((List.infix_cons_iff.mp h).resolve_left hstart)

theorem getLast?_dropFinalEmpty (lines : List Text) :
    (dropFinalEmpty lines).getLast? ≠ some [] := by
  induction lines using List.reverseRecOn with
  | nil => simp [dropFinalEmpty]
  | append_singleton lines last ih =>
      by_cases hlast : last = []
      · rw [hlast, dropFinalEmpty_append_nil]
        exact ih
      · rw [dropFinalEmpty_of_last lines hlast, List.getLast?_concat]
        simpa using hlast

theorem isClean_cleanLines (t : Text) : IsClean (cleanLines t) where
  trimmed := by
    intro line hline c hc
    obtain ⟨original, _, rfl⟩ := exists_of_mem_cleanLines hline
    rw [← Bool.not_eq_true]
    exact fun hblank => getLast?_trimEnd_ne hblank original hc
  ended := getLast?_dropFinalEmpty _
  spaced := fun h =>
    not_replicate_infix_squeeze 0 _ (h.trans (dropFinalEmpty_isPrefix _).isInfix)

/-- The clean-up makes clean lines of all that a text shows. -/
theorem cleans_cleanLines (t : Text) : Cleans (splitLines t) (cleanLines t) := by
  obtain ⟨spaced, final, hsource, hfinal⟩ := exists_spaced (splitLines t)
  have hlines : cleanLines t = spaced.flatMap SpacedLine.cleaned := by
    rw [cleanLines, hsource, dropFinalEmpty_squeeze_runs spaced hfinal]
  constructor
  case clean => exact isClean_cleanLines t
  case shown => rw [hlines, hsource, filter_runs spaced hfinal]
  case runs => exact ⟨spaced, final, hsource, hfinal, hlines⟩

/-! ## Clean texts -/

section Clean

variable {lines : List Text}

theorem IsClean.trimEnd_eq (h : IsClean lines) {line : Text} (hline : line ∈ lines) :
    trimEnd line = line := by
  rcases List.eq_nil_or_concat line with rfl | ⟨start, last, rfl⟩
  · rfl
  · rw [List.concat_eq_append] at hline ⊢
    have hlast := h.trimmed _ hline last (by rw [List.getLast?_concat]; rfl)
    exact EndsSolid.trimEnd_eq ⟨start, last, rfl, hlast⟩

/-- Trimmed lines with few empty ones in a row are not squeezed any further. -/
theorem squeeze_eq_self {run : Nat} (htrimmed : ∀ line ∈ lines, trimEnd line = line)
    (hspaced : ¬List.replicate (maxEmptyLines + 1) [] <:+: List.replicate run [] ++ lines) :
    squeeze run lines = lines := by
  induction lines generalizing run with
  | nil => rfl
  | cons line rest ih =>
      obtain ⟨hline, hrest⟩ := List.forall_mem_cons.mp htrimmed
      rw [squeeze_cons, hline]
      cases line with
      | nil =>
          -- The empty line is one more of the `run` before it, so the limit is not reached.
          have hrow : List.replicate run [] ++ [] :: rest =
              List.replicate (run + 1) [] ++ rest := by
            rw [List.replicate_succ', List.append_assoc, List.singleton_append]
          rw [hrow] at hspaced
          have hrun : run < maxEmptyLines := by
            refine Nat.lt_of_not_le fun hlimit => hspaced ?_
            obtain ⟨more, hmore⟩ := Nat.exists_eq_add_of_le (Nat.add_le_add_right hlimit 1)
            rw [hmore, ← List.replicate_append_replicate (n := maxEmptyLines + 1),
              List.append_assoc]
            exact (List.prefix_append _ _).isInfix
          simp [hrun, ih hrest hspaced]
      | cons c tail =>
          have hlater : ¬List.replicate (maxEmptyLines + 1) [] <:+: List.replicate 0 [] ++ rest :=
            fun h => hspaced (h.trans ⟨List.replicate run [] ++ [c :: tail], [], by simp⟩)
          simp [ih hrest hlater]

/-- Squeezing looks at lines without their ends. -/
theorem squeeze_congr {run : Nat} {others : List Text}
    (h : lines.map trimEnd = others.map trimEnd) : squeeze run lines = squeeze run others := by
  induction lines generalizing run others with
  | nil => rw [List.map_eq_nil_iff.mp h.symm]
  | cons line rest ih =>
      obtain ⟨other, more, rfl, hother, hmore⟩ := List.map_eq_cons_iff.mp h.symm
      rw [squeeze_cons, squeeze_cons, hother, ih hmore.symm]

theorem dropFinalEmpty_eq_self (h : lines.getLast? ≠ some []) : dropFinalEmpty lines = lines := by
  rcases List.eq_nil_or_concat lines with rfl | ⟨before, last, rfl⟩
  · rfl
  · rw [List.concat_eq_append] at h ⊢
    exact dropFinalEmpty_of_last before fun hlast => h (by rw [hlast, List.getLast?_concat])

/-- Clean lines come through, whatever white space stands behind them and whatever blank line
stands at the end. -/
theorem IsClean.dropFinalEmpty_squeeze (h : IsClean lines) {source : List Text} {blank : Text}
    (hsource : source.map trimEnd = lines) (hblank : trimEnd blank = []) :
    dropFinalEmpty (squeeze 0 (source ++ [blank])) = lines := by
  have htrimmed : ∀ line ∈ lines, trimEnd line = line := fun _ => h.trimEnd_eq
  have hsame : source.map trimEnd = lines.map trimEnd := by
    rw [hsource, List.map_congr_left htrimmed, List.map_id']
  have hkept : squeeze 0 source = lines :=
    calc squeeze 0 source
      _ = squeeze 0 lines := squeeze_congr hsame
      _ = lines := squeeze_eq_self htrimmed h.spaced
  have hfinal : ∀ line ∈ [blank], trimEnd line = [] := List.forall_mem_singleton.mpr hblank
  rw [squeeze_append, hkept, ← List.append_nil [blank], squeeze_blanks hfinal, squeeze,
    List.append_nil, dropFinalEmpty_append_replicate, dropFinalEmpty_eq_self h.ended]

/-- Joined lines are found again, each with what its ending has before the line feed. -/
theorem splitLines_join_ending {lead : Text} (hlead : 0x0A ∉ lead) (hne : lines ≠ [])
    (hfree : ∀ line ∈ lines, 0x0A ∉ line) :
    splitLines (join (lead ++ [0x0A]) lines ++ (lead ++ [0x0A])) =
      lines.map (· ++ lead) ++ [[]] := by
  induction lines with
  | nil => exact absurd rfl hne
  | cons line rest ih =>
      obtain ⟨hline, hrest⟩ := List.forall_mem_cons.mp hfree
      have hfirst : splitLines (line ++ lead) = [line ++ lead] :=
        splitLines_of_free (List.not_mem_append hline hlead)
      have hcut : ∀ t, splitLines (line ++ lead ++ 0x0A :: t) = (line ++ lead) :: splitLines t := by
        intro t
        rw [splitLines, splitOn_append_cons rfl, ← splitLines, hfirst]
        rfl
      cases rest with
      | nil =>
          rw [join, List.intercalate_singleton, ← List.append_assoc]
          exact hcut []
      | cons next others =>
          have hlater := ih (List.cons_ne_nil next others) hrest
          have hjoin : join (lead ++ [0x0A]) (line :: next :: others) ++ (lead ++ [0x0A]) =
              line ++ lead ++ 0x0A ::
                (join (lead ++ [0x0A]) (next :: others) ++ (lead ++ [0x0A])) := by
            simp [join, List.intercalate_cons_cons]
          rw [hjoin, hcut, hlater]
          rfl

/-- White space before the line feed of a line ending belongs to the ends of lines, so that a
cleaned up text is cleaned up for good. -/
theorem cleanUp_cleanUp (lead : Text) (hlead : 0x0A ∉ lead) (hblank : trimEnd lead = [])
    (t : Text) : cleanUp (lead ++ [0x0A]) (cleanUp (lead ++ [0x0A]) t) =
      cleanUp (lead ++ [0x0A]) t := by
  have hclean := isClean_cleanLines t
  have hlines : cleanLines (cleanUp (lead ++ [0x0A]) t) = cleanLines t := by
    rw [cleanLines, cleanUp]
    by_cases hnone : cleanLines t = []
    · -- Of a text without lines only its ending is left, which makes two blank lines.
      have hfinal : ∀ blank ∈ [lead, []], trimEnd blank = [] :=
        List.forall_mem_cons.mpr ⟨hblank, List.forall_mem_singleton.mpr rfl⟩
      have hending : splitLines (join (lead ++ [0x0A]) [] ++ (lead ++ [0x0A])) = [lead, []] := by
        rw [join, List.intercalate_nil, List.nil_append, splitLines, splitOn_append_cons rfl,
          ← splitLines, splitLines_of_free hlead]
        rfl
      rw [hnone, hending]
      exact dropFinalEmpty_squeeze_runs [] hfinal
    · have htrimmed : ∀ line ∈ cleanLines t, trimEnd (line ++ lead) = line := by
        intro line hline
        rw [trimEnd_append, if_pos hblank, hclean.trimEnd_eq hline]
      rw [splitLines_join_ending hlead hnone fun _ => not_mem_of_mem_cleanLines]
      refine hclean.dropFinalEmpty_squeeze ?_ rfl
      rw [List.map_map]
      exact (List.map_congr_left htrimmed).trans (List.map_id' _)
  rw [cleanUp, hlines, cleanUp]

end Clean

end RecordSmith.Layout

namespace RecordSmith.Generator

/-- Whatever the text and the line ending: the cleaned up text is made of clean lines, which are
those of the text that show something, and of no more empty ones between them than the text and the
limit allow.  With the line endings of files a cleaned up text stays as it is. -/
theorem cleanUp_cleans {generator : Generator} {ending : Text}
    (hending : generator.settings.lineEnding = .text ending) (t : Text) :
    ∃ lines cleaned, Layout.Cleans (Text.splitLines t) lines ∧
      cleaned = Text.join ending lines ++ ending ∧ generator.cleanUp t = .ok cleaned ∧
      (ending = [0x0A] ∨ ending = [0x0D, 0x0A] → generator.cleanUp cleaned = .ok cleaned) := by
  have hclean : ∀ t, generator.cleanUp t = .ok (Layout.cleanUp ending t) := fun t =>
    Fallible.bind_eq_ok_iff.mpr ⟨ending, lineEnding_eq_ok_iff.mpr hending, rfl⟩
  refine ⟨_, _, Layout.cleans_cleanLines t, rfl, hclean t, fun hfile => ?_⟩
  have hfixed : Layout.cleanUp ending (Layout.cleanUp ending t) = Layout.cleanUp ending t := by
    rcases hfile with rfl | rfl
    · exact Layout.cleanUp_cleanUp [] (by decide) rfl t
    · exact Layout.cleanUp_cleanUp [0x0D] (by decide) rfl t
  calc generator.cleanUp (Layout.cleanUp ending t)
    _ = .ok (Layout.cleanUp ending (Layout.cleanUp ending t)) := hclean _
    _ = .ok (Layout.cleanUp ending t) := congrArg Except.ok hfixed

/-- A text with white space at the ends of lines and with blank lines at both ends. -/
def looseText : Text := " \n\t\n \nA:  \n\n \t\n\n\n  B\r\n\n"

theorem cleanUp_looseText_cleans :
    ∃ generator : Generator, generator.settings.lineEnding = .text [0x0D, 0x0A] ∧
      ∃ lines cleaned, Layout.Cleans (Text.splitLines looseText) lines ∧
        cleaned = Text.ofString "\r\n\r\nA:\r\n\r\n\r\n  B\r\n" ∧
        generator.cleanUp looseText = .ok cleaned ∧ generator.cleanUp cleaned = .ok cleaned := by
  let generator : Generator :=
    { standard .csharp with
      settings := { (standard .csharp).settings with lineEnding := .text [0x0D, 0x0A] } }
  have hending : generator.settings.lineEnding = .text [0x0D, 0x0A] := rfl
  obtain ⟨lines, cleaned, hcleans, _, hclean, hagain⟩ := cleanUp_cleans hending looseText
  have htext : generator.cleanUp looseText =
      .ok (Text.ofString "\r\n\r\nA:\r\n\r\n\r\n  B\r\n") := congrArg Except.ok (by decide +kernel)
  have hcleaned := Except.ok.inj (hclean.symm.trans htext)
  exact ⟨generator, hending, lines, cleaned, hcleans, hcleaned, hclean, hagain (Or.inr rfl)⟩

end RecordSmith.Generator
