import Mathlib.Data.List.Basic
import Mathlib.Data.List.Induction
import RecordSmith.Layout.Source
import RecordSmith.Proofs.Text.Lines

/-!
# Lines of cleaned up sources

Cleaning up trims lines at their ends and thins out empty ones.  A line that ends in
something other than white space comes through as it is, so the members of a source do,
and the empty line behind each of them.
-/

namespace RecordSmith.Layout

open RecordSmith.Text

/-! ## Squeezing -/

/-- How many empty lines stand at the end of `lines`, which follow `run` empty ones. -/
def runAfter (run : Nat) : List Text → Nat
  | [] => run
  | line :: rest => runAfter (if (trimEnd line).isEmpty then run + 1 else 0) rest

theorem squeeze_cons (run : Nat) (line : Text) (rest : List Text) :
    squeeze run (line :: rest) =
      (if (trimEnd line).isEmpty && !decide (run < maxEmptyLines) then [] else [trimEnd line]) ++
        squeeze (if (trimEnd line).isEmpty then run + 1 else 0) rest := by
  rw [squeeze]
  split
  case h_1 hnil =>
    rw [hnil]
    by_cases hrun : run < maxEmptyLines
    · simp [hrun]
    · simp [hrun]
  case h_2 c trimmed hcons =>
    rw [hcons]
    simp

theorem squeeze_append (run : Nat) (first second : List Text) :
    squeeze run (first ++ second) =
      squeeze run first ++ squeeze (runAfter run first) second := by
  induction first generalizing run with
  | nil => rfl
  | cons line rest ih =>
      rw [List.cons_append, squeeze_cons, squeeze_cons, ih, runAfter, List.append_assoc]

/-- A line that was squeezed is empty or a line that was there, without its end. -/
theorem mem_squeeze {run : Nat} {lines : List Text} {line : Text}
    (h : line ∈ squeeze run lines) : ∃ original ∈ lines, line = trimEnd original := by
  induction lines generalizing run with
  | nil => cases h
  | cons first rest ih =>
      rw [squeeze_cons, List.mem_append] at h
      rcases h with hfirst | hrest
      · split at hfirst
        · cases hfirst
        · exact ⟨first, List.mem_cons_self, List.mem_singleton.mp hfirst⟩
      · obtain ⟨original, horiginal, heq⟩ := ih hrest
        exact ⟨original, List.mem_cons_of_mem first horiginal, heq⟩

/-- A line that is not blank is kept, without its end. -/
theorem mem_squeeze_of_mem {run : Nat} {lines : List Text} {line : Text} (h : line ∈ lines)
    (hne : trimEnd line ≠ []) : trimEnd line ∈ squeeze run lines := by
  induction lines generalizing run with
  | nil => cases h
  | cons first rest ih =>
      rw [squeeze_cons, List.mem_append]
      rcases List.mem_cons.mp h with rfl | hrest
      · exact Or.inl (by simp [hne])
      · exact Or.inr (ih hrest)

/-- Below the limit a squeezed text shows each line, without its end, at least once. -/
theorem mem_squeeze_iff {run : Nat} (hrun : run < maxEmptyLines) {lines : List Text}
    {line : Text} :
    line ∈ squeeze run lines ↔ ∃ original ∈ lines, line = trimEnd original := by
  constructor
  · exact mem_squeeze
  · rintro ⟨original, horiginal, rfl⟩
    by_cases hblank : trimEnd original = []
    · -- The first of the blank lines is shown, since all before it are no blank ones.
      rw [hblank]
      induction lines generalizing run with
      | nil => cases horiginal
      | cons first rest ih =>
          rw [squeeze_cons]
          cases hfirst : trimEnd first with
          | nil => simp [hrun]
          | cons c trimmed =>
              have hrest : original ∈ rest := by
                rcases List.mem_cons.mp horiginal with rfl | hrest
                · rw [hblank] at hfirst
                  cases hfirst
                · exact hrest
              have hlimit : 0 < maxEmptyLines := by decide
              simpa using ih hlimit hrest
    · exact mem_squeeze_of_mem horiginal hblank

/-- Lines that are not blank come through without their ends. -/
theorem squeeze_append_shown {block : List Text} (hblock : ∀ line ∈ block, trimEnd line ≠ [])
    (hne : block ≠ []) (run : Nat) (rest : List Text) :
    squeeze run (block ++ rest) = block.map trimEnd ++ squeeze 0 rest := by
  induction block generalizing run with
  | nil => exact absurd rfl hne
  | cons line others ih =>
      obtain ⟨hline, hothers⟩ := List.forall_mem_cons.mp hblock
      have hshown : (trimEnd line).isEmpty = false := List.isEmpty_eq_false_iff.mpr hline
      rw [List.cons_append, squeeze_cons, hshown]
      cases others with
      | nil => rfl
      | cons next others =>
          have hlater := ih hothers (List.cons_ne_nil next others) 0
          simpa using hlater

/-- They come through unchanged if they end in something other than white space. -/
theorem squeeze_append_solid {block : List Text} (hblock : ∀ line ∈ block, EndsSolid line)
    (hne : block ≠ []) (run : Nat) (rest : List Text) :
    squeeze run (block ++ rest) = block ++ squeeze 0 rest := by
  have hshown := fun line hline => (hblock line hline).trimEnd_ne_nil
  have htrimmed := List.map_congr_left fun line hline => (hblock line hline).trimEnd_eq
  rw [squeeze_append_shown hshown hne, htrimmed, List.map_id']

theorem squeeze_solid_cons {line : Text} (h : EndsSolid line) (run : Nat) (rest : List Text) :
    squeeze run (line :: rest) = line :: squeeze 0 rest :=
  squeeze_append_solid (List.forall_mem_singleton.mpr h) (List.cons_ne_nil line []) run rest

/-- A block of lines that are not blank, and the empty line behind it, come through. -/
theorem squeeze_block {block : List Text} (hblock : ∀ line ∈ block, EndsSolid line)
    (hne : block ≠ []) (run : Nat) (rest : List Text) :
    squeeze run (block ++ [] :: rest) = block ++ [] :: squeeze 1 rest := by
  rw [squeeze_append_solid hblock hne, squeeze_cons]
  rfl

/-- So do blocks in a row. -/
theorem squeeze_blocks {blocks : List (List Text)}
    (hblocks : ∀ block ∈ blocks, block ≠ [] ∧ ∀ line ∈ block, EndsSolid line)
    (run : Nat) (rest : List Text) :
    squeeze run (blocks.flatMap (· ++ [[]]) ++ rest) =
      blocks.flatMap (· ++ [[]]) ++ squeeze (if blocks.isEmpty then run else 1) rest := by
  induction blocks generalizing run with
  | nil => rfl
  | cons block others ih =>
      obtain ⟨⟨hne, hblock⟩, hothers⟩ := List.forall_mem_cons.mp hblocks
      have hlater := ih hothers 1
      simp only [List.flatMap_cons, List.append_assoc, List.cons_append, List.nil_append]
      rw [squeeze_block hblock hne, hlater]
      cases others with
      | nil => rfl
      | cons next others => rfl

/-! ## Empty lines at the end -/

theorem dropFinalEmpty_append_nil (lines : List Text) :
    dropFinalEmpty (lines ++ [[]]) = dropFinalEmpty lines := by
  simp [dropFinalEmpty]

theorem dropFinalEmpty_of_last (lines : List Text) {line : Text} (h : line ≠ []) :
    dropFinalEmpty (lines ++ [line]) = lines ++ [line] := by
  simp [dropFinalEmpty, h]

theorem dropFinalEmpty_isPrefix (lines : List Text) : dropFinalEmpty lines <+: lines := by
  have hsuffix := List.reverse_prefix.mpr
    (List.dropWhile_suffix List.isEmpty (l := lines.reverse))
  rwa [List.reverse_reverse] at hsuffix

theorem mem_dropFinalEmpty {lines : List Text} {line : Text} (h : line ∈ lines)
    (hne : line ≠ []) : line ∈ dropFinalEmpty lines := by
  induction lines using List.reverseRecOn with
  | nil => cases h
  | append_singleton lines last ih =>
      cases last with
      | nil =>
          rw [dropFinalEmpty_append_nil]
          rw [List.mem_append, List.mem_singleton] at h
          exact ih (h.resolve_right hne)
      | cons c rest =>
          rw [dropFinalEmpty_of_last lines (List.cons_ne_nil c rest)]
          exact h

/-- A line that is not empty shields those before it. -/
theorem dropFinalEmpty_append_cons (before : List Text) {line : Text} (h : line ≠ [])
    (after : List Text) :
    dropFinalEmpty (before ++ line :: after) = before ++ line :: dropFinalEmpty after := by
  induction after using List.reverseRecOn with
  | nil => exact dropFinalEmpty_of_last before h
  | append_singleton after last ih =>
      cases last with
      | nil =>
          rw [← List.cons_append, ← List.append_assoc, dropFinalEmpty_append_nil,
            dropFinalEmpty_append_nil, ih]
      | cons c rest =>
          have hlast : c :: rest ≠ [] := List.cons_ne_nil c rest
          rw [← List.cons_append, ← List.append_assoc, dropFinalEmpty_of_last _ hlast,
            dropFinalEmpty_of_last _ hlast, List.append_assoc, List.cons_append]

/-- So does a block of them. -/
theorem dropFinalEmpty_append_block (before : List Text) {block : List Text}
    (hblock : ∀ line ∈ block, line ≠ []) (hne : block ≠ []) (after : List Text) :
    dropFinalEmpty (before ++ (block ++ after)) = before ++ (block ++ dropFinalEmpty after) := by
  have hlast := hblock _ (List.getLast_mem hne)
  rw [← List.dropLast_append_getLast hne]
  simpa using dropFinalEmpty_append_cons (before ++ block.dropLast) hlast after

/-! ## Assembled sources -/

theorem unlines_eq_join {lines : List Text} (h : lines ≠ []) :
    unlines lines = join [0x0A] lines ++ [0x0A] := by
  induction lines with
  | nil => exact absurd rfl h
  | cons line rest ih =>
      cases rest with
      | nil => simp [unlines, join]
      | cons next others =>
          have hrest := ih (List.cons_ne_nil next others)
          simp only [unlines, join, List.flatMap_cons, List.intercalate_cons_cons,
            List.append_assoc] at hrest ⊢
          rw [hrest]

@[simp]
theorem chomp_unlines (lines : List Text) : chomp (unlines lines) = join [0x0A] lines := by
  by_cases h : lines = []
  · subst h
    rfl
  · rw [unlines_eq_join h]
    simp [chomp]

/-- The lines of an assembled source: those of the header, of each member with an empty
line behind it, and of the footer. -/
theorem splitLines_assemble {source : Source} (hheader : source.header ≠ [])
    (hmembers : ∀ member ∈ source.members, member ≠ []) :
    splitLines source.assemble = source.header.flatMap splitLines ++
      source.members.flatMap (fun member => member.flatMap splitLines ++ [[]]) ++
      splitLines (join [0x0A] source.footer) := by
  have hblock : ∀ member ∈ source.members,
      ([chomp (unlines member), []] : List Text).flatMap splitLines =
        member.flatMap splitLines ++ [[]] := by
    intro member hmember
    rw [List.flatMap_cons, chomp_unlines, splitLines_join (hmembers member hmember)]
    rfl
  rw [Source.assemble, splitLines_join (by simp), List.flatMap_append, List.flatMap_append,
    List.flatMap_singleton, List.flatMap_singleton, chomp_unlines, chomp_unlines,
    splitLines_join hheader, List.flatMap_assoc]
  congr 2
  exact List.flatMap_congr hblock

/-- A block of a header that holds no blank line is cleaned up line by line, and what the header
holds before it is cleaned up by itself. -/
theorem cleanLines_assemble_block {source : Source} {before block after : List Text}
    (hheader : source.header = before ++ (block ++ after)) (hne : block ≠ [])
    (hblock : ∀ line ∈ block, 0x0A ∉ line ∧ trimEnd line ≠ [])
    (hmembers : ∀ member ∈ source.members, member ≠ []) :
    ∃ rest, cleanLines source.assemble =
      squeeze 0 (before.flatMap splitLines) ++ (block.map trimEnd ++ rest) := by
  have hsource : source.header ≠ [] := by simp [hheader, hne]
  have hlines : ∃ more, splitLines source.assemble =
      before.flatMap splitLines ++ (block ++ more) := by
    rw [splitLines_assemble hsource hmembers, hheader, List.flatMap_append, List.flatMap_append,
      flatMap_splitLines_of_free fun line hline => (hblock line hline).1]
    simp only [List.append_assoc]
    exact ⟨_, rfl⟩
  obtain ⟨more, hmore⟩ := hlines
  have hshown : ∀ line ∈ block.map trimEnd, line ≠ [] :=
    List.forall_mem_map.mpr fun line hline => (hblock line hline).2
  rw [cleanLines, hmore, squeeze_append, squeeze_append_shown (fun line hline =>
    (hblock line hline).2) hne, dropFinalEmpty_append_block _ hshown (by simpa using hne)]
  exact ⟨_, rfl⟩

/-- What a header holds before a line that the clean-up leaves alone is cleaned up by
itself. -/
theorem cleanLines_assemble_header {source : Source} {before after : List Text} {line : Text}
    (hheader : source.header = before ++ line :: after) (hfree : 0x0A ∉ line)
    (hsolid : EndsSolid line) (hmembers : ∀ member ∈ source.members, member ≠ []) :
    ∃ rest, cleanLines source.assemble =
      squeeze 0 (before.flatMap splitLines) ++ line :: rest := by
  have hline : 0x0A ∉ line ∧ trimEnd line ≠ [] := ⟨hfree, hsolid.trimEnd_ne_nil⟩
  have hblock : source.header = before ++ ([line] ++ after) := hheader
  obtain ⟨rest, hrest⟩ := cleanLines_assemble_block hblock (List.cons_ne_nil line [])
    (List.forall_mem_singleton.mpr hline) hmembers
  refine ⟨rest, hrest.trans ?_⟩
  rw [List.map_singleton, hsolid.trimEnd_eq, List.singleton_append]

/-- Lines that clean-up leaves alone: each is one line and ends in something other than
white space. -/
def Solid (lines : List Text) : Prop :=
  lines ≠ [] ∧ ∀ line ∈ lines, 0x0A ∉ line ∧ EndsSolid line

theorem Solid.flatMap_splitLines {lines : List Text} (h : Solid lines) :
    lines.flatMap splitLines = lines :=
  flatMap_splitLines_of_free fun line hline => (h.2 line hline).1

theorem Solid.splitLines_join {lines : List Text} (h : Solid lines) :
    splitLines (join [0x0A] lines) = lines := by
  rw [Text.splitLines_join h.1, h.flatMap_splitLines]

theorem Solid.dropFinalEmpty_append {lines : List Text} (h : Solid lines)
    (before : List Text) : dropFinalEmpty (before ++ lines) = before ++ lines := by
  have hlast := h.2 _ (List.getLast_mem h.1)
  rw [← List.dropLast_append_getLast h.1, ← List.append_assoc,
    dropFinalEmpty_of_last _ hlast.2.ne_nil]

/-- The members of a source come through the clean-up, whatever the header holds. -/
theorem cleanLines_assemble {source : Source} (hheader : source.header ≠ [])
    (hmembers : ∀ member ∈ source.members, Solid member) :
    ∃ run, cleanLines source.assemble = dropFinalEmpty
      (squeeze 0 (source.header.flatMap splitLines) ++
        (source.members.flatMap (· ++ [[]]) ++
          squeeze run (splitLines (join [0x0A] source.footer)))) := by
  have hblocks : ∀ member ∈ source.members,
      member ≠ [] ∧ ∀ line ∈ member, EndsSolid line :=
    fun member hmember => ⟨(hmembers member hmember).1,
      fun line hline => ((hmembers member hmember).2 line hline).2⟩
  have hlines : source.members.flatMap (fun member => member.flatMap splitLines ++ [[]]) =
      source.members.flatMap (· ++ [[]]) :=
    List.flatMap_congr fun member hmember => by
      rw [(hmembers member hmember).flatMap_splitLines]
  rw [cleanLines, splitLines_assemble hheader fun member hmember => (hmembers member hmember).1,
    hlines, List.append_assoc, squeeze_append, squeeze_blocks hblocks]
  exact ⟨_, rfl⟩

/-- A footer of lines that are left alone stands behind the members. -/
theorem cleanLines_assemble_footer {source : Source} (hheader : source.header ≠ [])
    (hmembers : ∀ member ∈ source.members, Solid member) (hfooter : Solid source.footer)
    (hsqueeze : ∀ run, squeeze run source.footer = source.footer) :
    cleanLines source.assemble = squeeze 0 (source.header.flatMap splitLines) ++
      (source.members.flatMap (· ++ [[]]) ++ source.footer) := by
  obtain ⟨run, hlines⟩ := cleanLines_assemble hheader hmembers
  rw [hlines, hfooter.splitLines_join, hsqueeze, ← List.append_assoc,
    hfooter.dropFinalEmpty_append]

/-- Blocks with an empty line between them are blocks with an empty line behind each
but the last. -/
theorem intercalate_nil_eq {blocks : List (List Text)} (h : blocks ≠ []) :
    List.intercalate [[]] blocks =
      blocks.dropLast.flatMap (· ++ [[]]) ++ blocks.getLast h := by
  induction blocks with
  | nil => exact absurd rfl h
  | cons block rest ih =>
      cases rest with
      | nil => simp
      | cons next others =>
          have hrest := ih (List.cons_ne_nil next others)
          rw [List.intercalate_cons_cons, hrest]
          simp

/-- Without a footer nothing empty is left at the end: not behind the last member, and
not behind the header if there is no member. -/
theorem cleanLines_assemble_noFooter {source : Source} (hheader : source.header ≠ [])
    (hmembers : ∀ member ∈ source.members, Solid member) (hfooter : source.footer = []) :
    cleanLines source.assemble =
      if source.members = [] then
        dropFinalEmpty (squeeze 0 (source.header.flatMap splitLines))
      else
        squeeze 0 (source.header.flatMap splitLines) ++
          List.intercalate [[]] source.members := by
  obtain ⟨run, hlines⟩ := cleanLines_assemble hheader hmembers
  have hempty : ∀ before, dropFinalEmpty
      (before ++ squeeze run (splitLines (join [0x0A] source.footer))) =
        dropFinalEmpty before := by
    intro before
    have hfinal : splitLines (join [0x0A] source.footer) = [[]] := by
      rw [hfooter]
      rfl
    rw [hfinal, squeeze_cons]
    by_cases hrun : run < maxEmptyLines
    · simpa [hrun, trimEnd, squeeze] using dropFinalEmpty_append_nil before
    · simp [hrun, trimEnd, squeeze]
  rw [hlines, ← List.append_assoc, hempty]
  split
  case isTrue hnil => rw [hnil, List.flatMap_nil, List.append_nil]
  case isFalse hne =>
    have hlast : Solid (source.members.getLast hne) := hmembers _ (List.getLast_mem hne)
    have hmembersEnd : source.members.flatMap (· ++ [[]]) =
        source.members.dropLast.flatMap (· ++ [[]]) ++
          (source.members.getLast hne ++ [[]]) := by
      rw [← List.flatMap_singleton (· ++ [[]]) (source.members.getLast hne),
        ← List.flatMap_append, List.dropLast_append_getLast]
    rw [hmembersEnd, intercalate_nil_eq hne, ← List.append_assoc, ← List.append_assoc,
      dropFinalEmpty_append_nil, hlast.dropFinalEmpty_append, List.append_assoc]

/-! ## Lines of a cleaned up text -/

/-- A cleaned line is a line without its end. -/
theorem exists_of_mem_cleanLines {t line : Text} (h : line ∈ cleanLines t) :
    ∃ original ∈ splitLines t, line = trimEnd original :=
  mem_squeeze ((dropFinalEmpty_isPrefix _).subset h)

theorem not_mem_of_mem_cleanLines {t line : Text} (h : line ∈ cleanLines t) :
    0x0A ∉ line := by
  obtain ⟨original, horiginal, rfl⟩ := exists_of_mem_cleanLines h
  intro hmem
  have hpart := splitOn_part horiginal 0x0A ((trimEnd_isPrefix original).subset hmem)
  simp at hpart

/-- With line feeds as line endings the lines of a cleaned up text are the cleaned ones,
and the end of the text opens a last one. -/
theorem splitLines_cleanUp {t : Text} (h : cleanLines t ≠ []) :
    splitLines (cleanUp [0x0A] t) = cleanLines t ++ [[]] := by
  have hlines : (cleanLines t).flatMap splitLines = cleanLines t :=
    flatMap_splitLines_of_free fun _ => not_mem_of_mem_cleanLines
  calc splitLines (cleanUp [0x0A] t)
    _ = splitLines (join [0x0A] (cleanLines t)) ++ [[]] := splitOn_append_cons rfl _ []
    _ = (cleanLines t).flatMap splitLines ++ [[]] := by rw [splitLines_join h]
    _ = cleanLines t ++ [[]] := by rw [hlines]

/-! ## Characters of a cleaned up text -/

/-- What holds of the line feed and of the characters of all lines holds of the characters of
the source that is assembled from them. -/
theorem forall_mem_assemble {P : CodePoint → Prop} {source : Source} (hfeed : P 0x0A)
    (hheader : ∀ line ∈ source.header, ∀ c ∈ line, P c)
    (hmembers : ∀ member ∈ source.members, ∀ line ∈ member, ∀ c ∈ line, P c)
    (hfooter : ∀ line ∈ source.footer, ∀ c ∈ line, P c) : ∀ c ∈ source.assemble, P c := by
  have hseparator : ∀ c ∈ ([0x0A] : Text), P c := List.forall_mem_singleton.mpr hfeed
  have hjoin : ∀ {parts : List Text}, (∀ part ∈ parts, ∀ c ∈ part, P c) →
      ∀ c ∈ join [0x0A] parts, P c := by
    intro parts hparts c hc
    rcases mem_of_mem_join hc with hfeed | ⟨part, hpart, hmem⟩
    · exact hseparator c hfeed
    · exact hparts part hpart c hmem
  refine hjoin fun part hpart => ?_
  rw [List.mem_append, List.mem_append, List.mem_singleton, List.mem_singleton,
    List.mem_flatMap] at hpart
  rcases hpart with (rfl | ⟨member, hmember, hblock⟩) | rfl
  · rw [chomp_unlines]
    exact hjoin hheader
  · rw [List.mem_cons, List.mem_singleton] at hblock
    rcases hblock with rfl | rfl
    · rw [chomp_unlines]
      exact hjoin (hmembers member hmember)
    · exact List.forall_mem_nil _
  · rw [chomp_unlines]
    exact hjoin hfooter

/-- The clean-up adds nothing but line endings. -/
theorem mem_of_mem_cleanUp {ending t : Text} {c : CodePoint} (hc : c ∈ cleanUp ending t) :
    c ∈ ending ∨ c ∈ t := by
  rcases List.mem_append.mp hc with hlines | hending
  · rcases mem_of_mem_join hlines with hending | ⟨line, hline, hmem⟩
    · exact Or.inl hending
    · obtain ⟨original, horiginal, rfl⟩ := exists_of_mem_cleanLines hline
      exact Or.inr (mem_of_mem_splitOn horiginal ((trimEnd_isPrefix original).subset hmem))
  · exact Or.inl hending

end RecordSmith.Layout
