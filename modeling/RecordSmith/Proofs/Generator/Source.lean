import RecordSmith.Generator.Basic
import RecordSmith.Proofs.Fallible
import RecordSmith.Proofs.Value.Extent

/-!
# Settings that a source depends on

A source text is laid out with the indent and cleaned up with the line ending of the
settings.  It exists exactly if the indent is a number that can be counted, the machine has memory
for that many blanks, and the line ending is a text.
-/

namespace RecordSmith.Generator

variable {generator : Generator}

/-- The indent has a width that can be counted, and there is memory for it. -/
def IndentFits (generator : Generator) : Prop :=
  ∃ width : Int, generator.settings.indentSize.number? = some (.inl width) ∧
    -(countLimit : Int) ≤ width ∧ width < (countLimit : Int) ∧
    generator.machine.holds width = true

theorem indentOfWidth_eq_ok_iff {machine : Machine} {width : Int} {blanks : Text} :
    indentOfWidth machine width = .ok blanks ↔
      (-(countLimit : Int) ≤ width ∧ width < (countLimit : Int) ∧ machine.holds width = true) ∧
        List.replicate width.toNat 0x20 = blanks := by
  have hcount : (width < -(countLimit : Int) || (countLimit : Int) ≤ width) = true ↔
      ¬(-(countLimit : Int) ≤ width ∧ width < (countLimit : Int)) := by
    rw [Bool.or_eq_true, decide_eq_true_eq, decide_eq_true_eq]
    omega
  rw [indentOfWidth]
  by_cases hin : -(countLimit : Int) ≤ width ∧ width < (countLimit : Int)
  · rw [if_neg (mt hcount.mp (not_not_intro hin))]
    cases machine.holds width with
    | true =>
        rw [if_pos rfl, Except.ok.injEq]
        exact ⟨fun h => ⟨⟨hin.1, hin.2, rfl⟩, h⟩, fun h => h.2⟩
    | false => exact iff_of_false nofun fun h => Bool.false_ne_true h.1.2.2
  · rw [if_pos (hcount.mpr hin)]
    exact iff_of_false nofun fun h => hin ⟨h.1.1, h.1.2.1⟩

/-- A width is written unless it is out of range or too much; below zero nothing is written. -/
theorem exists_indentOfWidth_iff {machine : Machine} {width : Int} :
    (∃ indent, indentOfWidth machine width = .ok indent) ↔
      -(countLimit : Int) ≤ width ∧ width < (countLimit : Int) ∧
        machine.holds width = true := by
  simp only [indentOfWidth_eq_ok_iff]
  exact ⟨fun ⟨_, h, _⟩ => h, fun h => ⟨_, h, rfl⟩⟩

theorem exists_indent_iff : (∃ indent, generator.indent = .ok indent) ↔ generator.IndentFits := by
  unfold indent IndentFits
  cases generator.settings.indentSize with
  | integer width => simp [exists_indentOfWidth_iff, Value.number?]
  | boolean wide => simp [exists_indentOfWidth_iff, Value.number?]
  | _ => simp [Value.number?]

/-- An indent consists of blanks. -/
theorem eq_replicate_of_indent {blanks : Text} (h : generator.indent = .ok blanks) :
    ∃ width, blanks = List.replicate width 0x20 := by
  have hwidth : ∀ width, indentOfWidth generator.machine width = .ok blanks →
      ∃ count, blanks = List.replicate count 0x20 :=
    fun width hblanks => ⟨width.toNat, (indentOfWidth_eq_ok_iff.mp hblanks).2.symm⟩
  unfold indent at h
  split at h
  · exact hwidth _ h
  · exact hwidth _ h
  · cases h

theorem lineEnding_eq_ok_iff {ending : Text} :
    generator.lineEnding = .ok ending ↔ generator.settings.lineEnding = .text ending := by
  unfold lineEnding
  cases generator.settings.lineEnding with
  | text t => simp
  | _ => simp

/-- The marker is in the way of no name exactly if it can be shown. -/
theorem checkMarker_eq_ok_iff :
    generator.checkMarker = .ok () ↔
      generator.settings.artifactMarker.IsShowable generator.machine.shownDepth := by
  rw [checkMarker, ← Value.displayFault?_eq_none_iff]
  cases generator.settings.artifactMarker.displayFault? generator.machine.shownDepth with
  | none => exact iff_of_true rfl rfl
  | some fault => exact iff_of_false nofun nofun

/-- A source is the cleaned up layout. -/
theorem source_eq_ok_iff {type : TypeDeclaration} {source : Text} :
    generator.source type = .ok source ↔
      ∃ indent ending, generator.indent = .ok indent ∧
        generator.settings.lineEnding = .text ending ∧
        source = Layout.cleanUp ending (generator.layout indent type).assemble := by
  constructor
  · intro h
    obtain ⟨parts, hlay, hclean⟩ := Fallible.bind_eq_ok_iff.mp h
    obtain ⟨indent, hindent, hparts⟩ := Fallible.bind_eq_ok_iff.mp hlay
    obtain ⟨ending, hending, hsource⟩ := Fallible.bind_eq_ok_iff.mp hclean
    cases hparts
    cases hsource
    exact ⟨indent, ending, hindent, lineEnding_eq_ok_iff.mp hending, rfl⟩
  · rintro ⟨indent, ending, hindent, hending, rfl⟩
    have hlay : generator.lay type = .ok (generator.layout indent type) :=
      Fallible.bind_eq_ok_iff.mpr ⟨indent, hindent, rfl⟩
    refine Fallible.bind_eq_ok_iff.mpr ⟨_, hlay, ?_⟩
    exact Fallible.bind_eq_ok_iff.mpr ⟨ending, lineEnding_eq_ok_iff.mpr hending, rfl⟩

end RecordSmith.Generator
