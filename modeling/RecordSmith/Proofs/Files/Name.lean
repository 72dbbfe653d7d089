import RecordSmith.Proofs.Files.Order
import RecordSmith.Proofs.Text.Lines

/-!
# The last name of a path

A name is its stem and its suffix, one behind the other.  A path is written with its last name at
the end, behind the last slash, and the last name of a path is read from there.
-/

namespace RecordSmith

/-- One more part is written behind a separator. -/
theorem Text.join_concat {parts : List Text} (hparts : parts ≠ []) (separator last : Text) :
    Text.join separator (parts ++ [last]) = Text.join separator parts ++ separator ++ last := by
  induction parts with
  | nil => exact absurd rfl hparts
  | cons part rest ih =>
      cases rest with
      | nil => simp [Text.join, List.intercalate_cons_cons]
      | cons next others =>
          have hrest := ih (List.cons_ne_nil next others)
          rw [Text.join, Text.join] at hrest ⊢
          rw [List.cons_append, List.cons_append, List.intercalate_cons_cons,
            List.intercalate_cons_cons, ← List.cons_append, hrest]
          simp only [List.append_assoc]

namespace Path

/-! ## Stem and suffix -/

section Suffix

variable {name start ending : Text}

theorem splitSuffix_append (hstart : start ≠ []) (hending : ending ≠ []) (hfree : 0x2E ∉ ending) :
    splitSuffix (start ++ 0x2E :: ending) = (start, 0x2E :: ending) := by
  rw [splitSuffix, Text.splitLast?_append start hfree]
  simp [hstart, hending]

/-- A full stop at the end belongs to the stem. -/
theorem splitSuffix_append_stop (start : Text) :
    splitSuffix (start ++ [0x2E]) = (start ++ [0x2E], []) := by
  rw [splitSuffix, Text.splitLast?_append start List.not_mem_nil]
  simp

/-- A name is its stem, or there is a suffix behind it. -/
theorem splitSuffix_cases (name : Text) : splitSuffix name = (name, []) ∨
    ∃ start ending, start ≠ [] ∧ ending ≠ [] ∧ 0x2E ∉ ending ∧ name = start ++ 0x2E :: ending := by
  rw [splitSuffix]
  split
  case h_2 => exact Or.inl rfl
  case h_1 start ending hsplit =>
    obtain ⟨rfl, hfree⟩ := Text.splitLast?_eq_some_iff.mp hsplit
    split
    case isTrue => exact Or.inl rfl
    case isFalse hne =>
      rw [Bool.or_eq_true, not_or, List.isEmpty_iff, List.isEmpty_iff] at hne
      exact Or.inr ⟨start, ending, hne.1, hne.2, hfree, rfl⟩

theorem stem_isPrefix (name : Text) : (splitSuffix name).1 <+: name := by
  rcases splitSuffix_cases name with hname | ⟨start, ending, hstart, hending, hfree, rfl⟩
  · exact ⟨[], by rw [hname, List.append_nil]⟩
  · rw [splitSuffix_append hstart hending hfree]
    exact List.prefix_append _ _

/-- The stem of a path is its last name, or a suffix is cut off there. -/
theorem stem_suffix_cases (path : Path) : (path.stem = path.name ∧ path.suffix = []) ∨
    ∃ start ending, start ≠ [] ∧ ending ≠ [] ∧ 0x2E ∉ ending ∧
      path.name = start ++ 0x2E :: ending ∧ path.stem = start ∧ path.suffix = 0x2E :: ending := by
  rw [stem, suffix]
  rcases splitSuffix_cases path.name with hname | ⟨start, ending, hstart, hending, hfree, hname⟩
  · rw [hname]
    exact Or.inl ⟨rfl, rfl⟩
  · rw [hname, splitSuffix_append hstart hending hfree]
    exact Or.inr ⟨start, ending, hstart, hending, hfree, rfl, rfl, rfl⟩

end Suffix

/-! ## The last name as it is written and read -/

section Written

variable {path : Path} {name t before : Text}

theorem name_of_names {directories : List Text} (hnames : path.names = directories ++ [name]) :
    path.name = name := by
  rw [Path.name, hnames, List.getLast?_concat]
  rfl

/-- A path is written as its root and names if these are not empty. -/
theorem toText_of_ne_nil (h : path.root ++ Text.join [separator] path.names ≠ []) :
    path.toText = path.root ++ Text.join [separator] path.names := by
  rw [toText]
  split
  case h_1 hnil => exact absurd hnil h
  case h_2 => rfl

theorem toText_of_single (hnames : path.names = [name]) (hname : name ≠ []) :
    path.toText = path.root ++ name := by
  have hjoin : Text.join [separator] path.names = name := by
    rw [hnames, Text.join, List.intercalate_singleton]
  rw [toText_of_ne_nil (by rw [hjoin]; exact List.append_ne_nil_of_right_ne_nil _ hname), hjoin]

/-- A path with directories is written with a slash before its last name, and no second one before
that. -/
theorem toText_of_directories (hpath : path.IsRegular) {directories : List Text}
    (hnames : path.names = directories ++ [name]) (hdirectories : directories ≠ []) :
    path.toText = (path.root ++ Text.join [separator] directories) ++ separator :: name ∧
      (path.root ++ Text.join [separator] directories).getLast? ≠ some separator := by
  constructor
  · have hjoin : Text.join [separator] path.names =
        Text.join [separator] directories ++ separator :: name := by
      rw [hnames, Text.join_concat hdirectories, List.append_assoc, List.singleton_append]
    rw [toText_of_ne_nil, hjoin, List.append_assoc]
    rw [hjoin]
    exact List.append_ne_nil_of_right_ne_nil _
      (List.append_ne_nil_of_right_ne_nil _ (List.cons_ne_nil _ _))
  · obtain ⟨others, last, rfl⟩ : ∃ others last, directories = others ++ [last] :=
      ⟨_, _, (List.dropLast_concat_getLast hdirectories).symm⟩
    have hlast : IsComponent last := hpath.names last (by rw [hnames]; simp)
    obtain ⟨start, hstart⟩ : ∃ start, Text.join [separator] (others ++ [last]) = start ++ last := by
      by_cases hothers : others = []
      · exact ⟨[], by rw [hothers, Text.join, List.nil_append, List.intercalate_singleton]; rfl⟩
      · exact ⟨_, Text.join_concat hothers _ _⟩
    obtain ⟨c, hc⟩ := Option.isSome_iff_exists.mp (List.getLast?_isSome.mpr hlast.ne_nil)
    rw [hstart, ← List.append_assoc, List.getLast?_append, hc]
    rintro ⟨⟩
    exact hlast.separator_not_mem (List.mem_of_getLast? hc)

/-- The last name of a path is read behind the last slash, unless nothing or a full stop is there. -/
theorem name_ofText_append (hname : separator ∉ name) (hne : name ≠ []) (hhere : name ≠ here)
    (before : Text) : (ofText (before ++ separator :: name)).name = name := by
  have hfree : ∀ c ∈ name, (c == separator) = false :=
    fun c hc => beq_false_of_ne fun heq => hname (heq ▸ hc)
  have hcut : (separator == separator) = true := beq_self_eq_true separator
  have hparts : Text.splitOn (· == separator) (before ++ separator :: name) =
      Text.splitOn (· == separator) before ++ [name] := by
    rw [@Text.splitOn_append_cons (· == separator) separator hcut, Text.splitOn_of_free hfree]
  have hnames : (ofText (before ++ separator :: name)).names = (ofText before).names ++ [name] := by
    rw [ofText, hparts, List.filter_append, ofText]
    simp [hne, hhere]
  exact name_of_names hnames

theorem name_ofText_of_free (hname : separator ∉ name) (hne : name ≠ []) (hhere : name ≠ here) :
    (ofText name).name = name := by
  have hfree : ∀ c ∈ name, (c == separator) = false :=
    fun c hc => beq_false_of_ne fun heq => hname (heq ▸ hc)
  have hnames : (ofText name).names = [] ++ [name] := by
    rw [ofText, Text.splitOn_of_free hfree]
    simp [hne, hhere]
  exact name_of_names hnames

theorem mem_of_mem_name_ofText {c : CodePoint} (hc : c ∈ (ofText t).name) : c ∈ t := by
  rw [Path.name] at hc
  cases hlast : (ofText t).names.getLast? with
  | none =>
      rw [hlast] at hc
      cases hc
  | some name =>
      rw [hlast] at hc
      have hpart := (List.mem_filter.mp (List.mem_of_getLast? hlast)).1
      exact Text.mem_of_mem_splitOn hpart hc

end Written

end Path

end RecordSmith
