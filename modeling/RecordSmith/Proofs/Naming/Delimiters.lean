import RecordSmith.Proofs.Naming.Segments

/-!
# Namespaces between their delimiters

A namespace is its segments with the delimiters between them.  Conversion makes no delimiters and
removes none, so it works on what stands before a delimiter and on what stands behind it as if the
other part was not there.
-/

namespace RecordSmith.Namespace

open RecordSmith.Text

/-! ## Segments in a row -/

theorem mapSegments_eq (f : Text → Text) (t : Text) :
    mapSegments f t = f (segments t).1 ++ (segments t).2.flatMap fun entry =>
      entry.1 :: f entry.2 := rfl

/-- What stands before the first delimiter belongs to the first segment. -/
theorem segments_append {lead : Text} (hlead : ∀ c ∈ lead, isDelimiter c = false) (t : Text) :
    segments (lead ++ t) = (lead ++ (segments t).1, (segments t).2) := by
  induction lead with
  | nil => rfl
  | cons c rest ih =>
      obtain ⟨hc, hrest⟩ := List.forall_mem_cons.mp hlead
      rw [List.cons_append, segments, ih hrest, hc]
      rfl

/-- Segments with delimiters between them are found again. -/
theorem segments_row {first : Text} {others : List (CodePoint × Text)}
    (hfirst : ∀ c ∈ first, isDelimiter c = false)
    (hothers : ∀ entry ∈ others, isDelimiter entry.1 = true ∧
      ∀ c ∈ entry.2, isDelimiter c = false) :
    segments (first ++ others.flatMap fun entry => entry.1 :: entry.2) = (first, others) := by
  rw [segments_append hfirst]
  induction others with
  | nil => rw [List.flatMap_nil, segments, List.append_nil]
  | cons entry others ih =>
      obtain ⟨⟨hdelimiter, hsegment⟩, hrest⟩ := List.forall_mem_cons.mp hothers
      obtain ⟨hempty, hfound⟩ := Prod.mk.inj (ih hrest)
      rw [List.append_right_eq_self] at hempty
      rw [List.flatMap_cons, List.cons_append, segments, segments_append hsegment, hdelimiter,
        hempty, hfound]
      simp

theorem not_isDelimiter_of_mem_segments (t : Text) :
    (∀ c ∈ (segments t).1, isDelimiter c = false) ∧
      ∀ entry ∈ (segments t).2, ∀ c ∈ entry.2, isDelimiter c = false := by
  induction t with
  | nil => exact ⟨List.forall_mem_nil _, List.forall_mem_nil _⟩
  | cons d rest ih =>
      obtain ⟨hfirst, hothers⟩ := ih
      simp only [segments]
      cases hcut : isDelimiter d with
      | true => exact ⟨List.forall_mem_nil _, List.forall_mem_cons.mpr ⟨hfirst, hothers⟩⟩
      | false => exact ⟨List.forall_mem_cons.mpr ⟨hcut, hfirst⟩, hothers⟩

/-- Conversion that makes no delimiters keeps the segments apart. -/
theorem segments_mapSegments {f : Text → Text}
    (hf : ∀ segment, (∀ c ∈ segment, isDelimiter c = false) →
      ∀ c ∈ f segment, isDelimiter c = false) (t : Text) :
    segments (mapSegments f t) =
      (f (segments t).1, (segments t).2.map fun entry => (entry.1, f entry.2)) := by
  obtain ⟨hfirst, hothers⟩ := not_isDelimiter_of_mem_segments t
  have hrow : mapSegments f t = f (segments t).1 ++
      ((segments t).2.map fun entry => (entry.1, f entry.2)).flatMap
        fun entry => entry.1 :: entry.2 := by
    rw [mapSegments_eq, List.flatMap_map]
  rw [hrow]
  refine segments_row (hf _ hfirst) (List.forall_mem_map.mpr fun entry hentry => ?_)
  have hdelimiter : isDelimiter entry.1 = true := isDelimiter_of_mem_segments hentry
  exact ⟨hdelimiter, hf _ (hothers entry hentry)⟩

/-- The segments with the delimiters between them are the namespace. -/
theorem append_segments (t : Text) :
    (segments t).1 ++ (segments t).2.flatMap (fun entry => entry.1 :: entry.2) = t := by
  induction t with
  | nil => rfl
  | cons c rest ih =>
      simp only [segments]
      cases hc : isDelimiter c with
      | true => exact congrArg (c :: ·) ih
      | false => exact congrArg (c :: ·) ih

/-- Case mapping makes no delimiters. -/
theorem caseClosed_not_isDelimiter : CaseClosed fun c => isDelimiter c = false := by
  refine caseClosed_of_avoids (by decide +kernel : casingAvoids [(0x2E, 0x2F)] = true) ?_
  intro c hc
  have hout : c < 0x2E ∨ 0x2F < c :=
    inRanges_eq_false_iff.mp hc (0x2E, 0x2F) List.mem_cons_self
  have hdot : c ≠ 0x2E := Nat.lt_or_gt.mpr (hout.imp_right (Nat.lt_of_succ_lt))
  have hslash : c ≠ 0x2F := Nat.lt_or_gt.mpr (hout.imp_left (Nat.lt_succ_of_lt))
  rw [isDelimiter, Bool.or_eq_false_iff]
  exact ⟨beq_false_of_ne hdot, beq_false_of_ne hslash⟩

/-! ## Two parts of a namespace -/

section Parts

variable {d : CodePoint}

/-- A delimiter ends the last segment before it. -/
theorem segments_append_cons (hd : isDelimiter d = true) (s t : Text) :
    segments (s ++ d :: t) =
      ((segments s).1, (segments s).2 ++ (d, (segments t).1) :: (segments t).2) := by
  induction s with
  | nil => simp [segments, hd]
  | cons c s ih =>
      rw [List.cons_append, segments, ih, segments]
      cases isDelimiter c with
      | true => rfl
      | false => rfl

theorem mapSegments_append_cons (f : Text → Text) (hd : isDelimiter d = true) (s t : Text) :
    mapSegments f (s ++ d :: t) = mapSegments f s ++ d :: mapSegments f t := by
  simp only [mapSegments_eq, segments_append_cons hd, List.flatMap_append, List.flatMap_cons,
    List.append_assoc, List.cons_append]

/-- The delimiters of a text are those between its segments. -/
theorem filter_isDelimiter (t : Text) :
    t.filter isDelimiter = (segments t).2.map Prod.fst := by
  induction t with
  | nil => rfl
  | cons c t ih =>
      simp only [segments]
      cases hc : isDelimiter c with
      | true => rw [List.filter_cons_of_pos hc, ih]; rfl
      | false => rw [List.filter_cons_of_neg (by simp [hc]), ih]; rfl

end Parts

/-! ## Converted namespaces -/

/-- What a segment becomes in a case. -/
def caseSegment : NamingCase → Text → Text
  | .pascal => pascalSegment
  | target => convertSegment target

theorem convert_eq (t : Text) (target : NamingCase) :
    convert t target = mapSegments (caseSegment target) t := by
  cases target with
  | pascal | snake | camel | kebab | screamingSnake => rfl

/-- Delimiters belong to no word and do not join words. -/
theorem isKept_not_isDelimiter : Identifier.IsKept fun c => isDelimiter c = false where
  casing := caseClosed_not_isDelimiter
  lowLine := by decide
  fallback := by decide

/-- No case makes a delimiter out of a segment. -/
theorem not_isDelimiter_caseSegment (target : NamingCase) (segment : Text)
    (h : ∀ c ∈ segment, isDelimiter c = false) :
    ∀ c ∈ caseSegment target segment, isDelimiter c = false := by
  have hhyphen : isDelimiter 0x2D = false := by decide
  have hconvert : ∀ c ∈ convertSegment target segment, isDelimiter c = false :=
    forall_mem_convertSegment isKept_not_isDelimiter (fun _ => hhyphen) h
  cases target with
  | pascal => exact forall_mem_pascalSegment caseClosed_not_isDelimiter h
  | snake | camel | kebab | screamingSnake => exact hconvert

/-- The segments of a converted namespace are the converted segments. -/
theorem segments_convert (t : Text) (target : NamingCase) :
    segments (convert t target) = (caseSegment target (segments t).1,
      (segments t).2.map fun entry => (entry.1, caseSegment target entry.2)) := by
  rw [convert_eq]
  exact segments_mapSegments (not_isDelimiter_caseSegment target) t

/-- In every case conversion works on each side of a delimiter by itself, and the delimiters stay
the same in the same order. -/
theorem convert_between_delimiters (target : NamingCase) (a : Text) :
    (∀ d, isDelimiter d = true → ∀ b,
      convert (a ++ d :: b) target = convert a target ++ d :: convert b target) ∧
    (convert a target).filter isDelimiter = a.filter isDelimiter := by
  constructor
  · intro d hd b
    rw [convert_eq, convert_eq, convert_eq]
    exact mapSegments_append_cons (caseSegment target) hd a b
  · rw [filter_isDelimiter, filter_isDelimiter, segments_convert, List.map_map]
    rfl

/-- A namespace with an empty segment, one of signs only and one whose first letter becomes two. -/
def oddNamespace : Text := Text.ofString "a../-/" ++ [0xDF]

theorem convert_oddNamespace_between_delimiters :
    isDelimiter 0x2E = true ∧
      convert (oddNamespace ++ 0x2E :: Text.ofString "bC") .screamingSnake =
        convert oddNamespace .screamingSnake ++ 0x2E :: convert "bC" .screamingSnake ∧
      convert oddNamespace .screamingSnake = Text.ofString "A../-/SS" ∧
      convert "bC" .screamingSnake = Text.ofString "B_C" ∧
      (convert oddNamespace .screamingSnake).filter isDelimiter = Text.ofString "..//" := by
  obtain ⟨hparts, hkept⟩ := convert_between_delimiters .screamingSnake oddNamespace
  refine ⟨by decide, hparts 0x2E (by decide) "bC", by decide +kernel, by decide +kernel, ?_⟩
  rw [hkept]
  decide +kernel

end RecordSmith.Namespace
