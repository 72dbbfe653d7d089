import RecordSmith.Naming.Namespace
import RecordSmith.Proofs.Naming.Identifier

/-!
# What converted namespaces hold

Conversion of a namespace keeps the delimiters and, in some cases, whole segments, so a
code point that identifiers never hold can be in a converted namespace.  But then it was
in the namespace before.
-/

namespace RecordSmith.Namespace

open RecordSmith.Text

section Kept

variable {P : CodePoint → Prop} {t : Text}

/-- Segments and delimiters are parts of the namespace. -/
theorem forall_mem_segments (ht : ∀ c ∈ t, P c) :
    (∀ c ∈ (segments t).1, P c) ∧
      ∀ entry ∈ (segments t).2, P entry.1 ∧ ∀ c ∈ entry.2, P c := by
  induction t with
  | nil => exact ⟨List.forall_mem_nil _, List.forall_mem_nil _⟩
  | cons d rest ih =>
      obtain ⟨hd, hrest⟩ := List.forall_mem_cons.mp ht
      obtain ⟨hfirst, hothers⟩ := ih hrest
      simp only [segments]
      by_cases hcut : isDelimiter d = true
      · rw [if_pos hcut]
        exact ⟨List.forall_mem_nil _, List.forall_mem_cons.mpr ⟨⟨hd, hfirst⟩, hothers⟩⟩
      · rw [if_neg hcut]
        exact ⟨List.forall_mem_cons.mpr ⟨hd, hfirst⟩, hothers⟩

theorem forall_mem_mapSegments {f : Text → Text}
    (hf : ∀ segment, (∀ c ∈ segment, P c) → ∀ c ∈ f segment, P c) (ht : ∀ c ∈ t, P c) :
    ∀ c ∈ mapSegments f t, P c := by
  obtain ⟨hfirst, hothers⟩ := forall_mem_segments ht
  rw [mapSegments, List.forall_mem_append, List.forall_mem_flatMap]
  refine ⟨hf _ hfirst, fun entry hentry => ?_⟩
  obtain ⟨hdelimiter, hsegment⟩ := hothers entry hentry
  exact List.forall_mem_cons.mpr ⟨hdelimiter, hf entry.2 hsegment⟩

theorem forall_mem_pascalSegment (hP : CaseClosed P) {segment : Text}
    (h : ∀ c ∈ segment, P c) : ∀ c ∈ pascalSegment segment, P c := by
  rw [pascalSegment, List.forall_mem_flatMap]
  intro word hword
  apply hP.capitalizeFirst
  exact fun c hc => h c (mem_of_mem_splitOn (List.mem_filter.mp hword).1 hc)

theorem forall_mem_convertSegment (hP : Identifier.IsKept P) {target : NamingCase}
    (hhyphen : target = .kebab → P 0x2D) {segment : Text} (h : ∀ c ∈ segment, P c) :
    ∀ c ∈ convertSegment target segment, P c := by
  rw [convertSegment]
  split
  · exact Identifier.forall_mem_convert hP hhyphen fun c hc _ => h c hc
  · exact h

/-- A property that conversion keeps in names it keeps in namespaces. -/
theorem forall_mem_convert (hP : Identifier.IsKept P) {target : NamingCase}
    (hhyphen : target = .kebab → P 0x2D) (ht : ∀ c ∈ t, P c) : ∀ c ∈ convert t target, P c := by
  have hsegment : ∀ segment, (∀ c ∈ segment, P c) → ∀ c ∈ convertSegment target segment, P c :=
    fun _ => forall_mem_convertSegment hP hhyphen
  cases target with
  | pascal => exact forall_mem_mapSegments (fun _ => forall_mem_pascalSegment hP.casing) ht
  | snake => exact forall_mem_mapSegments hsegment ht
  | camel => exact forall_mem_mapSegments hsegment ht
  | kebab => exact forall_mem_mapSegments hsegment ht
  | screamingSnake => exact forall_mem_mapSegments hsegment ht

end Kept

/-- What conversion removes from identifiers it does not put into namespaces. -/
theorem not_mem_convert {c : CodePoint} (hc : Identifier.IsRemoved c) {t : Text} (ht : c ∉ t)
    (target : NamingCase) : c ∉ convert t target := fun hmem =>
  forall_mem_convert hc.isKept (fun _ => hc.ne_hyphen.symm) (fun _ hd heq => ht (heq ▸ hd))
    c hmem rfl

end RecordSmith.Namespace
