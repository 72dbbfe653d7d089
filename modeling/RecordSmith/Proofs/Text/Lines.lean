import RecordSmith.Proofs.Text.Basic
import RecordSmith.Text.Blank
import RecordSmith.Text.Lines

/-!
# Lines of joined and trimmed texts

Cutting undoes joining: the parts of a text that was joined at a cutting code point are
the parts of what was joined.  Trimming the end of a text takes nothing else away, and
nothing at all from a text that ends in something other than white space.
-/

namespace RecordSmith.Text

section Joining

variable {p : CodePoint → Bool} {separator : CodePoint}

theorem splitOn_append_cons (hcut : p separator = true) (s t : Text) :
    splitOn p (s ++ separator :: t) = splitOn p s ++ splitOn p t := by
  induction s with
  | nil => simp [splitOn, hcut]
  | cons c rest ih =>
      rw [List.cons_append, splitOn, ih]
      obtain ⟨part, parts, hparts⟩ := List.exists_cons_of_ne_nil (splitOn_ne_nil p rest)
      cases hc : p c with
      | true => simp [splitOn, hc]
      | false => simp [splitOn, hc, hparts]

/-- What stands before the first cut belongs to the first part. -/
theorem exists_splitOn_append {lead : Text} (hfree : ∀ c ∈ lead, p c = false) (t : Text) :
    ∃ first others, splitOn p t = first :: others ∧
      splitOn p (lead ++ t) = (lead ++ first) :: others := by
  induction lead with
  | nil =>
      obtain ⟨first, others, hcut⟩ := List.exists_cons_of_ne_nil (splitOn_ne_nil p t)
      exact ⟨first, others, hcut, hcut⟩
  | cons c rest ih =>
      obtain ⟨hc, hrest⟩ := List.forall_mem_cons.mp hfree
      obtain ⟨first, others, hcut, hmore⟩ := ih hrest
      refine ⟨first, others, hcut, ?_⟩
      rw [List.cons_append, splitOn, hc, hmore]
      rfl

/-- The parts of a joined text are those of what was joined. -/
theorem splitOn_join (hcut : p separator = true) {parts : List Text} (hparts : parts ≠ []) :
    splitOn p (join [separator] parts) = parts.flatMap (splitOn p) := by
  induction parts with
  | nil => exact absurd rfl hparts
  | cons part rest ih =>
      cases rest with
      | nil => simp [join]
      | cons next others =>
          have hjoin : join [separator] (part :: next :: others) =
              part ++ separator :: join [separator] (next :: others) := by
            simp [join, List.intercalate_cons_cons]
          rw [hjoin, splitOn_append_cons hcut, ih (List.cons_ne_nil _ _)]
          rfl

/-- The lines of joined texts are those of each of them. -/
theorem splitLines_join {parts : List Text} (hparts : parts ≠ []) :
    splitLines (join [0x0A] parts) = parts.flatMap splitLines :=
  splitOn_join (p := (· == 0x0A)) rfl hparts

/-- Joining with an empty text at the end puts a separator there. -/
theorem join_append_nil {parts : List Text} (h : parts ≠ []) (separator : Text) :
    join separator (parts ++ [[]]) = join separator parts ++ separator := by
  induction parts with
  | nil => exact absurd rfl h
  | cons part rest ih =>
      cases rest with
      | nil => simp [join, List.intercalate_cons_cons]
      | cons next others =>
          have hrest := ih (List.cons_ne_nil next others)
          simp only [join, List.cons_append, List.intercalate_cons_cons] at hrest ⊢
          rw [hrest]
          simp only [List.append_assoc]

theorem splitLines_of_free {t : Text} (h : 0x0A ∉ t) : splitLines t = [t] := by
  refine splitOn_of_free fun c hc => ?_
  have hne : c ≠ 0x0A := fun heq => h (heq ▸ hc)
  simpa using hne

/-- Parts without cuts are not cut any further. -/
theorem flatMap_splitOn_of_free {parts : List Text}
    (h : ∀ part ∈ parts, ∀ c ∈ part, p c = false) : parts.flatMap (splitOn p) = parts := by
  induction parts with
  | nil => rfl
  | cons part rest ih =>
      obtain ⟨hpart, hrest⟩ := List.forall_mem_cons.mp h
      rw [List.flatMap_cons, splitOn_of_free hpart, ih hrest]
      rfl

/-- Texts without line feeds are lines already. -/
theorem flatMap_splitLines_of_free {lines : List Text} (h : ∀ line ∈ lines, 0x0A ∉ line) :
    lines.flatMap splitLines = lines :=
  flatMap_splitOn_of_free fun line hline _ hc =>
    beq_false_of_ne fun heq => h line hline (heq ▸ hc)

end Joining

/-! ## Trimming -/

/-- The text ends in something other than white space. -/
def EndsSolid (t : Text) : Prop := ∃ start last, t = start ++ [last] ∧ isBlank last = false

theorem EndsSolid.append {t : Text} (h : EndsSolid t) (s : Text) : EndsSolid (s ++ t) := by
  obtain ⟨start, last, rfl, hlast⟩ := h
  exact ⟨s ++ start, last, by rw [List.append_assoc], hlast⟩

theorem EndsSolid.ne_nil {t : Text} (h : EndsSolid t) : t ≠ [] := by
  obtain ⟨start, last, rfl, _⟩ := h
  exact List.append_ne_nil_of_right_ne_nil start (List.cons_ne_nil _ _)

theorem EndsSolid.trimEnd_eq {t : Text} (h : EndsSolid t) : trimEnd t = t := by
  obtain ⟨start, last, rfl, hlast⟩ := h
  simp [trimEnd, hlast]

theorem EndsSolid.trimEnd_ne_nil {t : Text} (h : EndsSolid t) : trimEnd t ≠ [] := by
  rw [h.trimEnd_eq]
  exact h.ne_nil

theorem trimEnd_isPrefix (t : Text) : trimEnd t <+: t := by
  have hsuffix := List.reverse_prefix.mpr (List.dropWhile_suffix isBlank (l := t.reverse))
  rwa [List.reverse_reverse] at hsuffix

/-- Trimming two texts in a row trims the second one, unless nothing is left of it. -/
theorem trimEnd_append (s t : Text) :
    trimEnd (s ++ t) = if trimEnd t = [] then trimEnd s else s ++ trimEnd t := by
  unfold trimEnd
  rw [List.reverse_append, List.dropWhile_append]
  by_cases h : t.reverse.dropWhile isBlank = []
  · simp [h]
  · simp [h]

/-- What is left of a trimmed text ends in something other than white space. -/
theorem endsSolid_trimEnd {t : Text} (h : trimEnd t ≠ []) : EndsSolid (trimEnd t) := by
  unfold trimEnd at h ⊢
  cases hdrop : t.reverse.dropWhile isBlank with
  | nil => rw [hdrop] at h; exact absurd rfl h
  | cons last rest =>
      have hlast := List.head?_dropWhile_not isBlank t.reverse
      rw [hdrop] at hlast
      exact ⟨rest.reverse, last, List.reverse_cons, by simpa using hlast⟩

theorem getLast?_trimEnd_ne {c : CodePoint} (hc : isBlank c = true) (t : Text) :
    (trimEnd t).getLast? ≠ some c := by
  by_cases h : trimEnd t = []
  · simp [h]
  · obtain ⟨start, last, heq, hlast⟩ := endsSolid_trimEnd h
    rw [heq, List.getLast?_concat]
    rintro ⟨⟩
    rw [hc] at hlast
    cases hlast

/-! ## Line terminators -/

section Terminators

variable {p : CodePoint → Bool} {c : CodePoint} {s t : Text}

theorem normalizeNewlines_return (t : Text) :
    normalizeNewlines (0x0D :: t) = 0x0A :: newlinesAfter true t := rfl

theorem normalizeNewlines_cons (hc : c ≠ 0x0D) (t : Text) :
    normalizeNewlines (c :: t) = c :: normalizeNewlines t := by
  rw [normalizeNewlines, newlinesAfter, if_neg (by simpa using hc)]
  rfl

/-- What is no line feed stands in the text as it was. -/
theorem exists_of_normalizeNewlines_eq_cons (hc : c ≠ 0x0A)
    (h : normalizeNewlines t = c :: s) : ∃ rest, t = c :: rest ∧ normalizeNewlines rest = s := by
  cases t with
  | nil => cases h
  | cons d rest =>
      by_cases hd : d = 0x0D
      · subst hd
        rw [normalizeNewlines_return] at h
        exact absurd (List.cons.inj h).1.symm hc
      · rw [normalizeNewlines_cons hd] at h
        obtain ⟨rfl, rfl⟩ := List.cons.inj h
        exact ⟨rest, rfl, rfl⟩

theorem normalizeNewlines_eq_nil_iff : normalizeNewlines t = [] ↔ t = [] := by
  cases t with
  | nil => exact iff_of_true rfl rfl
  | cons c rest =>
      refine iff_of_false ?_ (List.cons_ne_nil c rest)
      by_cases hc : c = 0x0D
      · subst hc
        exact List.cons_ne_nil _ _
      · rw [normalizeNewlines_cons hc]
        exact List.cons_ne_nil _ _

/-- A text without line endings stands at the start of both texts or of neither. -/
theorem isPrefixOf_normalizeNewlines (hreturn : 0x0D ∉ s) (hfeed : 0x0A ∉ s) (t : Text) :
    s.isPrefixOf (normalizeNewlines t) = s.isPrefixOf t := by
  induction s generalizing t with
  | nil => rfl
  | cons c s ih =>
      obtain ⟨hc, hs⟩ := not_or.mp (mt List.mem_cons.mpr hreturn)
      obtain ⟨hcFeed, hsFeed⟩ := not_or.mp (mt List.mem_cons.mpr hfeed)
      cases t with
      | nil => rfl
      | cons d rest =>
          by_cases hd : d = 0x0D
          · subst hd
            rw [normalizeNewlines_return, List.isPrefixOf, List.isPrefixOf,
              beq_false_of_ne (Ne.symm hcFeed), beq_false_of_ne (Ne.symm hc)]
            rfl
          · rw [normalizeNewlines_cons hd, List.isPrefixOf, List.isPrefixOf, ih hs hsFeed]

/-- A character other than CR and line feed is the first one of both texts or of neither. -/
theorem head?_normalizeNewlines_beq (hreturn : c ≠ 0x0D) (hfeed : c ≠ 0x0A) (t : Text) :
    ((normalizeNewlines t).head? == some c) = (t.head? == some c) := by
  cases t with
  | nil => rfl
  | cons d rest =>
      by_cases hd : d = 0x0D
      · subst hd
        rw [normalizeNewlines_return, List.head?_cons, List.head?_cons,
          beq_false_of_ne (by simpa using Ne.symm hfeed),
          beq_false_of_ne (by simpa using Ne.symm hreturn)]
      · rw [normalizeNewlines_cons hd]
        rfl

theorem tail_normalizeNewlines (h : t.head? ≠ some 0x0D) :
    (normalizeNewlines t).tail = normalizeNewlines t.tail := by
  cases t with
  | nil => rfl
  | cons c rest =>
      have hc : c ≠ 0x0D := by simpa using h
      rw [normalizeNewlines_cons hc]
      rfl

/-- Unless the first text ends in CR, terminators are replaced in each text for itself. -/
theorem normalizeNewlines_append {s : Text} (h : s.getLast? ≠ some 0x0D) (t : Text) :
    normalizeNewlines (s ++ t) = normalizeNewlines s ++ normalizeNewlines t := by
  have hstep : ∀ (s : Text) (flag : Bool), s.getLast? ≠ some 0x0D → (s = [] → flag = false) →
      newlinesAfter flag (s ++ t) = newlinesAfter flag s ++ newlinesAfter false t := by
    intro s
    induction s with
    | nil =>
        intro flag _ hflag
        rw [hflag rfl]
        rfl
    | cons c rest ih =>
        intro flag hlast _
        have hrest : rest.getLast? ≠ some 0x0D := by
          cases rest with
          | nil => simp
          | cons d others => simpa using hlast
        by_cases hc : c = 0x0D
        · have hmore : rest = [] → true = false := by
            rintro rfl
            exact absurd (by simp [hc]) hlast
          simp [newlinesAfter, hc, ih true hrest hmore]
        · simp only [List.cons_append, newlinesAfter, beq_iff_eq, hc, if_false,
            ih false hrest fun _ => rfl]
          split
          · rfl
          · rfl
  exact hstep s false h fun _ => rfl

/-- Without line feeds a text is cut in the same places, CR replaced or not. -/
theorem splitOn_normalizeNewlines (hreturn : p 0x0D = true) (hfeed : p 0x0A = true) {t : Text}
    (h : 0x0A ∉ t) : splitOn p (normalizeNewlines t) = splitOn p t := by
  have hstep : ∀ (t : Text) (flag : Bool), 0x0A ∉ t →
      splitOn p (newlinesAfter flag t) = splitOn p t := by
    intro t
    induction t with
    | nil => intro flag _; rfl
    | cons c rest ih =>
        intro flag hfree
        obtain ⟨hc, hrest⟩ := not_or.mp (mt List.mem_cons.mpr hfree)
        by_cases hcr : c = 0x0D
        · simp [newlinesAfter, hcr, splitOn, hreturn, hfeed, ih true hrest]
        · simp [newlinesAfter, hcr, Ne.symm hc, splitOn, ih false hrest]
  exact hstep t false h

/-- No boundary is left inside a line of documentation. -/
theorem not_isLineBoundary_of_mem_documentationLines {t line : Text}
    (h : line ∈ documentationLines t) : ∀ c ∈ line, isLineBoundary c = false := by
  apply splitOn_part
  rw [documentationLines, dropLastEmpty] at h
  split at h
  case isTrue => exact List.dropLast_subset _ h
  case isFalse => exact h

end Terminators

end RecordSmith.Text
