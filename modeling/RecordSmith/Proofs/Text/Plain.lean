import RecordSmith.Proofs.Text.Basic
import RecordSmith.Text.Lines
import RecordSmith.Proofs.Text.Utf8

/-!
# Plain and storable texts

Printable characters of the seven-bit range can stand anywhere.  A file gives a text
back if the text can be encoded and holds no CR, which is read as a line feed.
-/

namespace RecordSmith.Text

/-- The text consists of printable characters of the seven-bit range. -/
def IsPlain (t : Text) : Prop := ∀ c ∈ t, 0x20 ≤ c ∧ c < 0x7F

instance : DecidablePred IsPlain :=
  fun t => inferInstanceAs (Decidable (∀ c ∈ t, 0x20 ≤ c ∧ c < 0x7F))

theorem isPlain_append {s t : Text} : IsPlain (s ++ t) ↔ IsPlain s ∧ IsPlain t :=
  List.forall_mem_append

theorem isPlain_replicate_blank (width : Nat) : IsPlain (List.replicate width 0x20) := by
  intro c hc
  rw [List.eq_of_mem_replicate hc]
  decide

theorem isPlain_hexDigits (width n : Nat) : IsPlain (hexDigits width n) := by
  have hdigits : ∀ digit < 16, IsPlain [hexDigit digit] := by decide
  induction width generalizing n with
  | zero => exact List.forall_mem_nil _
  | succ width ih =>
      exact isPlain_append.mpr ⟨ih _, hdigits (n % 16) (Nat.mod_lt n (by decide))⟩

/-- An escape by number is plain. -/
theorem isPlain_numberEscape (c : CodePoint) : IsPlain ("\\u" ++ hexDigits 4 c) :=
  isPlain_append.mpr ⟨by decide, isPlain_hexDigits 4 c⟩

theorem isPlain_ofNat (n : Nat) : IsPlain (ofNat n) := by
  intro c hc
  have hdigit := isAsciiDigit_of_mem_ofNat hc
  rw [isAsciiDigit, Bool.and_eq_true, decide_eq_true_eq, decide_eq_true_eq] at hdigit
  exact ⟨Nat.le_trans (by decide) hdigit.1, Nat.lt_of_le_of_lt hdigit.2 (by decide)⟩

theorem isPlain_ofInt (n : Int) : IsPlain (ofInt n) := by
  cases n with
  | ofNat n => exact isPlain_ofNat n
  | negSucc n => exact List.forall_mem_cons.mpr ⟨by decide, isPlain_ofNat (n + 1)⟩

theorem IsPlain.surrogateFree {t : Text} (h : t.IsPlain) : t.SurrogateFree := fun c hc =>
  isSurrogate_eq_false_iff.mpr (Or.inl (Nat.lt_trans (h c hc).2 (by decide)))

/-! ## Storable texts -/

/-- The text can be encoded and holds no CR. -/
def IsStorable (t : Text) : Prop := t.IsScalar ∧ 0x0D ∉ t

instance : DecidablePred IsStorable :=
  fun t => inferInstanceAs (Decidable (t.IsScalar ∧ 0x0D ∉ t))

section IsStorable

variable {s t : Text}

theorem isStorable_nil : IsStorable [] := ⟨List.forall_mem_nil _, List.not_mem_nil⟩

theorem isStorable_append : IsStorable (s ++ t) ↔ IsStorable s ∧ IsStorable t := by
  rw [IsStorable, IsScalar, List.forall_mem_append, List.mem_append, not_or]
  exact and_and_and_comm

theorem isStorable_flatMap {f : CodePoint → Text} (hf : ∀ c ∈ t, IsStorable (f c)) :
    IsStorable (t.flatMap f) := by
  constructor
  · exact List.forall_mem_flatMap.mpr fun c hc => (hf c hc).1
  · intro hmem
    obtain ⟨c, hc, hreturn⟩ := List.mem_flatMap.mp hmem
    exact (hf c hc).2 hreturn

theorem IsPlain.isStorable (h : t.IsPlain) : t.IsStorable := by
  constructor
  · exact fun c hc => ⟨h.surrogateFree c hc, Nat.lt_trans (h c hc).2 (by decide)⟩
  · exact fun hreturn => absurd (h _ hreturn).1 (by decide)

/-- A text without CR is read as it is. -/
theorem normalizeNewlines_of_free (h : 0x0D ∉ t) : normalizeNewlines t = t := by
  rw [normalizeNewlines]
  induction t with
  | nil => rfl
  | cons c rest ih =>
      obtain ⟨hc, hrest⟩ := not_or.mp (mt List.mem_cons.mpr h)
      rw [newlinesAfter, if_neg (by simpa using Ne.symm hc), Bool.false_and,
        if_neg Bool.false_ne_true, ih hrest]

end IsStorable

end RecordSmith.Text
