import RecordSmith.Text.Utf8

/-!
# Texts that can be encoded

Of the Unicode code points exactly the surrogates have no encoding in UTF-8, so a text can
be written to a file if it is free of them, and what is written is read back.
-/

namespace RecordSmith.Text

theorem isSurrogate_eq_false_iff {c : CodePoint} :
    isSurrogate c = false ↔ c < 0xD800 ∨ 0xDFFF < c := by
  rw [isSurrogate, Bool.and_eq_false_iff, decide_eq_false_iff_not, decide_eq_false_iff_not,
    Nat.not_le, Nat.not_le]

/-- The text holds no surrogate. -/
def SurrogateFree (t : Text) : Prop := ∀ c ∈ t, isSurrogate c = false

instance (t : Text) : Decidable (SurrogateFree t) :=
  inferInstanceAs (Decidable (∀ c ∈ t, isSurrogate c = false))

section SurrogateFree

variable {s t : Text}

@[simp]
theorem surrogateFree_nil : SurrogateFree [] := List.forall_mem_nil _

@[simp]
theorem surrogateFree_cons {c : CodePoint} :
    SurrogateFree (c :: t) ↔ isSurrogate c = false ∧ SurrogateFree t := List.forall_mem_cons

@[simp]
theorem surrogateFree_append :
    SurrogateFree (s ++ t) ↔ SurrogateFree s ∧ SurrogateFree t := List.forall_mem_append

theorem surrogateFree_flatMap {f : CodePoint → Text} (hf : ∀ c ∈ t, SurrogateFree (f c)) :
    SurrogateFree (t.flatMap f) := List.forall_mem_flatMap.mpr hf

end SurrogateFree

/-- What documentation shows for a character: U+FFFD for a surrogate. -/
def replaceSurrogate (c : CodePoint) : CodePoint := if isSurrogate c then 0xFFFD else c

/-- The text with U+FFFD for each of its surrogates. -/
def replaceSurrogates (t : Text) : Text := t.map replaceSurrogate

theorem utf8Bytes?_isSome_iff {c : CodePoint} :
    (utf8Bytes? c).isSome ↔ isSurrogate c = false ∧ c < 0x110000 := by
  rw [utf8Bytes?]
  by_cases hsurrogate : isSurrogate c = true
  · have hrange : 0xD800 ≤ c := of_decide_eq_true (Bool.and_eq_true_iff.mp hsurrogate).1
    have hone : ¬c < 0x80 := Nat.not_lt_of_le (Nat.le_trans (by decide) hrange)
    have htwo : ¬c < 0x800 := Nat.not_lt_of_le (Nat.le_trans (by decide) hrange)
    simp [hone, htwo, hsurrogate]
  · rw [Bool.not_eq_true] at hsurrogate
    simp only [hsurrogate, Bool.false_eq_true, ↓reduceIte, true_and]
    split
    case isTrue h => exact iff_of_true rfl (Nat.lt_trans h (by decide))
    case isFalse =>
      split
      case isTrue h => exact iff_of_true rfl (Nat.lt_trans h (by decide))
      case isFalse =>
        split
        case isTrue h => exact iff_of_true rfl (Nat.lt_trans h (by decide))
        case isFalse =>
          split
          case isTrue h => exact iff_of_true rfl h
          case isFalse h => exact iff_of_false Bool.false_ne_true h

/-- The surrogates alone keep a text of code points from being encoded. -/
theorem toUtf8?_isSome_iff {t : Text} :
    (toUtf8? t).isSome ↔ SurrogateFree t ∧ ∀ c ∈ t, c < 0x110000 := by
  have hpoints : (t.mapM utf8Bytes?).isSome ↔ ∀ c ∈ t, (utf8Bytes? c).isSome := by
    induction t with
    | nil => simp
    | cons c rest ih =>
        rw [List.mapM_cons, List.forall_mem_cons, ← ih]
        cases utf8Bytes? c with
        | none => simp
        | some bytes => cases List.mapM utf8Bytes? rest <;> simp
  rw [toUtf8?, Option.isSome_map, hpoints, SurrogateFree]
  simp only [utf8Bytes?_isSome_iff, ← forall_and]

/-- Every code point of the text is a Unicode scalar value. -/
def IsScalar (t : Text) : Prop := ∀ c ∈ t, isSurrogate c = false ∧ c < 0x110000

instance : DecidablePred IsScalar :=
  fun t => inferInstanceAs (Decidable (∀ c ∈ t, isSurrogate c = false ∧ c < 0x110000))

theorem IsScalar.exists_toUtf8? {t : Text} (h : t.IsScalar) :
    ∃ bytes, toUtf8? t = some bytes :=
  Option.isSome_iff_exists.mp
    (toUtf8?_isSome_iff.mpr ⟨fun c hc => (h c hc).1, fun c hc => (h c hc).2⟩)

/-! ## Reading the bytes of a text -/

section Bytes

variable {n : Nat}

theorem toNat_toUInt8 (h : n < 256) : n.toUInt8.toNat = n := UInt8.toNat_ofNat_of_lt' h

theorem le_toUInt8_iff (h : n < 256) (b : UInt8) : b ≤ n.toUInt8 ↔ b.toNat ≤ n := by
  rw [UInt8.le_iff_toNat_le, toNat_toUInt8 h]

theorem toUInt8_le_iff (h : n < 256) (b : UInt8) : n.toUInt8 ≤ b ↔ n ≤ b.toNat := by
  rw [UInt8.le_iff_toNat_le, toNat_toUInt8 h]

theorem toUInt8_lt_iff (h : n < 256) (b : UInt8) : n.toUInt8 < b ↔ n < b.toNat := by
  rw [UInt8.lt_iff_toNat_lt, toNat_toUInt8 h]

theorem continuation?_toUInt8 (h : n < 0x40) : continuation? (0x80 + n).toUInt8 = some n := by
  have hbyte : 0x80 + n < 256 := by omega
  simp only [continuation?, le_toUInt8_iff hbyte, toUInt8_le_iff hbyte, toNat_toUInt8 hbyte,
    UInt8.reduceToNat, Nat.add_sub_cancel_left]
  exact if_pos (by simp; omega)

variable {c : Nat}

theorem twoBytes?_eq (hlow : 0x80 ≤ c) (hhigh : c < 0x800) :
    twoBytes? (0xC0 + c / 0x40).toUInt8 (0x80 + c % 0x40).toUInt8 = some c := by
  have hbyte : 0xC0 + c / 0x40 < 256 := by omega
  have hpoint : (0xC0 + c / 0x40 - 0xC0) * 0x40 + c % 0x40 = c := by omega
  have hlast := continuation?_toUInt8 (Nat.mod_lt c (by decide : 0x40 > 0))
  simp only [twoBytes?, hlast, Option.bind_eq_bind, Option.bind_some, le_toUInt8_iff hbyte,
    toUInt8_le_iff hbyte, toNat_toUInt8 hbyte, UInt8.reduceToNat, hpoint]
  exact if_pos (by simp; omega)

theorem threeBytes?_eq (hlow : 0x800 ≤ c) (hhigh : c < 0x10000)
    (hscalar : isSurrogate c = false) :
    threeBytes? (0xE0 + c / 0x1000).toUInt8 (0x80 + c / 0x40 % 0x40).toUInt8
      (0x80 + c % 0x40).toUInt8 = some c := by
  have hbyte : 0xE0 + c / 0x1000 < 256 := by omega
  have hpoint : (0xE0 + c / 0x1000 - 0xE0) * 0x1000 + c / 0x40 % 0x40 * 0x40 + c % 0x40 = c := by
    omega
  have hmiddle := continuation?_toUInt8 (Nat.mod_lt (c / 0x40) (by decide : 0x40 > 0))
  have hlast := continuation?_toUInt8 (Nat.mod_lt c (by decide : 0x40 > 0))
  simp only [threeBytes?, hmiddle, hlast, Option.bind_eq_bind, Option.bind_some,
    le_toUInt8_iff hbyte, toUInt8_le_iff hbyte, toNat_toUInt8 hbyte, UInt8.reduceToNat, hpoint,
    hscalar]
  exact if_pos (by simp; omega)

theorem fourBytes?_eq (hlow : 0x10000 ≤ c) (hhigh : c < 0x110000) :
    fourBytes? (0xF0 + c / 0x40000).toUInt8 (0x80 + c / 0x1000 % 0x40).toUInt8
      (0x80 + c / 0x40 % 0x40).toUInt8 (0x80 + c % 0x40).toUInt8 = some c := by
  have hbyte : 0xF0 + c / 0x40000 < 256 := by omega
  have hpoint : (0xF0 + c / 0x40000 - 0xF0) * 0x40000 + c / 0x1000 % 0x40 * 0x1000 +
      c / 0x40 % 0x40 * 0x40 + c % 0x40 = c := by
    omega
  have hupper := continuation?_toUInt8 (Nat.mod_lt (c / 0x1000) (by decide : 0x40 > 0))
  have hmiddle := continuation?_toUInt8 (Nat.mod_lt (c / 0x40) (by decide : 0x40 > 0))
  have hlast := continuation?_toUInt8 (Nat.mod_lt c (by decide : 0x40 > 0))
  simp only [fourBytes?, hupper, hmiddle, hlast, Option.bind_eq_bind, Option.bind_some,
    le_toUInt8_iff hbyte, toUInt8_le_iff hbyte, toNat_toUInt8 hbyte, UInt8.reduceToNat, hpoint]
  exact if_pos (by simp; omega)

theorem ofUtf8?_one (hhigh : c < 0x80) (rest : Bytes) :
    ofUtf8? (c.toUInt8 :: rest) = (ofUtf8? rest).map (c :: ·) := by
  have hbyte : c < 256 := Nat.lt_trans hhigh (by decide)
  rw [ofUtf8?.eq_def]
  dsimp only
  rw [if_pos ((toUInt8_lt_iff hbyte 0x80).mpr hhigh), toNat_toUInt8 hbyte]

theorem ofUtf8?_two (hlow : 0x80 ≤ c) (hhigh : c < 0x800) (rest : Bytes) :
    ofUtf8? ((0xC0 + c / 0x40).toUInt8 :: (0x80 + c % 0x40).toUInt8 :: rest) =
      (ofUtf8? rest).map (c :: ·) := by
  have hbyte : 0xC0 + c / 0x40 < 256 := by omega
  have hone : ¬(0xC0 + c / 0x40).toUInt8 < 0x80 := by
    simp only [toUInt8_lt_iff hbyte, UInt8.reduceToNat]
    omega
  have htwo : (0xC0 + c / 0x40).toUInt8 < 0xE0 := by
    simp only [toUInt8_lt_iff hbyte, UInt8.reduceToNat]
    omega
  rw [ofUtf8?.eq_def]
  dsimp only
  rw [if_neg hone, if_pos htwo, twoBytes?_eq hlow hhigh]
  rfl

theorem ofUtf8?_three (hlow : 0x800 ≤ c) (hhigh : c < 0x10000)
    (hscalar : isSurrogate c = false) (rest : Bytes) :
    ofUtf8? ((0xE0 + c / 0x1000).toUInt8 :: (0x80 + c / 0x40 % 0x40).toUInt8 ::
        (0x80 + c % 0x40).toUInt8 :: rest) =
      (ofUtf8? rest).map (c :: ·) := by
  have hbyte : 0xE0 + c / 0x1000 < 256 := by omega
  have htwo : ¬(0xE0 + c / 0x1000).toUInt8 < 0xE0 := by
    simp only [toUInt8_lt_iff hbyte, UInt8.reduceToNat]
    omega
  have hone : ¬(0xE0 + c / 0x1000).toUInt8 < 0x80 :=
    fun h => htwo (UInt8.lt_trans h (by decide))
  have hthree : (0xE0 + c / 0x1000).toUInt8 < 0xF0 := by
    simp only [toUInt8_lt_iff hbyte, UInt8.reduceToNat]
    omega
  rw [ofUtf8?.eq_def]
  dsimp only
  rw [if_neg hone, if_neg htwo, if_pos hthree, threeBytes?_eq hlow hhigh hscalar]
  rfl

theorem ofUtf8?_four (hlow : 0x10000 ≤ c) (hhigh : c < 0x110000) (rest : Bytes) :
    ofUtf8? ((0xF0 + c / 0x40000).toUInt8 :: (0x80 + c / 0x1000 % 0x40).toUInt8 ::
        (0x80 + c / 0x40 % 0x40).toUInt8 :: (0x80 + c % 0x40).toUInt8 :: rest) =
      (ofUtf8? rest).map (c :: ·) := by
  have hbyte : 0xF0 + c / 0x40000 < 256 := by omega
  have hthree : ¬(0xF0 + c / 0x40000).toUInt8 < 0xF0 := by
    simp only [toUInt8_lt_iff hbyte, UInt8.reduceToNat]
    omega
  have htwo : ¬(0xF0 + c / 0x40000).toUInt8 < 0xE0 :=
    fun h => hthree (UInt8.lt_trans h (by decide))
  have hone : ¬(0xF0 + c / 0x40000).toUInt8 < 0x80 :=
    fun h => hthree (UInt8.lt_trans h (by decide))
  rw [ofUtf8?.eq_def]
  dsimp only
  rw [if_neg hone, if_neg htwo, if_neg hthree, fourBytes?_eq hlow hhigh]
  rfl

/-- The bytes of a code point are read back, whatever follows them. -/
theorem ofUtf8?_append {bytes : Bytes} (h : utf8Bytes? c = some bytes) (rest : Bytes) :
    ofUtf8? (bytes ++ rest) = (ofUtf8? rest).map (c :: ·) := by
  rw [utf8Bytes?] at h
  split at h
  case isTrue hone =>
    cases h
    exact ofUtf8?_one hone rest
  case isFalse hone =>
    split at h
    case isTrue htwo =>
      cases h
      exact ofUtf8?_two (Nat.le_of_not_lt hone) htwo rest
    case isFalse htwo =>
      split at h
      case isTrue => cases h
      case isFalse hscalar =>
        split at h
        case isTrue hthree =>
          cases h
          exact ofUtf8?_three (Nat.le_of_not_lt htwo) hthree (Bool.eq_false_iff.mpr hscalar) rest
        case isFalse hthree =>
          rw [Option.ite_none_right_eq_some] at h
          obtain ⟨hfour, heq⟩ := h
          cases heq
          exact ofUtf8?_four (Nat.le_of_not_lt hthree) hfour rest

end Bytes

/-- A text that is encoded is what its bytes are read as. -/
theorem ofUtf8?_of_toUtf8? {t : Text} {bytes : Bytes} (h : toUtf8? t = some bytes) :
    ofUtf8? bytes = some t := by
  obtain ⟨parts, hparts, rfl⟩ := Option.map_eq_some_iff.mp h
  clear h
  induction t generalizing parts with
  | nil =>
      rw [List.mapM_nil] at hparts
      cases hparts
      rfl
  | cons c rest ih =>
      rw [List.mapM_cons] at hparts
      obtain ⟨first, hfirst, hrest⟩ := Option.bind_eq_some_iff.mp hparts
      obtain ⟨others, hothers, heq⟩ := Option.bind_eq_some_iff.mp hrest
      cases heq
      rw [List.flatten_cons, ofUtf8?_append hfirst, ih others hothers]
      rfl

end RecordSmith.Text
