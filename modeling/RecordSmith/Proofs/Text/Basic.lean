import RecordSmith.Text.Basic

/-!
# Parts and digits of texts

Cutting a text leaves parts without the code points it was cut at, and the
decimal digits of a number determine the number.
-/

namespace RecordSmith.Text

theorem splitOn_ne_nil (p : CodePoint → Bool) (t : Text) : splitOn p t ≠ [] := by
  induction t with
  | nil => exact List.cons_ne_nil _ _
  | cons c rest ih =>
      rw [splitOn]
      split
      · exact List.cons_ne_nil _ _
      · exact List.cons_ne_nil _ _
      · exact List.cons_ne_nil _ _

/-- A part between two cuts holds none of the cutting code points. -/
theorem splitOn_part {p : CodePoint → Bool} {t part : Text}
    (hpart : part ∈ splitOn p t) : ∀ c ∈ part, p c = false := by
  induction t generalizing part with
  | nil =>
      rw [splitOn, List.mem_singleton] at hpart
      intro c hc
      rw [hpart] at hc
      cases hc
  | cons c rest ih =>
      intro d hd
      rw [splitOn] at hpart
      split at hpart
      case h_1 hcut =>
        rcases List.mem_cons.mp hpart with rfl | hmem
        · cases hd
        · exact ih hmem d hd
      case h_2 hkeep hnil => exact absurd hnil (splitOn_ne_nil p rest)
      case h_3 first others hkeep hsplit =>
        have hfirst : first ∈ splitOn p rest := hsplit ▸ List.mem_cons_self
        rcases List.mem_cons.mp hpart with rfl | hmem
        · rcases List.mem_cons.mp hd with rfl | htail
          · exact hkeep
          · exact ih hfirst d htail
        · exact ih (hsplit ▸ List.mem_cons_of_mem first hmem) d hd

/-- Cutting adds nothing. -/
theorem mem_of_mem_splitOn {p : CodePoint → Bool} {t part : Text} {c : CodePoint}
    (hpart : part ∈ splitOn p t) (hc : c ∈ part) : c ∈ t := by
  induction t generalizing part with
  | nil =>
      rw [splitOn, List.mem_singleton] at hpart
      exact hpart ▸ hc
  | cons d rest ih =>
      rw [splitOn] at hpart
      split at hpart
      case h_1 =>
        rcases List.mem_cons.mp hpart with rfl | hmem
        · cases hc
        · exact List.mem_cons_of_mem d (ih hmem hc)
      case h_2 hnil => exact absurd hnil (splitOn_ne_nil p rest)
      case h_3 first others _ hsplit =>
        rw [hsplit] at ih
        rcases List.mem_cons.mp hpart with rfl | hmem
        · rcases List.mem_cons.mp hc with rfl | htail
          · exact List.mem_cons_self
          · exact List.mem_cons_of_mem d (ih List.mem_cons_self htail)
        · exact List.mem_cons_of_mem d (ih (List.mem_cons_of_mem first hmem) hc)

/-- What is not cut at belongs to some part. -/
theorem exists_mem_splitOn {p : CodePoint → Bool} {t : Text} {c : CodePoint} (hc : c ∈ t)
    (hkeep : p c = false) : ∃ part ∈ splitOn p t, c ∈ part := by
  induction t with
  | nil => cases hc
  | cons d rest ih =>
      obtain ⟨part, parts, hparts⟩ := List.exists_cons_of_ne_nil (splitOn_ne_nil p rest)
      rw [hparts] at ih
      rw [splitOn, hparts]
      rcases List.mem_cons.mp hc with rfl | hrest
      · rw [hkeep]
        exact ⟨_, List.mem_cons_self, List.mem_cons_self⟩
      · obtain ⟨found, hfound, hin⟩ := ih hrest
        cases p d with
        | true => exact ⟨found, List.mem_cons_of_mem _ hfound, hin⟩
        | false =>
            rcases List.mem_cons.mp hfound with rfl | hmem
            · exact ⟨_, List.mem_cons_self, List.mem_cons_of_mem d hin⟩
            · exact ⟨found, List.mem_cons_of_mem _ hmem, hin⟩

/-- What is joined consists of its parts and the separators between them. -/
theorem mem_of_mem_intercalate {α : Type} {separator : List α} {parts : List (List α)} {a : α}
    (ha : a ∈ List.intercalate separator parts) :
    a ∈ separator ∨ ∃ part ∈ parts, a ∈ part := by
  induction parts with
  | nil => cases ha
  | cons part rest ih =>
      cases rest with
      | nil =>
          rw [List.intercalate_singleton] at ha
          exact Or.inr ⟨part, List.mem_cons_self, ha⟩
      | cons next others =>
          rw [List.intercalate_cons_cons, List.append_assoc, List.mem_append,
            List.mem_append] at ha
          rcases ha with hpart | hseparator | hrest
          · exact Or.inr ⟨part, List.mem_cons_self, hpart⟩
          · exact Or.inl hseparator
          · rcases ih hrest with hseparator | ⟨other, hother, hin⟩
            · exact Or.inl hseparator
            · exact Or.inr ⟨other, List.mem_cons_of_mem part hother, hin⟩

theorem mem_of_mem_join {separator : Text} {parts : List Text} {c : CodePoint}
    (hc : c ∈ join separator parts) : c ∈ separator ∨ ∃ part ∈ parts, c ∈ part :=
  mem_of_mem_intercalate hc

theorem mem_join_of_mem {separator part : Text} {parts : List Text} {c : CodePoint}
    (hpart : part ∈ parts) (hc : c ∈ part) : c ∈ join separator parts := by
  rw [join]
  induction parts with
  | nil => cases hpart
  | cons first rest ih =>
      cases rest with
      | nil =>
          rw [List.intercalate_singleton]
          exact List.mem_singleton.mp hpart ▸ hc
      | cons next others =>
          rw [List.intercalate_cons_cons, List.append_assoc, List.mem_append, List.mem_append]
          rcases List.mem_cons.mp hpart with rfl | hrest
          · exact Or.inl hc
          · exact Or.inr (Or.inr (ih hrest))

/-- A text without cutting code points is its only part. -/
theorem splitOn_of_free {p : CodePoint → Bool} {t : Text}
    (hfree : ∀ c ∈ t, p c = false) : splitOn p t = [t] := by
  induction t with
  | nil => rfl
  | cons c rest ih =>
      rw [splitOn, hfree c List.mem_cons_self,
        ih fun d hd => hfree d (List.mem_cons_of_mem c hd)]

/-- What follows behind a text without further cuts belongs to the last part. -/
theorem splitOn_append_of_free {p : CodePoint → Bool} {t : Text}
    (hfree : ∀ c ∈ t, p c = false) (s : Text) :
    splitOn p (s ++ t) =
      (splitOn p s).dropLast ++ [(splitOn p s).getLast (splitOn_ne_nil p s) ++ t] := by
  induction s with
  | nil => exact splitOn_of_free hfree
  | cons c rest ih =>
      rw [List.cons_append, splitOn, ih]
      obtain ⟨part, parts, hparts⟩ :=
        List.exists_cons_of_ne_nil (splitOn_ne_nil p rest)
      cases hcut : p c with
      | true => simp [splitOn, hcut, hparts]
      | false =>
          cases parts with
          | nil => simp [splitOn, hcut, hparts]
          | cons next others => simp [splitOn, hcut, hparts]

/-- Replacing adds nothing but the replacement. -/
theorem mem_of_mem_replaceFrom {old new t : Text} {skip : Nat} {c : CodePoint}
    (hc : c ∈ replaceFrom old new skip t) : c ∈ new ∨ c ∈ t := by
  induction t generalizing skip with
  | nil => cases skip <;> cases hc
  | cons d rest ih =>
      cases skip with
      | succ skip => exact (ih hc).imp_right (List.mem_cons_of_mem d)
      | zero =>
          rw [replaceFrom] at hc
          split at hc
          case isTrue =>
            rcases List.mem_append.mp hc with hnew | hrest
            · exact Or.inl hnew
            · exact (ih hrest).imp_right (List.mem_cons_of_mem d)
          case isFalse =>
            rcases List.mem_cons.mp hc with rfl | hrest
            · exact Or.inr List.mem_cons_self
            · exact (ih hrest).imp_right (List.mem_cons_of_mem d)

/-- What does not start an occurrence is kept. -/
theorem replaceFrom_cons_of_absent {old new t : Text} {c : CodePoint}
    (h : ¬old <+: c :: t) :
    replaceFrom old new 0 (c :: t) = c :: replaceFrom old new 0 t := by
  rw [replaceFrom, if_neg (mt List.isPrefixOf_iff_prefix.mp h)]

/-- A text without the first character of `old` is kept. -/
theorem replaceFrom_append_of_free {first : CodePoint} {old new s : Text} (h : first ∉ s)
    (t : Text) :
    replaceFrom (first :: old) new 0 (s ++ t) = s ++ replaceFrom (first :: old) new 0 t := by
  induction s with
  | nil => rfl
  | cons c s ih =>
      obtain ⟨hc, hs⟩ := not_or.mp (mt List.mem_cons.mpr h)
      have hopen : ¬first :: old <+: c :: (s ++ t) :=
        fun hprefix => hc (List.cons_prefix_cons.mp hprefix).1
      rw [List.cons_append, replaceFrom_cons_of_absent hopen, ih hs, List.cons_append]

/-- Replacing one character goes through the text character by character. -/
theorem replace_singleton (c : CodePoint) (new t : Text) :
    replace [c] new t = t.flatMap fun d => if d = c then new else [d] := by
  rw [replace]
  induction t with
  | nil => rfl
  | cons d t ih =>
      rw [List.flatMap_cons]
      by_cases hd : d = c
      · simp [replaceFrom, hd, ih]
      · have hopen : ¬[c] <+: d :: t := fun h => hd (List.cons_prefix_cons.mp h).1.symm
        rw [replaceFrom_cons_of_absent hopen, ih, if_neg hd, List.singleton_append]

theorem mem_of_mem_replace {old new t : Text} {c : CodePoint} (hc : c ∈ replace old new t) :
    c ∈ new ∨ c ∈ t := mem_of_mem_replaceFrom hc

theorem splitLast?_eq_none_iff {c : CodePoint} {t : Text} : splitLast? c t = none ↔ c ∉ t := by
  induction t with
  | nil => simp [splitLast?]
  | cons d rest ih =>
      rw [splitLast?, List.mem_cons, not_or, ← ih]
      cases splitLast? c rest with
      | some parts => simp
      | none => simpa using ne_comm

theorem splitLast?_append {c : CodePoint} (before : Text) {after : Text} (hfree : c ∉ after) :
    splitLast? c (before ++ c :: after) = some (before, after) := by
  induction before with
  | nil =>
      rw [List.nil_append, splitLast?, splitLast?_eq_none_iff.mpr hfree]
      simp
  | cons d rest ih => rw [List.cons_append, splitLast?, ih]

/-- The text behind the last occurrence holds no further one. -/
theorem splitLast?_eq_some_iff {c : CodePoint} {t before after : Text} :
    splitLast? c t = some (before, after) ↔ t = before ++ c :: after ∧ c ∉ after := by
  constructor
  · intro h
    induction t generalizing before with
    | nil => cases h
    | cons d rest ih =>
        rw [splitLast?] at h
        split at h
        case h_1 start stop hrest =>
          cases h
          obtain ⟨rfl, hfree⟩ := ih hrest
          exact ⟨rfl, hfree⟩
        case h_2 hrest =>
          rw [Option.ite_none_right_eq_some] at h
          obtain ⟨hd, heq⟩ := h
          cases heq
          exact ⟨by rw [eq_of_beq hd, List.nil_append], splitLast?_eq_none_iff.mp hrest⟩
  · rintro ⟨rfl, hfree⟩
    exact splitLast?_append before hfree

theorem eq_append_of_splitFirst? {c : CodePoint} {t before after : Text}
    (h : splitFirst? c t = some (before, after)) : t = before ++ c :: after := by
  induction t generalizing before with
  | nil => cases h
  | cons d rest ih =>
      rw [splitFirst?] at h
      split at h
      case isTrue hd =>
        cases h
        rw [eq_of_beq hd, List.nil_append]
      case isFalse =>
        obtain ⟨⟨start, stop⟩, hrest, heq⟩ := Option.map_eq_some_iff.mp h
        cases heq
        rw [ih hrest, List.cons_append]

theorem dropStart?_eq_some_iff {start t rest : Text} :
    dropStart? start t = some rest ↔ t = start ++ rest := by
  induction start generalizing t with
  | nil => simp [dropStart?]
  | cons c start ih =>
      cases t with
      | nil => simp [dropStart?]
      | cons d t =>
          rw [dropStart?, Option.ite_none_right_eq_some, ih, beq_iff_eq, List.cons_append,
            List.cons_eq_cons, eq_comm (a := c)]

theorem dropStart?_eq_none_iff {start t : Text} : dropStart? start t = none ↔ ¬start <+: t := by
  rw [Option.eq_none_iff_forall_ne_some]
  constructor
  · rintro h ⟨rest, rfl⟩
    exact h rest (dropStart?_eq_some_iff.mpr rfl)
  · intro h rest hrest
    exact h ⟨rest, (dropStart?_eq_some_iff.mp hrest).symm⟩

theorem ofNat_ne_nil (n : Nat) : ofNat n ≠ [] :=
  fun h => Nat.toDigits_ne_nil (List.map_eq_nil_iff.mp h)

theorem ofNat_injective : Function.Injective ofNat := by
  intro m n h
  have hchars : Nat.toDigits 10 m = Nat.toDigits 10 n :=
    List.map_inj_right (fun _ _ => Char.toNat_inj.mp) |>.mp h
  rw [← Nat.ofDigitChars_ten_toDigits (n := m), hchars,
    Nat.ofDigitChars_ten_toDigits]

/-- A number is written with the digits `0` to `9` alone. -/
theorem isAsciiDigit_of_mem_ofNat {n : Nat} {c : CodePoint} (hc : c ∈ ofNat n) :
    isAsciiDigit c = true := by
  obtain ⟨digit, hdigit, rfl⟩ := List.mem_map.mp hc
  have hrange : digit.isDigit = true :=
    Nat.isDigit_of_mem_toDigits (by decide) (by decide) hdigit
  rw [Char.isDigit, Bool.and_eq_true, decide_eq_true_eq, decide_eq_true_eq,
    ge_iff_le, UInt32.le_iff_toNat_le, UInt32.le_iff_toNat_le] at hrange
  rw [isAsciiDigit, Bool.and_eq_true, decide_eq_true_eq, decide_eq_true_eq]
  exact hrange

theorem exists_digit_of_ofNat (n : Nat) :
    ∃ c rest, ofNat n = c :: rest ∧ isAsciiDigit c = true := by
  obtain ⟨c, rest, hdigits⟩ := List.exists_cons_of_ne_nil (ofNat_ne_nil n)
  exact ⟨c, rest, hdigits, isAsciiDigit_of_mem_ofNat (hdigits ▸ List.mem_cons_self)⟩

theorem isAsciiDigit_getLast_ofNat (n : Nat) :
    isAsciiDigit ((ofNat n).getLast (ofNat_ne_nil n)) = true :=
  isAsciiDigit_of_mem_ofNat (List.getLast_mem _)

theorem digitsValue_ofNat (n : Nat) : digitsValue (ofNat n) = n := by
  have hvalue : digitsValue (ofNat n) = Nat.ofDigitChars 10 (Nat.toDigits 10 n) 0 := by
    simp [digitsValue, ofNat, Nat.ofDigitChars, List.foldl_map, Nat.mul_comm]
  rw [hvalue, Nat.ofDigitChars_ten_toDigits]

/-- So many digits stand for a number below that power of ten. -/
theorem digitsValue_lt {t : Text} (hdigits : ∀ c ∈ t, isAsciiDigit c = true) :
    digitsValue t < Nat.pow 10 t.length := by
  have hstart : ∀ start : Nat, t.foldl (fun n c => n * 10 + (c - 0x30)) start <
      (start + 1) * 10 ^ t.length := by
    induction t with
    | nil => exact fun start => by simp
    | cons c rest ih =>
        obtain ⟨hc, hrest⟩ := List.forall_mem_cons.mp hdigits
        rw [isAsciiDigit, Bool.and_eq_true, decide_eq_true_eq, decide_eq_true_eq] at hc
        have hnine : c - 0x30 ≤ 9 := Nat.sub_le_of_le_add hc.2
        intro start
        have hdigit : start * 10 + (c - 0x30) + 1 ≤ (start + 1) * 10 := by
          rw [Nat.succ_mul]
          exact Nat.add_le_add_left (Nat.succ_le_succ hnine) _
        calc
          (c :: rest).foldl (fun n c => n * 10 + (c - 0x30)) start
            < (start * 10 + (c - 0x30) + 1) * 10 ^ rest.length := ih hrest _
          _ ≤ (start + 1) * 10 * 10 ^ rest.length := Nat.mul_le_mul_right _ hdigit
          _ = (start + 1) * 10 ^ (c :: rest).length := by
            rw [List.length_cons, Nat.pow_succ, Nat.mul_assoc, Nat.mul_comm 10]
  simpa [digitsValue] using hstart 0

/-- The digits of a number other than zero do not start with a zero. -/
theorem head?_ofNat_ne_zero {n : Nat} (hn : n ≠ 0) : (ofNat n).head? ≠ some 0x30 := by
  induction n using Nat.strongRecOn with
  | ind n ih =>
      rcases Nat.lt_or_ge n 10 with hsmall | hlarge
      · rw [ofNat, Nat.toDigits_of_lt_base hsmall, List.map_singleton, List.head?_singleton,
          Nat.toNat_digitChar_of_lt_ten hsmall]
        simpa using hn
      · have hfirst := ih (n / 10) (by omega) (by omega)
        rw [ofNat, Nat.toDigits_of_base_le (by decide) hlarge, List.map_append, ← ofNat,
          List.head?_append, List.head?_eq_some_head (ofNat_ne_nil _)]
        rw [List.head?_eq_some_head (ofNat_ne_nil _)] at hfirst
        exact hfirst

end RecordSmith.Text
