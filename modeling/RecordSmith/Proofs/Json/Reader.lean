import RecordSmith.Json.Reader
import RecordSmith.Proofs.Fallible
import RecordSmith.Proofs.Text.Basic
import RecordSmith.Proofs.Value.Extent
import RecordSmith.Proofs.Value.Object

/-!
# What the JSON reader gives

Every value that is read from a JSON document is well-formed: the keys of its
objects are distinct, however often a key is written in the document.  And it can be shown,
because the reader follows no more levels and converts no longer integers.
-/

namespace RecordSmith

/-- A value as it is read where so many containers may be open. -/
structure Value.IsRead (depth : Nat) (value : Value) : Prop where
  wellFormed : value.WellFormed
  showable : value.IsShowable depth

namespace Value.IsRead

variable {depth : Nat}

theorem list {items : List Value} (hitems : ∀ item ∈ items, item.IsRead depth) :
    (Value.list items).IsRead (depth + 1) where
  wellFormed := .list fun item hitem => (hitems item hitem).wellFormed
  showable := isShowable_list_iff.mpr fun item hitem => (hitems item hitem).showable

/-- Of the entries with one key the last one is in the object. -/
theorem ofList {entries : Entries} (hentries : ∀ entry ∈ entries, entry.2.IsRead depth) :
    (Value.object (Entries.ofList entries)).IsRead (depth + 1) where
  wellFormed := .ofList fun entry hentry => (hentries entry hentry).wellFormed
  showable := isShowable_object_iff.mpr
    (Entries.forall_mem_setAll (fun _ hentry => nomatch hentry)
      fun entry hentry => (hentries entry hentry).showable)

end Value.IsRead

namespace Json

/-- The reader gives nothing but values that are read at some depth. -/
def Gives (depth : Nat) (reader : Reader Value) : Prop :=
  ∀ cursor value rest, reader cursor = .ok (value, rest) → value.IsRead depth

section Readers

variable {depth : Nat} {item : Reader Value}

theorem isAsciiDigit_of_integerPart? {t whole rest : Text}
    (h : integerPart? t = some (whole, rest)) : ∀ c ∈ whole, Text.isAsciiDigit c = true := by
  unfold integerPart? at h
  split at h
  case h_1 => cases h
  case h_2 c tail =>
    split at h
    case isTrue hzero =>
      cases h
      rw [List.forall_mem_singleton, eq_of_beq hzero]
      rfl
    case isFalse =>
      split at h
      case isTrue =>
        cases h
        exact List.all_eq_true.mp List.all_takeWhile
      case isFalse => cases h

/-- An integer is read only if it is not long. -/
theorem numberValue_isRead {negative : Bool} {whole : Text} {fraction : Option Text}
    {exponent : Option Int} {value : Value}
    (hwhole : ∀ c ∈ whole, Text.isAsciiDigit c = true)
    (h : numberValue negative whole fraction exponent = .ok value) : value.IsRead depth := by
  unfold numberValue at h
  split at h
  case h_1 =>
    split at h
    case isTrue => cases h
    case isFalse hlength =>
      cases h
      have hpower : ∀ {m n : Nat}, m ≤ n → Nat.pow 10 m ≤ Nat.pow 10 n :=
        Nat.pow_le_pow_right (by decide)
      refine ⟨.integer _, Nat.zero_le depth, Value.isLong_eq_false_iff.mpr ?_⟩
      calc
        (if negative then -(Text.digitsValue whole : Int) else Text.digitsValue whole).natAbs
          = Text.digitsValue whole := by
            cases negative with
            | true => exact Int.natAbs_neg _
            | false => rfl
        _ < Nat.pow 10 whole.length := Text.digitsValue_lt hwhole
        _ ≤ Nat.pow 10 maxIntegerDigits := hpower (Nat.not_lt.mp hlength)
  case h_2 =>
    cases h
    exact ⟨.real _, Nat.zero_le depth, rfl⟩

theorem readScalar_gives : Gives depth readScalar := by
  intro cursor value rest h
  rw [readScalar] at h
  split at h
  case h_1 name constant hfound =>
    cases h
    have hconstants : ∀ entry ∈ constants, entry.2.IsRead depth := by
      simp only [constants, List.forall_mem_cons]
      exact ⟨⟨.null, Nat.zero_le depth, rfl⟩, ⟨.boolean true, Nat.zero_le depth, rfl⟩,
        ⟨.boolean false, Nat.zero_le depth, rfl⟩, ⟨.real _, Nat.zero_le depth, rfl⟩,
        ⟨.real _, Nat.zero_le depth, rfl⟩, ⟨.real _, Nat.zero_le depth, rfl⟩,
        List.forall_mem_nil _⟩
    exact hconstants (name, value) (List.mem_of_find?_eq_some hfound)
  case h_2 =>
    rw [readNumber] at h
    dsimp only at h
    split at h
    case h_1 => cases h
    case h_2 hpart =>
      obtain ⟨number, hnumber, heq⟩ := Fallible.map_eq_ok_iff.mp h
      cases heq
      exact numberValue_isRead (isAsciiDigit_of_integerPart? hpart) hnumber

theorem readItems_isRead (hitem : Gives depth item) (fuel : Nat)
    {items : List Value} (hitems : ∀ value ∈ items, value.IsRead depth) {cursor rest : Cursor}
    {all : List Value} (h : readItems item fuel items cursor = .ok (all, rest)) :
    ∀ value ∈ all, value.IsRead depth := by
  induction fuel generalizing items cursor with
  | zero => cases h
  | succ fuel ih =>
      rw [readItems] at h
      obtain ⟨⟨value, after⟩, hvalue, hrest⟩ := Fallible.bind_eq_ok_iff.mp h
      have hmore : ∀ other ∈ value :: items, other.IsRead depth := by
        rw [List.forall_mem_cons]
        exact ⟨hitem _ _ _ hvalue, hitems⟩
      dsimp only at hrest
      split at hrest
      case h_1 => cases hrest
      case h_2 =>
        split at hrest
        · cases hrest
          exact fun other hother => hmore other (List.mem_reverse.mp hother)
        · split at hrest
          · exact ih hmore hrest
          · cases hrest

theorem readList_gives (hitem : Gives depth item) (fuel : Nat) :
    Gives (depth + 1) (readList item fuel) := by
  intro cursor value rest h
  rw [readList] at h
  dsimp only at h
  split at h
  · cases h
    exact .list (List.forall_mem_nil _)
  · obtain ⟨⟨items, after⟩, hitems, heq⟩ := Fallible.map_eq_ok_iff.mp h
    cases heq
    exact .list (readItems_isRead hitem fuel (List.forall_mem_nil _) hitems)

theorem readEntries_isRead (hitem : Gives depth item) (fuel : Nat)
    {entries : Entries} (hentries : ∀ entry ∈ entries, entry.2.IsRead depth)
    {cursor rest : Cursor} {all : Entries}
    (h : readEntries item fuel entries cursor = .ok (all, rest)) :
    ∀ entry ∈ all, entry.2.IsRead depth := by
  induction fuel generalizing entries cursor with
  | zero => cases h
  | succ fuel ih =>
      rw [readEntries] at h
      split at h
      · cases h
      · obtain ⟨⟨key, afterKey⟩, _, hcolon⟩ := Fallible.bind_eq_ok_iff.mp h
        dsimp only at hcolon
        split at hcolon
        · cases hcolon
        · obtain ⟨⟨value, after⟩, hvalue, hrest⟩ := Fallible.bind_eq_ok_iff.mp hcolon
          have hmore : ∀ entry ∈ (key, value) :: entries, entry.2.IsRead depth := by
            rw [List.forall_mem_cons]
            exact ⟨hitem _ _ _ hvalue, hentries⟩
          dsimp only at hrest
          split at hrest
          case h_1 => cases hrest
          case h_2 =>
            split at hrest
            · cases hrest
              exact fun entry hentry => hmore entry (List.mem_reverse.mp hentry)
            · split at hrest
              · exact ih hmore hrest
              · cases hrest

theorem readObject_gives (hitem : Gives depth item) (fuel : Nat) :
    Gives (depth + 1) (readObject item fuel) := by
  intro cursor value rest h
  rw [readObject] at h
  dsimp only at h
  split at h
  · cases h
    exact .ofList (List.forall_mem_nil _)
  · obtain ⟨⟨entries, after⟩, hentries, heq⟩ := Fallible.map_eq_ok_iff.mp h
    cases heq
    exact .ofList (readEntries_isRead hitem fuel (List.forall_mem_nil _) hentries)

theorem readTerm_gives {list object : Reader Value} (hlist : Gives depth list)
    (hobject : Gives depth object) : Gives depth (readTerm list object) := by
  intro cursor value rest h
  rw [readTerm] at h
  split at h
  case h_1 => cases h
  case h_2 =>
    split at h
    · obtain ⟨⟨t, after⟩, _, heq⟩ := Fallible.map_eq_ok_iff.mp h
      cases heq
      exact ⟨.text t, Value.isShowable_text depth t⟩
    · split at h
      · exact hobject _ _ _ h
      · split at h
        · exact hlist _ _ _ h
        · exact readScalar_gives _ _ _ h

end Readers

theorem readValue_gives (fuel depth : Nat) : Gives depth (readValue fuel depth) := by
  induction depth with
  | zero =>
      have htooDeep : Gives 0 fun _ => .error .nestedTooDeep := fun _ _ _ h => nomatch h
      exact readTerm_gives htooDeep htooDeep
  | succ depth ih =>
      exact readTerm_gives (readList_gives ih fuel) (readObject_gives ih fuel)

/-- What is read from a document is well-formed and can be shown. -/
theorem read_isRead {t : Text} {value : Value} (h : read t = .ok value) :
    value.IsRead maxDepth := by
  rw [read] at h
  split at h
  · cases h
  · obtain ⟨⟨found, cursor⟩, hfound, hend⟩ := Fallible.bind_eq_ok_iff.mp h
    dsimp only at hend
    split at hend
    · cases hend
      exact readValue_gives _ _ _ _ _ hfound
    · cases hend

end Json

end RecordSmith
