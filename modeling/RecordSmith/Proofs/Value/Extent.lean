import RecordSmith.Value.Display

/-!
# Values that can be shown

A value can be shown exactly if the values inside one another in it are no more than are followed,
and none of the integers in it is long.
-/

namespace RecordSmith.Value

/-- At most `depth` levels of values are inside the value, and no integer in it is long. -/
structure IsShowable (depth : Nat) (value : Value) : Prop where
  shallow : value.nesting ≤ depth
  short : value.holdsLong = false

/-- A long integer is one from a power of ten on. -/
theorem isLong_eq_false_iff {n : Int} :
    isLong n = false ↔ n.natAbs < Nat.pow 10 Json.maxIntegerDigits := by
  have hbase : 1 < 10 := by decide
  have hdigits : 0 < Json.maxIntegerDigits := by decide
  rw [isLong, decide_eq_false_iff_not, Nat.not_lt, Text.ofNat, List.length_map,
    Nat.length_toDigits_le_iff hbase hdigits, Nat.pow_eq]

section Parts

variable {depth : Nat} {items : List Value} {entries : Entries}

theorem nestingOfItems_le_iff :
    nestingOfItems items ≤ depth ↔ ∀ item ∈ items, item.nesting < depth := by
  induction items with
  | nil => exact iff_of_true (Nat.zero_le depth) (List.forall_mem_nil _)
  | cons item rest ih =>
      rw [nestingOfItems, Nat.max_le, List.forall_mem_cons, ih, Nat.succ_le_iff]

theorem nestingOfEntries_le_iff :
    nestingOfEntries entries ≤ depth ↔ ∀ entry ∈ entries, entry.2.nesting < depth := by
  induction entries with
  | nil => exact iff_of_true (Nat.zero_le depth) (List.forall_mem_nil _)
  | cons entry rest ih =>
      rw [nestingOfEntries, Nat.max_le, List.forall_mem_cons, ih, Nat.succ_le_iff]

theorem itemsHoldLong_eq_false_iff :
    itemsHoldLong items = false ↔ ∀ item ∈ items, item.holdsLong = false := by
  induction items with
  | nil => exact iff_of_true rfl (List.forall_mem_nil _)
  | cons item rest ih => rw [itemsHoldLong, Bool.or_eq_false_iff, List.forall_mem_cons, ih]

theorem entriesHoldLong_eq_false_iff :
    entriesHoldLong entries = false ↔ ∀ entry ∈ entries, entry.2.holdsLong = false := by
  induction entries with
  | nil => exact iff_of_true rfl (List.forall_mem_nil _)
  | cons entry rest ih => rw [entriesHoldLong, Bool.or_eq_false_iff, List.forall_mem_cons, ih]

/-- The values of a list that can be shown are a level further down. -/
theorem isShowable_list_iff :
    (list items).IsShowable (depth + 1) ↔ ∀ item ∈ items, item.IsShowable depth := by
  constructor
  · intro h item hitem
    exact ⟨Nat.lt_succ_iff.mp (nestingOfItems_le_iff.mp h.shallow item hitem),
      itemsHoldLong_eq_false_iff.mp h.short item hitem⟩
  · intro h
    exact ⟨nestingOfItems_le_iff.mpr fun item hitem => Nat.lt_succ_iff.mpr (h item hitem).shallow,
      itemsHoldLong_eq_false_iff.mpr fun item hitem => (h item hitem).short⟩

theorem isShowable_object_iff :
    (object entries).IsShowable (depth + 1) ↔ ∀ entry ∈ entries, entry.2.IsShowable depth := by
  constructor
  · intro h entry hentry
    exact ⟨Nat.lt_succ_iff.mp (nestingOfEntries_le_iff.mp h.shallow entry hentry),
      entriesHoldLong_eq_false_iff.mp h.short entry hentry⟩
  · intro h
    exact ⟨nestingOfEntries_le_iff.mpr fun entry hentry =>
        Nat.lt_succ_iff.mpr (h entry hentry).shallow,
      entriesHoldLong_eq_false_iff.mpr fun entry hentry => (h entry hentry).short⟩

end Parts

theorem isShowable_text (depth : Nat) (t : Text) : (text t).IsShowable depth :=
  ⟨Nat.zero_le depth, rfl⟩

/-- What does not count as set has nothing in it. -/
theorem isShowable_of_unset {value : Value} (h : value.isTruthy = false) (depth : Nat) :
    value.IsShowable depth := by
  cases value with
  | null | boolean | real | text => exact ⟨Nat.zero_le depth, rfl⟩
  | integer n =>
      rw [isTruthy, bne_eq_false_iff_eq] at h
      subst h
      exact ⟨Nat.zero_le depth, by decide⟩
  | list items =>
      cases items with
      | nil => exact ⟨Nat.zero_le depth, rfl⟩
      | cons item rest => cases h
  | object entries =>
      cases entries with
      | nil => exact ⟨Nat.zero_le depth, rfl⟩
      | cons entry rest => cases h

theorem IsShowable.mono {depth deeper : Nat} {value : Value} (h : value.IsShowable depth)
    (hdepth : depth ≤ deeper) : value.IsShowable deeper :=
  ⟨Nat.le_trans h.shallow hdepth, h.short⟩

/-! ## Faults -/

mutual

/-- Nothing stands in the way of showing exactly the values that can be shown. -/
theorem displayFault?_eq_none_iff : ∀ (depth : Nat) (value : Value),
    value.displayFault? depth = none ↔ value.IsShowable depth
  | depth, integer n => by
      have hlong : displayFault? depth (integer n) = none ↔ isLong n = false := by
        rw [displayFault?]
        cases isLong n <;> simp
      exact hlong.trans ⟨fun h => ⟨Nat.zero_le depth, h⟩, fun h => h.short⟩
  | depth, list items => by
      have hitems := faultOfItems?_eq_none_iff depth items
      exact hitems.trans ⟨fun h => ⟨h.1, h.2⟩, fun h => ⟨h.shallow, h.short⟩⟩
  | depth, object entries => by
      have hentries := faultOfEntries?_eq_none_iff depth entries
      exact hentries.trans ⟨fun h => ⟨h.1, h.2⟩, fun h => ⟨h.shallow, h.short⟩⟩
  | depth, null => iff_of_true rfl ⟨Nat.zero_le depth, rfl⟩
  | depth, boolean _ => iff_of_true rfl ⟨Nat.zero_le depth, rfl⟩
  | depth, real _ => iff_of_true rfl ⟨Nat.zero_le depth, rfl⟩
  | depth, text t => iff_of_true rfl (isShowable_text depth t)

theorem faultOfItems?_eq_none_iff : ∀ (depth : Nat) (items : List Value),
    faultOfItems? depth items = none ↔ nestingOfItems items ≤ depth ∧ itemsHoldLong items = false
  | depth, [] => by
      rw [faultOfItems?]
      exact iff_of_true rfl ⟨Nat.zero_le depth, rfl⟩
  | 0, item :: rest => by
      rw [faultOfItems?, nestingOfItems_le_iff]
      exact iff_of_false nofun fun h => Nat.not_lt_zero _ (h.1 item List.mem_cons_self)
  | depth + 1, item :: rest => by
      rw [faultOfItems?, Option.or_eq_none_iff, displayFault?_eq_none_iff depth item,
        faultOfItems?_eq_none_iff (depth + 1) rest, nestingOfItems, itemsHoldLong, Nat.max_le,
        Bool.or_eq_false_iff, Nat.succ_le_succ_iff]
      exact ⟨fun h => ⟨⟨h.1.shallow, h.2.1⟩, h.1.short, h.2.2⟩,
        fun h => ⟨⟨h.1.1, h.2.1⟩, h.1.2, h.2.2⟩⟩

theorem faultOfEntries?_eq_none_iff : ∀ (depth : Nat) (entries : List (Text × Value)),
    faultOfEntries? depth entries = none ↔
      nestingOfEntries entries ≤ depth ∧ entriesHoldLong entries = false
  | depth, [] => by
      rw [faultOfEntries?]
      exact iff_of_true rfl ⟨Nat.zero_le depth, rfl⟩
  | 0, entry :: rest => by
      rw [faultOfEntries?, nestingOfEntries_le_iff]
      exact iff_of_false nofun fun h => Nat.not_lt_zero _ (h.1 entry List.mem_cons_self)
  | depth + 1, (_, value) :: rest => by
      rw [faultOfEntries?, Option.or_eq_none_iff, displayFault?_eq_none_iff depth value,
        faultOfEntries?_eq_none_iff (depth + 1) rest, nestingOfEntries, entriesHoldLong,
        Nat.max_le, Bool.or_eq_false_iff, Nat.succ_le_succ_iff]
      exact ⟨fun h => ⟨⟨h.1.shallow, h.2.1⟩, h.1.short, h.2.2⟩,
        fun h => ⟨⟨h.1.1, h.2.1⟩, h.1.2, h.2.2⟩⟩

end

section Display

variable {depth : Nat} {value : Value}

theorem exists_display_iff :
    (∃ shown, value.display depth = .ok shown) ↔ value.IsShowable depth := by
  rw [← displayFault?_eq_none_iff, display]
  cases value.displayFault? depth with
  | none => exact iff_of_true ⟨_, rfl⟩ rfl
  | some fault => exact iff_of_false nofun nofun

theorem exists_displayPlain_iff :
    (∃ shown, value.displayPlain depth = .ok shown) ↔ value.IsShowable depth := by
  rw [← displayFault?_eq_none_iff, displayPlain]
  cases value.displayFault? depth with
  | none => exact iff_of_true ⟨_, rfl⟩ rfl
  | some fault => exact iff_of_false nofun nofun

end Display

end RecordSmith.Value
