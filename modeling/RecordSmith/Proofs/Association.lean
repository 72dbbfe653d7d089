/-!
# Association lists

Values that are looked up by key.  Leaving out entries by their keys does not change
what the other keys are looked up as.
-/

namespace RecordSmith.Association

variable {α β : Type} [BEq α] [LawfulBEq α]

theorem lookup_filter (p : α → Bool) (entries : List (α × β)) (key : α) :
    (entries.filter fun entry => p entry.1).lookup key =
      if p key then entries.lookup key else none := by
  induction entries with
  | nil => simp
  | cons entry rest ih =>
      obtain ⟨first, value⟩ := entry
      by_cases hkey : key = first
      · subst hkey
        cases hp : p key with
        | true => simp [hp]
        | false => simpa [hp] using ih
      · have hne : (key == first) = false := beq_false_of_ne hkey
        rw [List.lookup_cons, hne, ← ih, List.filter_cons]
        cases hp : p first with
        | true => rw [if_pos rfl, List.lookup_cons, hne]
        | false => rw [if_neg Bool.false_ne_true]

theorem lookup_filter_ne {key other : α} (hne : other ≠ key) (entries : List (α × β)) :
    (entries.filter fun entry => entry.1 != key).lookup other = entries.lookup other := by
  rw [lookup_filter (· != key), if_pos (bne_iff_ne.mpr hne)]

/-- With each key once the entries are what can be looked up. -/
theorem lookup_eq_some_iff_mem {entries : List (α × β)} (honce : (entries.map Prod.fst).Nodup)
    {key : α} {value : β} : entries.lookup key = some value ↔ (key, value) ∈ entries := by
  induction entries with
  | nil => simp
  | cons entry rest ih =>
      obtain ⟨first, stored⟩ := entry
      rw [List.map_cons, List.nodup_cons] at honce
      by_cases hkey : key = first
      · subst hkey
        have hnew : (key, value) ∉ rest :=
          fun hmem => honce.1 (List.mem_map.mpr ⟨_, hmem, rfl⟩)
        simp [hnew, eq_comm]
      · rw [List.lookup_cons, beq_false_of_ne hkey, ih honce.2]
        simp [hkey]

/-- Of entries with each key once those that are left out are looked up no more. -/
theorem lookup_filter_of_once {entries : List (α × β)} (honce : (entries.map Prod.fst).Nodup)
    (p : α × β → Bool) (key : α) :
    (entries.filter p).lookup key = (entries.lookup key).filter fun value => p (key, value) := by
  have hrest : ((entries.filter p).map Prod.fst).Nodup :=
    (List.filter_sublist.map Prod.fst).nodup honce
  ext value
  rw [lookup_eq_some_iff_mem hrest, List.mem_filter, Option.filter_eq_some_iff,
    lookup_eq_some_iff_mem honce]

end RecordSmith.Association
