import RecordSmith.Proofs.Association
import RecordSmith.Value.Object

/-!
# Entries of objects

What setting entries does to the value of each key and to the keys.  Of entries
with distinct keys, those that are set over others win, and the others are as they
were.  A value is well-formed if the keys of every object in it are distinct.
-/

namespace RecordSmith

namespace Entries

section Lookup

variable {entries changes : Entries} {key other : Text} {value : Value}

theorem get?_nil (key : Text) : get? [] key = none := rfl

theorem get?_cons (entry : Text × Value) (entries : Entries) (key : Text) :
    get? (entry :: entries) key = if key = entry.1 then some entry.2 else get? entries key := by
  rw [get?, List.lookup_cons, get?]
  by_cases hkey : key = entry.1
  · rw [if_pos hkey, hkey, beq_self_eq_true]
  · rw [if_neg hkey, beq_false_of_ne hkey]

theorem get?_set (entries : Entries) (key : Text) (value : Value) (other : Text) :
    (set key value entries).get? other =
      if other = key then some value else entries.get? other := by
  induction entries with
  | nil => rw [set, get?_cons]
  | cons entry rest ih =>
      obtain ⟨k, v⟩ := entry
      rw [set]
      by_cases hk : k = key
      · subst hk
        rw [if_pos (beq_self_eq_true k), get?_cons, get?_cons]
        by_cases hother : other = k
        · rw [if_pos hother, if_pos hother]
        · rw [if_neg hother, if_neg hother, if_neg hother]
      · rw [if_neg (by simpa using hk), get?_cons, ih, get?_cons]
        by_cases hother : other = k
        · rw [if_pos hother, if_neg (hother ▸ hk), if_pos hother]
        · rw [if_neg hother, if_neg hother]

theorem get?_eq_none_iff : entries.get? key = none ↔ key ∉ entries.keys := by
  induction entries with
  | nil => simp [get?, keys]
  | cons entry rest ih =>
      rw [get?_cons, keys, List.map_cons, List.mem_cons, not_or, ← keys, ← ih]
      by_cases hkey : key = entry.1
      · simp [hkey]
      · simp [hkey]

theorem isSome_get?_iff : (entries.get? key).isSome = true ↔ key ∈ entries.keys := by
  rw [Option.isSome_iff_ne_none, ne_eq, get?_eq_none_iff, Decidable.not_not]

theorem nodup_keys_cons {entry : Text × Value} :
    (keys (entry :: entries)).Nodup ↔ entries.get? entry.1 = none ∧ entries.keys.Nodup := by
  rw [keys, List.map_cons, List.nodup_cons, get?_eq_none_iff]
  rfl

theorem mem_of_get?_eq_some (h : entries.get? key = some value) : (key, value) ∈ entries := by
  obtain ⟨before, after, hsplit, _⟩ := List.lookup_eq_some_iff.mp h
  simp [hsplit]

/-- Entries that are set over others win. -/
theorem get?_setAll (hchanges : changes.keys.Nodup) (entries : Entries) (key : Text) :
    (setAll entries changes).get? key = (changes.get? key).or (entries.get? key) := by
  induction changes generalizing entries with
  | nil => rfl
  | cons change rest ih =>
      obtain ⟨hnew, hrest⟩ := nodup_keys_cons.mp hchanges
      rw [setAll, List.foldl_cons, ← setAll, ih hrest, get?_set, get?_cons]
      by_cases hkey : key = change.1
      · rw [if_pos hkey, if_pos hkey, hkey, hnew]
        rfl
      · rw [if_neg hkey, if_neg hkey]

theorem get?_ofList (hentries : entries.keys.Nodup) (key : Text) :
    (ofList entries).get? key = entries.get? key := by
  rw [ofList, get?_setAll hentries, get?_nil, Option.or_none]

/-- Entries that are chosen by their keys keep their values. -/
theorem get?_filter (p : Text → Bool) (entries : Entries) (key : Text) :
    get? (entries.filter fun entry => p entry.1) key =
      if p key then entries.get? key else none :=
  Association.lookup_filter p entries key

end Lookup

/-! ## Keys and values of objects that are put together -/

section Keys

variable {entries changes : Entries}

theorem nodup_keys_set (hentries : entries.keys.Nodup) (key : Text) (value : Value) :
    (set key value entries).keys.Nodup := by
  induction entries with
  | nil => simp [set, keys]
  | cons entry rest ih =>
      obtain ⟨k, v⟩ := entry
      obtain ⟨hnew, hrest⟩ := nodup_keys_cons.mp hentries
      rw [set]
      split
      case isTrue => exact hentries
      case isFalse hk =>
        rw [nodup_keys_cons, get?_set, if_neg (by simpa using hk)]
        exact ⟨hnew, ih hrest⟩

theorem nodup_keys_setAll (hentries : entries.keys.Nodup) (changes : Entries) :
    (setAll entries changes).keys.Nodup := by
  induction changes generalizing entries with
  | nil => exact hentries
  | cons change rest ih => exact ih (nodup_keys_set hentries change.1 change.2)

theorem nodup_keys_ofList (entries : Entries) : (ofList entries).keys.Nodup :=
  @nodup_keys_setAll [] List.nodup_nil entries

theorem set_of_missing {key : Text} (hkey : key ∉ entries.keys) (value : Value) :
    set key value entries = entries ++ [(key, value)] := by
  induction entries with
  | nil => rfl
  | cons entry rest ih =>
      obtain ⟨hne, hrest⟩ := not_or.mp (mt List.mem_cons.mpr hkey)
      rw [set, if_neg (by simpa using Ne.symm hne), ih hrest, List.cons_append]

/-- Entries with new keys are added in their order. -/
theorem setAll_eq_append (h : (entries ++ changes).keys.Nodup) :
    setAll entries changes = entries ++ changes := by
  induction changes generalizing entries with
  | nil => rw [List.append_nil]; rfl
  | cons change rest ih =>
      have hnew : change.1 ∉ entries.keys := by
        rw [keys, List.map_append, List.map_cons] at h
        exact fun hmem => (List.nodup_append.mp h).2.2 _ hmem _ List.mem_cons_self rfl
      rw [List.append_cons] at h
      rw [setAll, List.foldl_cons, ← setAll, set_of_missing hnew, ih h, ← List.append_cons]

theorem ofList_of_nodup (h : entries.keys.Nodup) : ofList entries = entries :=
  @setAll_eq_append [] entries h

theorem mem_set {key : Text} {value : Value} {entry : Text × Value}
    (hentry : entry ∈ set key value entries) : entry.2 = value ∨ entry ∈ entries := by
  induction entries with
  | nil =>
      rw [set, List.mem_singleton] at hentry
      exact Or.inl (hentry ▸ rfl)
  | cons first rest ih =>
      rw [set] at hentry
      split at hentry
      · rcases List.mem_cons.mp hentry with rfl | hrest
        · exact Or.inl rfl
        · exact Or.inr (List.mem_cons_of_mem first hrest)
      · rcases List.mem_cons.mp hentry with rfl | hrest
        · exact Or.inr List.mem_cons_self
        · exact (ih hrest).imp_right (List.mem_cons_of_mem first)

/-- A property of all values is kept when entries are set. -/
theorem forall_mem_setAll {P : Value → Prop} (hentries : ∀ entry ∈ entries, P entry.2)
    (hchanges : ∀ change ∈ changes, P change.2) :
    ∀ entry ∈ setAll entries changes, P entry.2 := by
  induction changes generalizing entries with
  | nil => exact hentries
  | cons change rest ih =>
      apply ih
      · intro entry hentry
        rcases mem_set hentry with heq | hmem
        · exact heq ▸ hchanges change List.mem_cons_self
        · exact hentries entry hmem
      · exact fun other hother => hchanges other (List.mem_cons_of_mem change hother)

end Keys

end Entries

/-! ## Well-formed values -/

/-- Every object in the value has distinct keys. -/
inductive Value.WellFormed : Value → Prop where
  | null : WellFormed .null
  | boolean (b : Bool) : WellFormed (.boolean b)
  | integer (n : Int) : WellFormed (.integer n)
  | real (x : Binary64) : WellFormed (.real x)
  | text (t : Text) : WellFormed (.text t)
  | list {items : List Value} (hitems : ∀ item ∈ items, WellFormed item) :
      WellFormed (.list items)
  | object {entries : Entries} (hkeys : entries.keys.Nodup)
      (hvalues : ∀ entry ∈ entries, WellFormed entry.2) : WellFormed (.object entries)

namespace Value.WellFormed

variable {entries : Entries}

theorem nodup_keys (h : WellFormed (.object entries)) : entries.keys.Nodup := by
  cases h with
  | object hkeys _ => exact hkeys

theorem of_get? {key : Text} {value : Value} (h : WellFormed (.object entries))
    (hget : entries.get? key = some value) : WellFormed value := by
  cases h with
  | object _ hvalues => exact hvalues (key, value) (Entries.mem_of_get?_eq_some hget)

theorem ofList (hvalues : ∀ entry ∈ entries, WellFormed entry.2) :
    WellFormed (.object (Entries.ofList entries)) :=
  .object (Entries.nodup_keys_ofList entries)
    (Entries.forall_mem_setAll (fun _ hentry => nomatch hentry) hvalues)

end Value.WellFormed

end RecordSmith
