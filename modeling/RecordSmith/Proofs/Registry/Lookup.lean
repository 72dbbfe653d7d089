import RecordSmith.Proofs.Association
import RecordSmith.Proofs.Fallible
import RecordSmith.Proofs.Text.LowerCase
import RecordSmith.Registry

/-!
# What a registry looks up

A registry is seen through two look-ups: the entry of a language and the language that
an alias stands for.  Every change is described by what it does to them, and whatever
is registered and removed, an alias stands for a registered language that lists it.
-/

namespace RecordSmith.Registry

/-! ## Look-ups behind a change -/

section Lookup

variable {registry : Registry}

theorem name_eq_of_found {name : Text} {entry : RegistryEntry}
    (h : registry.entry? name = some entry) : entry.name = name :=
  eq_of_beq (List.find?_some (p := fun other : RegistryEntry => other.name == name) h)

theorem mem_languageNames_iff {name : Text} :
    name ∈ registry.languageNames ↔ (registry.entry? name).isSome := by
  rw [languageNames, List.mem_mergeSort, List.mem_map, entry?, List.find?_isSome]
  simp only [beq_iff_eq]

theorem unregister_of_missing {language : Text}
    (h : registry.entry? (Text.toLower language) = none) :
    registry.unregister language = registry := by
  rw [unregister, h]

theorem entry?_unregister (registry : Registry) (language other : Text) :
    entry? (registry.unregister language) other =
      if other = Text.toLower language then none else registry.entry? other := by
  cases hentry : registry.entry? (Text.toLower language) with
  | none =>
      rw [unregister_of_missing hentry]
      by_cases hother : other = Text.toLower language
      · rw [if_pos hother, hother, hentry]
      · rw [if_neg hother]
  | some entry =>
      rw [unregister, hentry]
      change (registry.languages.filter fun other => other.name != entry.name).find?
        (fun found => found.name == other) = _
      rw [List.find?_filter, name_eq_of_found hentry]
      by_cases hother : other = Text.toLower language
      · rw [if_pos hother, List.find?_eq_none]
        intro found _
        simp [hother]
      · rw [if_neg hother, entry?]
        congr 1
        funext found
        by_cases hfound : found.name = other
        · simp [hfound, hother]
        · simp [hfound]

theorem entry?_insert (registry : Registry) (entry : RegistryEntry) (other : Text) :
    entry? (registry.insert entry) other =
      (registry.entry? other).or (if other = entry.name then some entry else none) := by
  rw [insert, entry?, entry?, List.find?_append, List.find?_singleton]
  by_cases hother : other = entry.name
  · simp [hother]
  · simp [hother, Ne.symm hother]

theorem lookup_setAlias (aliases : List (Text × Text)) (name key other : Text) :
    (setAlias aliases name key).lookup other =
      if other = key then some name else aliases.lookup other := by
  rw [setAlias, List.lookup_cons]
  by_cases hother : other = key
  · rw [if_pos hother, beq_iff_eq.mpr hother]
  · rw [if_neg hother, beq_false_of_ne hother]
    exact Association.lookup_filter_ne hother aliases

theorem lookup_setAliases (aliases : List (Text × Text)) (name : Text) (keys : List Text)
    (other : Text) :
    (keys.foldl (fun aliases key => setAlias aliases name key) aliases).lookup other =
      if other ∈ keys then some name else aliases.lookup other := by
  induction keys generalizing aliases with
  | nil => rw [List.foldl_nil, if_neg (List.not_mem_nil)]
  | cons key rest ih =>
      rw [List.foldl_cons, ih, lookup_setAlias]
      by_cases hrest : other ∈ rest
      · rw [if_pos hrest, if_pos (List.mem_cons_of_mem key hrest)]
      · rw [if_neg hrest]
        simp only [List.mem_cons, hrest, or_false]

theorem aliasTarget?_insert (registry : Registry) (entry : RegistryEntry) (key : Text) :
    (registry.insert entry).aliasTarget? key =
      if key ∈ entry.aliases then some entry.name else registry.aliasTarget? key :=
  lookup_setAliases registry.aliases entry.name entry.aliases key

theorem nodup_setAliases {aliases : List (Text × Text)} (h : (aliases.map Prod.fst).Nodup)
    (name : Text) (keys : List Text) :
    ((keys.foldl (fun aliases key => setAlias aliases name key) aliases).map
      Prod.fst).Nodup := by
  induction keys generalizing aliases with
  | nil => exact h
  | cons key rest ih =>
      have hfirst : ((setAlias aliases name key).map Prod.fst).Nodup := by
        rw [setAlias, List.map_cons, List.nodup_cons]
        refine ⟨?_, (List.filter_sublist.map Prod.fst).nodup h⟩
        intro hkey
        obtain ⟨entry, hentry, heq⟩ := List.mem_map.mp hkey
        simp [heq] at hentry
      exact ih hfirst

theorem mem_aliasKeys_iff {name key : Text} {aliases : List Text} :
    key ∈ aliasKeys name aliases ↔ (∃ given ∈ aliases, Text.toLower given = key) ∧ key ≠ name := by
  rw [aliasKeys, Text.sortUnique, List.mem_mergeSort, List.mem_eraseDups, List.mem_filter,
    List.mem_map, bne_iff_ne]

end Lookup

/-! ## What always holds -/

/-- An alias is in lower case, stands for one registered language and is listed by it. -/
structure WellFormed (registry : Registry) : Prop where
  aliases_once : (registry.aliases.map Prod.fst).Nodup
  owned : ∀ {key name}, registry.aliasTarget? key = some name →
    ∃ entry, registry.entry? name = some entry ∧ key ∈ entry.aliases
  lower : ∀ {name entry key}, registry.entry? name = some entry → key ∈ entry.aliases →
    Text.toLower key = key ∧ key ≠ name

section WellFormed

variable {registry : Registry}

theorem wellFormed_empty : WellFormed {} where
  aliases_once := List.nodup_nil
  owned := fun h => nomatch h
  lower := fun h => nomatch h

theorem wellFormed_builtin : WellFormed builtin where
  aliases_once := by decide +kernel
  owned := by
    intro key name h
    have hall : ∀ pair ∈ builtin.aliases,
        ∃ entry ∈ builtin.languages, builtin.entry? pair.2 = some entry ∧
          pair.1 ∈ entry.aliases := by decide +kernel
    have hmem := (Association.lookup_eq_some_iff_mem (by decide +kernel)).mp h
    obtain ⟨entry, _, hentry⟩ := hall (key, name) hmem
    exact ⟨entry, hentry⟩
  lower := by
    intro name entry key h hkey
    have hall : ∀ entry ∈ builtin.languages, ∀ key ∈ entry.aliases,
        Text.toLower key = key ∧ key ≠ entry.name := by decide +kernel
    rw [← name_eq_of_found h]
    exact hall entry (List.mem_of_find?_eq_some h) key hkey

/-- A language that is removed takes along every alias that stands for it. -/
theorem WellFormed.aliasTarget?_unregister (h : registry.WellFormed) (language key : Text) :
    (registry.unregister language).aliasTarget? key =
      (registry.aliasTarget? key).filter (· != Text.toLower language) := by
  cases hentry : registry.entry? (Text.toLower language) with
  | none =>
      rw [unregister_of_missing hentry]
      cases htarget : registry.aliasTarget? key with
      | none => rfl
      | some name =>
          have hname : name ≠ Text.toLower language := by
            rintro rfl
            obtain ⟨entry, hfound, _⟩ := h.owned htarget
            rw [hentry] at hfound
            cases hfound
          rw [Option.filter_some, if_pos (bne_iff_ne.mpr hname)]
  | some entry =>
      rw [unregister, hentry]
      change (registry.aliases.filter _).lookup key = _
      rw [Association.lookup_filter_of_once h.aliases_once, name_eq_of_found hentry, aliasTarget?]
      cases htarget : registry.aliases.lookup key with
      | none => rfl
      | some name =>
          rw [Option.filter_some, Option.filter_some]
          by_cases hname : name = Text.toLower language
          · subst hname
            obtain ⟨owner, hfound, hlists⟩ := h.owned htarget
            rw [hentry, Option.some.injEq] at hfound
            subst hfound
            simp [hlists]
          · simp [hname]

theorem WellFormed.unregister (h : registry.WellFormed) (language : Text) :
    (registry.unregister language).WellFormed where
  aliases_once := by
    rw [Registry.unregister]
    split
    · exact h.aliases_once
    · exact (List.filter_sublist.map Prod.fst).nodup h.aliases_once
  owned := by
    intro key name htarget
    rw [h.aliasTarget?_unregister, Option.filter_eq_some_iff, bne_iff_ne] at htarget
    obtain ⟨htarget, hname⟩ := htarget
    rw [entry?_unregister, if_neg hname]
    exact h.owned htarget
  lower := by
    intro name entry key hentry
    rw [entry?_unregister, Option.ite_none_left_eq_some] at hentry
    exact h.lower hentry.2

/-- A language that is not registered can be added, whatever its aliases stood for. -/
theorem WellFormed.insert (h : registry.WellFormed) {entry : RegistryEntry}
    (hnew : registry.entry? entry.name = none)
    (hkeys : ∀ key ∈ entry.aliases, Text.toLower key = key ∧ key ≠ entry.name) :
    (registry.insert entry).WellFormed where
  aliases_once := nodup_setAliases h.aliases_once entry.name entry.aliases
  owned := by
    intro key name htarget
    rw [aliasTarget?_insert] at htarget
    rw [entry?_insert]
    split at htarget
    case isTrue hkey =>
      cases htarget
      rw [hnew, if_pos rfl]
      exact ⟨entry, rfl, hkey⟩
    case isFalse =>
      obtain ⟨owner, howner, hlists⟩ := h.owned htarget
      rw [howner]
      exact ⟨owner, rfl, hlists⟩
  lower := by
    intro name found key hfound hkey
    rw [entry?_insert, Option.or_eq_some_iff] at hfound
    rcases hfound with hold | ⟨_, hadded⟩
    · exact h.lower hold hkey
    · rw [Option.ite_none_right_eq_some] at hadded
      obtain ⟨rfl, heq⟩ := hadded
      cases heq
      exact hkeys key hkey

end WellFormed

/-! ## Registrations -/

/-- A registration goes through: the language is new or to be replaced, and none of its
aliases is a language or, unless the language is to be replaced, stands for another one. -/
structure Accepts (registry : Registry) (language : Text) (aliases : List Text)
    (replace : Bool) : Prop where
  admitted : registry.entry? (Text.toLower language) = none ∨ replace = true
  no_language : ∀ key ∈ aliasKeys (Text.toLower language) aliases, registry.entry? key = none
  no_owner : ∀ key ∈ aliasKeys (Text.toLower language) aliases, ∀ owner,
    registry.aliasTarget? key = some owner → owner = Text.toLower language ∨ replace = true

section Register

variable {registry : Registry} {language : Text} {aliases : List Text} {replace : Bool}

/-- The entry that a registration makes. -/
def newEntry (language : Text) (target : Target) (aliases : List Text) : RegistryEntry where
  name := Text.toLower language
  target := target
  aliases := aliasKeys (Text.toLower language) aliases

theorem checkAlias_eq_ok_iff {name key : Text} :
    registry.checkAlias name replace key = .ok () ↔
      registry.entry? key = none ∧ ∀ owner, registry.aliasTarget? key = some owner →
        owner = name ∨ replace = true := by
  rw [checkAlias]
  cases registry.entry? key with
  | some entry => simp
  | none =>
      cases registry.aliasTarget? key with
      | none => simp
      | some owner => cases replace <;> simp

/-- A registration that goes through puts its entry in the place of one that is there. -/
theorem register_of_accepts (h : registry.Accepts language aliases replace) (target : Target) :
    registry.register language (some target) aliases replace =
      .ok ((registry.unregister language).insert (newEntry language target aliases)) := by
  have hchecks : (aliasKeys (Text.toLower language) aliases).forM
      (registry.checkAlias (Text.toLower language) replace) = .ok () :=
    Fallible.forM_eq_ok_iff.mpr fun key hkey =>
      checkAlias_eq_ok_iff.mpr ⟨h.no_language key hkey, h.no_owner key hkey⟩
  have hkept : ¬((registry.entry? (Text.toLower language)).isSome && !replace) = true := by
    rcases h.admitted with hnew | hreplace
    · simp [hnew]
    · simp [hreplace]
  have hcleared : (if replace then registry.unregister (Text.toLower language) else registry) =
      registry.unregister language := by
    cases replace with
    | true => rw [if_pos rfl, Registry.unregister, Text.toLower_toLower, Registry.unregister]
    | false =>
        rcases h.admitted with hnew | hreplace
        · rw [unregister_of_missing hnew, if_neg Bool.false_ne_true]
        · cases hreplace
  rw [register]
  dsimp only
  rw [if_neg hkept]
  rw [hchecks, hcleared]
  rfl

/-- A language that is registered and not to be replaced is kept. -/
theorem register_of_kept (hentry : (registry.entry? (Text.toLower language)).isSome)
    (target : Target) (aliases : List Text) :
    registry.register language (some target) aliases false = .ok registry := by
  rw [register]
  dsimp only
  rw [if_pos (by rw [hentry]; rfl)]
  rfl

/-- No other registration is made without its checks. -/
theorem accepts_of_register {target : Target} {after : Registry}
    (hadmitted : registry.entry? (Text.toLower language) = none ∨ replace = true)
    (hafter : registry.register language (some target) aliases replace = .ok after) :
    registry.Accepts language aliases replace := by
  rw [register] at hafter
  dsimp only at hafter
  split at hafter
  case isTrue hkept =>
    rcases hadmitted with hnew | hreplace
    · simp [hnew] at hkept
    · simp [hreplace] at hkept
  case isFalse =>
    obtain ⟨_, hchecks, _⟩ := Fallible.bind_eq_ok_iff.mp hafter
    have hkeys := fun key hkey =>
      checkAlias_eq_ok_iff.mp (Fallible.forM_eq_ok_iff.mp hchecks key hkey)
    exact ⟨hadmitted, fun key hkey => (hkeys key hkey).1, fun key hkey => (hkeys key hkey).2⟩

/-- A registration that does not go through, if it is not refused, changes nothing. -/
theorem register_of_not_accepts (h : ¬registry.Accepts language aliases replace)
    {generator : Option Target} {after : Registry}
    (hafter : registry.register language generator aliases replace = .ok after) :
    after = registry := by
  cases generator with
  | none => cases hafter
  | some target =>
      by_cases hadmitted : registry.entry? (Text.toLower language) = none ∨ replace = true
      · exact absurd (accepts_of_register hadmitted hafter) h
      · rw [not_or, ← ne_eq, Option.ne_none_iff_isSome, Bool.not_eq_true] at hadmitted
        obtain ⟨hentry, rfl⟩ := hadmitted
        rw [register_of_kept hentry, Except.ok.injEq] at hafter
        exact hafter.symm

end Register

/-! ## Calls -/

/-- A call that is meant to change a registry. -/
inductive Request where
  | register (language : Text) (generator : Option Target) (aliases : List Text)
      (replace : Bool)
  | unregister (language : Text)

/-- The registry behind a call, which is as it was if the call fails. -/
def serve (registry : Registry) : Request → Registry
  | .register language generator aliases replace =>
    match registry.register language generator aliases replace with
    | .ok after => after
    | .error _ => registry
  | .unregister language => registry.unregister language

/-- The registry behind calls that are made one after the other, at first on an empty one. -/
def served (requests : List Request) : Registry := requests.foldl serve {}

section Serve

variable {registry : Registry} {language : Text} {aliases : List Text} {replace : Bool}

theorem served_append_singleton (requests : List Request) (request : Request) :
    served (requests ++ [request]) = (served requests).serve request := by
  rw [served, List.foldl_append, List.foldl_cons, List.foldl_nil, served]

theorem serve_of_accepts (h : registry.Accepts language aliases replace) (target : Target) :
    registry.serve (.register language (some target) aliases replace) =
      (registry.unregister language).insert (newEntry language target aliases) := by
  rw [serve, register_of_accepts h]

theorem serve_of_not_accepts {generator : Option Target}
    (h : ¬(generator.isSome ∧ registry.Accepts language aliases replace)) :
    registry.serve (.register language generator aliases replace) = registry := by
  rw [serve]
  cases generator with
  | none => rfl
  | some target =>
      have hrefused : ¬registry.Accepts language aliases replace := fun haccepts =>
        h ⟨rfl, haccepts⟩
      split
      case h_1 after hafter => exact register_of_not_accepts hrefused hafter
      case h_2 => rfl

/-- Behind a registration that goes through the language has its new entry, and the
other languages have theirs. -/
theorem entry?_serve_of_accepts (h : registry.Accepts language aliases replace)
    (target : Target) (other : Text) :
    entry? (registry.serve (.register language (some target) aliases replace)) other =
      if other = Text.toLower language then some (newEntry language target aliases)
      else registry.entry? other := by
  rw [serve_of_accepts h, entry?_insert, entry?_unregister, newEntry]
  by_cases hother : other = Text.toLower language
  · rw [if_pos hother, if_pos hother, if_pos hother, Option.none_or]
  · rw [if_neg hother, if_neg hother, if_neg hother, Option.or_none]

theorem WellFormed.aliasTarget?_serve_of_accepts (hregistry : registry.WellFormed)
    (h : registry.Accepts language aliases replace) (target : Target) (key : Text) :
    (registry.serve (.register language (some target) aliases replace)).aliasTarget? key =
      if key ∈ aliasKeys (Text.toLower language) aliases then some (Text.toLower language)
      else (registry.aliasTarget? key).filter (· != Text.toLower language) := by
  rw [serve_of_accepts h, aliasTarget?_insert, hregistry.aliasTarget?_unregister, newEntry]

theorem lower_of_mem_aliasKeys {name key : Text} (h : key ∈ aliasKeys name aliases) :
    Text.toLower key = key ∧ key ≠ name := by
  obtain ⟨⟨given, _, rfl⟩, hname⟩ := mem_aliasKeys_iff.mp h
  exact ⟨Text.toLower_toLower given, hname⟩

theorem WellFormed.serve (h : registry.WellFormed) (request : Request) :
    (registry.serve request).WellFormed := by
  cases request with
  | unregister language => exact h.unregister language
  | register language generator aliases replace =>
      by_cases haccepts : generator.isSome ∧ registry.Accepts language aliases replace
      · obtain ⟨hgenerator, haccepts⟩ := haccepts
        obtain ⟨target, rfl⟩ := Option.isSome_iff_exists.mp hgenerator
        rw [serve_of_accepts haccepts]
        apply (h.unregister language).insert
        · rw [entry?_unregister, newEntry, if_pos rfl]
        · exact fun key hkey => lower_of_mem_aliasKeys hkey
      · rw [serve_of_not_accepts haccepts]
        exact h

/-- Whatever is called, in whatever order. -/
theorem WellFormed.foldl_serve (h : registry.WellFormed) (requests : List Request) :
    (requests.foldl Registry.serve registry).WellFormed := by
  induction requests generalizing registry with
  | nil => exact h
  | cons request rest ih => exact ih (h.serve request)

theorem wellFormed_served (requests : List Request) : (served requests).WellFormed :=
  wellFormed_empty.foldl_serve requests

end Serve

end RecordSmith.Registry
