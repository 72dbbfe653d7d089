import Mathlib.Data.List.Induction
import RecordSmith.Proofs.Registry.Lookup

/-!
# Where names and aliases lead

Every alias leads to a registered language that lists it.  Not every listed alias leads
to the language that lists it, and a registration that replaces nothing can still lead
a name elsewhere: both happen exactly when a language or an alias is registered under
a name that is an alias already.
-/

namespace RecordSmith.Registry

section Resolve

variable {registry : Registry} {language name : Text}

theorem resolve_eq_ok_iff :
    registry.resolve language = .ok name ↔
      ((registry.entry? (Text.toLower language)).isSome ∧ name = Text.toLower language) ∨
        (registry.entry? (Text.toLower language) = none ∧
          registry.aliasTarget? (Text.toLower language) = some name) := by
  rw [resolve]
  cases registry.entry? (Text.toLower language) with
  | some entry => simp [eq_comm]
  | none => cases registry.aliasTarget? (Text.toLower language) <;> simp

theorem find_eq_ok_iff {entry : RegistryEntry} :
    registry.find language = .ok entry ↔
      ∃ name, registry.resolve language = .ok name ∧ registry.entry? name = some entry := by
  rw [find, Fallible.bind_eq_ok_iff]
  apply exists_congr
  intro name
  apply and_congr_right
  intro _
  cases registry.entry? name with
  | some found => exact ⟨fun h => (by cases h; rfl), fun h => (by cases h; rfl)⟩
  | none => exact ⟨fun h => (nomatch h), fun h => (nomatch h)⟩

theorem isSupported_iff :
    registry.isSupported language = true ↔ ∃ name, registry.resolve language = .ok name := by
  simp only [resolve_eq_ok_iff, isSupported]
  cases registry.entry? (Text.toLower language) with
  | some entry => simp
  | none => simp [Option.isSome_iff_exists]

/-- What is resolved is registered. -/
theorem WellFormed.exists_entry (h : registry.WellFormed)
    (hname : registry.resolve language = .ok name) :
    ∃ entry, registry.entry? name = some entry := by
  rcases resolve_eq_ok_iff.mp hname with ⟨hentry, rfl⟩ | ⟨_, htarget⟩
  · exact Option.isSome_iff_exists.mp hentry
  · obtain ⟨entry, hentry, _⟩ := h.owned htarget
    exact ⟨entry, hentry⟩

end Resolve

/-! ## Aliases lead to languages -/

/-- Names and aliases lead to registered languages, and an alias to one that lists it. -/
structure Routed (registry : Registry) : Prop where
  alias_listed : ∀ key name, (key, name) ∈ registry.aliases →
    ∃ entry, registry.entry? name = some entry ∧ key ∈ entry.aliases
  supported_iff : ∀ language, registry.isSupported language = true ↔
    ∃ name, registry.resolve language = .ok name
  registered : ∀ language name, registry.resolve language = .ok name →
    name ∈ registry.languageNames
  found : ∀ language name, registry.resolve language = .ok name →
    ∃ entry, registry.find language = .ok entry ∧ entry.name = name

theorem WellFormed.routed {registry : Registry} (h : registry.WellFormed) :
    registry.Routed where
  alias_listed := fun _ _ hpair =>
    h.owned ((Association.lookup_eq_some_iff_mem h.aliases_once).mpr hpair)
  supported_iff := fun _ => isSupported_iff
  registered := by
    intro language name hname
    obtain ⟨entry, hentry⟩ := h.exists_entry hname
    rw [mem_languageNames_iff, hentry, Option.isSome_some]
  found := by
    intro language name hname
    obtain ⟨entry, hentry⟩ := h.exists_entry hname
    exact ⟨entry, find_eq_ok_iff.mpr ⟨name, hname, hentry⟩, name_eq_of_found hentry⟩

/-- Whatever calls have been made, aliases lead to languages that list them. -/
theorem served_routed (requests : List Request) : (served requests).Routed :=
  (wellFormed_served requests).routed

/-- So they do when the calls are made on the registry of the built-in languages. -/
theorem routed_foldl_serve_builtin (requests : List Request) :
    (requests.foldl serve builtin).Routed :=
  (wellFormed_builtin.foldl_serve requests).routed

/-! ## Listed aliases -/

/-- Every language owns the aliases that it lists: each of them leads to it, no other
language lists it, and none is a language itself. -/
structure OwnsListed (registry : Registry) : Prop where
  resolves : ∀ language, ∀ key ∈ registry.aliasesOf language,
    registry.resolve key = .ok (Text.toLower language)
  listed_once : ∀ language other key, key ∈ registry.aliasesOf language →
    key ∈ registry.aliasesOf other → Text.toLower language = Text.toLower other
  no_language : ∀ language, ∀ key ∈ registry.aliasesOf language, registry.entry? key = none

/-- A registration goes through and takes an alias that another language lists, be it
as the name of the language or as an alias of it. -/
def TakesListed (registry : Registry) : Request → Prop
  | .register language generator aliases replace =>
    generator.isSome ∧ registry.Accepts language aliases replace ∧
      ∃ other, Text.toLower other ≠ Text.toLower language ∧
        ∃ key ∈ registry.aliasesOf other,
          key = Text.toLower language ∨ key ∈ aliasKeys (Text.toLower language) aliases
  | .unregister _ => False

section OwnsListed

variable {registry : Registry} {language : Text}

theorem mem_aliasesOf_iff {key : Text} :
    key ∈ registry.aliasesOf language ↔
      ∃ entry, registry.entry? (Text.toLower language) = some entry ∧ key ∈ entry.aliases := by
  rw [aliasesOf]
  cases registry.entry? (Text.toLower language) <;> simp

/-- It is enough that listed aliases lead to their languages. -/
theorem WellFormed.ownsListed (hregistry : registry.WellFormed)
    (h : ∀ language, ∀ key ∈ registry.aliasesOf language,
      registry.resolve key = .ok (Text.toLower language)) : registry.OwnsListed where
  resolves := h
  listed_once := by
    intro language other key hkey hother
    have heq := h language key hkey
    rw [h other key hother, Except.ok.injEq] at heq
    exact heq.symm
  no_language := by
    intro language key hkey
    obtain ⟨entry, hentry, hlisted⟩ := mem_aliasesOf_iff.mp hkey
    obtain ⟨hlower, hname⟩ := hregistry.lower hentry hlisted
    rcases resolve_eq_ok_iff.mp (h language key hkey) with ⟨_, heq⟩ | ⟨hmissing, _⟩
    · exact absurd (hlower ▸ heq.symm) hname
    · rwa [hlower] at hmissing

/-- The look-ups of a listed alias. -/
theorem OwnsListed.aliasTarget?_eq (h : registry.OwnsListed) (hregistry : registry.WellFormed)
    {key : Text} (hkey : key ∈ registry.aliasesOf language) :
    Text.toLower key = key ∧ registry.aliasTarget? key = some (Text.toLower language) := by
  obtain ⟨entry, hentry, hlisted⟩ := mem_aliasesOf_iff.mp hkey
  obtain ⟨hlower, hname⟩ := hregistry.lower hentry hlisted
  refine ⟨hlower, ?_⟩
  rcases resolve_eq_ok_iff.mp (h.resolves language key hkey) with ⟨_, heq⟩ | ⟨_, htarget⟩
  · exact absurd (hlower ▸ heq.symm) hname
  · rwa [hlower] at htarget

theorem resolve_of_aliasTarget? {key name : Text} (hlower : Text.toLower key = key)
    (hmissing : registry.entry? key = none) (htarget : registry.aliasTarget? key = some name) :
    registry.resolve key = .ok name := by
  apply resolve_eq_ok_iff.mpr
  rw [hlower]
  exact Or.inr ⟨hmissing, htarget⟩

theorem OwnsListed.unregister (h : registry.OwnsListed) (hregistry : registry.WellFormed)
    (removed : Text) : (registry.unregister removed).OwnsListed := by
  apply (hregistry.unregister removed).ownsListed
  intro language key hkey
  rw [mem_aliasesOf_iff, entry?_unregister] at hkey
  obtain ⟨entry, hentry, hlisted⟩ := hkey
  rw [Option.ite_none_left_eq_some] at hentry
  obtain ⟨hlanguage, hentry⟩ := hentry
  have hbefore : key ∈ registry.aliasesOf language :=
    mem_aliasesOf_iff.mpr ⟨entry, hentry, hlisted⟩
  obtain ⟨hlower, htarget⟩ := h.aliasTarget?_eq hregistry hbefore
  apply resolve_of_aliasTarget? hlower
  · rw [entry?_unregister, h.no_language language key hbefore, ite_self]
  · rw [hregistry.aliasTarget?_unregister, htarget, Option.filter_some,
      if_pos (bne_iff_ne.mpr hlanguage)]

section Register

variable {aliases : List Text} {replace : Bool} {target : Target}

theorem mem_aliasesOf_serve (haccepts : registry.Accepts language aliases replace)
    {other key : Text} :
    key ∈ (registry.serve (.register language (some target) aliases replace)).aliasesOf other ↔
      if Text.toLower other = Text.toLower language then
        key ∈ aliasKeys (Text.toLower language) aliases
      else key ∈ registry.aliasesOf other := by
  rw [mem_aliasesOf_iff, entry?_serve_of_accepts haccepts, mem_aliasesOf_iff]
  by_cases hother : Text.toLower other = Text.toLower language
  · simp [hother, newEntry]
  · simp [hother]

/-- A registration that takes no alias from another language. -/
theorem OwnsListed.register (h : registry.OwnsListed) (hregistry : registry.WellFormed)
    (haccepts : registry.Accepts language aliases replace)
    (hfree : ∀ other, Text.toLower other ≠ Text.toLower language →
      ∀ key ∈ registry.aliasesOf other,
        key ≠ Text.toLower language ∧ key ∉ aliasKeys (Text.toLower language) aliases) :
    (registry.serve (.register language (some target) aliases replace)).OwnsListed := by
  apply (hregistry.serve _).ownsListed
  intro other key hkey
  rw [mem_aliasesOf_serve haccepts] at hkey
  split at hkey
  case isTrue hother =>
    obtain ⟨hlower, hname⟩ := lower_of_mem_aliasKeys hkey
    apply resolve_of_aliasTarget? hlower
    · rw [entry?_serve_of_accepts haccepts, if_neg hname]
      exact haccepts.no_language key hkey
    · rw [hregistry.aliasTarget?_serve_of_accepts haccepts, if_pos hkey, hother]
  case isFalse hother =>
    obtain ⟨hlower, htarget⟩ := h.aliasTarget?_eq hregistry hkey
    obtain ⟨hname, hnew⟩ := hfree other hother key hkey
    apply resolve_of_aliasTarget? hlower
    · rw [entry?_serve_of_accepts haccepts, if_neg hname]
      exact h.no_language other key hkey
    · rw [hregistry.aliasTarget?_serve_of_accepts haccepts, if_neg hnew, htarget,
        Option.filter_some, if_pos (bne_iff_ne.mpr hother)]

/-- An alias that is taken from another language is still listed there. -/
theorem OwnsListed.free_of_register (haccepts : registry.Accepts language aliases replace)
    (h : (registry.serve (.register language (some target) aliases replace)).OwnsListed)
    {other : Text} (hother : Text.toLower other ≠ Text.toLower language) {key : Text}
    (hkey : key ∈ registry.aliasesOf other) :
    key ≠ Text.toLower language ∧ key ∉ aliasKeys (Text.toLower language) aliases := by
  have hlisted : key ∈ (registry.serve
      (.register language (some target) aliases replace)).aliasesOf other := by
    rw [mem_aliasesOf_serve haccepts, if_neg hother]
    exact hkey
  constructor
  · rintro rfl
    have hmissing := h.no_language other _ hlisted
    rw [entry?_serve_of_accepts haccepts, if_pos rfl] at hmissing
    cases hmissing
  · intro hnew
    have hown : key ∈ (registry.serve
        (.register language (some target) aliases replace)).aliasesOf language := by
      rw [mem_aliasesOf_serve haccepts, if_pos rfl]
      exact hnew
    exact hother (h.listed_once other language key hlisted hown)

end Register

/-- One call: languages own what they list as long as no listed alias is taken. -/
theorem OwnsListed.serve_iff (h : registry.OwnsListed) (hregistry : registry.WellFormed)
    (request : Request) : (registry.serve request).OwnsListed ↔ ¬registry.TakesListed request := by
  cases request with
  | unregister removed => exact iff_of_true (h.unregister hregistry removed) not_false
  | register language generator aliases replace =>
      by_cases haccepts : generator.isSome ∧ registry.Accepts language aliases replace
      · obtain ⟨hgenerator, haccepts⟩ := haccepts
        obtain ⟨target, rfl⟩ := Option.isSome_iff_exists.mp hgenerator
        constructor
        · rintro hafter ⟨_, _, other, hother, key, hkey, htaken⟩
          obtain ⟨hname, hnew⟩ := hafter.free_of_register haccepts hother hkey
          exact htaken.elim hname hnew
        · intro hfree
          apply h.register hregistry haccepts
          intro other hother key hkey
          constructor
          · exact fun heq => hfree ⟨rfl, haccepts, other, hother, key, hkey, Or.inl heq⟩
          · exact fun hnew => hfree ⟨rfl, haccepts, other, hother, key, hkey, Or.inr hnew⟩
      · rw [serve_of_not_accepts haccepts]
        exact iff_of_true h fun htakes => haccepts ⟨htakes.1, htakes.2.1⟩

theorem ownsListed_empty : OwnsListed {} :=
  wellFormed_empty.ownsListed fun _ _ hkey => nomatch hkey

end OwnsListed

/-- After each of the calls every language owns the aliases that it lists, if and only if
no call takes an alias that another language lists at that time. -/
theorem served_ownsListed_iff (requests : List Request) :
    (∀ earlier, earlier <+: requests → (served earlier).OwnsListed) ↔
      ∀ earlier request, earlier ++ [request] <+: requests →
        ¬(served earlier).TakesListed request := by
  constructor
  · intro howns earlier request hrequest
    have hearlier := howns earlier ((List.prefix_append earlier [request]).trans hrequest)
    have hafter := howns _ hrequest
    rw [served_append_singleton] at hafter
    exact (hearlier.serve_iff (wellFormed_served earlier) request).mp hafter
  · intro hfree earlier hearlier
    induction earlier using List.reverseRecOn with
    | nil => exact ownsListed_empty
    | append_singleton before request ih =>
        have hbefore := ih ((List.prefix_append before [request]).trans hearlier)
        rw [served_append_singleton]
        exact (hbefore.serve_iff (wellFormed_served before) request).mpr
          (hfree before request hearlier)

/-- A language with an alias, and then a language of that name. -/
def shadowingRequests : List Request :=
  [.register "a" (some .csharp) ["z"] false, .register "z" (some .python) [] false]

/-- The first language still lists the alias, which is now a language. -/
theorem shadowingRequests_not_ownsListed : ¬(served shadowingRequests).OwnsListed := by
  intro h
  have hmissing := h.no_language "a" "z" (by decide +kernel)
  have hlanguage : (Registry.entry? (served shadowingRequests) "z").isSome = true := by
    decide +kernel
  rw [hmissing] at hlanguage
  cases hlanguage

/-! ## Registrations that replace nothing -/

/-- The language that a name or alias leads to, and what generates its code. -/
def route? (registry : Registry) (language : Text) : Option (Text × Target) :=
  (registry.find language).toOption.map fun entry => (entry.name, entry.target)

section Route

variable {registry : Registry} {language : Text} {aliases : List Text}

theorem route?_eq_some_iff {route : Text × Target} :
    registry.route? language = some route ↔
      registry.resolve language = .ok route.1 ∧
        ∃ entry, registry.entry? route.1 = some entry ∧ entry.target = route.2 := by
  obtain ⟨name, target⟩ := route
  have hfind : registry.route? language = some (name, target) ↔
      ∃ entry, registry.find language = .ok entry ∧ entry.name = name ∧
        entry.target = target := by
    rw [route?]
    cases registry.find language with
    | error error => simp [Except.toOption]
    | ok entry => simp [Except.toOption]
  rw [hfind]
  constructor
  · rintro ⟨entry, hentry, rfl, rfl⟩
    obtain ⟨name, hname, hfound⟩ := find_eq_ok_iff.mp hentry
    rw [name_eq_of_found hfound]
    exact ⟨hname, entry, hfound, rfl⟩
  · rintro ⟨hname, entry, hfound, htarget⟩
    exact ⟨entry, find_eq_ok_iff.mpr ⟨name, hname, hfound⟩, name_eq_of_found hfound, htarget⟩

/-- A language that is not registered takes no alias without replacing, and no other
name is led elsewhere by it. -/
theorem WellFormed.route?_serve (h : registry.WellFormed)
    (haccepts : registry.Accepts language aliases false) (target : Target)
    (hfree : registry.aliasTarget? (Text.toLower language) = none)
    {other : Text} {route : Text × Target} (hroute : registry.route? other = some route) :
    (registry.serve (.register language (some target) aliases false)).route? other =
      some route := by
  have hnew : registry.entry? (Text.toLower language) = none :=
    haccepts.admitted.resolve_right Bool.false_ne_true
  obtain ⟨hresolve, entry, hentry, htarget⟩ := route?_eq_some_iff.mp hroute
  have hname : route.1 ≠ Text.toLower language := by
    intro heq
    rw [heq, hnew] at hentry
    cases hentry
  have hother : Text.toLower other ≠ Text.toLower language := by
    intro heq
    rcases resolve_eq_ok_iff.mp hresolve with ⟨hregistered, _⟩ | ⟨_, halias⟩
    · rw [heq, hnew] at hregistered
      cases hregistered
    · rw [heq, hfree] at halias
      cases halias
  apply route?_eq_some_iff.mpr
  constructor
  · rw [resolve_eq_ok_iff, entry?_serve_of_accepts haccepts, if_neg hother]
    rcases resolve_eq_ok_iff.mp hresolve with hregistered | ⟨hmissing, halias⟩
    · exact Or.inl hregistered
    · right
      refine ⟨hmissing, ?_⟩
      have hkept : Text.toLower other ∉ aliasKeys (Text.toLower language) aliases := by
        intro hkey
        rcases haccepts.no_owner _ hkey _ halias with heq | hreplace
        · exact hname heq
        · cases hreplace
      rw [h.aliasTarget?_serve_of_accepts haccepts, if_neg hkept, halias, Option.filter_some,
        if_pos (bne_iff_ne.mpr hname)]
  · rw [entry?_serve_of_accepts haccepts, if_neg hname]
    exact ⟨entry, hentry, htarget⟩

/-- An alias that becomes the name of a language leads to that language. -/
theorem WellFormed.route?_serve_ne (h : registry.WellFormed)
    (haccepts : registry.Accepts language aliases false) (target : Target)
    (htaken : (registry.aliasTarget? (Text.toLower language)).isSome) :
    ∃ route, registry.route? language = some route ∧
      (registry.serve (.register language (some target) aliases false)).route? language ≠
        some route := by
  have hnew : registry.entry? (Text.toLower language) = none :=
    haccepts.admitted.resolve_right Bool.false_ne_true
  obtain ⟨name, halias⟩ := Option.isSome_iff_exists.mp htaken
  obtain ⟨entry, hentry, _⟩ := h.owned halias
  refine ⟨(name, entry.target), ?_, ?_⟩
  · apply route?_eq_some_iff.mpr
    exact ⟨resolve_eq_ok_iff.mpr (Or.inr ⟨hnew, halias⟩), entry, hentry, rfl⟩
  · intro hafter
    obtain ⟨hresolve, _⟩ := route?_eq_some_iff.mp hafter
    rw [resolve_eq_ok_iff, entry?_serve_of_accepts haccepts, if_pos rfl] at hresolve
    rcases hresolve with ⟨_, rfl⟩ | ⟨hmissing, _⟩
    · rw [hnew] at hentry
      cases hentry
    · cases hmissing

end Route

/-- A registration that is not to replace anything leads no name elsewhere, if and only
if it does not go through or its language has no name that is an alias. -/
theorem served_keeps_routes_iff (requests : List Request) (language : Text)
    (generator : Option Target) (aliases : List Text) :
    (∀ other route, (served requests).route? other = some route →
      ((served requests).serve (.register language generator aliases false)).route? other =
        some route) ↔
      ¬(generator.isSome ∧ (served requests).Accepts language aliases false ∧
        ((served requests).aliasTarget? (Text.toLower language)).isSome) := by
  have hregistry := wellFormed_served requests
  by_cases haccepts : generator.isSome ∧ (served requests).Accepts language aliases false
  · obtain ⟨hgenerator, haccepts⟩ := haccepts
    obtain ⟨target, rfl⟩ := Option.isSome_iff_exists.mp hgenerator
    constructor
    · rintro hkept ⟨_, _, htaken⟩
      obtain ⟨route, hbefore, hafter⟩ := hregistry.route?_serve_ne haccepts target htaken
      exact hafter (hkept language route hbefore)
    · intro hfree other route hroute
      apply hregistry.route?_serve haccepts target ?_ hroute
      rw [← Option.not_isSome_iff_eq_none]
      exact fun htaken => hfree ⟨rfl, haccepts, htaken⟩
  · rw [serve_of_not_accepts haccepts]
    exact iff_of_true (fun _ _ hroute => hroute) fun h => haccepts ⟨h.1, h.2.1⟩

/-- A registry with a language and an alias for it. -/
def aliasedRequests : List Request := [.register "a" (some .csharp) ["z"] false]

/-- The alias is registered as a language, and is led from one language to another. -/
theorem aliasedRequests_not_kept :
    (served aliasedRequests).route? "z" = some (Text.ofString "a", Target.csharp) ∧
      ((served aliasedRequests).serve (.register "z" (some .python) [] false)).route? "z" =
        some (Text.ofString "z", Target.python) := by
  decide +kernel

end RecordSmith.Registry
