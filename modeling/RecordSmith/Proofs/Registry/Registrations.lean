import RecordSmith.Proofs.Registry.Routes

/-!
# What a registration changes

A registration works on a registry that is there: it makes its checks and its changes one after
another, and what it has changed stays changed if it fails.  Nothing has changed when it fails, for
every check comes before every change.  If it goes through, the language and its aliases lead to the
new entry, and all other names lead where they led before, but for the aliases of an entry that it
replaces.  A language that was new can be removed again, and then nothing is left of it.
-/

namespace RecordSmith.Registry

/-! ## Calls step by step -/

/-- A call on a registry.  What it has changed before it fails stays changed. -/
abbrev Call (α : Type) := ExceptT RegistryError (StateM Registry) α

namespace Call

/-- A check, which can end the call and changes nothing. -/
def check (question : Registry → Except RegistryError Unit) : Call Unit :=
  ExceptT.mk fun registry => (question registry, registry)

/-- A change, which cannot fail. -/
def change (f : Registry → Registry) : Call Unit := modify f

variable {registry : Registry}

@[simp]
theorem run_check (question : Registry → Except RegistryError Unit) :
    (check question).run registry = (question registry, registry) := rfl

@[simp]
theorem run_change (f : Registry → Registry) :
    (change f).run registry = (.ok (), f registry) := rfl

/-- Checks in a row all look at the registry that the first of them looks at. -/
theorem run_forM_check (question : Text → Registry → Except RegistryError Unit)
    (keys : List Text) :
    (keys.forM fun key => check (question key)).run registry =
      (keys.forM (question · registry), registry) := by
  induction keys with
  | nil => rfl
  | cons key rest ih =>
      rw [List.forM, List.forM, Fallible.run_bind, run_check]
      cases question key registry with
      | error error => rfl
      | ok _ => exact ih

theorem run_forM_change (f : Registry → Text → Registry) (keys : List Text) :
    (keys.forM fun key => change (f · key)).run registry = (.ok (), keys.foldl f registry) := by
  induction keys generalizing registry with
  | nil => rfl
  | cons key rest ih =>
      rw [List.forM, Fallible.run_bind, run_change]
      exact ih

end Call

/-- Adds an entry without its aliases. -/
def addEntry (registry : Registry) (entry : RegistryEntry) : Registry :=
  { registry with languages := registry.languages ++ [entry] }

/-- Makes an alias of the registry stand for a language. -/
def pointAlias (name : Text) (registry : Registry) (key : Text) : Registry :=
  { registry with aliases := setAlias registry.aliases name key }

/-- Adds an entry, and then its aliases one by one. -/
def inserting (entry : RegistryEntry) : Call Unit := do
  Call.change (·.addEntry entry)
  entry.aliases.forM fun key => Call.change (pointAlias entry.name · key)

/-- Registers a language, step by step. -/
def registering (language : Text) (generator : Option Target) (aliases : List Text)
    (replace : Bool) : Call Unit := do
  let some target := generator | throw .notAGenerator
  let name := Text.toLower language
  let registry ← get
  if (registry.entry? name).isSome && !replace then return
  let keys := aliasKeys name aliases
  keys.forM fun key => Call.check (·.checkAlias name replace key)
  if replace then Call.change (·.unregister name)
  inserting { name, target, aliases := keys }

section Registering

variable {registry : Registry} {language : Text} {generator : Option Target}
variable {aliases : List Text} {replace : Bool}

theorem inserting_run (entry : RegistryEntry) :
    (inserting entry).run registry = (.ok (), registry.insert entry) := by
  have hfold : ∀ (keys : List Text) (before : Registry),
      keys.foldl (pointAlias entry.name) before =
        Registry.mk before.languages
          (keys.foldl (fun aliases key => setAlias aliases entry.name key) before.aliases) := by
    intro keys
    induction keys with
    | nil => exact fun _ => rfl
    | cons key rest ih => exact fun before => ih (pointAlias entry.name before key)
  rw [inserting, Fallible.run_bind, Call.run_change]
  dsimp only
  rw [Call.run_forM_change, hfold]
  rfl

/-- All checks of a registration come before its first change. -/
theorem registering_run :
    (registering language generator aliases replace).run registry =
      match registry.register language generator aliases replace with
      | .ok after => (.ok (), after)
      | .error error => (.error error, registry) := by
  cases generator with
  | none => rfl
  | some target =>
      rw [registering, register]
      dsimp only
      rw [Fallible.run_bind]
      change (ite _ _ _ : Call Unit).run registry = _
      by_cases hkept : ((registry.entry? (Text.toLower language)).isSome && !replace) = true
      · rw [if_pos hkept, if_pos hkept]
        rfl
      · rw [if_neg hkept, if_neg hkept, Fallible.run_bind, Call.run_forM_check]
        cases (aliasKeys (Text.toLower language) aliases).forM
            (registry.checkAlias (Text.toLower language) replace) with
        | error error => rfl
        | ok _ =>
            cases replace with
            | true =>
                change ((Call.change _ >>= fun _ => inserting _).run registry) = _
                rw [Fallible.run_bind, Call.run_change]
                exact inserting_run _
            | false => exact inserting_run _

/-- What a registration leaves behind is what is served from then on. -/
theorem registering_run_snd :
    ((registering language generator aliases replace).run registry).2 =
      registry.serve (.register language generator aliases replace) := by
  rw [registering_run, serve]
  cases registry.register language generator aliases replace <;> rfl

/-- A registration is refused if there is nothing to generate code with, or if it is to change the
registry and one of its aliases is not free. -/
theorem registering_eq_ok_iff :
    ((registering language generator aliases replace).run registry).1 = .ok () ↔
      generator.isSome ∧
        (((registry.entry? (Text.toLower language)).isSome ∧ replace = false) ∨
          registry.Accepts language aliases replace) := by
  rw [registering_run]
  constructor
  · intro h
    split at h
    case h_2 => cases h
    case h_1 after hafter =>
      cases generator with
      | none => cases hafter
      | some target =>
          refine ⟨rfl, or_iff_not_imp_left.mpr fun hkept => accepts_of_register ?_ hafter⟩
          rw [not_and_or, Option.not_isSome_iff_eq_none, Bool.not_eq_false] at hkept
          exact hkept
  · rintro ⟨hgenerator, hcase⟩
    obtain ⟨target, rfl⟩ := Option.isSome_iff_exists.mp hgenerator
    rcases hcase with ⟨hentry, rfl⟩ | haccepts
    · rw [register_of_kept hentry]
    · rw [register_of_accepts haccepts]

end Registering

/-! ## Where names lead behind a registration -/

/-- The names of a language and its aliases lead to a new entry, and other names lead where they
led before, if they were no alias of an entry that the new one replaces. -/
structure Redirects (before after : Registry) (language : Text) (target : Target)
    (aliases : List Text) : Prop where
  named : ∀ given, Text.toLower given = Text.toLower language ∨
      Text.toLower given ∈ aliases.map Text.toLower →
    after.resolve given = .ok (Text.toLower language) ∧
      after.route? given = some (Text.toLower language, target)
  others : ∀ other, Text.toLower other ≠ Text.toLower language →
    Text.toLower other ∉ aliases.map Text.toLower →
    Text.toLower other ∉ before.aliasesOf language →
    (after.resolve other).toOption = (before.resolve other).toOption ∧
      after.route? other = before.route? other

section Redirects

variable {registry : Registry} {language : Text} {aliases : List Text} {replace : Bool}

theorem toOption_resolve (registry : Registry) (language : Text) :
    (registry.resolve language).toOption =
      if (registry.entry? (Text.toLower language)).isSome then some (Text.toLower language)
      else registry.aliasTarget? (Text.toLower language) := by
  rw [resolve]
  split
  · rfl
  · cases registry.aliasTarget? (Text.toLower language) <;> rfl

theorem route?_eq (registry : Registry) (language : Text) :
    registry.route? language = (registry.resolve language).toOption.bind fun name =>
      (registry.entry? name).map fun entry => (entry.name, entry.target) := by
  rw [route?, find]
  cases registry.resolve language with
  | error error => rfl
  | ok name =>
      change _ = (registry.entry? name).map fun entry => (entry.name, entry.target)
      cases hentry : registry.entry? name with
      | none =>
          simp [bind, Except.bind, throw, throwThe, MonadExceptOf.throw, Except.toOption, hentry]
      | some entry => simp [bind, Except.bind, pure, Except.pure, Except.toOption, hentry]

/-- Aliases that no entry of a language lists do not lead to it. -/
theorem WellFormed.aliasTarget?_ne (h : registry.WellFormed) {key : Text}
    (hkey : key ∉ registry.aliasesOf language) :
    registry.aliasTarget? key ≠ some (Text.toLower language) := by
  intro htarget
  obtain ⟨entry, hentry, hlists⟩ := h.owned htarget
  exact hkey (mem_aliasesOf_iff.mpr ⟨entry, hentry, hlists⟩)

theorem WellFormed.redirects (h : registry.WellFormed)
    (haccepts : registry.Accepts language aliases replace) (target : Target) :
    Redirects registry
      (registry.serve (.register language (some target) aliases replace)) language target
      aliases where
  named := by
    intro given hgiven
    have hresolve : (registry.serve (.register language (some target) aliases replace)).resolve
        given = .ok (Text.toLower language) := by
      rw [resolve_eq_ok_iff, entry?_serve_of_accepts haccepts]
      by_cases hname : Text.toLower given = Text.toLower language
      · rw [if_pos hname]
        exact Or.inl ⟨rfl, hname.symm⟩
      · have hkey : Text.toLower given ∈ aliasKeys (Text.toLower language) aliases :=
          mem_aliasKeys_iff.mpr ⟨List.mem_map.mp (hgiven.resolve_left hname), hname⟩
        rw [if_neg hname, h.aliasTarget?_serve_of_accepts haccepts, if_pos hkey]
        exact Or.inr ⟨haccepts.no_language _ hkey, rfl⟩
    refine ⟨hresolve, route?_eq_some_iff.mpr ⟨hresolve, newEntry language target aliases, ?_, rfl⟩⟩
    rw [entry?_serve_of_accepts haccepts, if_pos rfl]
  others := by
    intro other hname hgiven hlisted
    have hkey : Text.toLower other ∉ aliasKeys (Text.toLower language) aliases := by
      intro hkey
      exact hgiven (List.mem_map.mpr (mem_aliasKeys_iff.mp hkey).1)
    have htarget : Option.filter (· != Text.toLower language)
        (registry.aliasTarget? (Text.toLower other)) =
          registry.aliasTarget? (Text.toLower other) := by
      cases hfound : registry.aliasTarget? (Text.toLower other) with
      | none => rfl
      | some name =>
          have hne : name ≠ Text.toLower language := by
            rintro rfl
            exact h.aliasTarget?_ne hlisted hfound
          rw [Option.filter_some, if_pos (bne_iff_ne.mpr hne)]
    have hresolve : ((registry.serve (.register language (some target) aliases replace)).resolve
        other).toOption = (registry.resolve other).toOption := by
      rw [toOption_resolve, toOption_resolve, entry?_serve_of_accepts haccepts, if_neg hname,
        h.aliasTarget?_serve_of_accepts haccepts, if_neg hkey, htarget]
    refine ⟨hresolve, ?_⟩
    rw [route?_eq, route?_eq, hresolve]
    -- The names that other names resolve to are not the registered one.
    refine Option.bind_congr fun name hfound => ?_
    have hother : name ≠ Text.toLower language := by
      rintro rfl
      rw [toOption_resolve] at hfound
      split at hfound
      · exact hname (Option.some.inj hfound)
      · exact h.aliasTarget?_ne hlisted hfound
    rw [entry?_serve_of_accepts haccepts, if_neg hother]

end Redirects

/-- Every registration on a registry that calls have led to: if it is refused, or if the language
is registered and not to be replaced, it leaves the registry as it was; otherwise it redirects the
language and its aliases, and nothing else. -/
theorem served_registering (requests : List Request) (language : Text)
    (generator : Option Target) (aliases : List Text) (replace : Bool) :
    ∃ result after,
      (registering language generator aliases replace).run (served requests) = (result, after) ∧
      after = served (requests ++ [.register language generator aliases replace]) ∧
      (result = .ok () ↔ generator.isSome ∧
        (((Registry.entry? (served requests) (Text.toLower language)).isSome ∧ replace = false) ∨
          (served requests).Accepts language aliases replace)) ∧
      (∀ error, result = .error error → after = served requests) ∧
      (generator.isSome → (Registry.entry? (served requests) (Text.toLower language)).isSome →
        replace = false → result = .ok () ∧ after = served requests) ∧
      (result = .ok () →
        Registry.entry? (served requests) (Text.toLower language) = none ∨ replace = true →
        ∃ target, generator = some target ∧
          Redirects (served requests) after language target aliases) := by
  have hok := @registering_eq_ok_iff (served requests) language generator aliases replace
  have hafter := @registering_run_snd (served requests) language generator aliases replace
  have hrun := @registering_run (served requests) language generator aliases replace
  generalize (registering language generator aliases replace).run (served requests) = outcome
    at hok hafter hrun
  obtain ⟨result, after⟩ := outcome
  dsimp only at hok hafter
  refine ⟨result, after, rfl, ?_, hok, ?_, ?_, ?_⟩
  · rw [hafter, served_append_singleton]
  · intro error herror
    split at hrun
    · cases hrun
      cases herror
    · cases hrun
      rfl
  · intro hgenerator hentry hreplace
    refine ⟨hok.mpr ⟨hgenerator, Or.inl ⟨hentry, hreplace⟩⟩, ?_⟩
    obtain ⟨target, rfl⟩ := Option.isSome_iff_exists.mp hgenerator
    rw [hreplace, register_of_kept hentry] at hrun
    cases hrun
    rfl
  · intro hresult hadmitted
    obtain ⟨hgenerator, hcase⟩ := hok.mp hresult
    obtain ⟨target, rfl⟩ := Option.isSome_iff_exists.mp hgenerator
    have haccepts : (served requests).Accepts language aliases replace := by
      refine hcase.resolve_left fun hkept => ?_
      rcases hadmitted with hnew | hreplace
      · simp [hnew] at hkept
      · simp [hreplace] at hkept
    refine ⟨target, rfl, ?_⟩
    rw [hafter]
    exact (wellFormed_served requests).redirects haccepts target

/-! ## Removing what was registered -/

section Undo

variable {registry : Registry} {language : Text} {aliases : List Text}

theorem name_ne_of_new {name : Text} (hnew : registry.entry? name = none) :
    ∀ entry ∈ registry.languages, entry.name ≠ name := by
  simpa [Registry.entry?] using hnew

/-- Aliases that are set for a language are all dropped with it. -/
theorem filter_setAliases {name : Text} {keys taken : List Text} {before : List (Text × Text)}
    (hkeys : ∀ key ∈ keys, key ∈ taken)
    (hbefore : ∀ entry ∈ before, entry.1 ∈ taken → entry.2 = name) :
    (keys.foldl (fun aliases key => setAlias aliases name key) before).filter
        (fun entry => !(taken.contains entry.1 && entry.2 == name)) =
      before.filter (fun entry => !(taken.contains entry.1 && entry.2 == name)) := by
  induction keys generalizing before with
  | nil => rfl
  | cons key rest ih =>
      obtain ⟨hkey, hrest⟩ := List.forall_mem_cons.mp hkeys
      have hset : ∀ entry ∈ setAlias before name key, entry.1 ∈ taken → entry.2 = name := by
        intro entry hentry htaken
        rcases List.mem_cons.mp hentry with rfl | hold
        · rfl
        · exact hbefore entry (List.mem_filter.mp hold).1 htaken
      rw [List.foldl_cons, ih hrest hset, setAlias, List.filter_cons_of_neg (by simpa using hkey),
        List.filter_filter]
      apply List.filter_congr
      intro entry hentry
      by_cases hsame : entry.1 = key
      · simp [hsame, hkey, hbefore entry hentry (hsame ▸ hkey)]
      · simp [hsame]

/-- A new language without aliases that stand for anything is removed without a trace. -/
theorem unregister_insert {entry : RegistryEntry} (hnew : registry.entry? entry.name = none)
    (hlower : Text.toLower language = entry.name)
    (hfree : ∀ key ∈ entry.aliases, registry.aliasTarget? key = none) :
    (registry.insert entry).unregister language = registry := by
  have hfound : entry? (registry.insert entry) (Text.toLower language) = some entry := by
    rw [entry?_insert, hlower, hnew, if_pos rfl, Option.none_or]
  have hunused : ∀ pair ∈ registry.aliases, pair.1 ∉ entry.aliases := by
    intro pair hpair hkey
    have hmissing := List.lookup_eq_none_iff.mp (hfree pair.1 hkey) pair hpair
    simp at hmissing
  have hlanguages : (registry.languages ++ [entry]).filter (fun other => other.name != entry.name) =
      registry.languages := by
    rw [List.filter_append, List.filter_eq_self.mpr]
    · simp
    · exact fun other hother => bne_iff_ne.mpr (name_ne_of_new hnew other hother)
  have haliases : (entry.aliases.foldl (fun aliases key => setAlias aliases entry.name key)
      registry.aliases).filter
        (fun pair => !(entry.aliases.contains pair.1 && pair.2 == entry.name)) =
      registry.aliases := by
    rw [filter_setAliases (fun _ hkey => hkey)
      (fun pair hpair hkey => absurd hkey (hunused pair hpair)), List.filter_eq_self]
    intro pair hpair
    simp [hunused pair hpair]
  rw [unregister, hfound]
  exact congrArg₂ Registry.mk hlanguages haliases

/-- No alias stands for a language that is not registered. -/
theorem WellFormed.aliasTarget?_ne_of_new (h : registry.WellFormed) {name : Text}
    (hnew : registry.entry? name = none) (key : Text) : registry.aliasTarget? key ≠ some name := by
  intro htarget
  obtain ⟨entry, hentry, _⟩ := h.owned htarget
  rw [hnew] at hentry
  cases hentry

end Undo

/-- Whatever calls have been made: a language that is not registered then, and is registered without
replacing anything, can be removed again, which leaves the registry exactly as it was. -/
theorem served_unregister_register (requests : List Request) {language : Text} {target : Target}
    {aliases : List Text} {after : Registry}
    (hnew : Registry.entry? (served requests) (Text.toLower language) = none)
    (hafter : (served requests).register language (some target) aliases false = .ok after) :
    after.unregister language = served requests := by
  have haccepts := accepts_of_register (Or.inl hnew) hafter
  rw [register_of_accepts haccepts, unregister_of_missing hnew, Except.ok.injEq] at hafter
  subst hafter
  apply unregister_insert hnew rfl
  intro key hkey
  cases htarget : (served requests).aliasTarget? key with
  | none => rfl
  | some owner =>
      rcases haccepts.no_owner key hkey owner htarget with rfl | hreplace
      · exact absurd htarget ((wellFormed_served requests).aliasTarget?_ne_of_new hnew key)
      · cases hreplace

/-- The name of the new language is an alias of another one. -/
theorem aliasedRequests_unregister_register :
    Registry.entry? (served aliasedRequests) (Text.toLower "Z") = none ∧
      ∃ after, (served aliasedRequests).register "Z" (some .python) ["ZZ", "z"] false =
          .ok after ∧
        after.route? "zz" = some (Text.ofString "z", Target.python) ∧
        after.unregister "Z" = served aliasedRequests := by
  have hnew : Registry.entry? (served aliasedRequests) (Text.toLower "Z") = none := by
    decide +kernel
  have hregister : ((served aliasedRequests).register "Z" (some .python) ["ZZ", "z"]
      false).toOption.any (fun after =>
        after.route? "zz" == some (Text.ofString "z", Target.python)) = true := by
    decide +kernel
  obtain ⟨after, hafter, hroute⟩ := Fallible.exists_of_any hregister
  exact ⟨hnew, after, hafter, eq_of_beq hroute, served_unregister_register _ hnew hafter⟩

end RecordSmith.Registry
