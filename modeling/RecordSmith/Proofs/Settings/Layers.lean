import RecordSmith.Proofs.Fallible
import RecordSmith.Proofs.Value.Object
import RecordSmith.Settings.Layers

/-!
# What layers give

Layers are merged at two levels.  An entry of a layer replaces the one below, while
its language options are set one by one over those below.  Only when all layers are
in place do the entries that name no setting join the language options, and there
they win.
-/

namespace RecordSmith

/-! ## Keys of settings -/

namespace Setting

theorem ofKey?_key (setting : Setting) : ofKey? setting.key = some setting := by
  cases setting with
  | _ => decide +kernel

theorem ofKey?_eq_some_iff {key : Text} {setting : Setting} :
    ofKey? key = some setting ↔ setting.key = key := by
  constructor
  · intro h
    simpa using List.find?_some h
  · rintro rfl
    exact ofKey?_key setting

end Setting

namespace Settings

theorem get_put (settings : Settings) (value : Value) (setting other : Setting) :
    (settings.put value setting).get other =
      if other = setting then value else settings.get other := by
  cases setting <;> cases other <;> rfl

theorem get_putEntry (settings : Settings) (entry : Text × Value) (setting : Setting) :
    (settings.putEntry entry).get setting =
      if setting.key = entry.1 then entry.2 else settings.get setting := by
  rw [putEntry]
  cases hkey : Setting.ofKey? entry.1 with
  | none =>
      have hne : setting.key ≠ entry.1 := by
        intro heq
        rw [Setting.ofKey?_eq_some_iff.mpr heq] at hkey
        cases hkey
      rw [if_neg hne]
  | some found =>
      have hfound := Setting.ofKey?_eq_some_iff.mp hkey
      dsimp only
      rw [get_put]
      by_cases hsetting : setting = found
      · rw [if_pos hsetting, if_pos (hsetting ▸ hfound)]
      · have hne : setting.key ≠ entry.1 := by
          intro heq
          rw [Setting.ofKey?_eq_some_iff.mpr heq] at hkey
          exact hsetting (Option.some.inj hkey)
        rw [if_neg hsetting, if_neg hne]

/-- Settings have the values of the entries that name them. -/
theorem get_putEntries {entries : Entries} (hentries : entries.keys.Nodup)
    (settings : Settings) (setting : Setting) :
    (entries.foldl putEntry settings).get setting =
      (entries.get? setting.key).getD (settings.get setting) := by
  induction entries generalizing settings with
  | nil => rfl
  | cons entry rest ih =>
      obtain ⟨hnew, hrest⟩ := Entries.nodup_keys_cons.mp hentries
      rw [List.foldl_cons, ih hrest, get_putEntry, Entries.get?_cons]
      by_cases hkey : setting.key = entry.1
      · rw [if_pos hkey, if_pos hkey, hkey, hnew]
        rfl
      · rw [if_neg hkey, if_neg hkey]

/-! ## Options of layers -/

/-- The options that a value holds under texts; a value that cannot hold options has none. -/
def optionsIn (value : Value) : Entries :=
  match optionsOfValue value with
  | .ok declared => Entries.ofList (textOptions declared)
  | .error _ => []

/-- The options that a layer gives among its language options. -/
def nestedOptions (layer : Entries) : Entries :=
  optionsIn ((layer.get? Setting.languageOptions.key).getD .null)

/-- The value that a layer gives an option, as an entry of its own or else among
its language options. -/
def givenOption? (layer : Entries) (key : Text) : Option Value :=
  ((extraOptions layer).get? key).or ((nestedOptions layer).get? key)

/-- The language options of the layer are no object, and replace those below
instead of being set over them. -/
def discardsOptions (layer : Entries) : Bool :=
  match layer.get? Setting.languageOptions.key with
  | some (.object _) => false
  | some _ => true
  | none => false

/-- The entries have distinct keys, and so have their language options. -/
structure IsLayer (entries : Entries) : Prop where
  nodup_keys : entries.keys.Nodup
  nodup_options : ∀ options : Entries,
    entries.get? Setting.languageOptions.key = some (.object options) → options.keys.Nodup

theorem IsLayer.of_wellFormed {entries : Entries}
    (h : (Value.object entries).WellFormed) : IsLayer entries where
  nodup_keys := h.nodup_keys
  nodup_options _ hoptions := (h.of_get? hoptions).nodup_keys

/-- The options of an object are all under texts. -/
theorem textOptions_of_entries (options : Entries) :
    textOptions (options.map fun entry => (Value.text entry.1, entry.2)) = options := by
  induction options with
  | nil => rfl
  | cons entry rest ih => exact congrArg (entry :: ·) ih

theorem get?_optionsIn_object {options : Entries} (hoptions : options.keys.Nodup)
    (key : Text) : (optionsIn (.object options)).get? key = options.get? key := by
  cases options with
  | nil => rfl
  | cons entry rest =>
      have hdeclared : optionsOfValue (.object (entry :: rest)) =
          .ok ((entry :: rest).map fun entry => (Value.text entry.1, entry.2)) := rfl
      rw [optionsIn, hdeclared]
      dsimp only
      rw [textOptions_of_entries, Entries.get?_ofList hoptions]

theorem get?_extraOptions (entries : Entries) (key : Text) :
    (extraOptions entries).get? key =
      if (Setting.ofKey? key).isNone then entries.get? key else none :=
  Entries.get?_filter (fun key => (Setting.ofKey? key).isNone) entries key

theorem nodup_keys_extraOptions {entries : Entries} (hentries : entries.keys.Nodup) :
    (extraOptions entries).keys.Nodup :=
  (List.filter_sublist.map Prod.fst).nodup hentries

/-! ## Merging -/

/-- What becomes of the language options below when a layer with or without some is
merged over them. -/
inductive OptionsOver : Option Value → Option Value → Option Value → Prop where
  | kept (below : Option Value) : OptionsOver below none below
  | merged {below : Option Value} {current : Entries} (options : Entries)
      (hbelow : below.getD (.object []) = .object current) :
      OptionsOver below (some (.object options))
        (some (.object (Entries.setAll current options)))
  | replaced (below : Option Value) {value : Value}
      (hvalue : ∀ options, value ≠ .object options) :
      OptionsOver below (some value) (some value)

section Merge

variable {base layer merged next : Entries} {entry : Text × Value}

/-- All that merging an entry can do: it sets the language options over those below,
or it sets the entry as it is. -/
theorem mergeEntry_cases (h : mergeEntry base entry = .ok next) :
    (∃ options current, entry = (Setting.languageOptions.key, .object options) ∧
      (base.get? Setting.languageOptions.key).getD (.object []) = .object current ∧
      next = base.set entry.1 (.object (Entries.setAll current options))) ∨
    ((entry.1 = Setting.languageOptions.key → ∀ options, entry.2 ≠ .object options) ∧
      next = base.set entry.1 entry.2) := by
  unfold mergeEntry at h
  split at h
  case h_1 name options =>
    split at h
    case isTrue hname =>
      have hkey : name = Setting.languageOptions.key := eq_of_beq hname
      subst hkey
      split at h
      case h_1 current hcurrent =>
        cases h
        exact .inl ⟨options, current, rfl, hcurrent, rfl⟩
      case h_2 => cases h
    case isFalse hname =>
      cases h
      exact .inr ⟨fun hkey => absurd (beq_iff_eq.mpr hkey) hname, rfl⟩
  case h_2 name value hvalue =>
    cases h
    exact .inr ⟨fun _ options hoptions => hvalue options hoptions, rfl⟩

/-- Merging an entry sets its key, to the value of the entry unless the key is that
of the language options. -/
theorem exists_set_of_mergeEntry (h : mergeEntry base entry = .ok next) :
    ∃ value, next = base.set entry.1 value ∧
      (entry.1 ≠ Setting.languageOptions.key → value = entry.2) := by
  rcases mergeEntry_cases h with ⟨options, current, rfl, _, hnext⟩ | ⟨_, hnext⟩
  · exact ⟨_, hnext, fun hne => absurd rfl hne⟩
  · exact ⟨_, hnext, fun _ => rfl⟩

theorem optionsOver_mergeEntry (hkey : entry.1 = Setting.languageOptions.key)
    (h : mergeEntry base entry = .ok next) :
    OptionsOver (base.get? Setting.languageOptions.key) (some entry.2)
      (next.get? Setting.languageOptions.key) := by
  rcases mergeEntry_cases h with ⟨options, current, rfl, hcurrent, rfl⟩ | ⟨hvalue, rfl⟩
  · rw [Entries.get?_set, if_pos rfl]
    exact .merged options hcurrent
  · rw [Entries.get?_set, if_pos hkey.symm]
    exact .replaced _ (hvalue hkey)

/-- A merged layer is merged entry by entry. -/
theorem merge_cons {rest : Entries} (h : merge base (entry :: rest) = .ok merged) :
    ∃ next, mergeEntry base entry = .ok next ∧ merge next rest = .ok merged := by
  rw [merge, List.foldlM_cons] at h
  exact Fallible.bind_eq_ok_iff.mp h

theorem nodup_keys_merge (hbase : base.keys.Nodup) (h : merge base layer = .ok merged) :
    merged.keys.Nodup := by
  induction layer generalizing base with
  | nil =>
      cases h
      exact hbase
  | cons entry rest ih =>
      obtain ⟨next, hentry, hrest⟩ := merge_cons h
      obtain ⟨value, rfl, _⟩ := exists_set_of_mergeEntry hentry
      exact ih (Entries.nodup_keys_set hbase entry.1 value) hrest

/-- Besides the language options, every entry of a layer replaces the one below. -/
theorem get?_merge_of_ne {key : Text} (hkey : key ≠ Setting.languageOptions.key)
    (hlayer : layer.keys.Nodup) (h : merge base layer = .ok merged) :
    merged.get? key = (layer.get? key).or (base.get? key) := by
  induction layer generalizing base with
  | nil =>
      cases h
      rfl
  | cons entry rest ih =>
      obtain ⟨hnew, hrest⟩ := Entries.nodup_keys_cons.mp hlayer
      obtain ⟨next, hentry, hmerge⟩ := merge_cons h
      obtain ⟨value, rfl, hvalue⟩ := exists_set_of_mergeEntry hentry
      rw [ih hrest hmerge, Entries.get?_set, Entries.get?_cons]
      by_cases hfirst : key = entry.1
      · rw [if_pos hfirst, if_pos hfirst, hvalue (hfirst ▸ hkey), hfirst, hnew]
        rfl
      · rw [if_neg hfirst, if_neg hfirst]

theorem optionsOver_merge (hlayer : layer.keys.Nodup) (h : merge base layer = .ok merged) :
    OptionsOver (base.get? Setting.languageOptions.key)
      (layer.get? Setting.languageOptions.key)
      (merged.get? Setting.languageOptions.key) := by
  induction layer generalizing base with
  | nil =>
      cases h
      exact .kept _
  | cons entry rest ih =>
      obtain ⟨hnew, hrest⟩ := Entries.nodup_keys_cons.mp hlayer
      obtain ⟨next, hentry, hmerge⟩ := merge_cons h
      have hover := ih hrest hmerge
      rw [Entries.get?_cons]
      by_cases hkey : Setting.languageOptions.key = entry.1
      · -- The key does not come again, and the rest of the layer keeps the options.
        rw [if_pos hkey]
        rw [hkey, hnew, ← hkey] at hover
        generalize merged.get? Setting.languageOptions.key = after at hover ⊢
        cases hover with
        | kept => exact optionsOver_mergeEntry hkey.symm hentry
      · obtain ⟨value, rfl, _⟩ := exists_set_of_mergeEntry hentry
        rw [Entries.get?_set, if_neg hkey] at hover
        rw [if_neg hkey]
        exact hover

theorem IsLayer.merge (hbase : IsLayer base) (hlayer : IsLayer layer)
    (h : Settings.merge base layer = .ok merged) : IsLayer merged where
  nodup_keys := nodup_keys_merge hbase.nodup_keys h
  nodup_options := by
    intro options hoptions
    have hover := optionsOver_merge hlayer.nodup_keys h
    rw [hoptions] at hover
    generalize hbelow : base.get? Setting.languageOptions.key = below at hover
    generalize habove : layer.get? Setting.languageOptions.key = above at hover
    cases hover with
    | kept => exact hbase.nodup_options options hbelow
    | merged changes hcurrent =>
        apply Entries.nodup_keys_setAll
        cases below with
        | none =>
            cases hcurrent
            exact List.nodup_nil
        | some value =>
            rw [Option.getD_some] at hcurrent
            exact hbase.nodup_options _ (hcurrent ▸ hbelow)
    | replaced hvalue => exact absurd rfl (hvalue options)

/-- Entries that name no setting win over those below. -/
theorem get?_extraOptions_merge (hlayer : IsLayer layer)
    (h : Settings.merge base layer = .ok merged) (key : Text) :
    (extraOptions merged).get? key =
      ((extraOptions layer).get? key).or ((extraOptions base).get? key) := by
  rw [get?_extraOptions, get?_extraOptions, get?_extraOptions]
  by_cases hkey : (Setting.ofKey? key).isNone = true
  · have hne : key ≠ Setting.languageOptions.key := by
      rintro rfl
      rw [Setting.ofKey?_key] at hkey
      cases hkey
    rw [if_pos hkey, if_pos hkey, if_pos hkey]
    exact get?_merge_of_ne hne hlayer.nodup_keys h
  · rw [if_neg hkey, if_neg hkey, if_neg hkey]
    rfl

/-- Language options win over those below, which are all lost if they are replaced. -/
theorem get?_nestedOptions_merge (hbase : IsLayer base) (hlayer : IsLayer layer)
    (h : Settings.merge base layer = .ok merged) (key : Text) :
    (nestedOptions merged).get? key =
      ((nestedOptions layer).get? key).or
        (if discardsOptions layer then none else (nestedOptions base).get? key) := by
  have hover := optionsOver_merge hlayer.nodup_keys h
  have hmerged := (IsLayer.merge hbase hlayer h).nodup_options
  have hoptions := hlayer.nodup_options
  have hcurrent := hbase.nodup_options
  unfold nestedOptions discardsOptions
  generalize merged.get? Setting.languageOptions.key = after at hover hmerged ⊢
  generalize base.get? Setting.languageOptions.key = below at hover hcurrent ⊢
  generalize layer.get? Setting.languageOptions.key = above at hover hoptions ⊢
  cases hover with
  | kept => rfl
  | @merged current options hbelow =>
      have hnested : (optionsIn (below.getD .null)).get? key = current.get? key := by
        cases below with
        | none =>
            cases hbelow
            rfl
        | some value =>
            rw [Option.getD_some] at hbelow
            subst hbelow
            exact get?_optionsIn_object (hcurrent current rfl) key
      rw [hnested, Option.getD_some, Option.getD_some,
        get?_optionsIn_object (hmerged _ rfl), get?_optionsIn_object (hoptions options rfl),
        Entries.get?_setAll (hoptions options rfl)]
      rfl
  | @replaced value hvalue =>
      cases value with
      | object options => exact absurd rfl (hvalue options)
      | _ => rw [if_pos rfl, Option.or_none]

end Merge

/-! ## Settings from layers -/

section OfEntries

variable {entries : Entries} {settings : Settings}

theorem checked_eq_ok {checkedSettings : Settings}
    (h : settings.checked = .ok checkedSettings) : checkedSettings = settings := by
  obtain ⟨_, _, heq⟩ := Fallible.bind_eq_ok_iff.mp h
  cases heq
  rfl

/-- The settings that are made of entries: those that the entries name, with the options in
place. -/
theorem exists_declared_of_ofEntries (h : ofEntries entries = .ok settings) :
    ∃ declared chosen,
      optionsOfValue ((entries.get? Setting.languageOptions.key).getD .null) = .ok declared ∧
      checked (entries.foldl putEntry {}) = .ok chosen ∧
      settings = { chosen with
        languageOptions :=
          .object (Entries.setAll (Entries.ofList (textOptions declared)) (extraOptions entries))
        strayOptions := otherOptions declared } := by
  obtain ⟨declared, hdeclared, hrest⟩ := Fallible.bind_eq_ok_iff.mp h
  obtain ⟨chosen, hchosen, heq⟩ := Fallible.bind_eq_ok_iff.mp hrest
  cases heq
  exact ⟨declared, chosen, hdeclared, hchosen, rfl⟩

/-- Settings are made from the entries that name them. -/
theorem get_ofEntries (hentries : entries.keys.Nodup) (h : ofEntries entries = .ok settings)
    {setting : Setting} (hsetting : setting ≠ .languageOptions) :
    settings.get setting =
      (entries.get? setting.key).getD (({} : Settings).get setting) := by
  obtain ⟨declared, chosen, _, hchosen, rfl⟩ := exists_declared_of_ofEntries h
  have hget := get_putEntries hentries {} setting
  rw [← checked_eq_ok hchosen] at hget
  cases setting with
  | languageOptions => exact absurd rfl hsetting
  | _ => exact hget

/-- The language options are those of the entries, under the entries that name no
setting. -/
theorem languageOptions_ofEntries (h : ofEntries entries = .ok settings) :
    settings.languageOptions =
      .object (Entries.setAll (nestedOptions entries) (extraOptions entries)) := by
  obtain ⟨declared, _, hdeclared, _, rfl⟩ := exists_declared_of_ofEntries h
  rw [nestedOptions, optionsIn, hdeclared]

theorem get?_languageOptions_ofEntries (hentries : entries.keys.Nodup)
    (h : ofEntries entries = .ok settings) :
    ∃ options : Entries, settings.languageOptions = .object options ∧
      ∀ key, options.get? key = givenOption? entries key := by
  refine ⟨_, languageOptions_ofEntries h, fun key => ?_⟩
  rw [Entries.get?_setAll (nodup_keys_extraOptions hentries), givenOption?]

end OfEntries

end Settings

end RecordSmith
