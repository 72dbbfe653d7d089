import RecordSmith.Proofs.Settings.Refusals

/-!
# Layers put together first

Layers whose language options are objects can be put together in any grouping: merging a middle
layer over the bottom one and the top one over both gives the same settings as merging the top
layer over the middle one and both over the bottom one.  At both levels a key has the value of the
highest layer that gives it one.
-/

namespace RecordSmith.Settings

/-- A layer with distinct keys whose language options, if there are any, are an object. -/
structure IsStackable (layer : Entries) : Prop extends IsLayer layer where
  exists_options : ∀ value, layer.get? Setting.languageOptions.key = some value →
    ∃ options, value = .object options

/-- The language options of a layer, if there are any. -/
def ownOptions? (layer : Entries) : Option Entries :=
  (layer.get? Setting.languageOptions.key).bind Value.entries?

/-- The value that a layer gives a key among its language options. -/
def ownOption? (layer : Entries) (key : Text) : Option Value :=
  ((ownOptions? layer).getD []).get? key

/-- Options set over those below, which are none if there are no options below. -/
def overlay (below : Option Entries) : Option Entries → Option Entries
  | none => below
  | some options => some (Entries.setAll (below.getD []) options)

/-- The options of two layers are missing in both, or objects with the same value for each key. -/
inductive SameOptions : Option Value → Option Value → Prop where
  | missing : SameOptions none none
  | object {options others : Entries} (h : ∀ key, options.get? key = others.get? key) :
      SameOptions (some (.object options)) (some (.object others))

/-- The layers give each key the same value, at the level of entries and at that of the language
options. -/
structure SameSettings (layer other : Entries) : Prop where
  entries : ∀ key, key ≠ Setting.languageOptions.key → layer.get? key = other.get? key
  options : SameOptions (layer.get? Setting.languageOptions.key)
    (other.get? Setting.languageOptions.key)

/-! ## Options set over others -/

section Overlay

variable {bottom middle top : Option Entries}

theorem get?_overlay {above : Option Entries}
    (habove : ∀ options, above = some options → options.keys.Nodup) (below : Option Entries)
    (key : Text) :
    ((overlay below above).getD []).get? key =
      ((above.getD []).get? key).or ((below.getD []).get? key) := by
  cases above with
  | none => rfl
  | some options => exact Entries.get?_setAll (habove options rfl) (below.getD []) key

/-- Options that are set over others make a value for each of their keys. -/
theorem sameOptions_overlay
    (hmiddle : ∀ options, middle = some options → options.keys.Nodup)
    (htop : ∀ options, top = some options → options.keys.Nodup) :
    SameOptions ((overlay (overlay bottom middle) top).map .object)
      ((overlay bottom (overlay middle top)).map .object) := by
  have habove : ∀ options, overlay middle top = some options → options.keys.Nodup := by
    intro options hoptions
    cases top with
    | none => exact hmiddle options hoptions
    | some changes =>
        cases hoptions
        apply Entries.nodup_keys_setAll
        cases middle with
        | none => exact List.nodup_nil
        | some current => exact hmiddle current rfl
  have hsame : ∀ key, ((overlay (overlay bottom middle) top).getD []).get? key =
      ((overlay bottom (overlay middle top)).getD []).get? key := by
    intro key
    rw [get?_overlay htop, get?_overlay hmiddle, get?_overlay habove, get?_overlay htop,
      Option.or_assoc]
  cases top with
  | some options => exact .object hsame
  | none =>
      cases middle with
      | some options => exact .object hsame
      | none =>
          cases bottom with
          | some options => exact .object hsame
          | none => exact .missing

end Overlay

/-! ## Merging layers that can be stacked -/

namespace IsStackable

variable {base layer merged : Entries}

theorem get?_eq (h : IsStackable layer) :
    layer.get? Setting.languageOptions.key = (ownOptions? layer).map .object := by
  rw [ownOptions?]
  cases hvalue : layer.get? Setting.languageOptions.key with
  | none => rfl
  | some value =>
      obtain ⟨options, rfl⟩ := h.exists_options value hvalue
      rfl

theorem nodup_ownOptions (h : IsStackable layer) {options : Entries}
    (hoptions : ownOptions? layer = some options) : options.keys.Nodup := by
  apply h.nodup_options
  rw [h.get?_eq, hoptions]
  rfl

/-- Merging sets the options of the layer over those below. -/
theorem get?_options_merge (hbase : IsStackable base) (hlayer : IsStackable layer)
    (h : merge base layer = .ok merged) :
    merged.get? Setting.languageOptions.key =
      (overlay (ownOptions? base) (ownOptions? layer)).map .object := by
  have hover := optionsOver_merge hlayer.nodup_keys h
  rw [hbase.get?_eq, hlayer.get?_eq] at hover
  generalize merged.get? Setting.languageOptions.key = after at hover ⊢
  generalize ownOptions? base = below at hover ⊢
  cases habove : ownOptions? layer with
  | none =>
      rw [habove] at hover
      cases hover with
      | kept => rfl
  | some options =>
      rw [habove] at hover
      cases hover with
      | replaced hvalue => exact absurd rfl (hvalue options)
      | @merged current _ hbelow =>
          have hcurrent : current = below.getD [] := by
            cases below with
            | none => cases hbelow; rfl
            | some entries => cases hbelow; rfl
          rw [hcurrent]
          rfl

theorem ownOptions?_merge (hbase : IsStackable base) (hlayer : IsStackable layer)
    (h : merge base layer = .ok merged) :
    ownOptions? merged = overlay (ownOptions? base) (ownOptions? layer) := by
  rw [ownOptions?, hbase.get?_options_merge hlayer h]
  cases overlay (ownOptions? base) (ownOptions? layer) with
  | none => rfl
  | some options => rfl

/-- An option of the layer wins over the one below. -/
theorem ownOption?_merge (hbase : IsStackable base) (hlayer : IsStackable layer)
    (h : merge base layer = .ok merged) (key : Text) :
    ownOption? merged key = (ownOption? layer key).or (ownOption? base key) := by
  rw [ownOption?, hbase.ownOptions?_merge hlayer h]
  exact get?_overlay (fun _ => hlayer.nodup_ownOptions) _ key

/-- Two layers that can be stacked can be merged into one. -/
theorem exists_merge (hbase : IsStackable base) (hlayer : IsStackable layer) :
    ∃ merged, merge base layer = .ok merged ∧ IsStackable merged := by
  obtain ⟨merged, hmerged⟩ :=
    Settings.exists_merge hlayer.nodup_keys (Or.inr hbase.exists_options)
  refine ⟨merged, hmerged, hbase.toIsLayer.merge hlayer.toIsLayer hmerged, ?_⟩
  intro value hvalue
  rw [hbase.get?_options_merge hlayer hmerged, Option.map_eq_some_iff] at hvalue
  obtain ⟨options, _, rfl⟩ := hvalue
  exact ⟨options, rfl⟩

end IsStackable

/-- Three layers give the same settings whichever two of them are put together first: at both
levels the value of the highest layer that has one. -/
theorem merge_grouped {bottom middle top : Entries} (hbottom : IsStackable bottom)
    (hmiddle : IsStackable middle) (htop : IsStackable top) :
    ∃ below above left right,
      merge bottom middle = .ok below ∧ merge below top = .ok left ∧
      merge middle top = .ok above ∧ merge bottom above = .ok right ∧
      SameSettings left right ∧
      (∀ key, key ≠ Setting.languageOptions.key →
        left.get? key = (top.get? key).or ((middle.get? key).or (bottom.get? key))) ∧
      ∀ key, ownOption? left key =
        (ownOption? top key).or ((ownOption? middle key).or (ownOption? bottom key)) := by
  obtain ⟨below, hbelow, hstackBelow⟩ := hbottom.exists_merge hmiddle
  obtain ⟨left, hleft, _⟩ := hstackBelow.exists_merge htop
  obtain ⟨above, habove, hstackAbove⟩ := hmiddle.exists_merge htop
  obtain ⟨right, hright, _⟩ := hbottom.exists_merge hstackAbove
  have hvalue : ∀ key, key ≠ Setting.languageOptions.key →
      left.get? key = (top.get? key).or ((middle.get? key).or (bottom.get? key)) := by
    intro key hkey
    rw [get?_merge_of_ne hkey htop.nodup_keys hleft,
      get?_merge_of_ne hkey hmiddle.nodup_keys hbelow]
  refine ⟨below, above, left, right, hbelow, hleft, habove, hright, ⟨?_, ?_⟩, hvalue, ?_⟩
  · intro key hkey
    rw [hvalue key hkey, get?_merge_of_ne hkey hstackAbove.nodup_keys hright,
      get?_merge_of_ne hkey htop.nodup_keys habove, Option.or_assoc]
  · rw [hstackBelow.get?_options_merge htop hleft,
      hbottom.get?_options_merge hstackAbove hright, hbottom.ownOptions?_merge hmiddle hbelow,
      hmiddle.ownOptions?_merge htop habove]
    exact sameOptions_overlay (fun _ => hmiddle.nodup_ownOptions)
      fun _ => htop.nodup_ownOptions
  · intro key
    rw [hstackBelow.ownOption?_merge htop hleft, hbottom.ownOption?_merge hmiddle hbelow]

/-- A layer that changes the width of the indentation and brings options of its own. -/
def widenedLayer : Entries :=
  [("indent_size", .integer 2), ("language_config", .object [("type_keyword", .text "class")])]

/-- A layer over it, with another keyword and the width that it had. -/
def narrowedLayer : Entries :=
  [("language_config", .object [("type_keyword", .text "record struct"), ("note", .null)]),
    ("indent_size", .integer 4)]

theorem isStackable_of_settled {layer : Entries}
    (h : (Value.object layer).settle = .object layer)
    (hoptions : ∀ value, layer.get? Setting.languageOptions.key = some value →
      ∃ options, value = .object options) : IsStackable layer :=
  ⟨.of_wellFormed (h ▸ (Value.object layer).settle_wellFormed), hoptions⟩

theorem builtinLayers_grouped :
    ∃ below above left right,
      merge Catalog.contractDefaults widenedLayer = .ok below ∧
      merge below narrowedLayer = .ok left ∧
      merge widenedLayer narrowedLayer = .ok above ∧
      merge Catalog.contractDefaults above = .ok right ∧
      SameSettings left right ∧
      (∀ key, key ≠ Setting.languageOptions.key →
        left.get? key = (narrowedLayer.get? key).or
          ((widenedLayer.get? key).or (Catalog.contractDefaults.get? key))) ∧
      ∀ key, ownOption? left key = (ownOption? narrowedLayer key).or
        ((ownOption? widenedLayer key).or (ownOption? Catalog.contractDefaults key)) := by
  apply merge_grouped
  all_goals
    refine isStackable_of_settled rfl ?_
    rintro value ⟨⟩
    exact ⟨_, rfl⟩

end RecordSmith.Settings
