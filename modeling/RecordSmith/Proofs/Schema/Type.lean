import Mathlib.Data.List.Forall2
import RecordSmith.Proofs.Value.Object
import RecordSmith.Schema.Type

/-!
# The grammar of type expressions

Which values express which types is said here as a relation, with one rule for each form of
expression.  Reading a type finds exactly what the relation says, however deep the expressions in
an expression are.
-/

namespace RecordSmith.Schema

/-- The value expresses the type: as a word, as a list of the branches of a union, or as an object
whose `type` is a word or again a list or an object that expresses the type. -/
inductive Expresses : Value → TypeExpr → Prop where
  | word (word : Text) : Expresses (.text word) (.single (.ofWord word))
  | union {items : List Value} {branches : List Branch} (hne : items ≠ [])
      (hitems : List.Forall₂ (fun item branch => Expresses item (.single branch))
        items branches) :
      Expresses (.list items) (.union branches)
  | typed {entries : Entries} {word : Text} (htype : entries.get? "type" = some (.text word)) :
      Expresses (.object entries)
        (.single (.ofTypeWord word ((entries.get? "name").getD .null)))
  | wrapped {entries : Entries} {inner : Value} {type : TypeExpr}
      (htype : entries.get? "type" = some inner) (hinner : inner.isScalar = false)
      (hexpresses : Expresses inner type) :
      Expresses (.object entries) type

/-- The values express branches of a union, one each. -/
abbrev ExpressAll (items : List Value) (branches : List Branch) : Prop :=
  List.Forall₂ (fun item branch => Expresses item (.single branch)) items branches

/-- The `type` of an object with the given name makes it express the type. -/
def Types (name inner : Value) (type : TypeExpr) : Prop :=
  (∃ word, inner = .text word ∧ type = .single (.ofTypeWord word name)) ∨
    inner.isScalar = false ∧ Expresses inner type

/-! ## Forms of expressions -/

section Forms

variable {items : List Value} {entries : Entries} {name inner : Value} {type : TypeExpr}

theorem expresses_list_iff :
    Expresses (.list items) type ↔
      items ≠ [] ∧ ∃ branches, ExpressAll items branches ∧ .union branches = type := by
  constructor
  · intro h
    cases h with
    | union hne hitems => exact ⟨hne, _, hitems, rfl⟩
  · rintro ⟨hne, branches, hitems, rfl⟩
    exact .union hne hitems

theorem expresses_object_iff :
    Expresses (.object entries) type ↔
      ∃ inner, entries.get? "type" = some inner ∧
        Types ((entries.get? "name").getD .null) inner type := by
  constructor
  · intro h
    cases h with
    | typed htype => exact ⟨_, htype, Or.inl ⟨_, rfl, rfl⟩⟩
    | wrapped htype hinner hexpresses => exact ⟨_, htype, Or.inr ⟨hinner, hexpresses⟩⟩
  · rintro ⟨inner, htype, ⟨word, rfl, rfl⟩ | ⟨hinner, hexpresses⟩⟩
    · exact .typed htype
    · exact .wrapped htype hinner hexpresses

theorem types_text_iff {word : Text} :
    Types name (.text word) type ↔ type = .single (.ofTypeWord word name) := by
  simp [Types, Value.isScalar]

theorem types_of_not_isScalar (hinner : inner.isScalar = false) :
    Types name inner type ↔ Expresses inner type := by
  rw [Types, and_iff_right hinner, or_iff_right]
  rintro ⟨word, rfl, _⟩
  cases hinner

/-- Of the scalars only words express types. -/
theorem not_expresses_of_isScalar (hinner : inner.isScalar = true)
    (hword : ∀ word, inner ≠ .text word) : ¬Expresses inner type := by
  intro h
  cases h with
  | word word => exact hword word rfl
  | union | typed | wrapped => cases hinner

theorem not_types_of_isScalar (hinner : inner.isScalar = true)
    (hword : ∀ word, inner ≠ .text word) : ¬Types name inner type := by
  rintro (⟨word, heq, _⟩ | ⟨hcontainer, _⟩)
  · exact hword word heq
  · rw [hinner] at hcontainer
    cases hcontainer

end Forms

/-! ## Reading types -/

theorem readTyped_cons_of_ne {name value : Value} {key : Text} {rest : List (Text × Value)}
    (hkey : key ≠ Text.ofString "type") :
    readTyped name ((key, value) :: rest) = readTyped name rest := by
  rw [readTyped.eq_def]
  exact if_neg (by simpa using hkey)

mutual

/-- Reading a type finds what the value expresses, and nothing else. -/
theorem readType_eq_some_iff :
    ∀ (value : Value) (type : TypeExpr), readType value = some type ↔ Expresses value type
  | .text word, type => by
      rw [readType, Option.some.injEq]
      constructor
      · rintro rfl
        exact .word word
      · intro h
        cases h
        rfl
  | .list items, type => by
      rw [readType, expresses_list_iff]
      cases items with
      | nil => simp
      | cons item rest =>
          rw [List.isEmpty_cons, if_neg Bool.false_ne_true, Option.map_eq_some_iff]
          simp only [readBranches_eq_some_iff (item :: rest), ne_eq, reduceCtorEq,
            not_false_eq_true, true_and]
  | .object entries, type => by
      rw [readType, expresses_object_iff]
      exact readTyped_eq_some_iff _ entries type
  | .null, _ | .boolean _, _ | .integer _, _ | .real _, _ =>
      iff_of_false (by simp [readType]) (not_expresses_of_isScalar rfl fun _ => nofun)

theorem readBranches_eq_some_iff :
    ∀ (items : List Value) (branches : List Branch),
      readBranches items = some branches ↔ ExpressAll items branches
  | [], branches => by
      rw [readBranches, Option.some.injEq, ExpressAll, List.forall₂_nil_left_iff, eq_comm]
  | item :: rest, branches => by
      rw [readBranches, ExpressAll, List.forall₂_cons_left_iff]
      constructor
      · intro h
        split at h
        case h_1 branch hitem =>
          obtain ⟨others, hothers, rfl⟩ := Option.map_eq_some_iff.mp h
          exact ⟨branch, others, (readType_eq_some_iff item _).mp hitem,
            (readBranches_eq_some_iff rest others).mp hothers, rfl⟩
        case h_2 => cases h
      · rintro ⟨branch, others, hitem, hothers, rfl⟩
        rw [(readType_eq_some_iff item _).mpr hitem]
        exact Option.map_eq_some_iff.mpr
          ⟨others, (readBranches_eq_some_iff rest others).mpr hothers, rfl⟩

theorem readTyped_eq_some_iff (name : Value) :
    ∀ (entries : List (Text × Value)) (type : TypeExpr),
      readTyped name entries = some type ↔
        ∃ inner, Entries.get? entries "type" = some inner ∧ Types name inner type
  | [], type => iff_of_false (by simp [readTyped]) (fun ⟨_, h, _⟩ => nomatch h)
  | (key, value) :: rest, type => by
      rw [Entries.get?_cons]
      by_cases hkey : key = Text.ofString "type"
      · simp only [if_pos hkey.symm, Option.some.injEq, exists_eq_left']
        cases value with
        | text word => simp [readTyped, hkey, types_text_iff, eq_comm]
        | list items =>
            rw [types_of_not_isScalar rfl, ← readType_eq_some_iff (.list items)]
            simp [readTyped, hkey]
        | object entries =>
            rw [types_of_not_isScalar rfl, ← readType_eq_some_iff (.object entries)]
            simp [readTyped, hkey]
        | null | boolean _ | integer _ | real _ =>
            exact iff_of_false (by simp [readTyped, hkey])
              (not_types_of_isScalar rfl fun _ => nofun)
      · rw [readTyped_cons_of_ne hkey, readTyped_eq_some_iff name rest type,
          if_neg (Ne.symm hkey)]

end

end RecordSmith.Schema
