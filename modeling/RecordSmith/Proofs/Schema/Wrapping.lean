import RecordSmith.Proofs.Schema.Shape
import RecordSmith.Proofs.Schema.Type

/-!
# Types of members in documents

A type expression can stand in an object, and that object in another one.  They do not matter, only
what is inside of them does: a field becomes a member exactly if that is the word of a scalar, or a
list of the word `null` and the word of a scalar, each of them in any number of objects again.
-/

namespace RecordSmith.Schema

/-- The first value is the second one in any number of objects, each the `type` of the next. -/
inductive Wraps : Value → Value → Prop where
  | bare (core : Value) : Wraps core core
  | object {entries : Entries} {inner core : Value} (htype : entries.get? "type" = some inner)
      (h : Wraps inner core) : Wraps (.object entries) core

/-- The value writes a scalar, or a union of null and the scalar. -/
inductive WritesMember (value : Value) (scalar : Scalar) : Bool → Prop where
  | scalar (h : Wraps value (.text scalar.word)) : WritesMember value scalar false
  | nullFirst {first second : Value} (h : Wraps value (.list [first, second]))
      (hnull : Wraps first (.text "null")) (hscalar : Wraps second (.text scalar.word)) :
      WritesMember value scalar true
  | nullLast {first second : Value} (h : Wraps value (.list [first, second]))
      (hscalar : Wraps first (.text scalar.word)) (hnull : Wraps second (.text "null")) :
      WritesMember value scalar true

/-! ## Words -/

theorem Primitive.ofWord?_eq_some_iff {word : Text} {p : Primitive} :
    ofWord? word = some p ↔ word = p.word := by
  constructor
  · intro h
    have hword := List.find?_some h
    exact (beq_iff_eq.mp hword).symm
  · rintro rfl
    cases p with
    | null | boolean | int | long | float | double | bytes | string => rfl

namespace Branch

theorem ofWord_eq_primitive_iff {word : Text} {p : Primitive} :
    ofWord word = primitive p ↔ word = p.word := by
  rw [ofWord, ← Primitive.ofWord?_eq_some_iff]
  cases Primitive.ofWord? word with
  | none => simp
  | some other => simp

/-- No word of a declaration is one of a primitive type. -/
theorem ofTypeWord_eq_primitive_iff {word : Text} {name : Value} {p : Primitive} :
    ofTypeWord word name = primitive p ↔ word = p.word := by
  rw [ofTypeWord]
  cases hkind : Declared.ofWord? word with
  | none => exact ofWord_eq_primitive_iff
  | some kind =>
      have hwords : ∀ entry ∈ Declared.words, Primitive.ofWord? entry.1 = none := by decide
      obtain ⟨before, after, hsplit, _⟩ := List.lookup_eq_some_iff.mp hkind
      have hnone := hwords (word, kind) (by simp [hsplit])
      refine iff_of_false (fun h => nomatch h) fun h => ?_
      rw [Primitive.ofWord?_eq_some_iff.mpr h] at hnone
      cases hnone

end Branch

/-! ## What objects hold -/

theorem Wraps.eq_of_isScalar {value core : Value} (h : Wraps value core)
    (hvalue : value.isScalar = true) : value = core := by
  cases h with
  | bare => rfl
  | object => cases hvalue

/-- A type is found in the objects around a word, or in those around a list. -/
theorem Expresses.exists_core {value : Value} {type : TypeExpr} : Expresses value type →
    (∃ word branch, type = .single branch ∧ Wraps value (.text word) ∧
        ∀ p, branch = .primitive p ↔ word = p.word) ∨
      ∃ items branches, type = .union branches ∧ Wraps value (.list items) ∧
        ExpressAll items branches
  | .word spelled => Or.inl ⟨spelled, _, rfl, .bare _, fun _ => Branch.ofWord_eq_primitive_iff⟩
  | .union _ hitems => Or.inr ⟨_, _, rfl, .bare _, hitems⟩
  | .typed htype =>
      Or.inl ⟨_, _, rfl, .object htype (.bare _), fun _ => Branch.ofTypeWord_eq_primitive_iff⟩
  | .wrapped htype _ hexpresses => by
      rcases hexpresses.exists_core with ⟨word, branch, rfl, hinner, hword⟩ | hunion
      · exact Or.inl ⟨word, branch, rfl, .object htype hinner, hword⟩
      · obtain ⟨items, branches, rfl, hinner, hitems⟩ := hunion
        exact Or.inr ⟨items, branches, rfl, .object htype hinner, hitems⟩

section Cores

variable {value core : Value} {type : TypeExpr}

/-- What is no word expresses the same type in any number of objects. -/
theorem Wraps.expresses (h : Wraps value core) (hcore : core.isScalar = false)
    (htype : Expresses core type) : Expresses value type := by
  induction h with
  | bare => exact htype
  | @object entries inner core hinner h ih =>
      have hcontainer : inner.isScalar = false := by
        rw [← Bool.not_eq_true]
        intro hscalar
        rw [h.eq_of_isScalar hscalar, hcore] at hscalar
        cases hscalar
      exact .wrapped hinner hcontainer (ih hcore htype)

theorem Wraps.expresses_primitive {p : Primitive} (h : Wraps value (.text p.word)) :
    Expresses value (.single (.primitive p)) := by
  have hbare : Branch.ofWord p.word = .primitive p := Branch.ofWord_eq_primitive_iff.mpr rfl
  have htyped : ∀ name, Branch.ofTypeWord p.word name = .primitive p :=
    fun _ => Branch.ofTypeWord_eq_primitive_iff.mpr rfl
  generalize hcore : Value.text p.word = core at h
  induction h with
  | bare =>
      subst hcore
      exact hbare ▸ .word p.word
  | @object entries inner core hinner h ih =>
      -- In the innermost object the word is read as one that may start a declaration.
      by_cases hscalar : inner.isScalar = true
      · rw [h.eq_of_isScalar hscalar, ← hcore] at hinner
        exact htyped _ ▸ .typed hinner
      · exact .wrapped hinner (by simpa using hscalar) (ih hcore)

theorem expresses_primitive_iff {p : Primitive} :
    Expresses value (.single (.primitive p)) ↔ Wraps value (.text p.word) := by
  constructor
  · intro h
    rcases h.exists_core with ⟨word, branch, hsingle, hwraps, hword⟩ | ⟨_, _, hunion, _⟩
    · rw [TypeExpr.single.injEq] at hsingle
      exact (hword p).mp hsingle.symm ▸ hwraps
    · cases hunion
  · exact Wraps.expresses_primitive

theorem expresses_scalar_iff {scalar : Scalar} :
    Expresses value (.single scalar.branch) ↔ Wraps value (.text scalar.word) := by
  cases scalar with
  | string => exact expresses_primitive_iff (p := .string)
  | boolean => exact expresses_primitive_iff (p := .boolean)

theorem expresses_pair_iff {first second : Branch} :
    Expresses value (.union [first, second]) ↔ ∃ one other, Wraps value (.list [one, other]) ∧
      Expresses one (.single first) ∧ Expresses other (.single second) := by
  constructor
  · intro h
    rcases h.exists_core with ⟨_, _, hsingle, _⟩ | ⟨items, branches, hunion, hwraps, hitems⟩
    · cases hsingle
    · cases hunion
      cases hitems with
      | cons hone hrest =>
          cases hrest with
          | cons hother hnone =>
              cases hnone
              exact ⟨_, _, hwraps, hone, hother⟩
  · rintro ⟨one, other, hwraps, hone, hother⟩
    exact hwraps.expresses rfl (.union (List.cons_ne_nil _ _) (.cons hone (.cons hother .nil)))

/-- The types of members are expressed by the values that write them. -/
theorem writesMember_iff {scalar : Scalar} {nullable : Bool} :
    WritesMember value scalar nullable ↔
      ∃ type, Expresses value type ∧ type.Supports scalar nullable := by
  constructor
  · intro h
    cases h with
    | scalar h => exact ⟨_, expresses_scalar_iff.mpr h, .scalar scalar⟩
    | nullFirst h hnull hscalar =>
        have hfirst := expresses_primitive_iff (p := .null).mpr hnull
        exact ⟨_, expresses_pair_iff.mpr ⟨_, _, h, hfirst, expresses_scalar_iff.mpr hscalar⟩,
          .nullFirst scalar⟩
    | nullLast h hscalar hnull =>
        have hlast := expresses_primitive_iff (p := .null).mpr hnull
        exact ⟨_, expresses_pair_iff.mpr ⟨_, _, h, expresses_scalar_iff.mpr hscalar, hlast⟩,
          .nullLast scalar⟩
  · rintro ⟨type, hexpresses, hsupports⟩
    cases hsupports with
    | scalar => exact .scalar (expresses_scalar_iff.mp hexpresses)
    | nullFirst =>
        obtain ⟨_, _, h, hnull, hscalar⟩ := expresses_pair_iff.mp hexpresses
        exact .nullFirst h (expresses_primitive_iff.mp hnull) (expresses_scalar_iff.mp hscalar)
    | nullLast =>
        obtain ⟨_, _, h, hscalar, hnull⟩ := expresses_pair_iff.mp hexpresses
        exact .nullLast h (expresses_scalar_iff.mp hscalar) (expresses_primitive_iff.mp hnull)

end Cores

/-! ## Members and reasons -/

/-- Every reason has a wording. -/
theorem Unsupported.message_ne_nil (reason : Unsupported) : reason.message ≠ [] := by
  have hended : ∀ (t : Text) (s : String), Text.ofString s ≠ [] → t ++ Text.ofString s ≠ [] :=
    fun t _ hs => List.append_ne_nil_of_right_ne_nil t hs
  cases reason with
  | notNullPlusOne union => exact hended _ _ (by decide)
  | nullableOther branch => exact hended _ _ (by decide)
  | nullOnly => decide
  | reference branch => exact hended _ _ (by decide)
  | otherKind branch => exact hended _ _ (by decide)

/-- A type that can be read makes a member exactly if the value writes one, which is then the scalar
of the member and decides whether it is nullable.  Otherwise the type is left out for a reason that
has a wording. -/
theorem shape_of_readType {value : Value} {type : TypeExpr} (hread : readType value = some type) :
    (∀ scalar nullable,
      type.shape = .member scalar nullable ↔ WritesMember value scalar nullable) ∧
    ((∃ reason, type.shape = .dropped reason ∧ reason.message ≠ []) ↔
      ∀ scalar nullable, ¬WritesMember value scalar nullable) := by
  have hmember : ∀ scalar nullable,
      type.shape = .member scalar nullable ↔ WritesMember value scalar nullable := by
    intro scalar nullable
    rw [TypeExpr.shape_eq_member_iff, writesMember_iff]
    constructor
    · exact fun h => ⟨type, (readType_eq_some_iff value type).mp hread, h⟩
    · rintro ⟨other, hexpresses, hsupports⟩
      rw [← readType_eq_some_iff, hread, Option.some.injEq] at hexpresses
      exact hexpresses ▸ hsupports
  refine ⟨hmember, ?_⟩
  cases hshape : type.shape with
  | member scalar nullable =>
      have hwrites := (hmember scalar nullable).mp hshape
      refine iff_of_false ?_ fun hnone => hnone scalar nullable hwrites
      rintro ⟨_, hdropped, _⟩
      cases hdropped
  | dropped reason =>
      refine iff_of_true ⟨reason, rfl, reason.message_ne_nil⟩ fun scalar nullable hwrites => ?_
      rw [(hmember scalar nullable).mpr hwrites] at hshape
      cases hshape

/-- A union in an object, with its branches in objects again. -/
def boxedUnion : Value :=
  .object [("type", .list
    [.object [("type", .object [("type", .text "boolean"), ("logicalType", .text "flag")])],
      .object [("type", .text "null")]])]

theorem boxedUnion_shape :
    ∃ type, readType boxedUnion = some type ∧ type.shape = .member .boolean true ∧
      WritesMember boxedUnion .boolean true := by
  have hread : readType boxedUnion =
      some (.union [.primitive .boolean, .primitive .null]) := by rfl
  have hwrites : WritesMember boxedUnion .boolean true :=
    .nullLast (.object rfl (.bare _)) (.object rfl (.object rfl (.bare _)))
      (.object rfl (.bare _))
  exact ⟨_, hread, ((shape_of_readType hread).1 .boolean true).mpr hwrites, hwrites⟩

end RecordSmith.Schema
