import RecordSmith.Schema.Record
import RecordSmith.Schema.Shape

/-!
# Fields that become members

Two shapes of type become members: a scalar, and a union of null and a scalar in
either order.  A default fits such a field if it is a value of its type.  Both are
said here on their own; the classification of types agrees with it.
-/

namespace RecordSmith.Schema

/-- The branch that a scalar is. -/
def Scalar.branch : Scalar → Branch
  | .string => .primitive .string
  | .boolean => .primitive .boolean

/-- The types of members: a scalar, or a nullable one. -/
inductive TypeExpr.Supports : TypeExpr → Scalar → Bool → Prop where
  | scalar (s : Scalar) : Supports (.single s.branch) s false
  | nullFirst (s : Scalar) : Supports (.union [.primitive .null, s.branch]) s true
  | nullLast (s : Scalar) : Supports (.union [s.branch, .primitive .null]) s true

/-- The defaults that fit a member: null if it is nullable, and the values of its scalar. -/
inductive Scalar.Accepts : Scalar → Bool → Value → Prop where
  | null (s : Scalar) : Accepts s true .null
  | text (nullable : Bool) (t : Text) : Accepts .string nullable (.text t)
  | boolean (nullable b : Bool) : Accepts .boolean nullable (.boolean b)

/-- The field has a type of members. -/
def Field.Supported (field : Field) : Prop :=
  ∃ scalar nullable, field.type.Supports scalar nullable

/-- The field has a type of members and declares a default that does not fit. -/
def Field.Misfits (field : Field) : Prop :=
  ∃ scalar nullable value, field.type.Supports scalar nullable ∧
    field.default = some value ∧ ¬scalar.Accepts nullable value

/-! ## Classification -/

@[simp]
theorem Scalar.scalar?_branch (s : Scalar) : s.branch.scalar? = some s := by
  cases s with
  | string => rfl
  | boolean => rfl

@[simp]
theorem Scalar.isNull_branch (s : Scalar) : s.branch.isNull = false := by
  cases s with
  | string => rfl
  | boolean => rfl

theorem Branch.scalar?_eq_some_iff {branch : Branch} {s : Scalar} :
    branch.scalar? = some s ↔ branch = s.branch := by
  constructor
  · intro h
    unfold Branch.scalar? at h
    split at h
    · cases h; rfl
    · cases h; rfl
    · cases h
  · rintro rfl
    exact s.scalar?_branch

theorem Branch.isNull_iff {branch : Branch} :
    branch.isNull = true ↔ branch = .primitive .null := by
  constructor
  · intro h
    unfold Branch.isNull at h
    split at h
    · rfl
    · cases h
  · rintro rfl
    rfl

/-- The other branch of a union is the one that stands beside null. -/
theorem TypeExpr.nonNull?_union_eq_some_iff {branches : List Branch} {branch : Branch} :
    (union branches).nonNull? = some branch ↔ branch.isNull = false ∧
      (branches = [.primitive .null, branch] ∨ branches = [branch, .primitive .null]) := by
  constructor
  · intro h
    unfold TypeExpr.nonNull? at h
    split at h
    case h_2 => cases h
    case h_1 first second heq =>
      rw [union.injEq] at heq
      subst heq
      split at h
      case h_1 hfirst hsecond =>
        cases h
        rw [Branch.isNull_iff.mp hfirst]
        exact ⟨hsecond, Or.inl rfl⟩
      case h_2 hfirst hsecond =>
        cases h
        rw [Branch.isNull_iff.mp hsecond]
        exact ⟨hfirst, Or.inr rfl⟩
      case h_3 => cases h
  · have hnull : (Branch.primitive .null).isNull = true := rfl
    rintro ⟨hbranch, rfl | rfl⟩
    · simp only [nonNull?, hnull, hbranch]
    · simp only [nonNull?, hnull, hbranch]

/-- The classification finds the types of members. -/
theorem TypeExpr.shape_eq_member_iff {type : TypeExpr} {scalar : Scalar} {nullable : Bool} :
    type.shape = .member scalar nullable ↔ type.Supports scalar nullable := by
  constructor
  · intro h
    cases type with
    | single branch =>
        cases hscalar : branch.scalar? with
        | none => simp [shape, hscalar] at h
        | some found =>
            simp only [shape, hscalar, Shape.member.injEq] at h
            obtain ⟨rfl, rfl⟩ := h
            rw [Branch.scalar?_eq_some_iff.mp hscalar]
            exact .scalar found
    | union branches =>
        cases hother : (union branches).nonNull? with
        | none => simp [shape, hother] at h
        | some branch =>
            cases hscalar : branch.scalar? with
            | none => simp [shape, hother, hscalar] at h
            | some found =>
                simp only [shape, hother, hscalar, Shape.member.injEq] at h
                obtain ⟨rfl, rfl⟩ := h
                obtain ⟨_, horder⟩ := nonNull?_union_eq_some_iff.mp hother
                rw [Branch.scalar?_eq_some_iff.mp hscalar] at horder
                rcases horder with rfl | rfl
                · exact .nullFirst found
                · exact .nullLast found
  · intro h
    cases h with
    | scalar => simp [shape]
    | nullFirst =>
        have hother := nonNull?_union_eq_some_iff.mpr ⟨scalar.isNull_branch, Or.inl rfl⟩
        simp [shape, hother]
    | nullLast =>
        have hother := nonNull?_union_eq_some_iff.mpr ⟨scalar.isNull_branch, Or.inr rfl⟩
        simp [shape, hother]

/-- A type has one shape only. -/
theorem TypeExpr.Supports.unique {type : TypeExpr} {scalar other : Scalar}
    {nullable optional : Bool} (h : type.Supports scalar nullable)
    (hother : type.Supports other optional) : scalar = other ∧ nullable = optional := by
  have hshape := shape_eq_member_iff.mpr h
  rw [shape_eq_member_iff.mpr hother, Shape.member.injEq] at hshape
  exact ⟨hshape.1.symm, hshape.2.symm⟩

theorem Field.supported_iff {field : Field} :
    field.Supported ↔ ∀ reason, field.type.shape ≠ .dropped reason := by
  constructor
  · rintro ⟨scalar, nullable, h⟩ reason heq
    rw [TypeExpr.shape_eq_member_iff.mpr h] at heq
    cases heq
  · intro h
    cases hshape : field.type.shape with
    | member scalar nullable =>
        exact ⟨scalar, nullable, TypeExpr.shape_eq_member_iff.mp hshape⟩
    | dropped reason => exact absurd hshape (h reason)

instance : DecidablePred Field.Supported := fun field =>
  match hshape : field.type.shape with
  | .member scalar nullable =>
    .isTrue ⟨scalar, nullable, TypeExpr.shape_eq_member_iff.mp hshape⟩
  | .dropped reason => .isFalse fun h => Field.supported_iff.mp h reason hshape

end RecordSmith.Schema
