import RecordSmith.Proofs.Schema.FieldList
import RecordSmith.Proofs.Schema.Shape

/-!
# Spellings of types

A type can stand bare or in an object, and a union in either order.  Which member a field becomes
is decided by an outline of its type, and all spellings of a type have the same outline, down to
those that spell no type at all.
-/

namespace RecordSmith.Schema

/-! ## Spellings -/

/-- The values are spellings of one type: a type stands bare or as the `type` of an object, and a
union of two in either order.  What else an object holds, types in it included, is of no account. -/
inductive Respells : Value → Value → Prop where
  | refl (value : Value) : Respells value value
  | symm {value other : Value} (h : Respells value other) : Respells other value
  | trans {value middle other : Value} (hfirst : Respells value middle)
      (hsecond : Respells middle other) : Respells value other
  | wrapped {inner : Value} {entries : Entries} (htype : entries.get? "type" = some inner) :
      Respells inner (.object entries)
  | swapped (first second : Value) : Respells (.list [first, second]) (.list [second, first])
  | member {old new : Value} (before after : List Value) (h : Respells old new) :
      Respells (.list (before ++ old :: after)) (.list (before ++ new :: after))
  | within {entries others : Entries} {old new : Value}
      (hold : entries.get? "type" = some old) (hnew : others.get? "type" = some new)
      (h : Respells old new) (hbeside : entries.AgreeBeside "type" others) :
      Respells (.object entries) (.object others)
  | beside {entries others : Entries} (htype : others.get? "type" = entries.get? "type") :
      Respells (.object entries) (.object others)

/-- The item of a list of fields is the same, or its type is spelled in another way. -/
inductive RespellsField : Value → Value → Prop where
  | same (item : Value) : RespellsField item item
  | respelled {attributes others : Entries} {old new : Value}
      (hold : attributes.get? "type" = some old) (hnew : others.get? "type" = some new)
      (h : Respells old new) (hbeside : attributes.AgreeBeside "type" others) :
      RespellsField (.object attributes) (.object others)

/-! ## Outlines -/

/-- What a branch decides about a field: whether it is null and which scalar it is. -/
def Branch.outline (branch : Branch) : Bool × Option Scalar := (branch.isNull, branch.scalar?)

/-- The scalar beside null in a union with such branches. -/
def nullableScalar? : List (Bool × Option Scalar) → Option Scalar
  | [first, second] =>
    match first.1, second.1 with
    | true, false => second.2
    | false, true => first.2
    | _, _ => none
  | _ => none

/-- What a type decides about a field. -/
inductive Outline where
  | single (branch : Bool × Option Scalar)
  | union (nullable? : Option Scalar)

/-- The outline of a type. -/
def TypeExpr.outline : TypeExpr → Outline
  | single branch => .single branch.outline
  | union branches => .union (nullableScalar? (branches.map Branch.outline))

/-- The scalar of the member that a field with the outline becomes, and whether it is nullable. -/
def Outline.member? : Outline → Option (Scalar × Bool)
  | single branch => branch.2.map (·, false)
  | union nullable? => nullable?.map (·, true)

/-- The outline of a branch, if it is one. -/
def Outline.branch? : Outline → Option (Bool × Option Scalar)
  | single branch => some branch
  | union _ => none

/-- The scalar of the member of a shape, and whether it is nullable. -/
def Shape.member? : Shape → Option (Scalar × Bool)
  | member scalar nullable => some (scalar, nullable)
  | dropped _ => none

theorem nullableScalar?_map_outline (branches : List Branch) :
    nullableScalar? (branches.map Branch.outline) =
      (TypeExpr.union branches).nonNull?.bind Branch.scalar? := by
  match branches with
  | [] | [_] | _ :: _ :: _ :: _ => rfl
  | [first, second] =>
      rw [List.map_cons, List.map_cons, List.map_nil, Branch.outline, Branch.outline,
        TypeExpr.nonNull?]
      cases first.isNull with
      | true =>
          cases second.isNull with
          | true => rfl
          | false => rfl
      | false =>
          cases second.isNull with
          | true => rfl
          | false => rfl

theorem TypeExpr.member?_shape (type : TypeExpr) : type.shape.member? = type.outline.member? := by
  cases type with
  | single branch =>
      rw [shape, outline, Branch.outline]
      cases branch.scalar? with
      | none => rfl
      | some scalar => rfl
  | union branches =>
      rw [shape, outline, nullableScalar?_map_outline]
      cases (union branches).nonNull? with
      | none => rfl
      | some branch =>
          dsimp only
          cases hscalar : branch.scalar? with
          | none => simp [Shape.member?, Outline.member?, hscalar]
          | some scalar => simp [Shape.member?, Outline.member?, hscalar]

/-- A word in an object stands for another branch than the bare word at most where the word is that
of a declaration, and both of these make no member. -/
theorem Branch.outline_ofTypeWord (word : Text) (name : Value) :
    (ofTypeWord word name).outline = (ofWord word).outline := by
  rw [ofTypeWord]
  cases hkind : Declared.ofWord? word with
  | none => rfl
  | some kind =>
      have hword : ∀ entry ∈ Declared.words, (ofWord entry.1).outline = (false, none) := by decide
      obtain ⟨before, after, hsplit, _⟩ := List.lookup_eq_some_iff.mp hkind
      exact (hword (word, kind) (by simp [hsplit])).symm

/-! ## Spellings have the same outline -/

/-- The outline of the type that a value spells. -/
def outline? (value : Value) : Option Outline := (readType value).map TypeExpr.outline

section Outlines

variable {entries : Entries}

theorem outline?_typed {inner : Value} (htype : entries.get? "type" = some inner) :
    outline? (.object entries) = outline? inner := by
  have hread : ∀ type, readType (.object entries) = some type ↔
      Types ((entries.get? "name").getD .null) inner type := by
    intro type
    rw [readType_eq_some_iff, expresses_object_iff, htype]
    simp
  rw [outline?, outline?]
  cases inner with
  | text word =>
      rw [(hread _).mpr (types_text_iff.mpr rfl)]
      exact congrArg some (congrArg Outline.single (Branch.outline_ofTypeWord word _))
  | list | object =>
      congr 1
      refine Option.ext fun type => ?_
      rw [hread, types_of_not_isScalar rfl, readType_eq_some_iff]
  | null | boolean | integer | real =>
      have hnone : readType (.object entries) = none :=
        Option.eq_none_iff_forall_ne_some.mpr fun type htyped => by
          refine not_types_of_isScalar rfl ?_ ((hread type).mp htyped)
          intro word heq
          cases heq
      rw [hnone]
      rfl

theorem outline?_untyped (htype : entries.get? "type" = none) :
    outline? (.object entries) = none := by
  have hnone : readType (.object entries) = none :=
    Option.eq_none_iff_forall_ne_some.mpr fun type htyped => by
      rw [readType_eq_some_iff, expresses_object_iff, htype] at htyped
      obtain ⟨_, hnone, _⟩ := htyped
      cases hnone
  rw [outline?, hnone]
  rfl

/-- The outline of the branch that a value spells. -/
def branchOutline? (value : Value) : Option (Bool × Option Scalar) :=
  (outline? value).bind Outline.branch?

theorem map_outline_readBranches (items : List Value) :
    (readBranches items).map (List.map Branch.outline) = items.mapM branchOutline? := by
  induction items with
  | nil => rfl
  | cons item rest ih =>
      rw [readBranches, List.mapM_cons, ← ih, branchOutline?, outline?]
      cases readType item with
      | none => rfl
      | some type =>
          cases type with
          | union branches => rfl
          | single branch =>
              cases readBranches rest with
              | none => rfl
              | some branches => rfl

/-- The outline of a union is that of its branches, in which nothing but their outlines counts. -/
theorem outline?_list (items : List Value) :
    outline? (.list items) =
      if items.isEmpty then none
      else (items.mapM branchOutline?).map fun branches => .union (nullableScalar? branches) := by
  rw [outline?, readType, ← map_outline_readBranches, Option.map_map]
  cases items.isEmpty with
  | true => rfl
  | false =>
      rw [if_neg Bool.false_ne_true, if_neg Bool.false_ne_true, Option.map_map]
      rfl

theorem outline?_member {old new : Value} (h : outline? old = outline? new)
    (before after : List Value) :
    outline? (.list (before ++ old :: after)) = outline? (.list (before ++ new :: after)) := by
  have hbranch : branchOutline? old = branchOutline? new := by
    rw [branchOutline?, branchOutline?, h]
  simp [outline?_list, hbranch]

theorem nullableScalar?_swapped (first second : Bool × Option Scalar) :
    nullableScalar? [first, second] = nullableScalar? [second, first] := by
  rw [nullableScalar?, nullableScalar?]
  cases first.1 with
  | true => cases second.1 with | true => rfl | false => rfl
  | false => cases second.1 with | true => rfl | false => rfl

theorem outline?_swapped (first second : Value) :
    outline? (.list [first, second]) = outline? (.list [second, first]) := by
  simp only [outline?_list, List.mapM_cons, List.mapM_nil]
  cases branchOutline? first with
  | none => cases branchOutline? second with | none => rfl | some other => rfl
  | some branch =>
      cases branchOutline? second with
      | none => rfl
      | some other => exact congrArg (some ∘ Outline.union) (nullableScalar?_swapped branch other)

/-- All spellings of a type have its outline. -/
theorem Respells.outline?_eq {value other : Value} (h : Respells value other) :
    outline? value = outline? other := by
  induction h with
  | refl value => rfl
  | symm _ ih => exact ih.symm
  | trans _ _ ihFirst ihSecond => exact ihFirst.trans ihSecond
  | wrapped htype => exact (outline?_typed htype).symm
  | swapped first second => exact outline?_swapped first second
  | member before after _ ih => exact outline?_member ih before after
  | within hold hnew _ _ ih => rw [outline?_typed hold, outline?_typed hnew, ih]
  | @beside entries others htype =>
      cases hentry : entries.get? "type" with
      | none => rw [outline?_untyped hentry, outline?_untyped (htype.trans hentry)]
      | some inner => rw [outline?_typed hentry, outline?_typed (htype.trans hentry)]

/-- Of two spellings both read as types with the same outline, or neither reads as a type. -/
theorem Respells.readType_rel {value other : Value} (h : Respells value other) :
    Option.Rel (fun type respelled => respelled.outline = type.outline) (readType value)
      (readType other) := by
  have houtline := h.outline?_eq
  rw [outline?, outline?] at houtline
  generalize readType value = read at houtline
  generalize readType other = readOther at houtline
  cases read with
  | none =>
      cases readOther with
      | none => exact .none
      | some respelled => cases houtline
  | some type =>
      cases readOther with
      | none => cases houtline
      | some respelled => exact .some (Option.some.inj houtline).symm

end Outlines

/-! ## Fields -/

/-- The fields are the same for all that becomes a member of them. -/
structure Field.Alike (field other : Field) : Prop where
  name : other.name = field.name
  default : other.default = field.default
  outline : other.type.outline = field.type.outline

theorem readField_respelled {item other : Value} (h : RespellsField item other)
    (taken : List Text) :
    Option.Rel Field.Alike (readField taken item) (readField taken other) := by
  cases h with
  | same =>
      cases readField taken item with
      | none => exact .none
      | some field => exact .some ⟨rfl, rfl, rfl⟩
  | @respelled attributes others old new hold hnew h hbeside =>
      have hname : nonEmptyText? others "name" = nonEmptyText? attributes "name" := by
        rw [nonEmptyText?, nonEmptyText?, hbeside "name" (by decide)]
      have hdefault : others.get? "default" = attributes.get? "default" :=
        hbeside "default" (by decide)
      have htype := h.readType_rel
      simp only [readField, Value.entries?, Option.bind_some, fieldOfEntries?, hname, hdefault,
        hold, hnew]
      generalize readType old = type at htype
      generalize readType new = typeOther at htype
      cases nonEmptyText? attributes "name" with
      | none => exact .none
      | some name =>
          simp only [Option.bind_eq_bind, Option.bind_some]
          by_cases htaken : taken.contains name = true
          · rw [if_pos htaken, if_pos htaken]
            exact .none
          · rw [if_neg htaken, if_neg htaken]
            cases htype with
            | none => exact .none
            | some houtline => exact .some ⟨rfl, rfl, houtline⟩

theorem readFields_respelled {items changed : List Value}
    (h : List.Forall₂ RespellsField items changed) (taken : List Text) :
    Option.Rel (List.Forall₂ Field.Alike) (readFields taken items) (readFields taken changed) := by
  induction h generalizing taken with
  | nil => exact .some .nil
  | @cons item other rest others hfirst _ ih =>
      have hfield := readField_respelled hfirst taken
      rw [readFields, readFields]
      generalize readField taken item = first at hfield
      generalize readField taken other = firstOther at hfield
      cases hfield with
      | none => exact .none
      | @some field respelled hrest =>
          have hnames := ih (field.name :: taken)
          simp only [Option.bind_eq_bind, Option.bind_some, hrest.name]
          generalize readFields (field.name :: taken) rest = fields at hnames
          generalize readFields (field.name :: taken) others = changedFields at hnames
          cases hnames with
          | none => exact .none
          | some hall => exact .some (.cons hrest hall)

end RecordSmith.Schema
