import RecordSmith.Generation.Members
import RecordSmith.Proofs.Naming.Pool

/-!
# Identifiers of members

The members of a record get their identifiers from a pool that remembers its
answers.  Since the fields have names of their own nothing is ever remembered:
every identifier is resolved against those before it.  From this it follows that
the identifiers differ, and that none of them is reserved.
-/

namespace RecordSmith

namespace NamePool

/-- The identifiers of names, each resolved against the used ones and those
before it. -/
def assign (wanted : Text → Text) : List Text → List Text → List Text
  | _, [] => []
  | used, name :: rest =>
    let identifier := resolveConflict used (wanted name) defaultSuffix
    identifier :: assign wanted (used ++ [identifier]) rest

section Assign

variable {wanted : Text → Text}

theorem assign_nodup (used names : List Text) :
    (assign wanted used names).Nodup ∧ ∀ identifier ∈ assign wanted used names,
      identifier ∉ used := by
  induction names generalizing used with
  | nil => exact ⟨List.nodup_nil, fun _ hmem => nomatch hmem⟩
  | cons name rest ih =>
      let first := resolveConflict used (wanted name) defaultSuffix
      obtain ⟨hnodup, hnew⟩ := ih (used ++ [first])
      have hfirst : first ∉ used := resolveConflict_not_mem used _ defaultSuffix
      rw [assign]
      constructor
      · rw [List.nodup_cons]
        refine ⟨fun hmem => ?_, hnodup⟩
        exact hnew first hmem (List.mem_append_right used List.mem_cons_self)
      · intro identifier hmem
        rcases List.mem_cons.mp hmem with rfl | htail
        · exact hfirst
        · exact fun hused => hnew identifier htail (List.mem_append_left _ hused)

/-- Every identifier is what some conflict over a wanted name ends with. -/
theorem exists_resolveConflict_of_mem_assign {used names : List Text}
    {identifier : Text} (hmem : identifier ∈ assign wanted used names) :
    ∃ taken, ∃ name ∈ names,
      identifier = resolveConflict taken (wanted name) defaultSuffix := by
  induction names generalizing used with
  | nil => cases hmem
  | cons name rest ih =>
      rw [assign] at hmem
      rcases List.mem_cons.mp hmem with rfl | htail
      · exact ⟨used, name, List.mem_cons_self, rfl⟩
      · obtain ⟨taken, other, hother, heq⟩ := ih htail
        exact ⟨taken, other, List.mem_cons_of_mem name hother, heq⟩

end Assign

theorem not_reserves_wanted {pool : NamePool} (hpool : pool.ReservesUnmarked)
    (name : Text) (target : NamingCase) : ¬pool.Reserves (pool.wanted name target) :=
  not_reserves_escapeReserved hpool
    (Identifier.ne_nil_of_startsWithWord (Identifier.startsWithWord_convert name target))

theorem startsWithWord_wanted (pool : NamePool) (name : Text) (target : NamingCase) :
    Identifier.startsWithWord (pool.wanted name target) = true :=
  startsWithWord_escapeReserved pool (Identifier.startsWithWord_convert name target) _

section Kept

variable {P : CodePoint → Prop} {spelling : NamingCase}

/-- What conversion keeps the suffix keeps, too. -/
theorem forall_mem_wanted (hP : Identifier.IsKept P) (hhyphen : spelling = .kebab → P 0x2D)
    (pool : NamePool) {name : Text}
    (hname : ∀ c ∈ name, Text.isAlphanumeric c = true → P c) :
    ∀ c ∈ pool.wanted name spelling, P c := by
  have hconverted := Identifier.forall_mem_convert hP hhyphen hname
  rcases pool.escapeReserved_eq (Identifier.convert name spelling) defaultSuffix with
    ⟨_, heq⟩ | ⟨_, heq⟩
  · rw [wanted, heq]
    exact List.forall_mem_append.mpr
      ⟨hconverted, List.forall_mem_singleton.mpr hP.lowLine⟩
  · rw [wanted, heq]
    exact hconverted

/-- Identifiers hold what is kept and, in their numbers, digits. -/
theorem forall_mem_of_mem_assign (hP : Identifier.IsKept P)
    (hhyphen : spelling = .kebab → P 0x2D) (hdigit : ∀ c, Text.isAsciiDigit c = true → P c)
    {pool : NamePool} {used names : List Text}
    (hnames : ∀ name ∈ names, ∀ c ∈ name, Text.isAlphanumeric c = true → P c)
    {identifier : Text} (hmem : identifier ∈ assign (pool.wanted · spelling) used names) :
    ∀ c ∈ identifier, P c := by
  obtain ⟨taken, name, hname, rfl⟩ := exists_resolveConflict_of_mem_assign hmem
  have hwanted := forall_mem_wanted hP hhyphen pool (hnames name hname)
  have hsuffix : ∀ c ∈ defaultSuffix, P c := List.forall_mem_singleton.mpr hP.lowLine
  rcases resolveConflict_spec taken (pool.wanted name spelling) defaultSuffix with
    ⟨_, heq⟩ | ⟨_, k, _, heq, _⟩
  · rw [heq]
    exact hwanted
  · have hnumber : ∀ c ∈ Text.ofNat k, P c :=
      fun c hc => hdigit c (Text.isAsciiDigit_of_mem_ofNat hc)
    rw [heq]
    exact List.forall_mem_append.mpr
      ⟨List.forall_mem_append.mpr ⟨hwanted, hsuffix⟩, hnumber⟩

end Kept

section Removed

variable {c : CodePoint}

/-- What conversion removes from every name does not come back with the suffix. -/
theorem not_mem_wanted (hc : Identifier.IsRemoved c) (pool : NamePool)
    (name : Text) (target : NamingCase) : c ∉ pool.wanted name target := fun hmem =>
  forall_mem_wanted hc.isKept (fun _ => hc.ne_hyphen.symm) pool
    (fun _ _ halphanumeric => hc.ne_of_isAlphanumeric halphanumeric) c hmem rfl

/-- Nor does it come back with a number. -/
theorem not_mem_of_mem_assign (hc : Identifier.IsRemoved c) {pool : NamePool}
    {spelling : NamingCase} {used names : List Text} {identifier : Text}
    (hmem : identifier ∈ assign (pool.wanted · spelling) used names) : c ∉ identifier := by
  have hdigit : ∀ d, Text.isAsciiDigit d = true → d ≠ c :=
    fun _ hd => hc.ne_of_isAlphanumeric (Text.isAlphanumeric_of_isAsciiDigit hd)
  exact fun hin => forall_mem_of_mem_assign hc.isKept (fun _ => hc.ne_hyphen.symm) hdigit
    (fun _ _ _ _ halphanumeric => hc.ne_of_isAlphanumeric halphanumeric) hmem c hin rfl

end Removed

theorem not_reserves_of_mem_assign {pool : NamePool} (hpool : pool.ReservesUnmarked)
    {target : NamingCase} {used names : List Text} {identifier : Text}
    (hmem : identifier ∈ assign (pool.wanted · target) used names) :
    ¬pool.Reserves identifier := by
  obtain ⟨taken, name, _, rfl⟩ := exists_resolveConflict_of_mem_assign hmem
  exact not_reserves_resolveConflict hpool taken (not_reserves_wanted hpool name target) _

theorem startsWithWord_of_mem_assign {pool : NamePool} {target : NamingCase}
    {used names : List Text} {identifier : Text}
    (hmem : identifier ∈ assign (pool.wanted · target) used names) :
    Identifier.startsWithWord identifier = true := by
  obtain ⟨taken, name, _, rfl⟩ := exists_resolveConflict_of_mem_assign hmem
  exact startsWithWord_resolveConflict taken (startsWithWord_wanted pool name target) _

end NamePool

/-! ## Fields -/

section Fields

variable {target : Target} {pool : NamePool} {spelling : NamingCase}
variable {fieldCase : Except GenerationError NamingCase}
variable {field : Schema.Field} {rest : List Schema.Field}
variable {scalar : Schema.Scalar} {nullable : Bool}

theorem declareFields_dropped {reason : Schema.Unsupported}
    (hshape : field.type.shape = .dropped reason) :
    declareFields target fieldCase pool (field :: rest) =
      (declareFields target fieldCase pool rest).cons (.dropped field.name reason) := by
  rw [declareFields, hshape]

theorem declareFields_invalidDefault {problem : DefaultProblem}
    (hshape : field.type.shape = .member scalar nullable)
    (hdefault : target.fieldDefault field scalar nullable = .error problem) :
    declareFields target fieldCase pool (field :: rest) =
      { outcomes := [], interruption := some (.invalidDefault field.name problem) } := by
  simp only [declareFields, hshape, hdefault]

theorem declareFields_failed {literal : Option Text} (error : GenerationError)
    (hshape : field.type.shape = .member scalar nullable)
    (hdefault : target.fieldDefault field scalar nullable = .ok literal) :
    declareFields target (.error error) pool (field :: rest) =
      { outcomes := [], interruption := some (.failed error) } := by
  simp only [declareFields, hshape, hdefault]

/-- The step of a field that becomes a member: its identifier is resolved against
the used ones and then used itself. -/
theorem declareFields_member {literal : Option Text}
    (hnew : pool.IsNew spelling field.name)
    (hshape : field.type.shape = .member scalar nullable)
    (hdefault : target.fieldDefault field scalar nullable = .ok literal) :
    let wanted := pool.wanted field.name spelling
    let identifier := NamePool.resolveConflict pool.used wanted NamePool.defaultSuffix
    declareFields target (.ok spelling) pool (field :: rest) =
      (declareFields target (.ok spelling)
          (pool.issue spelling field.name identifier) rest).cons
        (.member
          { name := identifier
            wireName := field.name
            typeName := target.memberType scalar nullable
            nullable
            defaultLiteral := literal }
          (if pool.isUsed wanted then some wanted else none)) := by
  intro wanted identifier
  simp only [declareFields, hshape, hdefault, declareMember,
    NamePool.sanitize_of_isNew hnew]
  rfl

/-- The outcomes of fields from a place on, with the identifiers that are used there: each member is
named against those before it, as if nothing was remembered, and the outcome says whether the
identifier it wanted was one of them. -/
inductive NamedInTurn (wish : Text → Text) : List Text → List FieldOutcome → Prop where
  | nil (used : List Text) : NamedInTurn wish used []
  | dropped {used : List Text} {outcomes : List FieldOutcome} (field : Text)
      (reason : Schema.Unsupported) (h : NamedInTurn wish used outcomes) :
      NamedInTurn wish used (.dropped field reason :: outcomes)
  | member {used : List Text} {outcomes : List FieldOutcome} {declaration : MemberDeclaration}
      (hname : declaration.name =
        NamePool.resolveConflict used (wish declaration.wireName) NamePool.defaultSuffix)
      (h : NamedInTurn wish (used ++ [declaration.name]) outcomes) :
      NamedInTurn wish used (.member declaration
        (if wish declaration.wireName ∈ used then some (wish declaration.wireName) else none) ::
          outcomes)

/-- The members are named in the order of the fields. -/
theorem declareFields_namedInTurn {fields : List Schema.Field}
    (hnodup : (fields.map (·.name)).Nodup)
    (hnew : ∀ field ∈ fields, pool.IsNew spelling field.name) :
    NamedInTurn (pool.wanted · spelling) pool.used
      (declareFields target (.ok spelling) pool fields).outcomes := by
  induction fields generalizing pool with
  | nil => exact .nil _
  | cons field rest ih =>
      rw [List.map_cons, List.nodup_cons] at hnodup
      obtain ⟨hfirst, hrest⟩ := hnodup
      have hnewRest : ∀ other ∈ rest, pool.IsNew spelling other.name :=
        fun other hother => hnew other (List.mem_cons_of_mem field hother)
      cases hshape : field.type.shape with
      | dropped reason =>
          rw [declareFields_dropped hshape]
          exact .dropped field.name reason (ih hrest hnewRest)
      | member scalar nullable =>
          cases hdefault : target.fieldDefault field scalar nullable with
          | error problem =>
              rw [declareFields_invalidDefault hshape hdefault]
              exact .nil _
          | ok literal =>
              let identifier := NamePool.resolveConflict pool.used
                (pool.wanted field.name spelling) NamePool.defaultSuffix
              have hother : ∀ other ∈ rest, other.name ≠ field.name :=
                fun other hmem heq => hfirst (List.mem_map.mpr ⟨other, hmem, heq⟩)
              -- The pool remembers the field, but no later one has its name.
              have hlater := @ih (pool.issue spelling field.name identifier) hrest
                fun other hmem => NamePool.isNew_issue (hnewRest other hmem)
                  (hother other hmem) identifier
              rw [declareFields_member (hnew field List.mem_cons_self) hshape hdefault]
              simp only [NamePool.isUsed, List.contains_iff_mem]
              exact .member rfl hlater

/-- Members that are named in turn have the names that are handed out to their fields. -/
theorem NamedInTurn.names {wish : Text → Text} {used : List Text} {outcomes : List FieldOutcome}
    (h : NamedInTurn wish used outcomes) :
    let members := outcomes.filterMap FieldOutcome.member?
    members.map (·.name) = NamePool.assign wish used (members.map (·.wireName)) := by
  induction h with
  | nil => rfl
  | dropped field reason h ih => exact ih
  | @member used outcomes declaration hname h ih =>
      refine (congrArg (declaration.name :: ·) ih).trans ?_
      rw [hname]
      rfl

/-- Without a usable naming case no field becomes a member. -/
theorem declareFields_error_members (error : GenerationError)
    (fields : List Schema.Field) :
    (declareFields target (.error error) pool fields).members = [] := by
  induction fields with
  | nil => rfl
  | cons field rest ih =>
      cases hshape : field.type.shape with
      | dropped reason =>
          rw [declareFields_dropped hshape]
          exact ih
      | member scalar nullable =>
          cases hdefault : target.fieldDefault field scalar nullable with
          | error problem => rw [declareFields_invalidDefault hshape hdefault]; rfl
          | ok literal => rw [declareFields_failed error hshape hdefault]; rfl

end Fields

end RecordSmith
