import RecordSmith.Proofs.Naming.Pool

/-!
# Requests to a name pool

A pool remembers its answers under the text `name_case_suffix`.  Two requests get
the same identifier exactly if they have the same key, whatever is asked in between
and whatever identifiers are taken out of circulation.  So identifiers tell requests
apart as long as keys do.
-/

namespace RecordSmith.NamePool

open RecordSmith.Text

/-- What a pool is asked for. -/
structure Request where
  name : Text
  target : NamingCase
  suffix : Text
  deriving DecidableEq

/-- The key of a request. -/
def Request.key (request : Request) : Text :=
  requestKey request.name request.target request.suffix

/-- One use of a pool: a request, or an identifier taken out of circulation. -/
inductive Use where
  | ask (request : Request)
  | take (identifier : Text)

/-- The request that a use makes. -/
def Use.request? : Use → Option Request
  | ask request => some request
  | take _ => none

/-- The requests among the uses of a pool, in order. -/
def requests (uses : List Use) : List Request := uses.filterMap Use.request?

/-- The answers to the requests among the uses of a pool, and the pool behind them. -/
def serve (pool : NamePool) : List Use → List (Request × Text) × NamePool
  | [] => ([], pool)
  | .ask request :: rest =>
    let (identifier, pool) := pool.sanitize request.name request.target request.suffix
    let (answers, pool) := serve pool rest
    ((request, identifier) :: answers, pool)
  | .take identifier :: rest => serve (pool.addUsed identifier) rest

/-- Answers tell requests apart: equal requests have equal answers and different
ones have different answers. -/
def Identifies (answers : List (Request × Text)) : Prop :=
  ∀ first ∈ answers, ∀ second ∈ answers, first.1 = second.1 ↔ first.2 = second.2

instance (answers : List (Request × Text)) : Decidable (Identifies answers) :=
  inferInstanceAs (Decidable (∀ first ∈ answers, ∀ second ∈ answers, _ ↔ _))

/-- No two different requests have one key. -/
def KeysDiffer (requests : List Request) : Prop :=
  ∀ first ∈ requests, ∀ second ∈ requests, first.key = second.key → first = second

/-! ## What a pool remembers -/

/-- Remembered identifiers are in use, and each of them under one key. -/
structure Consistent (pool : NamePool) : Prop where
  inUse : ∀ {key identifier}, pool.issued.lookup key = some identifier →
    identifier ∈ pool.used
  keyUnique : ∀ {key other identifier}, pool.issued.lookup key = some identifier →
    pool.issued.lookup other = some identifier → key = other

/-- Everything that is remembered stays remembered. -/
def Extends (pool later : NamePool) : Prop :=
  ∀ key identifier, pool.issued.lookup key = some identifier →
    later.issued.lookup key = some identifier

theorem Extends.trans {pool later last : NamePool} (h : pool.Extends later)
    (hlast : later.Extends last) : pool.Extends last :=
  fun key identifier hkey => hlast key identifier (h key identifier hkey)

theorem consistent_fresh (reservedWords builtinNames : List Text) :
    Consistent { reservedWords, builtinNames } where
  inUse := fun h => nomatch h
  keyUnique := fun h => nomatch h

section Uses

variable {pool : NamePool}

theorem addUsed_issued (identifier : Text) : (pool.addUsed identifier).issued = pool.issued := by
  rw [addUsed]
  split
  · rfl
  · rfl

theorem mem_used_addUsed {identifier other : Text} (h : other ∈ pool.used) :
    other ∈ (pool.addUsed identifier).used := by
  rw [addUsed]
  split
  · exact h
  · exact List.mem_append_left _ h

theorem Consistent.addUsed (h : pool.Consistent) (identifier : Text) :
    (pool.addUsed identifier).Consistent where
  inUse := fun hkey => mem_used_addUsed (h.inUse (addUsed_issued identifier ▸ hkey))
  keyUnique := fun hkey hother =>
    h.keyUnique (addUsed_issued identifier ▸ hkey) (addUsed_issued identifier ▸ hother)

/-- A request is answered from memory, or else with an identifier that was not in
use, which is then remembered. -/
theorem sanitize_cases (pool : NamePool) (request : Request) :
    (∃ identifier, pool.issued.lookup request.key = some identifier ∧
      pool.sanitize request.name request.target request.suffix = (identifier, pool)) ∨
    (pool.issued.lookup request.key = none ∧ ∃ identifier, identifier ∉ pool.used ∧
      pool.sanitize request.name request.target request.suffix =
        (identifier, { pool with
          used := pool.used ++ [identifier]
          issued := (request.key, identifier) :: pool.issued })) := by
  cases hlookup : pool.issued.lookup request.key with
  | some identifier =>
      left
      refine ⟨identifier, rfl, ?_⟩
      rw [Request.key] at hlookup
      simp only [sanitize, hlookup]
  | none =>
      right
      refine ⟨rfl, resolveConflict pool.used (pool.escapeReserved
        (Identifier.convert request.name request.target) request.suffix) request.suffix,
        resolveConflict_not_mem _ _ _, ?_⟩
      exact sanitize_of_lookup_eq_none hlookup

/-- A new identifier under a new key keeps the pool consistent. -/
theorem Consistent.issue (h : pool.Consistent) {key identifier : Text}
    (hfree : identifier ∉ pool.used) :
    Consistent { pool with
      used := pool.used ++ [identifier]
      issued := (key, identifier) :: pool.issued } := by
  have hold : ∀ {other found : Text}, other ≠ key →
      ((key, identifier) :: pool.issued).lookup other = some found →
      pool.issued.lookup other = some found := by
    intro other found hne hlookup
    rwa [List.lookup_cons, beq_false_of_ne hne] at hlookup
  have hnew : ∀ {found : Text},
      ((key, identifier) :: pool.issued).lookup key = some found → identifier = found := by
    intro found hlookup
    rwa [List.lookup_cons_self, Option.some.injEq] at hlookup
  constructor
  · intro other found hlookup
    apply List.mem_append.mpr
    by_cases hother : other = key
    · subst hother
      exact Or.inr (List.mem_singleton.mpr (hnew hlookup).symm)
    · exact Or.inl (h.inUse (hold hother hlookup))
  · intro first second found hfirst hsecond
    by_cases hfirstKey : first = key
    · subst hfirstKey
      by_cases hsecondKey : second = first
      · exact hsecondKey.symm
      · -- An identifier that was remembered before was in use and is not the new one.
        have hused := h.inUse (hold hsecondKey hsecond)
        exact absurd (hnew hfirst ▸ hused) hfree
    · by_cases hsecondKey : second = key
      · subst hsecondKey
        have hused := h.inUse (hold hfirstKey hfirst)
        exact absurd (hnew hsecond ▸ hused) hfree
      · exact h.keyUnique (hold hfirstKey hfirst) (hold hsecondKey hsecond)

/-- One request: the answer is remembered, and so is all that was. -/
theorem sanitize_remembers (h : pool.Consistent) (request : Request) :
    let (identifier, later) := pool.sanitize request.name request.target request.suffix
    later.Consistent ∧ pool.Extends later ∧
      later.issued.lookup request.key = some identifier := by
  rcases pool.sanitize_cases request with ⟨_, hlookup, heq⟩ | ⟨hlookup, _, hfree, heq⟩
  · rw [heq]
    exact ⟨h, fun _ _ hkey => hkey, hlookup⟩
  · rw [heq]
    refine ⟨h.issue hfree, ?_, List.lookup_cons_self⟩
    intro key found hkey
    have hne : key ≠ request.key := by
      rintro rfl
      rw [hlookup] at hkey
      cases hkey
    rw [List.lookup_cons, beq_false_of_ne hne]
    exact hkey

/-- Any number of uses: behind them all the answers are remembered. -/
theorem serve_remembers (h : pool.Consistent) (uses : List Use) :
    (pool.serve uses).2.Consistent ∧ pool.Extends (pool.serve uses).2 ∧
      ∀ answer ∈ (pool.serve uses).1,
        (pool.serve uses).2.issued.lookup answer.1.key = some answer.2 := by
  induction uses generalizing pool with
  | nil => exact ⟨h, fun _ _ hkey => hkey, fun _ hmem => nomatch hmem⟩
  | cons use rest ih =>
      cases use with
      | take identifier =>
          obtain ⟨hconsistent, hextends, hanswers⟩ := ih (h.addUsed identifier)
          refine ⟨hconsistent, fun key found hkey => hextends key found ?_, hanswers⟩
          rw [addUsed_issued]
          exact hkey
      | ask request =>
          obtain ⟨hnext, hfirst, hanswer⟩ := sanitize_remembers h request
          obtain ⟨hconsistent, hextends, hanswers⟩ := ih hnext
          refine ⟨hconsistent, hfirst.trans hextends, fun answer hmem => ?_⟩
          rcases List.mem_cons.mp hmem with rfl | hrest
          · exact hextends _ _ hanswer
          · exact hanswers answer hrest

theorem map_fst_serve (pool : NamePool) (uses : List Use) :
    (pool.serve uses).1.map Prod.fst = requests uses := by
  induction uses generalizing pool with
  | nil => rfl
  | cons use rest ih =>
      cases use with
      | take identifier => exact ih (pool.addUsed identifier)
      | ask request =>
          have hrest := ih (pool.sanitize request.name request.target request.suffix).2
          exact congrArg (request :: ·) hrest

/-- Two answers of one pool are equal exactly if the keys of the requests are. -/
theorem answer_eq_iff (h : pool.Consistent) {uses : List Use} {first second : Request × Text}
    (hfirst : first ∈ (pool.serve uses).1) (hsecond : second ∈ (pool.serve uses).1) :
    first.2 = second.2 ↔ first.1.key = second.1.key := by
  obtain ⟨hconsistent, _, hanswers⟩ := serve_remembers h uses
  have hfirstKey := hanswers first hfirst
  have hsecondKey := hanswers second hsecond
  constructor
  · intro hanswer
    rw [hanswer] at hfirstKey
    exact hconsistent.keyUnique hfirstKey hsecondKey
  · intro hkey
    rw [hkey, hsecondKey, Option.some.injEq] at hfirstKey
    exact hfirstKey.symm

end Uses

/-- The identifiers of a pool tell its requests apart if and only if their keys do. -/
theorem serve_identifies_iff (reservedWords builtinNames : List Text) (uses : List Use) :
    Identifies (serve { reservedWords, builtinNames } uses).1 ↔ KeysDiffer (requests uses) := by
  have hfresh := consistent_fresh reservedWords builtinNames
  rw [← map_fst_serve { reservedWords, builtinNames } uses]
  constructor
  · intro hidentifies request hrequest other hother hkey
    obtain ⟨first, hfirst, rfl⟩ := List.mem_map.mp hrequest
    obtain ⟨second, hsecond, rfl⟩ := List.mem_map.mp hother
    apply (hidentifies first hfirst second hsecond).mpr
    exact (answer_eq_iff hfresh hfirst hsecond).mpr hkey
  · intro hkeys first hfirst second hsecond
    rw [answer_eq_iff hfresh hfirst hsecond]
    constructor
    · exact congrArg Request.key
    · exact hkeys _ (List.mem_map_of_mem hfirst) _ (List.mem_map_of_mem hsecond)

/-- Two requests whose words and cases make one key. -/
def screamingUses : List Use :=
  [.ask ⟨"a", .screamingSnake, defaultSuffix⟩, .ask ⟨"a_screaming", .snake, defaultSuffix⟩]

/-- The second request is answered with the identifier of the first. -/
theorem screamingUses_not_identified : ¬Identifies (serve {} screamingUses).1 := by
  decide +kernel

/-! ## Keys with one suffix -/

/-- The parts of the name of a case before and behind its last low line. -/
def caseParts : NamingCase → Text × Text
  | .snake => ([], "snake")
  | .camel => ([], "camel")
  | .pascal => ([], "pascal")
  | .kebab => ([], "kebab")
  | .screamingSnake => ("_screaming", "snake")

theorem append_name_eq (name : Text) (target : NamingCase) :
    name ++ "_" ++ target.name =
      name ++ (caseParts target).1 ++ Identifier.lowLine :: (caseParts target).2 := by
  cases target with
  | screamingSnake =>
      rw [List.append_assoc, List.append_assoc]
      rfl
  | _ =>
      rw [List.append_assoc]
      simp only [caseParts, List.append_nil]
      rfl

theorem lowLine_not_mem_caseParts (target : NamingCase) :
    Identifier.lowLine ∉ (caseParts target).2 := by
  cases target <;> decide

/-- Only the snake case and the screaming one end in the same word. -/
theorem caseParts_snd_eq_iff {target other : NamingCase} :
    (caseParts target).2 = (caseParts other).2 ↔
      target = other ∨ (target = .screamingSnake ∧ other = .snake) ∨
        (target = .snake ∧ other = .screamingSnake) := by
  cases target <;> cases other <;> decide

/-- The key without the suffix says what stands before the last word of the case, and
that word. -/
theorem requestKey_eq_iff_parts {name other suffix : Text} {target otherTarget : NamingCase} :
    requestKey name target suffix = requestKey other otherTarget suffix ↔
      name ++ (caseParts target).1 = other ++ (caseParts otherTarget).1 ∧
        (caseParts target).2 = (caseParts otherTarget).2 := by
  rw [requestKey, requestKey, List.append_left_inj, List.append_left_inj,
    append_name_eq, append_name_eq]
  constructor
  · intro h
    have hsplit := splitLast?_append (name ++ (caseParts target).1)
      (lowLine_not_mem_caseParts target)
    rw [h, splitLast?_append _ (lowLine_not_mem_caseParts otherTarget),
      Option.some.injEq, Prod.mk.injEq] at hsplit
    exact ⟨hsplit.1.symm, hsplit.2.symm⟩
  · intro ⟨hbefore, hafter⟩
    rw [hbefore, hafter]

/-- Two requests with one suffix have the same key only if they are equal, or if one
is for the screaming case and the other for the snake case of the name behind which
`_screaming` is put. -/
theorem requestKey_eq_iff {name other suffix : Text} {target otherTarget : NamingCase} :
    requestKey name target suffix = requestKey other otherTarget suffix ↔
      (name = other ∧ target = otherTarget) ∨
      (target = .screamingSnake ∧ otherTarget = .snake ∧ other = name ++ "_screaming") ∨
      (target = .snake ∧ otherTarget = .screamingSnake ∧ name = other ++ "_screaming") := by
  rw [requestKey_eq_iff_parts, caseParts_snd_eq_iff]
  constructor
  · rintro ⟨hnames, rfl | ⟨rfl, rfl⟩ | ⟨rfl, rfl⟩⟩
    · exact Or.inl ⟨List.append_cancel_right hnames, rfl⟩
    · exact Or.inr (Or.inl ⟨rfl, rfl, by simpa [caseParts] using hnames.symm⟩)
    · exact Or.inr (Or.inr ⟨rfl, rfl, by simpa [caseParts] using hnames⟩)
  · rintro (⟨rfl, rfl⟩ | ⟨rfl, rfl, rfl⟩ | ⟨rfl, rfl, rfl⟩)
    · exact ⟨rfl, Or.inl rfl⟩
    · exact ⟨by simp [caseParts], Or.inr (Or.inl ⟨rfl, rfl⟩)⟩
    · exact ⟨by simp [caseParts], Or.inr (Or.inr ⟨rfl, rfl⟩)⟩

/-- Among requests with one suffix only a name in the screaming case and the one with
`_screaming` in the snake case can be mistaken for each other. -/
theorem keysDiffer_iff_of_one_suffix {requests : List Request} {suffix : Text}
    (hsuffix : ∀ request ∈ requests, request.suffix = suffix) :
    KeysDiffer requests ↔ ∀ name, ⟨name, .screamingSnake, suffix⟩ ∈ requests →
      ⟨name ++ "_screaming", .snake, suffix⟩ ∉ requests := by
  constructor
  · intro hkeys name hscreaming hsnake
    have hkey : requestKey name .screamingSnake suffix =
        requestKey (name ++ "_screaming") .snake suffix :=
      requestKey_eq_iff.mpr (Or.inr (Or.inl ⟨rfl, rfl, rfl⟩))
    cases congrArg Request.target (hkeys _ hscreaming _ hsnake hkey)
  · intro happart first hfirst second hsecond hkey
    obtain ⟨name, target, _⟩ := first
    obtain ⟨other, otherTarget, _⟩ := second
    cases hsuffix _ hfirst
    cases hsuffix _ hsecond
    rcases requestKey_eq_iff.mp hkey with ⟨rfl, rfl⟩ | ⟨rfl, rfl, rfl⟩ | ⟨rfl, rfl, rfl⟩
    · rfl
    · exact absurd hsecond (happart name hfirst)
    · exact absurd hfirst (happart other hsecond)

end RecordSmith.NamePool
