import RecordSmith.Proofs.Generation.Fields
import RecordSmith.Proofs.Generation.Names
import RecordSmith.Proofs.Target.Literal
import RecordSmith.Proofs.Text.Lines

/-!
# Lines in the languages

The languages differ in the characters that end a line of a source.  Conversion removes
all of them from identifiers and the escapes keep all of them out of literals, so no part
of a member breaks its line, whatever the schema holds.
-/

namespace RecordSmith

namespace Target

/-- The characters that end a line of a source. -/
def lineEnds : Target → List CodePoint
  | csharp => [0x0A, 0x0D, 0x85, 0x2028, 0x2029]
  | python => [0x0A, 0x0D]

/-- The text ends no line. -/
def OnOneLine (target : Target) (t : Text) : Prop := ∀ c ∈ t, c ∉ target.lineEnds

instance (target : Target) : DecidablePred target.OnOneLine :=
  fun t => inferInstanceAs (Decidable (∀ c ∈ t, c ∉ target.lineEnds))

section OnOneLine

variable {target : Target}

@[simp]
theorem onOneLine_append {s t : Text} :
    target.OnOneLine (s ++ t) ↔ target.OnOneLine s ∧ target.OnOneLine t :=
  List.forall_mem_append

@[simp]
theorem onOneLine_cons {c : CodePoint} {t : Text} :
    target.OnOneLine (c :: t) ↔ c ∉ target.lineEnds ∧ target.OnOneLine t :=
  List.forall_mem_cons

@[simp]
theorem onOneLine_nil : target.OnOneLine [] := List.forall_mem_nil _

theorem onOneLine_flatMap {f : CodePoint → Text} (hf : ∀ c, target.OnOneLine (f c))
    (t : Text) : target.OnOneLine (t.flatMap f) := by
  intro c hc
  obtain ⟨d, _, hmem⟩ := List.mem_flatMap.mp hc
  exact hf d c hmem

theorem not_mem_of_onOneLine {t : Text} (h : target.OnOneLine t) : 0x0A ∉ t := by
  intro hmem
  apply h 0x0A hmem
  cases target with
  | csharp => decide
  | python => decide

/-- Printable characters of the seven-bit range end no line. -/
theorem onOneLine_of_isPlain {t : Text} (h : t.IsPlain) : target.OnOneLine t := by
  have hends : ∀ d ∈ target.lineEnds, (d : Nat) < 0x20 ∨ (0x7F : Nat) ≤ d := by
    cases target with
    | csharp => decide
    | python => decide
  intro c hc hmem
  obtain ⟨hstart, hstop⟩ := h c hc
  rcases hends c hmem with hlow | hhigh
  · exact Nat.not_le_of_lt hlow hstart
  · exact Nat.not_le_of_lt hstop hhigh

end OnOneLine

/-! ## Lines of a source -/

/-- Cuts a text at everything that ends a line. -/
def cut (target : Target) (t : Text) : List Text := Text.splitOn (target.lineEnds.contains ·) t

/-- The lines of a source; CR LF ends one line, not two. -/
def lines (target : Target) (t : Text) : List Text := target.cut (Text.normalizeNewlines t)

/-- The text ends a line and is nothing else. -/
def IsLineBreak (target : Target) (ending : Text) : Prop :=
  ending = [0x0D, 0x0A] ∨ ∃ c ∈ target.lineEnds, ending = [c]

section Lines

variable {target : Target}

theorem contains_lineEnds_feed (target : Target) : target.lineEnds.contains 0x0A = true := by
  cases target with
  | csharp => decide
  | python => decide

theorem contains_lineEnds_return (target : Target) :
    target.lineEnds.contains 0x0D = true := by
  cases target with
  | csharp => decide
  | python => decide

theorem cut_of_onOneLine {t : Text} (h : target.OnOneLine t) : target.cut t = [t] :=
  Text.splitOn_of_free fun c hc => by simpa using h c hc

theorem exists_cut_append {lead : Text} (h : target.OnOneLine lead) (t : Text) :
    ∃ first others, target.cut t = first :: others ∧
      target.cut (lead ++ t) = (lead ++ first) :: others :=
  Text.exists_splitOn_append (fun c hc => by simpa using h c hc) t

/-- A line break becomes one line end, if nothing behind it belongs to it. -/
theorem exists_normalizeNewlines_lineBreak {ending t : Text} (h : target.IsLineBreak ending)
    (ht : ending = [0x0D] → 0x0A ∉ t) :
    ∃ c, target.lineEnds.contains c = true ∧
      Text.normalizeNewlines (ending ++ t) = c :: Text.normalizeNewlines t := by
  rcases h with rfl | ⟨c, hc, rfl⟩
  · exact ⟨0x0A, contains_lineEnds_feed target, rfl⟩
  · by_cases hreturn : c = 0x0D
    · subst hreturn
      refine ⟨0x0A, contains_lineEnds_feed target, ?_⟩
      cases t with
      | nil => rfl
      | cons d rest =>
          have hd : d ≠ 0x0A := fun heq => ht rfl (heq ▸ List.mem_cons_self)
          simp [Text.normalizeNewlines, Text.newlinesAfter, hd]
    · refine ⟨c, by simpa using hc, ?_⟩
      simp [Text.normalizeNewlines, Text.newlinesAfter, hreturn]

/-- Texts joined by line breaks have the lines of each of them, if no text ends in CR or
holds a line feed, which a line break might be part of. -/
theorem lines_join {ending : Text} (hending : target.IsLineBreak ending) {parts : List Text}
    (hne : parts ≠ []) (hparts : ∀ part ∈ parts, 0x0A ∉ part ∧ part.getLast? ≠ some 0x0D) :
    target.lines (Text.join ending parts) = parts.flatMap target.cut := by
  have hcut : ∀ {t : Text}, 0x0A ∉ t → target.cut (Text.normalizeNewlines t) = target.cut t :=
    Text.splitOn_normalizeNewlines (contains_lineEnds_return target)
      (contains_lineEnds_feed target)
  induction parts with
  | nil => exact absurd rfl hne
  | cons part rest ih =>
      obtain ⟨⟨hfeed, hlast⟩, hrest⟩ := List.forall_mem_cons.mp hparts
      cases rest with
      | nil => simp [Text.join, lines, hcut hfeed]
      | cons next others =>
          have hlater := ih (List.cons_ne_nil next others) hrest
          have hfree : ending = [0x0D] → 0x0A ∉ Text.join ending (next :: others) := by
            rintro rfl hmem
            rcases Text.mem_of_mem_join hmem with hreturn | ⟨other, hother, hin⟩
            · exact absurd hreturn (by decide)
            · exact (hrest other hother).1 hin
          obtain ⟨c, hc, hbreak⟩ := exists_normalizeNewlines_lineBreak hending hfree
          have hjoin : Text.join ending (part :: next :: others) =
              part ++ (ending ++ Text.join ending (next :: others)) := by
            simp [Text.join, List.intercalate_cons_cons]
          rw [hjoin, lines, Text.normalizeNewlines_append hlast, hbreak, cut,
            Text.splitOn_append_cons hc, List.flatMap_cons, ← hlater, ← hcut hfeed]
          rfl

end Lines

/-! ## Literals -/

/-- Every line end is below U+0020 or one of the wide ones, so its escape is a number. -/
theorem onOneLine_contractEscape (c : CodePoint) : csharp.OnOneLine (Contract.escape c) := by
  have hends : ∀ d ∈ csharp.lineEnds, Contract.needsNumber d = true := by decide
  rcases Contract.escape_cases c with hplain | ⟨heq, hshown⟩
  · exact onOneLine_of_isPlain hplain
  · rw [heq, onOneLine_cons]
    refine ⟨fun hmem => ?_, onOneLine_nil⟩
    rw [hends c hmem] at hshown
    cases hshown

theorem onOneLine_dataclassEscape (c : CodePoint) : python.OnOneLine (Dataclass.escape c) := by
  have hends : ∀ d ∈ python.lineEnds, d < 0x20 := by decide
  rcases Dataclass.escape_cases c with hplain | ⟨heq, hstart, _⟩
  · exact onOneLine_of_isPlain hplain
  · rw [heq, onOneLine_cons]
    exact ⟨fun hmem => Nat.not_le_of_lt (hends c hmem) hstart, onOneLine_nil⟩

/-- No string literal ends its line, whatever the text. -/
theorem onOneLine_textLiteral (target : Target) (t : Text) :
    target.OnOneLine (target.textLiteral t) := by
  have hquote : ∀ target : Target, target.OnOneLine [0x22] :=
    fun target => onOneLine_of_isPlain (by decide)
  cases target with
  | csharp =>
      have hescaped := onOneLine_flatMap onOneLine_contractEscape t
      exact onOneLine_append.mpr ⟨onOneLine_append.mpr ⟨hquote _, hescaped⟩, hquote _⟩
  | python =>
      have hescaped := onOneLine_flatMap onOneLine_dataclassEscape t
      exact onOneLine_append.mpr ⟨onOneLine_append.mpr ⟨hquote _, hescaped⟩, hquote _⟩

/-! ## Identifiers -/

/-- Conversion removes what ends a line from every name. -/
theorem isRemoved_of_mem_lineEnds {target : Target} {c : CodePoint}
    (h : c ∈ target.lineEnds) : Identifier.IsRemoved c := by
  have hpython : ∀ d ∈ python.lineEnds, d ∈ csharp.lineEnds := by decide
  have hwide : c ∈ csharp.lineEnds := by
    cases target with
    | csharp => exact h
    | python => exact hpython c h
  have hremoved : ∀ d ∈ csharp.lineEnds, Text.casingAvoids (Text.only d) = true ∧
      Text.isAlphanumeric d = false ∧ d ≠ Identifier.lowLine ∧ d ≠ 0x2D ∧
      d ∉ Identifier.fallback ∧ d ∉ Identifier.snake [] := by decide +kernel
  obtain ⟨hcasing, halphanumeric, hlow, hhyphen, hpascal, hsnake⟩ := hremoved c hwide
  exact ⟨hcasing, halphanumeric, hlow, hhyphen, hpascal, hsnake⟩

theorem onOneLine_of_mem_assign {target : Target} {pool : NamePool} {spelling : NamingCase}
    {used names : List Text} {identifier : Text}
    (hmem : identifier ∈ NamePool.assign (pool.wanted · spelling) used names) :
    target.OnOneLine identifier := fun _ hc hend =>
  NamePool.not_mem_of_mem_assign (isRemoved_of_mem_lineEnds hend) hmem hc

end Target

/-! ## Members -/

/-- Nothing that a member is called or declared with ends a line. -/
structure MemberDeclaration.OnOneLine (target : Target) (member : MemberDeclaration) : Prop where
  name : target.OnOneLine member.name
  typeName : target.OnOneLine member.typeName
  literal : ∀ literal ∈ member.defaultLiteral, target.OnOneLine literal

section Members

variable {target : Target} {field : Schema.Field} {member : MemberDeclaration}

/-- What a member declares ends no line as soon as its identifier ends none. -/
theorem MemberDeclaration.Declares.onOneLine (h : member.Declares target field)
    (hname : target.OnOneLine member.name) : member.OnOneLine target := by
  refine ⟨hname, Target.onOneLine_of_isPlain h.isPlain_typeName, fun literal hliteral => ?_⟩
  rcases h.literal_cases literal hliteral with hplain | ⟨t, rfl⟩
  · exact Target.onOneLine_of_isPlain hplain
  · exact target.onOneLine_textLiteral t

/-- The members of a declared type, with what their fields declare, end no line. -/
theorem Generator.declare_members {generator : Generator} {record : Schema.Record}
    {type : TypeDeclaration} (hnames : (record.fields.map (·.name)).Nodup)
    (hdeclare : generator.declare record = .ok type)
    (hfields : List.Forall₂ (MemberDeclaration.Declares generator.target)
      (record.fields.filter (·.Supported)) type.members) :
    ∀ member ∈ type.members, member.OnOneLine generator.target := by
  obtain ⟨spelling, wires, hassign⟩ := declare_names hnames hdeclare
  intro member hmember
  obtain ⟨field, _, hdeclares⟩ := exists_declares_of_mem hfields hmember
  apply hdeclares.onOneLine
  apply Target.onOneLine_of_mem_assign
  rw [← hassign]
  exact List.mem_map_of_mem hmember

end Members

end RecordSmith
