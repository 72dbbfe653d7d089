import RecordSmith.Proofs.Generation.Fields
import RecordSmith.Proofs.Json.Writer
import RecordSmith.Proofs.Text.Basic

/-!
# Characters of literals

What stands in a literal is printable in the seven-bit range, or it is a character of the text that
the literal shows as it is.  Characters that end a line and surrogates are never shown as they are.
Comments and documentation show more of a text, but no surrogate either.
-/

namespace RecordSmith

/-! ## Escapes -/

namespace Contract

/-- An escape is plain, unless it is the character itself, which needs no number then. -/
theorem escape_cases (c : CodePoint) :
    (escape c).IsPlain ∨ escape c = [c] ∧ needsNumber c = false := by
  have hletters : ∀ entry ∈ letterEscapes, Text.IsPlain [0x5C, entry.2] := by decide
  rw [escape]
  split
  case h_1 letter hletter =>
    obtain ⟨before, after, hsplit, _⟩ := List.lookup_eq_some_iff.mp hletter
    exact Or.inl (hletters (c, letter) (by simp [hsplit]))
  case h_2 =>
    split
    case isTrue => exact Or.inl (Text.isPlain_numberEscape c)
    case isFalse hshown => exact Or.inr ⟨rfl, Bool.eq_false_iff.mpr hshown⟩

theorem surrogateFree_escape (c : CodePoint) : (escape c).SurrogateFree := by
  rcases escape_cases c with hplain | ⟨heq, hshown⟩
  · exact hplain.surrogateFree
  · rw [needsNumber, Bool.or_eq_false_iff] at hshown
    rw [heq]
    exact List.forall_mem_singleton.mpr hshown.2

theorem surrogateFree_xmlText (t : Text) : (xmlText t).SurrogateFree := by
  refine Text.surrogateFree_flatMap fun c _ => ?_
  rw [escapeXml]
  split
  case isTrue => decide
  case isFalse hc =>
    split; · decide
    split; · decide
    split; · decide
    exact List.forall_mem_singleton.mpr (Bool.eq_false_iff.mpr hc)

end Contract

namespace Dataclass

/-- An escape is plain, unless it is the character itself, which is no control character and no
surrogate then. -/
theorem escape_cases (c : CodePoint) :
    (escape c).IsPlain ∨ escape c = [c] ∧ 0x20 ≤ c ∧ Text.isSurrogate c = false := by
  rw [escape]
  split
  case isTrue => exact Or.inl (Text.isPlain_numberEscape c)
  case isFalse hsurrogate =>
    exact (Json.escape_cases c).imp_right fun ⟨heq, hstart⟩ =>
      ⟨heq, hstart, Bool.eq_false_iff.mpr hsurrogate⟩

theorem surrogateFree_escape (c : CodePoint) : (escape c).SurrogateFree := by
  rcases escape_cases c with hplain | ⟨heq, _, hshown⟩
  · exact hplain.surrogateFree
  · rw [heq]
    exact List.forall_mem_singleton.mpr hshown

theorem surrogateFree_docstring (t : Text) : (docstring t).SurrogateFree := by
  have hescaped : ∀ c, (escapeDoc c).SurrogateFree := by
    intro c
    rw [escapeDoc]
    split
    case isTrue => decide
    case isFalse hc =>
      split; · decide
      exact List.forall_mem_singleton.mpr (Bool.eq_false_iff.mpr hc)
  intro c hc
  rcases Text.mem_of_mem_replace hc with hquotes | hmem
  · exact (by decide : escapedTripleQuote.SurrogateFree) c hquotes
  · exact Text.surrogateFree_flatMap (fun d _ => hescaped d) c hmem

end Dataclass

/-! ## Literals -/

namespace Target

theorem surrogateFree_textLiteral (target : Target) (t : Text) :
    (target.textLiteral t).SurrogateFree := by
  have hquote : Text.isSurrogate 0x22 = false := by decide
  cases target with
  | csharp =>
      have hescaped := Text.surrogateFree_flatMap fun c (_ : c ∈ t) =>
        Contract.surrogateFree_escape c
      simp [textLiteral, Contract.stringLiteral, hquote, hescaped]
  | python =>
      have hescaped := Text.surrogateFree_flatMap fun c (_ : c ∈ t) =>
        Dataclass.surrogateFree_escape c
      simp [textLiteral, Dataclass.stringLiteral, hquote, hescaped]

/-- The literal of a default is plain, unless it is that of a text. -/
theorem defaultLiteral_cases {target : Target} {scalar : Schema.Scalar} {nullable : Bool}
    {value : Value} {literal : Text}
    (h : target.defaultLiteral scalar nullable value = .ok literal) :
    literal.IsPlain ∨ ∃ t, literal = target.textLiteral t := by
  unfold defaultLiteral at h
  split at h
  case h_1 =>
    split at h
    · cases h
      cases target with
      | csharp | python => exact Or.inl (by decide)
    · cases h
  case h_2 =>
    cases h
    exact Or.inr ⟨_, rfl⟩
  case h_3 b =>
    cases h
    cases target with
    | csharp | python =>
        cases b with
        | true | false => exact Or.inl (by decide)
  case h_4 => cases h

theorem isPlain_memberType (target : Target) (scalar : Schema.Scalar) (nullable : Bool) :
    (target.memberType scalar nullable).IsPlain := by
  cases target with
  | csharp | python =>
      cases scalar with
      | string | boolean =>
          cases nullable with
          | true | false => decide

end Target

/-! ## Members -/

namespace MemberDeclaration.Declares

variable {target : Target} {field : Schema.Field} {member : MemberDeclaration}

theorem isPlain_typeName (h : member.Declares target field) : member.typeName.IsPlain := by
  obtain ⟨scalar, _, htype, _⟩ := h.typed
  exact htype ▸ target.isPlain_memberType scalar _

theorem literal_cases (h : member.Declares target field) :
    ∀ literal ∈ member.defaultLiteral,
      literal.IsPlain ∨ ∃ t, literal = target.textLiteral t := by
  obtain ⟨scalar, _, _, hdefault⟩ := h.typed
  intro literal hliteral
  rw [Option.mem_def.mp hliteral, Target.fieldDefault] at hdefault
  split at hdefault
  case h_1 => cases hdefault
  case h_2 value _ =>
    obtain ⟨found, hfound, heq⟩ := Fallible.map_eq_ok_iff.mp hdefault
    cases heq
    exact Target.defaultLiteral_cases hfound

end MemberDeclaration.Declares

end RecordSmith
