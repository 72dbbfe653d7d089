import Mathlib.Data.List.Induction
import RecordSmith.Proofs.Target.Lines

/-!
# XML text

Documentation stands in C# sources as XML text.  Ampersands and angle brackets become entities, so
that an ampersand in the result always starts one, and undoing the entities from left to right
restores the text.  White space passes through unchanged: trimming commutes with escaping.
-/

namespace RecordSmith.Contract

/-- The entities of XML text, with the characters that they stand for. -/
def entities : List (Text × CodePoint) := [("&amp;", 0x26), ("&lt;", 0x3C), ("&gt;", 0x3E)]

/-- Undoes entities from left to right; `skip` counts the characters of an entity that are still to
be passed over. -/
def undoFrom : Nat → Text → Text
  | _, [] => []
  | skip + 1, _ :: rest => undoFrom skip rest
  | 0, c :: rest =>
    match entities.find? fun entity => entity.1.isPrefixOf (c :: rest) with
    | some (name, d) => d :: undoFrom (name.length - 1) rest
    | none => c :: undoFrom 0 rest

/-- The text that XML text stands for. -/
def undoXml (t : Text) : Text := undoFrom 0 t

/-- The text holds no angle bracket, and every ampersand in it starts an entity. -/
structure IsXmlText (t : Text) : Prop where
  bracketFree : ∀ c ∈ t, c ≠ 0x3C ∧ c ≠ 0x3E
  ampersand : ∀ rest, 0x26 :: rest <:+ t → ∃ entity ∈ entities, entity.1 <+: 0x26 :: rest

/-! ## Characters -/

/-- The characters that do not stand for themselves in XML text. -/
def isMarkup (c : CodePoint) : Bool := c == 0x26 || c == 0x3C || c == 0x3E

/-- A character becomes its entity or stands for itself, unless it is a surrogate. -/
theorem escapeXml_cases (c : CodePoint) :
    (∃ entity ∈ entities, c = entity.2 ∧ escapeXml c = entity.1) ∨
      escapeXml c = [Text.replaceSurrogate c] ∧ isMarkup (Text.replaceSurrogate c) = false := by
  rw [escapeXml, Text.replaceSurrogate]
  by_cases hsurrogate : Text.isSurrogate c = true
  · rw [if_pos hsurrogate, if_pos hsurrogate]
    exact Or.inr ⟨rfl, by decide⟩
  · rw [if_neg hsurrogate, if_neg hsurrogate, isMarkup]
    split
    case isTrue hc => exact Or.inl ⟨("&amp;", 0x26), by decide, eq_of_beq hc, rfl⟩
    case isFalse hamp =>
      split
      case isTrue hc => exact Or.inl ⟨("&lt;", 0x3C), by decide, eq_of_beq hc, rfl⟩
      case isFalse hless =>
        split
        case isTrue hc => exact Or.inl ⟨("&gt;", 0x3E), by decide, eq_of_beq hc, rfl⟩
        case isFalse hgreater => exact Or.inr ⟨rfl, by simp [hamp, hless, hgreater]⟩

/-- An entity starts with an ampersand, and nothing else in it is markup. -/
theorem entity_eq_cons : ∀ entity ∈ entities,
    entity.1 = 0x26 :: entity.1.tail ∧ ∀ c ∈ entity.1.tail, isMarkup c = false := by decide

/-! ## Ampersands -/

theorem IsXmlText.append_plain {s t : Text} (ht : IsXmlText t)
    (hs : ∀ c ∈ s, isMarkup c = false) : IsXmlText (s ++ t) := by
  induction s with
  | nil => exact ht
  | cons c s ih =>
      obtain ⟨hc, hrest⟩ := List.forall_mem_cons.mp hs
      have hlater := ih hrest
      simp only [isMarkup, Bool.or_eq_false_iff, beq_eq_false_iff_ne] at hc
      constructor
      case bracketFree =>
        exact List.forall_mem_cons.mpr ⟨⟨hc.1.2, hc.2⟩, hlater.bracketFree⟩
      case ampersand =>
        intro rest hsuffix
        rcases List.suffix_cons_iff.mp hsuffix with heq | hsuffix
        · exact absurd (List.cons.inj heq).1.symm hc.1.1
        · exact hlater.ampersand rest hsuffix

theorem IsXmlText.append_entity {t : Text} (ht : IsXmlText t) {entity : Text × CodePoint}
    (hentity : entity ∈ entities) : IsXmlText (entity.1 ++ t) := by
  obtain ⟨hcons, hplain⟩ := entity_eq_cons entity hentity
  have hlater := ht.append_plain hplain
  rw [hcons]
  constructor
  case bracketFree =>
    exact List.forall_mem_cons.mpr ⟨by decide, hlater.bracketFree⟩
  case ampersand =>
    intro rest hsuffix
    rcases List.suffix_cons_iff.mp hsuffix with heq | hsuffix
    · refine ⟨entity, hentity, ?_⟩
      rw [heq, hcons]
      exact List.prefix_append _ t
    · exact hlater.ampersand rest hsuffix

theorem isXmlText_xmlText (t : Text) : IsXmlText (xmlText t) := by
  induction t with
  | nil => exact ⟨List.forall_mem_nil _, fun rest h => absurd (List.suffix_nil.mp h) (by simp)⟩
  | cons c t ih =>
      rw [xmlText, List.flatMap_cons]
      rcases escapeXml_cases c with ⟨entity, hentity, _, heq⟩ | ⟨heq, hplain⟩
      · rw [heq]
        exact ih.append_entity hentity
      · rw [heq]
        exact ih.append_plain (List.forall_mem_singleton.mpr hplain)

/-! ## Undoing -/

theorem undoFrom_escapeXml (c : CodePoint) (rest : Text) :
    undoFrom 0 (escapeXml c ++ rest) = Text.replaceSurrogate c :: undoFrom 0 rest := by
  have hentities : ∀ entity ∈ entities, ∀ rest,
      undoFrom 0 (entity.1 ++ rest) = Text.replaceSurrogate entity.2 :: undoFrom 0 rest := by
    simp only [entities, List.forall_mem_cons]
    exact ⟨fun _ => rfl, fun _ => rfl, fun _ => rfl, List.forall_mem_nil _⟩
  rcases escapeXml_cases c with ⟨entity, hentity, rfl, heq⟩ | ⟨heq, hplain⟩
  · rw [heq]
    exact hentities entity hentity rest
  · have hnone : entities.find? (fun entity =>
        entity.1.isPrefixOf (Text.replaceSurrogate c :: rest)) = none := by
      rw [List.find?_eq_none]
      intro entity hentity hprefix
      rw [(entity_eq_cons entity hentity).1, List.isPrefixOf_iff_prefix,
        List.cons_prefix_cons] at hprefix
      rw [← hprefix.1] at hplain
      cases hplain
    rw [heq, List.singleton_append, undoFrom, hnone]

/-- Undoing the entities restores every text, surrogates apart. -/
theorem undoXml_xmlText (t : Text) : undoXml (xmlText t) = t.replaceSurrogates := by
  induction t with
  | nil => rfl
  | cons c t ih =>
      rw [undoXml] at ih
      rw [undoXml, xmlText, List.flatMap_cons, undoFrom_escapeXml, ← xmlText, ih]
      rfl

/-! ## White space -/

theorem escapeXml_of_isBlank {c : CodePoint} (h : Text.isBlank c = true) : escapeXml c = [c] := by
  have hlow : ∀ range ∈ Text.blankRanges, range.2 < 0xD800 := by decide
  have hsolid : ∀ entity ∈ entities, Text.isBlank entity.2 = false := by decide
  rcases escapeXml_cases c with ⟨entity, hentity, rfl, _⟩ | ⟨heq, _⟩
  · rw [hsolid entity hentity] at h
    cases h
  · obtain ⟨range, hrange, _, hle⟩ := Text.inRanges_iff.mp h
    have hsurrogate : Text.isSurrogate c = false :=
      Text.isSurrogate_eq_false_iff.mpr (Or.inl (Nat.lt_of_le_of_lt hle (hlow range hrange)))
    rw [heq, Text.replaceSurrogate, hsurrogate]
    rfl

theorem endsSolid_escapeXml {c : CodePoint} (h : Text.isBlank c = false) :
    Text.EndsSolid (escapeXml c) := by
  have hsemicolon : ∀ entity ∈ entities, entity.1 = entity.1.dropLast ++ [0x3B] := by decide
  rcases escapeXml_cases c with ⟨entity, hentity, _, heq⟩ | ⟨heq, _⟩
  · exact ⟨entity.1.dropLast, 0x3B, heq.trans (hsemicolon entity hentity), by decide⟩
  · refine ⟨[], Text.replaceSurrogate c, heq, ?_⟩
    rw [Text.replaceSurrogate]
    split
    case isTrue => decide
    case isFalse => exact h

/-- Escaping leaves white space as it is and puts none at the end. -/
theorem trimEnd_xmlText (t : Text) : Text.trimEnd (xmlText t) = xmlText (Text.trimEnd t) := by
  induction t using List.reverseRecOn with
  | nil => rfl
  | append_singleton t c ih =>
      have hshown : xmlText (t ++ [c]) = xmlText t ++ escapeXml c := by simp [xmlText]
      rw [hshown, Text.trimEnd_append, Text.trimEnd_append]
      cases hc : Text.isBlank c with
      | true =>
          have hblank : Text.trimEnd [c] = [] := by simp [Text.trimEnd, hc]
          rw [escapeXml_of_isBlank hc, if_pos hblank, if_pos hblank, ih]
      | false =>
          have hsolid := endsSolid_escapeXml hc
          have hsingle : Text.EndsSolid [c] := ⟨[], c, rfl, hc⟩
          rw [hsolid.trimEnd_eq, hsingle.trimEnd_eq, if_neg hsolid.ne_nil,
            if_neg hsingle.ne_nil, hshown]

theorem onOneLine_xmlText {t : Text} (h : Target.csharp.OnOneLine t) :
    Target.csharp.OnOneLine (xmlText t) := by
  have hentities : ∀ entity ∈ entities, Target.csharp.OnOneLine entity.1 := by decide
  intro d hd
  obtain ⟨c, hc, hmem⟩ := List.mem_flatMap.mp hd
  rcases escapeXml_cases c with ⟨entity, hentity, _, heq⟩ | ⟨heq, _⟩
  · exact hentities entity hentity d (heq ▸ hmem)
  · rw [heq, List.mem_singleton, Text.replaceSurrogate] at hmem
    split at hmem
    case isTrue => exact hmem ▸ by decide
    case isFalse => exact hmem ▸ h c hc

/-! ## Replacing -/

/-- Escaping character by character is replacing the markup characters one after the other,
ampersands first, once the surrogates are replaced. -/
theorem xmlText_eq_replace (t : Text) :
    xmlText t = Text.replace [0x3E] "&gt;" (Text.replace [0x3C] "&lt;"
      (Text.replace [0x26] "&amp;" t.replaceSurrogates)) := by
  simp only [Text.replace_singleton, Text.replaceSurrogates, List.flatMap_map,
    List.flatMap_assoc, xmlText]
  congr 1
  funext c
  rcases escapeXml_cases c with ⟨entity, hentity, rfl, heq⟩ | ⟨heq, hplain⟩
  · rw [heq]
    clear heq
    revert entity
    decide
  · simp only [isMarkup, Bool.or_eq_false_iff, beq_eq_false_iff_ne] at hplain
    simp [heq, hplain]

end RecordSmith.Contract
