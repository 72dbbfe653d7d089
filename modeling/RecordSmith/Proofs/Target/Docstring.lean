import Mathlib.Data.List.DropRight
import RecordSmith.Generation.Basic
import RecordSmith.Proofs.Generator.Standard
import RecordSmith.Proofs.Target.LiteralForm

/-!
# Documentation of classes

The documentation of a class is a literal between triple quotation marks.  Only complete triples of
quotation marks are escaped in it, from left to right.  What is left of a run of them is harmless
before another character, but at the end of the documentation it joins the closing delimiter: the
literal is closed too early, and as many quotation marks are left behind it.
-/

namespace RecordSmith

namespace Dataclass

/-- The literals between triple quotation marks, with the escapes of documentation. -/
def docForm : LiteralForm where
  delimiter := tripleQuote
  letters := [(0x5C, 0x5C), (0x22, 0x22)]
  numbered := false

/-- How many quotation marks stand at the end of a text. -/
def finalQuotes (t : Text) : Nat := (t.rtakeWhile (· == 0x22)).length

/-- How many quotation marks at the end of a text are left when triples are taken away. -/
def looseQuotes (t : Text) : Nat := finalQuotes t % 3

/-! ## Complete triples -/

/-- A text consists of complete triples of quotation marks, taken from left to right, and of
other characters. -/
@[elab_as_elim]
theorem tripleQuote_induction {motive : Text → Prop} (nil : motive [])
    (triple : ∀ t, motive t → motive (tripleQuote ++ t))
    (other : ∀ c t, ¬tripleQuote <+: c :: t → motive t → motive (c :: t)) (t : Text) :
    motive t := by
  induction hlength : t.length using Nat.strongRecOn generalizing t with
  | ind length ih =>
      cases t with
      | nil => exact nil
      | cons c t =>
          by_cases hprefix : tripleQuote <+: c :: t
          · obtain ⟨after, heq⟩ := hprefix
            have hshorter : after.length < length := by
              rw [← hlength, ← heq, List.length_append]
              exact Nat.lt_add_of_pos_left (by decide)
            exact heq ▸ triple after (ih after.length hshorter after rfl)
          · exact other c t hprefix (ih t.length (by simp [← hlength]) t rfl)

theorem not_tripleQuote_prefix_cons {c : CodePoint} {t : Text} (hc : c ≠ 0x22) :
    ¬tripleQuote <+: c :: t :=
  docForm.not_delimiter_prefix_cons hc

theorem exists_escapeDoc (c : CodePoint) : ∃ d others, escapeDoc c = d :: others := by
  rw [escapeDoc]
  split
  case isTrue => exact ⟨_, _, rfl⟩
  case isFalse =>
    split
    case isTrue => exact ⟨_, _, rfl⟩
    case isFalse => exact ⟨_, _, rfl⟩

theorem not_mem_escapeDoc {c : CodePoint} (hc : c ≠ 0x22) : 0x22 ∉ escapeDoc c := by
  rw [escapeDoc]
  split
  case isTrue => decide
  case isFalse =>
    split
    case isTrue => decide
    case isFalse => exact fun hmem => hc (List.mem_singleton.mp hmem).symm

/-- Escaped character by character, a text starts with as many quotation marks as before. -/
theorem quotes_prefix_flatMap_iff (count : Nat) {t : Text} :
    List.replicate count 0x22 <+: t.flatMap escapeDoc ↔ List.replicate count 0x22 <+: t := by
  induction count generalizing t with
  | zero => simp
  | succ count ih =>
      cases t with
      | nil => rfl
      | cons c t =>
          rw [List.replicate_succ, List.flatMap_cons]
          by_cases hc : c = 0x22
          · subst hc
            simp [escapeDoc, Text.isSurrogate, ih]
          · obtain ⟨d, others, heq⟩ := exists_escapeDoc c
            have hd : d ≠ 0x22 := by
              rintro rfl
              exact not_mem_escapeDoc hc (heq ▸ List.mem_cons_self)
            simp [heq, Ne.symm hc, Ne.symm hd]

theorem docstring_triple (t : Text) :
    docstring (tripleQuote ++ t) = escapedTripleQuote ++ docstring t := rfl

theorem docstring_cons {c : CodePoint} {t : Text} (h : ¬tripleQuote <+: c :: t) :
    docstring (c :: t) = escapeDoc c ++ docstring t := by
  rw [docstring, List.flatMap_cons, docstring, Text.replace, Text.replace]
  by_cases hc : c = 0x22
  · have hopen : ¬tripleQuote <+: (c :: t).flatMap escapeDoc :=
      mt (quotes_prefix_flatMap_iff 3).mp h
    subst hc
    exact Text.replaceFrom_cons_of_absent hopen
  · exact Text.replaceFrom_append_of_free (not_mem_escapeDoc hc) _

/-- A quotation mark in the documentation is read as the delimiter's first only at the end. -/
theorem exists_docstring_cons {c : CodePoint} (hc : c ≠ 0x22) (t : Text) :
    ∃ d others, docstring (c :: t) = d :: others ∧ d ≠ 0x22 := by
  obtain ⟨d, others, heq⟩ := exists_escapeDoc c
  rw [docstring_cons (not_tripleQuote_prefix_cons hc), heq]
  refine ⟨d, _, rfl, ?_⟩
  rintro rfl
  exact not_mem_escapeDoc hc (heq ▸ List.mem_cons_self)

/-! ## Loose quotation marks -/

theorem finalQuotes_cons (c : CodePoint) (t : Text) :
    finalQuotes (c :: t) =
      if finalQuotes t = t.length ∧ c = 0x22 then t.length + 1 else finalQuotes t := by
  simp only [finalQuotes, List.rtakeWhile, List.reverse_cons, List.takeWhile_append,
    List.length_reverse]
  by_cases hall : (t.reverse.takeWhile (· == 0x22)).length = t.length
  · by_cases hc : c = 0x22
    · simp [hall, hc]
    · simp [hall, hc]
  · simp [hall]

theorem finalQuotes_le (t : Text) : finalQuotes t ≤ t.length :=
  (List.rtakeWhile_suffix _ t).length_le

theorem eq_of_finalQuotes_eq {t : Text} (h : finalQuotes t = t.length) :
    ∀ c ∈ t, c = 0x22 := by
  have hall := (List.rtakeWhile_suffix (· == 0x22) t).eq_of_length h
  intro c hc
  exact eq_of_beq (List.rtakeWhile_eq_self_iff.mp hall c hc)

theorem looseQuotes_triple (t : Text) : looseQuotes (tripleQuote ++ t) = looseQuotes t := by
  have hle := finalQuotes_le t
  simp only [looseQuotes, tripleQuote, List.cons_append, List.nil_append, finalQuotes_cons,
    List.length_cons, and_true]
  by_cases hall : finalQuotes t = t.length
  · simp only [hall, if_true]
    exact Nat.add_mod_right t.length 3
  · have hone : finalQuotes t ≠ t.length + 1 := by omega
    have htwo : finalQuotes t ≠ t.length + 1 + 1 := by omega
    simp only [hall, hone, htwo, if_false]

/-- Any other quotation mark is loose only if it is one of the last two. -/
theorem looseQuotes_cons {c : CodePoint} {t : Text} (h : ¬tripleQuote <+: c :: t)
    (hend : c = 0x22 → t ≠ [] ∧ t ≠ [0x22]) : looseQuotes (c :: t) = looseQuotes t := by
  rw [looseQuotes, finalQuotes_cons, if_neg, looseQuotes]
  rintro ⟨hall, rfl⟩
  obtain ⟨hnil, hsingle⟩ := hend rfl
  have hquotes := eq_of_finalQuotes_eq hall
  cases t with
  | nil => exact hnil rfl
  | cons d t =>
      cases t with
      | nil => exact hsingle (by rw [hquotes d List.mem_cons_self])
      | cons e t =>
          have hd : d = 0x22 := hquotes d List.mem_cons_self
          have he : e = 0x22 := hquotes e (List.mem_cons_of_mem d List.mem_cons_self)
          exact h ⟨t, by rw [hd, he]; rfl⟩

/-- The text up to its loose quotation marks. -/
def withoutLooseQuotes (t : Text) : Text := t.rdrop (looseQuotes t)

theorem withoutLooseQuotes_append {s t : Text} (h : looseQuotes (s ++ t) = looseQuotes t) :
    withoutLooseQuotes (s ++ t) = s ++ withoutLooseQuotes t := by
  have hle : looseQuotes t ≤ t.length := Nat.le_trans (Nat.mod_le _ 3) (finalQuotes_le t)
  rw [withoutLooseQuotes, withoutLooseQuotes, h, List.rdrop, List.rdrop, List.length_append,
    Nat.add_sub_assoc hle, List.take_length_add_append]

/-! ## Reading documentation -/

theorem shows_escapeDoc {c : CodePoint} (hc : c ≠ 0x22) :
    docForm.Shows (Text.replaceSurrogate c) (escapeDoc c) := by
  rw [escapeDoc, Text.replaceSurrogate]
  split
  case isTrue => exact LiteralForm.shows_bare (by decide) (by decide)
  case isFalse =>
    split
    case isTrue hbackslash =>
      rw [eq_of_beq hbackslash]
      exact LiteralForm.shows_letter rfl
    case isFalse hbackslash =>
      exact LiteralForm.shows_bare (fun heq => hbackslash (beq_iff_eq.mpr heq)) hc

/-- Before other characters at most one more quotation mark follows one that is not escaped. -/
theorem not_quotes_prefix_docstring {t : Text} (h : ¬tripleQuote <+: 0x22 :: t) (hnil : t ≠ [])
    (hsingle : t ≠ [0x22]) (rest : Text) : ¬tripleQuote <+: 0x22 :: (docstring t ++ rest) := by
  cases t with
  | nil => exact absurd rfl hnil
  | cons c t =>
      by_cases hc : c = 0x22
      · subst hc
        cases t with
        | nil => exact absurd rfl hsingle
        | cons d t =>
            have hd : d ≠ 0x22 := by
              rintro rfl
              exact h ⟨t, rfl⟩
            have hopen : ¬tripleQuote <+: 0x22 :: d :: t := by simp [tripleQuote, Ne.symm hd]
            obtain ⟨e, others, heq, he⟩ := exists_docstring_cons hd t
            rw [docstring_cons hopen, heq]
            simp [tripleQuote, escapeDoc, Text.isSurrogate, Ne.symm he]
      · obtain ⟨d, others, heq, hd⟩ := exists_docstring_cons hc t
        simp [tripleQuote, heq, Ne.symm hd]

/-- The literal is closed at the first quotation mark that is loose. -/
theorem readFrom_docstring (t rest : Text) :
    docForm.readFrom 0 (docstring t ++ (tripleQuote ++ rest)) =
      some ((withoutLooseQuotes t).replaceSurrogates,
        List.replicate (looseQuotes t) 0x22 ++ rest) := by
  induction t using tripleQuote_induction with
  | nil => exact docForm.readFrom_delimiter rest
  | triple t ih =>
      have hquote : docForm.Shows 0x22 [0x5C, 0x22] := LiteralForm.shows_letter rfl
      have hescaped : ∀ text, docForm.readFrom 0 (escapedTripleQuote ++ text) =
          (docForm.readFrom 0 text).map (Prod.map (tripleQuote ++ ·) id) := by
        intro text
        have hsplit : escapedTripleQuote ++ text =
            [0x5C, 0x22] ++ ([0x5C, 0x22] ++ ([0x5C, 0x22] ++ text)) := rfl
        rw [hsplit, hquote, hquote, hquote, Option.map_map, Option.map_map]
        rfl
      rw [docstring_triple, List.append_assoc, hescaped, ih, looseQuotes_triple,
        withoutLooseQuotes_append (looseQuotes_triple t)]
      rfl
  | other c t h ih =>
      by_cases hend : c = 0x22 ∧ (t = [] ∨ t = [0x22])
      · -- The last one or two quotation marks and the delimiter close the literal too early.
        obtain ⟨rfl, rfl | rfl⟩ := hend
        · exact docForm.readFrom_delimiter (0x22 :: rest)
        · exact docForm.readFrom_delimiter (0x22 :: 0x22 :: rest)
      · have hinside : c = 0x22 → t ≠ [] ∧ t ≠ [0x22] := fun hc => not_or.mp (not_and.mp hend hc)
        have hloose := looseQuotes_cons h hinside
        have hshown : docForm.readFrom 0 (docstring (c :: t) ++ (tripleQuote ++ rest)) =
            (docForm.readFrom 0 (docstring t ++ (tripleQuote ++ rest))).map
              (Prod.map (Text.replaceSurrogate c :: ·) id) := by
          rw [docstring_cons h, List.append_assoc]
          by_cases hc : c = 0x22
          · subst hc
            obtain ⟨hnil, hsingle⟩ := hinside rfl
            exact LiteralForm.readFrom_bare (by decide)
              (not_quotes_prefix_docstring h hnil hsingle _)
          · exact shows_escapeDoc hc _
        rw [hshown, ih, hloose, ← List.singleton_append, withoutLooseQuotes_append hloose]
        rfl

/-- The literal for the documentation `t` of a class. -/
def docLiteral (t : Text) : Text := tripleQuote ++ docstring t ++ tripleQuote

theorem read?_docLiteral (t rest : Text) :
    docForm.read? (docLiteral t ++ rest) =
      some ((withoutLooseQuotes t).replaceSurrogates,
        List.replicate (looseQuotes t) 0x22 ++ rest) := by
  have hstart : Text.dropStart? tripleQuote (docLiteral t ++ rest) =
      some (docstring t ++ (tripleQuote ++ rest)) :=
    Text.dropStart?_eq_some_iff.mpr (by simp only [docLiteral, List.append_assoc])
  exact (congrArg (Option.bind · (docForm.readFrom 0)) hstart).trans (readFrom_docstring t rest)

/-- Documentation is read back as it is, surrogates apart, exactly if no quotation mark at its end
is loose; otherwise the literal ends before the loose ones, and as many are left behind it. -/
theorem docLiteral_denotes_iff (t : Text) :
    (docForm.Denotes (docLiteral t) t.replaceSurrogates ↔ looseQuotes t = 0) ∧
      (∀ rest, docForm.read? (docLiteral t ++ rest) =
        some ((withoutLooseQuotes t).replaceSurrogates,
          List.replicate (looseQuotes t) 0x22 ++ rest)) ∧
      ∀ style type, TypeDeclaration.shownDoc? type = some t →
        documentationLiteral style type = style.indent ++ docLiteral t := by
  refine ⟨⟨fun h => ?_, fun h => ⟨⟨docstring t, rfl⟩, fun rest => ?_⟩⟩, read?_docLiteral t, ?_⟩
  · have hread := h.read []
    rw [read?_docLiteral, Option.some.injEq, Prod.mk.injEq] at hread
    simpa using hread.2
  · rw [read?_docLiteral, withoutLooseQuotes, h, List.rdrop_zero]
    rfl
  · intro style type hdoc
    simp only [documentationLiteral, documentation, hdoc, docLiteral, List.append_assoc]

/-- Runs of quotation marks at both ends and next to a backslash. -/
def quotedRuns : Text := "\"\"say \\\"\"\"\"\\ twice\"\"\""

/-- A class with this documentation. -/
def quotedRunsType : TypeDeclaration where
  space := "a"
  typeName := "User"
  wireName := "User"
  wireSpace := "a"
  doc := some quotedRuns

theorem quotedRuns_denotes :
    looseQuotes quotedRuns = 0 ∧
      docForm.Denotes (docLiteral quotedRuns) quotedRuns.replaceSurrogates ∧
      TypeDeclaration.shownDoc? quotedRunsType = some quotedRuns ∧
      ∀ style, documentationLiteral style quotedRunsType = style.indent ++ docLiteral quotedRuns :=
  have hloose : looseQuotes quotedRuns = 0 := by decide
  have hdoc : TypeDeclaration.shownDoc? quotedRunsType = some quotedRuns := rfl
  have ⟨hdenotes, _, hemitted⟩ := docLiteral_denotes_iff quotedRuns
  ⟨hloose, hdenotes.mpr hloose, hdoc, fun style => hemitted style quotedRunsType hdoc⟩

/-- A record whose documentation ends in a quotation mark. -/
def quotedDoc : Schema.Document where
  name := "quoted"
  content :=
    ["\x7b\"type\": \"record\", ", "\"name\": \"User\", ", "\"namespace\": \"a\", ",
      "\"doc\": \"say \\\"hi\\\"\", ", "\"fields\": [", "\x7b\"name\": \"id\", ",
      "\"type\": \"string\"\x7d]\x7d"].flatMap Text.ofString

/-- The literal that documents the class is closed by the quotation mark of the documentation and
two of the delimiter's. -/
theorem quotedDoc_closes_early :
    ∃ result generated,
      (Generator.standard .python).generate quotedDoc = .ok result ∧
      result.generated = some generated ∧
      "    " ++ docLiteral "say \"hi\"" ∈ Text.splitLines generated.source ∧
      docForm.read? (docLiteral "say \"hi\"") = some (Text.ofString "say \"hi", [0x22]) ∧
      ¬docForm.Denotes (docLiteral "say \"hi\"") (Text.replaceSurrogates "say \"hi\"") := by
  have hline : ((Generator.standard .python).generate quotedDoc).toOption.any (fun result =>
      result.generated.any fun generated => (Text.splitLines generated.source).contains
        ("    " ++ docLiteral "say \"hi\"")) = true := by decide +kernel
  obtain ⟨result, hresult, hsource⟩ := Fallible.exists_of_any hline
  obtain ⟨generated, hgenerated, hmem⟩ := (Option.any_eq_true _ _).mp hsource
  have hread : docForm.read? (docLiteral "say \"hi\"") =
      some (Text.ofString "say \"hi", [0x22]) := by decide
  refine ⟨result, generated, hresult, hgenerated, List.contains_iff_mem.mp hmem, hread, ?_⟩
  intro hdenotes
  have hwhole := hdenotes.read []
  rw [List.append_nil, hread] at hwhole
  exact absurd hwhole (by decide)

end Dataclass

end RecordSmith
