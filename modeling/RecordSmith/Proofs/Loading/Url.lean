import Mathlib.Data.List.TakeWhile
import RecordSmith.Loading.Url
import RecordSmith.Proofs.Fallible
import RecordSmith.Proofs.Text.Basic

/-!
# What is left of a text that is read as a URL

Reading a URL takes parts off the start of a text, drops some characters and stops at others.  What
is left of a name behind the last slash is the start of the name, without the dropped characters, up
to the first that ends a path.
-/

namespace RecordSmith

namespace Url

open RecordSmith.Path (separator)

/-- The scheme that a text starts with; empty if there is none. -/
def schemeOf (t : Text) : Text := (splitScheme (clean t)).1

/-- The character ends the path of a URL with this scheme, or its last segment. -/
def endsPath (scheme : Text) (c : CodePoint) : Bool :=
  c == 0x3F || c == 0x23 || schemesWithParameters.contains scheme && c == 0x3B

/-- The character does not come out of a name in a URL with this scheme. -/
def IsHidden (scheme : Text) (c : CodePoint) : Prop := isJunk c = true ∨ endsPath scheme c = true

instance (scheme : Text) (c : CodePoint) : Decidable (IsHidden scheme c) :=
  inferInstanceAs (Decidable (_ ∨ _))

/-- What is left of the last name in a URL with this scheme. -/
def shown (scheme name : Text) : Text :=
  (name.filter fun c => !isJunk c).takeWhile fun c => !endsPath scheme c

section Parts

variable {scheme t before after : Text} {c : CodePoint} {url : Url}

theorem not_isHidden_iff : ¬IsHidden scheme c ↔ isJunk c = false ∧ endsPath scheme c = false := by
  rw [IsHidden, not_or, Bool.not_eq_true, Bool.not_eq_true]

theorem not_isHidden_of_ne (hjunk : isJunk c = false) (hquery : c ≠ 0x3F) (hfragment : c ≠ 0x23)
    (hparameters : c ≠ 0x3B) : ¬IsHidden scheme c := by
  rw [not_isHidden_iff, endsPath, beq_false_of_ne hquery, beq_false_of_ne hfragment,
    beq_false_of_ne hparameters, Bool.and_false]
  exact ⟨hjunk, rfl⟩

theorem mem_of_mem_shown (hc : c ∈ shown scheme t) : c ∈ t :=
  (List.mem_filter.mp (List.takeWhile_subset _ hc)).1

theorem not_isHidden_of_mem_shown (hc : c ∈ shown scheme t) : ¬IsHidden scheme c := by
  have hends := List.mem_takeWhile_imp hc
  have hjunk := (List.mem_filter.mp (List.takeWhile_subset _ hc)).2
  rw [Bool.not_eq_true'] at hends hjunk
  exact not_isHidden_iff.mpr ⟨hjunk, hends⟩

theorem shown_append (hbefore : ∀ c ∈ before, ¬IsHidden scheme c) (after : Text) :
    shown scheme (before ++ after) = before ++ shown scheme after := by
  have hkept : before.filter (fun c => !isJunk c) = before :=
    List.filter_eq_self.mpr fun c hc => by
      rw [(not_isHidden_iff.mp (hbefore c hc)).1]
      rfl
  rw [shown, List.filter_append, hkept, List.takeWhile_append_of_pos, shown]
  intro c hc
  rw [(not_isHidden_iff.mp (hbefore c hc)).2]
  rfl

theorem shown_of_free (h : ∀ c ∈ t, ¬IsHidden scheme c) : shown scheme t = t := by
  have happend := shown_append h []
  rwa [List.append_nil, show shown scheme [] = [] from rfl, List.append_nil] at happend

/-! ## The parts of a text with a slash -/

/-- The end of a text from a character on that stops the dropping. -/
theorem dropWhile_append_cons {p : CodePoint → Bool} (hc : p c = false) (before after : Text) :
    (before ++ c :: after).dropWhile p = before.dropWhile p ++ c :: after := by
  rw [List.dropWhile_append]
  split
  case isTrue hempty =>
    rw [List.isEmpty_iff.mp hempty, List.dropWhile_cons, hc, List.nil_append]
    rfl
  case isFalse => rfl

theorem exists_clean_append (hbefore : ∀ c ∈ before, isJunk c = false) (after : Text) :
    ∃ rest, rest <:+ before ∧ clean (before ++ separator :: after) =
      rest ++ separator :: after.filter fun c => !isJunk c := by
  have hsuffix := List.dropWhile_suffix (l := before) isLeadingJunk
  refine ⟨before.dropWhile isLeadingJunk, hsuffix, ?_⟩
  have hkept : (before.dropWhile isLeadingJunk).filter (fun c => !isJunk c) =
      before.dropWhile isLeadingJunk :=
    List.filter_eq_self.mpr fun c hc => by
      rw [hbefore c (hsuffix.subset hc)]
      rfl
  rw [clean, dropWhile_append_cons (by decide), List.filter_append, hkept]
  rfl

/-- A scheme holds no slash. -/
theorem exists_splitScheme_append (before after : Text) :
    ∃ rest, rest <:+ before ∧
      (splitScheme (before ++ separator :: after)).2 = rest ++ separator :: after := by
  rw [splitScheme]
  split
  case h_2 => exact ⟨before, List.suffix_refl before, rfl⟩
  case h_1 scheme behind hsplit =>
    split
    case isFalse => exact ⟨before, List.suffix_refl before, rfl⟩
    case isTrue hscheme =>
      rcases List.append_eq_append_iff.mp (Text.eq_append_of_splitFirst? hsplit) with
        ⟨inner, rfl, hinner⟩ | ⟨inner, rfl, hinner⟩
      · cases inner with
        | nil => cases (List.cons.inj hinner).1
        | cons d inner =>
            obtain ⟨rfl, rfl⟩ := List.cons.inj hinner
            rw [isScheme, Bool.and_eq_true, List.all_eq_true] at hscheme
            exact absurd (hscheme.2 separator (by simp)) (by decide)
      · cases inner with
        | nil => cases (List.cons.inj hinner).1
        | cons d inner =>
            obtain ⟨rfl, rfl⟩ := List.cons.inj hinner
            exact ⟨inner, (List.suffix_cons _ inner).trans (List.suffix_append scheme _), rfl⟩

/-- An authority ends before a slash, and only two slashes come before it. -/
theorem exists_splitAuthority_append (hbefore : before.getLast? ≠ some separator)
    (hafter : separator ∉ after) :
    ∃ rest, rest <:+ before ∧
      (splitAuthority (before ++ separator :: after)).2 = rest ++ separator :: after := by
  rw [splitAuthority]
  split
  case h_2 => exact ⟨before, List.suffix_refl before, rfl⟩
  case h_1 behind hsplit =>
    have heq := Text.dropStart?_eq_some_iff.mp hsplit
    match before, heq, hbefore with
    | [], heq, _ =>
      refine absurd ?_ hafter
      rw [(List.cons.inj heq).2]
      exact List.mem_cons_self
    | [d], heq, hbefore =>
      obtain ⟨rfl, _⟩ := List.cons.inj heq
      exact absurd rfl hbefore
    | d :: e :: inner, heq, _ =>
      obtain ⟨_, hrest⟩ := List.cons.inj heq
      obtain ⟨_, rfl⟩ := List.cons.inj hrest
      refine ⟨inner.dropWhile fun c => !endsAuthority c, ?_, dropWhile_append_cons rfl inner after⟩
      exact (List.dropWhile_suffix _).trans
        ((List.suffix_cons e inner).trans (List.suffix_cons d _))

theorem withoutParameters_append (before : Text) (hafter : separator ∉ after) :
    withoutParameters (before ++ separator :: after) =
      before ++ separator :: after.takeWhile (· != 0x3B) := by
  rw [withoutParameters, Text.splitLast?_append before hafter]
  simp

theorem withoutParameters_of_free (ht : separator ∉ t) :
    withoutParameters t = t.takeWhile (· != 0x3B) := by
  rw [withoutParameters, Text.splitLast?_eq_none_iff.mpr ht]

/-! ## The path of a URL -/

/-- The text behind the scheme and the authority, up to a query or fragment. -/
def pathPart (t : Text) : Text :=
  (splitAuthority (splitScheme (clean t)).2).2.takeWhile fun c => c != 0x3F && c != 0x23

theorem ofText_eq_ok (h : ofText t = .ok url) : url.scheme = schemeOf t ∧ url.path =
    if schemesWithParameters.contains url.scheme then withoutParameters (pathPart t)
    else pathPart t := by
  obtain ⟨_, _, hurl⟩ := Fallible.bind_eq_ok_iff.mp h
  cases hurl
  exact ⟨rfl, rfl⟩

/-- Cutting at a query or fragment, and then at parameters, leaves what is shown. -/
theorem takeWhile_eq_shown (scheme name : Text) :
    (if schemesWithParameters.contains scheme then
      ((name.filter fun c => !isJunk c).takeWhile fun c => c != 0x3F && c != 0x23).takeWhile
        (· != 0x3B)
    else (name.filter fun c => !isJunk c).takeWhile fun c => c != 0x3F && c != 0x23) =
      shown scheme name := by
  rw [shown]
  split
  case isTrue hparameters =>
    rw [List.takeWhile_takeWhile]
    congr 1
    funext c
    rw [endsPath, hparameters, Bool.true_and, Bool.eq_iff_iff]
    simp only [decide_eq_true_iff, Bool.and_eq_true, bne_iff_ne, Bool.not_eq_true',
      Bool.or_eq_false_iff, beq_eq_false_iff_ne]
    exact and_comm
  case isFalse hparameters =>
    rw [Bool.not_eq_true] at hparameters
    congr 1
    funext c
    rw [endsPath, hparameters, Bool.false_and, Bool.or_false, Bool.not_or]
    rfl

/-- Behind the last slash of a text the path of the URL ends with what is left of the name there. -/
theorem path_of_ofText_append (hbefore : ∀ c ∈ before, ¬IsHidden url.scheme c)
    (hlast : before.getLast? ≠ some separator) (hafter : separator ∉ after)
    (h : ofText (before ++ separator :: after) = .ok url) :
    ∃ rest, rest <:+ before ∧ url.path = rest ++ separator :: shown url.scheme after := by
  obtain ⟨_, hpath⟩ := ofText_eq_ok h
  have hjunk : ∀ c ∈ before, isJunk c = false := fun c hc =>
    (not_isHidden_iff.mp (hbefore c hc)).1
  have hfiltered : separator ∉ after.filter fun c => !isJunk c :=
    fun hmem => hafter (List.mem_filter.mp hmem).1
  -- Each pass takes something off the start, and leaves the slash and what follows.
  obtain ⟨cleaned, hcleaned, hclean⟩ := exists_clean_append hjunk after
  obtain ⟨schemeless, hschemeless, hscheme⟩ :=
    exists_splitScheme_append cleaned (after.filter fun c => !isJunk c)
  have hend : schemeless.getLast? ≠ some separator := by
    obtain ⟨start, rfl⟩ := hschemeless.trans hcleaned
    intro hlastEnd
    exact hlast (by rw [List.getLast?_append, hlastEnd]; rfl)
  obtain ⟨rest, hrest, hauthority⟩ := exists_splitAuthority_append hend hfiltered
  have hsuffix : rest <:+ before := hrest.trans (hschemeless.trans hcleaned)
  have hpart : pathPart (before ++ separator :: after) = rest ++ separator ::
      (after.filter fun c => !isJunk c).takeWhile fun c => c != 0x3F && c != 0x23 := by
    rw [pathPart, hclean, hscheme, hauthority, List.takeWhile_append_of_pos]
    · rfl
    · intro c hc
      have hends := (not_isHidden_iff.mp (hbefore c (hsuffix.subset hc))).2
      rw [endsPath, Bool.or_eq_false_iff, Bool.or_eq_false_iff] at hends
      rw [bne, bne, hends.1.1, hends.1.2]
      rfl
  refine ⟨rest, hsuffix, ?_⟩
  rw [hpath, hpart, withoutParameters_append, ← takeWhile_eq_shown]
  · split <;> rfl
  · exact fun hmem => hfiltered (List.takeWhile_subset _ hmem)

/-- The text starts neither with a character that is dropped at the start nor with a scheme. -/
def StartsPlainly (t : Text) : Prop :=
  (∀ c, t.head? = some c → isLeadingJunk c = false) ∧ schemeOf t = []

theorem clean_of_startsPlainly (h : StartsPlainly t) : clean t = t.filter fun c => !isJunk c := by
  cases t with
  | nil => rfl
  | cons c rest => rw [clean, List.dropWhile_cons, h.1 c rfl, if_neg Bool.false_ne_true]

theorem splitScheme_of_nil (h : (splitScheme t).1 = []) : splitScheme t = ([], t) := by
  rw [splitScheme] at h ⊢
  split at h
  case h_2 => rfl
  case h_1 scheme rest _ =>
    split at h
    case isFalse hscheme => rw [if_neg hscheme]
    case isTrue hscheme =>
      rw [List.map_eq_nil_iff.mp h] at hscheme
      cases hscheme

theorem path_of_ofText_bare (ht : separator ∉ t) (hstart : StartsPlainly t)
    (h : ofText t = .ok url) : url.path = shown url.scheme t := by
  obtain ⟨_, hpath⟩ := ofText_eq_ok h
  have hfiltered : separator ∉ t.filter fun c => !isJunk c :=
    fun hmem => ht (List.mem_filter.mp hmem).1
  have hauthority : splitAuthority (t.filter fun c => !isJunk c) =
      ([], t.filter fun c => !isJunk c) := by
    rw [splitAuthority]
    split
    case h_2 => rfl
    case h_1 rest hsplit =>
      refine absurd ?_ hfiltered
      rw [Text.dropStart?_eq_some_iff.mp hsplit]
      exact List.mem_cons_self
  have hpart : pathPart t =
      (t.filter fun c => !isJunk c).takeWhile fun c => c != 0x3F && c != 0x23 := by
    rw [pathPart, splitScheme_of_nil hstart.2, clean_of_startsPlainly hstart, hauthority]
  rw [hpath, hpart, withoutParameters_of_free, takeWhile_eq_shown]
  exact fun hmem => hfiltered (List.takeWhile_subset _ hmem)

/-! ## What no path holds -/

theorem mem_of_mem_withoutParameters (hc : c ∈ withoutParameters t) : c ∈ t := by
  rw [withoutParameters] at hc
  split at hc
  case h_2 => exact List.takeWhile_subset _ hc
  case h_1 start last hsplit =>
    obtain ⟨rfl, _⟩ := Text.splitLast?_eq_some_iff.mp hsplit
    rw [List.append_assoc, List.singleton_append] at hc
    rcases List.mem_append.mp hc with hstart | hrest
    · exact List.mem_append_left _ hstart
    · rcases List.mem_cons.mp hrest with rfl | hlast
      · exact List.mem_append_right _ List.mem_cons_self
      · exact List.mem_append_right _ (List.mem_cons_of_mem _ (List.takeWhile_subset _ hlast))

theorem mem_of_mem_splitScheme (hc : c ∈ (splitScheme t).2) : c ∈ t := by
  rw [splitScheme] at hc
  split at hc
  case h_2 => exact hc
  case h_1 scheme rest hsplit =>
    rw [Text.eq_append_of_splitFirst? hsplit]
    split at hc
    case isTrue => exact List.mem_append_right _ (List.mem_cons_of_mem _ hc)
    case isFalse =>
      rwa [Text.eq_append_of_splitFirst? hsplit] at hc

theorem mem_of_mem_splitAuthority (hc : c ∈ (splitAuthority t).2) : c ∈ t := by
  rw [splitAuthority] at hc
  split at hc
  case h_2 => exact hc
  case h_1 rest hsplit =>
    rw [Text.dropStart?_eq_some_iff.mp hsplit]
    exact List.mem_append_right _ ((List.dropWhile_suffix _).subset hc)

/-- No character of a path of a URL is one that is dropped or that starts a query or fragment. -/
theorem not_mark_of_mem_path (h : ofText t = .ok url) (hc : c ∈ url.path) :
    ¬(isJunk c = true ∨ c = 0x3F ∨ c = 0x23) := by
  obtain ⟨_, hpath⟩ := ofText_eq_ok h
  have hpart : c ∈ pathPart t := by
    rw [hpath] at hc
    split at hc
    · exact mem_of_mem_withoutParameters hc
    · exact hc
  have hmark := List.mem_takeWhile_imp hpart
  rw [Bool.and_eq_true, bne_iff_ne, bne_iff_ne] at hmark
  have hclean : c ∈ clean t := mem_of_mem_splitScheme (mem_of_mem_splitAuthority
    (List.takeWhile_subset _ hpart))
  have hjunk := (List.mem_filter.mp hclean).2
  rw [Bool.not_eq_true'] at hjunk
  rintro (hc | hc | hc)
  · rw [hc] at hjunk
    cases hjunk
  · exact hmark.1 hc
  · exact hmark.2 hc

end Parts

end Url

end RecordSmith
