import RecordSmith.Proofs.Text.Bitmap
import RecordSmith.Text.Casing

/-!
# Images of case mappings

Case mapping is given by tables.  A property of all images is checked once on
the tables and then carried over to texts: no mapping leads into a set of code
points that the tables avoid, no code point is mapped to nothing, and an image
that the tables do not list is mapped no further.
-/

namespace RecordSmith.Text

/-- No image of the run lies in one of the ranges. -/
def CaseRun.avoids (run : CaseRun) (ranges : List (CodePoint × CodePoint)) : Bool :=
  ranges.all fun range =>
    run.image + (run.stop - run.start) < range.1 || range.2 < run.image

/-- No entry of a case table leads into one of the ranges. -/
def casingAvoids (ranges : List (CodePoint × CodePoint)) : Bool :=
  (upperRuns ++ lowerRuns).all (·.avoids ranges) &&
    (upperExpansions ++ lowerExpansions).all
      (fun entry => entry.2.all fun d => !inRanges ranges d) &&
    [0x3C2, 0x3C3].all fun d => !inRanges ranges d

/-- One code point as a range. -/
def only (c : CodePoint) : List (CodePoint × CodePoint) := [(c, c)]

section Images

variable {ranges : List (CodePoint × CodePoint)}
variable {runs : List CaseRun} {expansions : List (CodePoint × Text)}

theorem inRanges_eq_false_iff {c : CodePoint} :
    inRanges ranges c = false ↔
      ∀ range ∈ ranges, c < range.1 ∨ range.2 < c := by
  rw [← Bool.not_eq_true, inRanges_iff]
  constructor
  · intro h range hrange
    rcases Nat.lt_or_ge c range.1 with hbefore | hstart
    · exact Or.inl hbefore
    · exact Or.inr (Nat.lt_of_not_le fun hstop =>
        h ⟨range, hrange, hstart, hstop⟩)
  · intro h hmem
    obtain ⟨range, hrange, hstart, hstop⟩ := hmem
    rcases h range hrange with hbefore | hbehind
    · exact Nat.not_le_of_lt hbefore hstart
    · exact Nat.not_le_of_lt hbehind hstop

theorem inRanges_only_eq_false_iff {c d : CodePoint} :
    inRanges (only c) d = false ↔ d ≠ c := by
  rw [inRanges_eq_false_iff]
  simp only [only, List.mem_singleton, forall_eq]
  exact Nat.lt_or_gt.symm

theorem CaseRun.image?_eq_some_iff {run : CaseRun} {c d : CodePoint} :
    run.image? c = some d ↔ run.start ≤ c ∧ c ≤ run.stop ∧ (c - run.start) % run.step = 0 ∧
      run.image + (c - run.start) = d := by
  simp only [CaseRun.image?, Option.ite_none_right_eq_some, Option.some.injEq,
    Bool.and_eq_true, decide_eq_true_eq, beq_iff_eq, and_assoc]

theorem CaseRun.image?_avoids {run : CaseRun} {c d : CodePoint}
    (havoids : run.avoids ranges = true) (himage : run.image? c = some d) :
    inRanges ranges d = false := by
  obtain ⟨hstart, hstop, _, rfl⟩ := CaseRun.image?_eq_some_iff.mp himage
  rw [inRanges_eq_false_iff]
  intro range hrange
  have hrun := List.all_eq_true.mp havoids range hrange
  simp only [Bool.or_eq_true, decide_eq_true_eq] at hrun
  have hoffset : c - run.start ≤ run.stop - run.start :=
    Nat.sub_le_sub_right hstop run.start
  rcases hrun with hbelow | habove
  · exact Or.inl (Nat.lt_of_le_of_lt (Nat.add_le_add_left hoffset _) hbelow)
  · exact Or.inr (Nat.lt_of_lt_of_le habove (Nat.le_add_right _ _))

/-- All that a case mapping can do to a code point: a run maps it, it is expanded, or it is
kept. -/
theorem mapCase_cases (runs : List CaseRun) (expansions : List (CodePoint × Text))
    (c : CodePoint) :
    (∃ run ∈ runs, ∃ d, run.image? c = some d ∧ mapCase runs expansions c = [d]) ∨
      (c, mapCase runs expansions c) ∈ expansions ∨ mapCase runs expansions c = [c] := by
  rw [mapCase]
  split
  case h_1 d hfound =>
    obtain ⟨run, hrun, himage⟩ := List.exists_of_findSome?_eq_some hfound
    exact Or.inl ⟨run, hrun, d, himage, rfl⟩
  case h_2 =>
    cases hlookup : expansions.lookup c with
    | none => exact Or.inr (Or.inr rfl)
    | some expansion =>
        obtain ⟨before, after, hsplit, _⟩ := List.lookup_eq_some_iff.mp hlookup
        exact Or.inr (Or.inl (by simp [hsplit]))

/-- An image lies outside of ranges that the tables avoid, or is the code point itself. -/
theorem eq_or_avoids_of_mem_mapCase {c d : CodePoint}
    (hruns : runs.all (·.avoids ranges) = true)
    (hexpansions : expansions.all
      (fun entry => entry.2.all fun d => !inRanges ranges d) = true)
    (hd : d ∈ mapCase runs expansions c) : d = c ∨ inRanges ranges d = false := by
  rcases mapCase_cases runs expansions c with ⟨run, hrun, image, himage, hmap⟩ | hentry | hmap
  · rw [hmap, List.mem_singleton] at hd
    subst hd
    exact Or.inr (CaseRun.image?_avoids (List.all_eq_true.mp hruns run hrun) himage)
  · have houtside := List.all_eq_true.mp (List.all_eq_true.mp hexpansions _ hentry) d hd
    exact Or.inr (by simpa using houtside)
  · rw [hmap, List.mem_singleton] at hd
    exact Or.inl hd

theorem mapCase_ne_nil {c : CodePoint}
    (hexpansions : expansions.all (fun entry => !entry.2.isEmpty) = true) :
    mapCase runs expansions c ≠ [] := by
  rcases mapCase_cases runs expansions c with ⟨_, _, d, _, hmap⟩ | hentry | hmap
  · rw [hmap]
    exact List.cons_ne_nil _ _
  · simpa using List.all_eq_true.mp hexpansions _ hentry
  · rw [hmap]
    exact List.cons_ne_nil _ _

theorem casingAvoids_iff :
    casingAvoids ranges = true ↔
      (upperRuns.all (·.avoids ranges) = true ∧
        lowerRuns.all (·.avoids ranges) = true) ∧
      (upperExpansions.all
          (fun entry => entry.2.all fun d => !inRanges ranges d) = true ∧
        lowerExpansions.all
          (fun entry => entry.2.all fun d => !inRanges ranges d) = true) ∧
      inRanges ranges 0x3C2 = false ∧ inRanges ranges 0x3C3 = false := by
  simp only [casingAvoids, Bool.and_eq_true, List.all_append, List.all_cons,
    List.all_nil, Bool.and_true, Bool.not_eq_true', and_assoc]

end Images

/-! ## What a case table lists -/

section Tables

variable {runs : List CaseRun} {expansions : List (CodePoint × Text)} {c d : CodePoint}

/-- How far the code points of a run are from its start, as a set. -/
def CaseRun.offsets (run : CaseRun) : Nat :=
  strided run.step ((run.stop - run.start) / run.step + 1)

theorem CaseRun.exists_offset {run : CaseRun} (himage : run.image? c = some d) :
    ∃ offset, c = run.start + offset ∧ d = run.image + offset ∧
      run.offsets.testBit offset = true := by
  obtain ⟨hstart, hstop, hstep, rfl⟩ := CaseRun.image?_eq_some_iff.mp himage
  refine ⟨c - run.start, (Nat.add_sub_cancel' hstart).symm, rfl, ?_⟩
  have hcount : (c - run.start) / run.step < (run.stop - run.start) / run.step + 1 :=
    Nat.lt_succ_of_le (Nat.div_le_div_right (Nat.sub_le_sub_right hstop run.start))
  rw [← Nat.mul_div_cancel' (Nat.dvd_of_mod_eq_zero hstep)]
  exact testBit_strided hcount

/-- The runs lead from members of the set to members of the set. -/
def runsKeep (members : Nat) (runs : List CaseRun) : Bool :=
  runs.all fun run =>
    run.offsets &&& members >>> run.start &&& members >>> run.image ==
      run.offsets &&& members >>> run.start

theorem testBit_of_runsKeep {members : Nat} {run : CaseRun} (h : runsKeep members runs = true)
    (hrun : run ∈ runs) (himage : run.image? c = some d) (hc : members.testBit c = true) :
    members.testBit d = true := by
  obtain ⟨offset, rfl, rfl, hoffset⟩ := CaseRun.exists_offset himage
  have hkept := congrArg (·.testBit offset) (eq_of_beq (List.all_eq_true.mp h run hrun))
  simpa [Nat.testBit_and, Nat.testBit_shiftRight, hoffset, hc] using hkept

theorem inRanges_of_runsKeep {ranges : List (CodePoint × CodePoint)} {run : CaseRun}
    (h : runsKeep (bitmap ranges) runs = true) (hrun : run ∈ runs) (himage : run.image? c = some d)
    (hc : inRanges ranges c = true) : inRanges ranges d = true := by
  rw [← testBit_bitmap] at hc ⊢
  exact testBit_of_runsKeep h hrun himage hc

/-- The code points that a case table lists, as a set. -/
def listed (runs : List CaseRun) (expansions : List (CodePoint × Text)) : Nat :=
  union (runs.map (fun run => run.offsets <<< run.start) ++
    expansions.map fun entry => 1 <<< entry.1)

/-- The code points that a case table leads to, as a set. -/
def images (runs : List CaseRun) (expansions : List (CodePoint × Text)) : Nat :=
  union (runs.map (fun run => run.offsets <<< run.image) ++
    (expansions.flatMap Prod.snd).map fun d => 1 <<< d)

theorem testBit_listed {run : CaseRun} (hrun : run ∈ runs) (himage : run.image? c = some d) :
    (listed runs expansions).testBit c = true := by
  obtain ⟨offset, rfl, _, hoffset⟩ := CaseRun.exists_offset himage
  refine testBit_union (List.mem_append_left _ ?_) (testBit_shiftLeft_add hoffset _)
  exact List.mem_map_of_mem (f := fun run : CaseRun => run.offsets <<< run.start) hrun

theorem mapCase_of_not_listed (hc : (listed runs expansions).testBit c = false) :
    mapCase runs expansions c = [c] := by
  rw [← Bool.not_eq_true] at hc
  rcases mapCase_cases runs expansions c with ⟨run, hrun, d, himage, _⟩ | hentry | hmap
  · exact absurd (testBit_listed hrun himage) hc
  · refine absurd (testBit_union (List.mem_append_right _ ?_) (testBit_single c)) hc
    exact List.mem_map_of_mem (f := fun entry : CodePoint × Text => 1 <<< entry.1) hentry
  · exact hmap

/-- What no run maps is expanded, if it has an expansion. -/
theorem mapCase_of_expansion {expansion : Text} (hc : (listed runs []).testBit c = false)
    (hexpansion : expansions.lookup c = some expansion) :
    mapCase runs expansions c = expansion := by
  rw [mapCase]
  split
  case h_1 d hfound =>
    obtain ⟨run, hrun, himage⟩ := List.exists_of_findSome?_eq_some hfound
    rw [testBit_listed hrun himage] at hc
    cases hc
  case h_2 => rw [hexpansion, Option.getD_some]

theorem testBit_images_of_mem_mapCase (hd : d ∈ mapCase runs expansions c) :
    (images runs expansions).testBit d = true ∨ mapCase runs expansions c = [c] := by
  rcases mapCase_cases runs expansions c with ⟨run, hrun, image, himage, hmap⟩ | hentry | hmap
  · rw [hmap, List.mem_singleton] at hd
    subst hd
    obtain ⟨offset, _, rfl, hoffset⟩ := CaseRun.exists_offset himage
    refine Or.inl (testBit_union (List.mem_append_left _ ?_) (testBit_shiftLeft_add hoffset _))
    exact List.mem_map_of_mem (f := fun run : CaseRun => run.offsets <<< run.image) hrun
  · refine Or.inl (testBit_union (List.mem_append_right _ ?_) (testBit_single d))
    exact List.mem_map_of_mem (List.mem_flatMap.mpr ⟨_, hentry, hd⟩)
  · exact Or.inr hmap

/-- What stands in ranges without a listed code point is kept. -/
theorem mapCase_of_spared {ranges : List (CodePoint × CodePoint)}
    (h : listed runs expansions &&& bitmap ranges = 0) (hc : inRanges ranges c = true) :
    mapCase runs expansions c = [c] := by
  rw [← testBit_bitmap] at hc
  exact mapCase_of_not_listed (testBit_of_disjoint h hc)

/-- If no image is listed, a second mapping changes nothing. -/
theorem mapCase_of_mem_mapCase (h : listed runs expansions &&& images runs expansions = 0)
    (hd : d ∈ mapCase runs expansions c) : mapCase runs expansions d = [d] := by
  rcases testBit_images_of_mem_mapCase hd with himage | hself
  · exact mapCase_of_not_listed (testBit_of_disjoint h himage)
  · rw [hself, List.mem_singleton] at hd
    rw [hd, hself]

end Tables

/-! ## Lower case of texts -/

/-- Lower case consists of images of single code points, but for those of a capital sigma. -/
theorem mem_lowerAfter {before t : Text} {d : CodePoint} (hd : d ∈ lowerAfter before t) :
    (∃ c ∈ t, d ∈ lowerOf c) ∨
      (capitalSigma ∈ t ∧ ∃ start stop, d = lowerSigma start stop) := by
  induction t generalizing before with
  | nil => cases hd
  | cons c rest ih =>
      rw [lowerAfter, List.mem_append] at hd
      rcases hd with hfirst | hrest
      · split at hfirst
        case isTrue hsigma =>
          have hc : c = capitalSigma := eq_of_beq hsigma
          exact Or.inr ⟨hc ▸ List.mem_cons_self, before, rest, List.mem_singleton.mp hfirst⟩
        case isFalse => exact Or.inl ⟨c, List.mem_cons_self, hfirst⟩
      · rcases ih hrest with ⟨other, hother, hlower⟩ | ⟨hsigma, himage⟩
        · exact Or.inl ⟨other, List.mem_cons_of_mem c hother, hlower⟩
        · exact Or.inr ⟨List.mem_cons_of_mem c hsigma, himage⟩

theorem mem_lowerAfter_of_mem {before t : Text} {c d : CodePoint} (hc : c ∈ t)
    (hsigma : c ≠ capitalSigma) (hd : d ∈ lowerOf c) : d ∈ lowerAfter before t := by
  induction t generalizing before with
  | nil => cases hc
  | cons e rest ih =>
      rw [lowerAfter, List.mem_append]
      rcases List.mem_cons.mp hc with rfl | hrest
      · rw [if_neg (by simpa using hsigma)]
        exact Or.inl hd
      · exact Or.inr (ih hrest)

/-! ## Properties that case mapping keeps -/

/-- Case mapping leads from code points with the property to code points with it. -/
structure CaseClosed (P : CodePoint → Prop) : Prop where
  upper : ∀ {c}, P c → ∀ d ∈ upperOf c, P d
  lower : ∀ {c}, P c → ∀ d ∈ lowerOf c, P d
  sigma : P capitalSigma → ∀ before after, P (lowerSigma before after)

/-- A property of all code points outside of ranges that the tables avoid is kept. -/
theorem caseClosed_of_avoids {P : CodePoint → Prop} {ranges : List (CodePoint × CodePoint)}
    (h : casingAvoids ranges = true) (hP : ∀ c, inRanges ranges c = false → P c) :
    CaseClosed P := by
  obtain ⟨⟨hupper, hlower⟩, ⟨hlong, hshort⟩, hfinal, hmedial⟩ := casingAvoids_iff.mp h
  have hmap : ∀ {runs : List CaseRun} {expansions : List (CodePoint × Text)} {c : CodePoint},
      runs.all (·.avoids ranges) = true →
      expansions.all (fun entry => entry.2.all fun d => !inRanges ranges d) = true →
      P c → ∀ d ∈ mapCase runs expansions c, P d := by
    intro runs expansions c hruns hexpansions hc d hd
    rcases eq_or_avoids_of_mem_mapCase hruns hexpansions hd with rfl | hout
    · exact hc
    · exact hP d hout
  constructor
  case upper => exact fun hc => hmap hupper hlong hc
  case lower => exact fun hc => hmap hlower hshort hc
  case sigma =>
    intro _ before after
    rw [lowerSigma]
    split
    · exact hP _ hfinal
    · exact hP _ hmedial

theorem caseClosed_ne {c : CodePoint} (h : casingAvoids (only c) = true) :
    CaseClosed (· ≠ c) :=
  caseClosed_of_avoids h fun _ => inRanges_only_eq_false_iff.mp

/-- The run leads from below the limit to below the limit. -/
def CaseRun.staysBelow (limit : Nat) (run : CaseRun) : Bool :=
  limit ≤ run.start || run.image + (run.stop - run.start) < limit

theorem CaseRun.image?_lt {limit : Nat} {run : CaseRun} {c d : Nat}
    (hrun : run.staysBelow limit = true) (hc : c < limit) (himage : run.image? c = some d) :
    d < limit := by
  obtain ⟨hstart, hstop, _, rfl⟩ := CaseRun.image?_eq_some_iff.mp himage
  simp only [CaseRun.staysBelow, Bool.or_eq_true, decide_eq_true_eq] at hrun
  rcases hrun with hbehind | hbelow
  · exact absurd hstart (Nat.not_le_of_lt (Nat.lt_of_lt_of_le hc hbehind))
  · have hoffset : c - run.start ≤ run.stop - run.start := Nat.sub_le_sub_right hstop run.start
    exact Nat.lt_of_le_of_lt (Nat.add_le_add_left hoffset _) hbelow

theorem mapCase_lt {limit : Nat} {runs : List CaseRun} {expansions : List (CodePoint × Text)}
    (hruns : runs.all (·.staysBelow limit) = true)
    (hexpansions : expansions.all (fun entry => limit ≤ entry.1) = true) {c : Nat}
    (hc : c < limit) : ∀ d ∈ mapCase runs expansions c, d < limit := by
  intro d hd
  rcases mapCase_cases runs expansions c with ⟨run, hrun, image, himage, hmap⟩ | hentry | hmap
  · rw [hmap, List.mem_singleton] at hd
    exact hd ▸ CaseRun.image?_lt (List.all_eq_true.mp hruns run hrun) hc himage
  · have hlimit : limit ≤ c := of_decide_eq_true (List.all_eq_true.mp hexpansions _ hentry)
    exact absurd hlimit (Nat.not_le_of_lt hc)
  · rw [hmap, List.mem_singleton] at hd
    exact hd ▸ hc

/-- Case mapping does not lead out of the seven-bit range. -/
theorem caseClosed_ascii : CaseClosed fun c => isAscii c = true := by
  have hascii : ∀ {c : Nat}, isAscii c = true ↔ c < 0x80 := by simp [isAscii]
  constructor
  case upper =>
    intro c hc d hd
    exact hascii.mpr (mapCase_lt (by decide +kernel) (by decide +kernel) (hascii.mp hc) d hd)
  case lower =>
    intro c hc d hd
    exact hascii.mpr (mapCase_lt (by decide +kernel) (by decide +kernel) (hascii.mp hc) d hd)
  case sigma => exact fun hsigma => absurd hsigma (by decide)

namespace CaseClosed

variable {P : CodePoint → Prop}

theorem toUpper (hP : CaseClosed P) {t : Text} (ht : ∀ c ∈ t, P c) :
    ∀ d ∈ t.toUpper, P d := by
  intro d hd
  obtain ⟨c, hc, hmem⟩ := List.mem_flatMap.mp hd
  exact hP.upper (ht c hc) d hmem

theorem capitalizeFirst (hP : CaseClosed P) {t : Text} (ht : ∀ c ∈ t, P c) :
    ∀ d ∈ t.capitalizeFirst, P d := by
  cases t with
  | nil => exact ht
  | cons c rest =>
      obtain ⟨hc, hrest⟩ := List.forall_mem_cons.mp ht
      exact List.forall_mem_append.mpr ⟨hP.upper hc, hrest⟩

/-- Whatever stands before the text. -/
theorem lowerAfter (hP : CaseClosed P) (before : Text) {t : Text} (ht : ∀ c ∈ t, P c) :
    ∀ d ∈ lowerAfter before t, P d := by
  intro d hd
  rcases mem_lowerAfter hd with ⟨c, hc, hlower⟩ | ⟨hsigma, start, stop, rfl⟩
  · exact hP.lower (ht c hc) d hlower
  · exact hP.sigma (ht capitalSigma hsigma) start stop

theorem toLower (hP : CaseClosed P) {t : Text} (ht : ∀ c ∈ t, P c) :
    ∀ d ∈ t.toLower, P d :=
  hP.lowerAfter [] ht

end CaseClosed

section Removed

variable {c : CodePoint}

theorem not_mem_upperOf {d : CodePoint} (h : casingAvoids (only c) = true) (hd : d ≠ c) :
    c ∉ upperOf d := fun hmem => (caseClosed_ne h).upper hd c hmem rfl

theorem not_mem_toLower (h : casingAvoids (only c) = true) {t : Text} (ht : c ∉ t) :
    c ∉ toLower t := fun hmem =>
  (caseClosed_ne h).toLower (fun _ hd heq => ht (heq ▸ hd)) c hmem rfl

end Removed

theorem upperOf_ne_nil (c : CodePoint) : upperOf c ≠ [] :=
  mapCase_ne_nil (by decide +kernel)

theorem lowerOf_ne_nil (c : CodePoint) : lowerOf c ≠ [] :=
  mapCase_ne_nil (by decide +kernel)

theorem toLower_singleton_ne_nil (c : CodePoint) : toLower [c] ≠ [] := by
  rw [toLower, lowerAfter]
  split
  · exact List.cons_ne_nil _ _
  · exact List.append_ne_nil_of_left_ne_nil (lowerOf_ne_nil c) _

end RecordSmith.Text
