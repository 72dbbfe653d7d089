import RecordSmith.Loading.Documents
import RecordSmith.Proofs.Files.Name
import RecordSmith.Proofs.Loading.Url

/-!
# The name of a document from a file

A document is named after what is left of its path when that is read as a URL.  A stem with one of
the characters that such a reading drops, or stops at, is never the name.  Where the reading comes
to the last name of the path, the name of the document is the stem if and only if the stem holds no
such character and something is left of the suffix.
-/

namespace RecordSmith

namespace Loading

open RecordSmith.Path (separator)
open RecordSmith.Url (IsHidden schemeOf shown)

/-- Reading the path as a URL comes to its last name: no directory before it holds a character that
ends the path or is dropped, and a name without directory is behind a single slash, or nothing is
taken off its start. -/
structure ReachesName (path : Path) : Prop where
  directories : ∀ name ∈ path.names.dropLast, ∀ c ∈ name, ¬IsHidden (schemeOf path.toText) c
  start : 2 ≤ path.names.length ∨ path.names.length = 1 ∧
    (path.root = [separator] ∨ path.root = [] ∧ Url.StartsPlainly path.name)

/-- No character of the stem is hidden in a URL, and a suffix is not hidden whole. -/
structure ShowsStem (path : Path) : Prop where
  stem : ∀ c ∈ path.stem, ¬IsHidden (schemeOf path.toText) c
  suffix : path.suffix = [] ∨ shown (schemeOf path.toText) path.suffix.tail ≠ []

section Name

variable {path : Path} {name : Text} {url : Url}

theorem documentName_eq_ok_iff {t : Text} : documentName t = .ok name ↔
    ∃ url, Url.ofText t = .ok url ∧ (Path.ofText url.path).stem = name := by
  rw [documentName, Fallible.bind_eq_ok_iff]
  simp only [pure, Except.pure, Except.ok.injEq]

theorem mem_path_of_mem_stem {t : Text} {c : CodePoint} (hc : c ∈ (Path.ofText t).stem) : c ∈ t :=
  Path.mem_of_mem_name_ofText ((Path.stem_isPrefix _).subset hc)

theorem not_isHidden_separator (scheme : Text) : ¬IsHidden scheme separator :=
  Url.not_isHidden_of_ne rfl (by decide) (by decide) (by decide)

theorem not_isHidden_stop (scheme : Text) : ¬IsHidden scheme 0x2E :=
  Url.not_isHidden_of_ne rfl (by decide) (by decide) (by decide)

/-- A path whose last name is reached has one, and its directories are shown whole. -/
theorem exists_directories_of_reachesName (hpath : path.IsRegular) (h : ReachesName path) :
    Path.IsComponent path.name ∧ ∃ directories, path.names = directories ++ [path.name] ∧
      ∀ directory ∈ directories, ∀ c ∈ directory, ¬IsHidden (schemeOf path.toText) c := by
  have hnonempty : path.names ≠ [] := by
    rintro hnil
    rcases h.start with hlength | ⟨hlength, _⟩ <;> rw [hnil] at hlength <;> cases hlength
  have hnames : path.names = path.names.dropLast ++ [path.names.getLast hnonempty] :=
    (List.dropLast_concat_getLast hnonempty).symm
  have hname := Path.name_of_names hnames
  rw [hname]
  exact ⟨hpath.names _ (List.getLast_mem hnonempty), _, hnames, h.directories⟩

/-- The last name of the path is shown at the end of the path of the URL, behind a slash or alone,
and what comes before it holds no hidden character. -/
theorem exists_path_of_reachesName (hpath : path.IsRegular) (h : ReachesName path)
    (hurl : Url.ofText path.toText = .ok url) :
    ∃ before, (∀ c ∈ before, ¬IsHidden url.scheme c) ∧
      (url.path = before ++ separator :: shown url.scheme path.name ∨
        url.path = shown url.scheme path.name) := by
  obtain ⟨hname, directories, hnames, hdirectories⟩ := exists_directories_of_reachesName hpath h
  rw [← (Url.ofText_eq_ok hurl).1] at hdirectories
  by_cases hsingle : directories = []
  · subst hsingle
    rw [Path.toText_of_single hnames hname.ne_nil] at hurl
    rcases h.start with hlength | ⟨_, hroot | ⟨hroot, hstart⟩⟩
    · rw [hnames] at hlength
      exact absurd hlength (by simp)
    · rw [hroot] at hurl
      obtain ⟨rest, hrest, hurlPath⟩ := Url.path_of_ofText_append (List.forall_mem_nil _)
        (by simp) hname.separator_not_mem hurl
      rw [List.suffix_nil.mp hrest] at hurlPath
      exact ⟨[], List.forall_mem_nil _, Or.inl hurlPath⟩
    · rw [hroot] at hurl
      exact ⟨[], List.forall_mem_nil _,
        Or.inr (Url.path_of_ofText_bare hname.separator_not_mem hstart hurl)⟩
  · obtain ⟨htext, hlast⟩ := Path.toText_of_directories hpath hnames hsingle
    rw [htext] at hurl
    have hbefore : ∀ c ∈ path.root ++ Text.join [separator] directories,
        ¬IsHidden url.scheme c := by
      intro c hc
      rcases List.mem_append.mp hc with hroot | hjoin
      · rw [hpath.mem_root hroot]
        exact not_isHidden_separator _
      · rcases Text.mem_of_mem_join hjoin with hsep | ⟨directory, hdirectory, hin⟩
        · rw [List.mem_singleton.mp hsep]
          exact not_isHidden_separator _
        · exact hdirectories directory hdirectory c hin
    obtain ⟨rest, hrest, hurlPath⟩ :=
      Url.path_of_ofText_append hbefore hlast hname.separator_not_mem hurl
    exact ⟨rest, fun c hc => hbefore c (hrest.subset hc), Or.inl hurlPath⟩

/-! ## The stem of what is shown -/

/-- The stem is that of what is shown of the last name, if that is a name. -/
theorem stem_of_shown {before shownName : Text} (hslash : separator ∉ shownName)
    (hne : shownName ≠ []) (hhere : shownName ≠ Path.here)
    (hurl : url.path = before ++ separator :: shownName ∨ url.path = shownName) :
    (Path.ofText url.path).stem = (Path.splitSuffix shownName).1 := by
  rcases hurl with hurl | hurl
  · rw [hurl, Path.stem, Path.name_ofText_append hslash hne hhere]
  · rw [hurl, Path.stem, Path.name_ofText_of_free hslash hne hhere]

theorem stem_eq_of_no_suffix {scheme before : Text} (hname : Path.IsComponent name)
    (hwhole : (Path.splitSuffix name).1 = name) (hshown : ∀ c ∈ name, ¬IsHidden scheme c)
    (hurl : url.path = before ++ separator :: shown scheme name ∨
      url.path = shown scheme name) : (Path.ofText url.path).stem = name := by
  rw [Url.shown_of_free hshown] at hurl
  rw [stem_of_shown hname.separator_not_mem hname.ne_nil hname.ne_here hurl, hwhole]

/-- With a suffix, of which something or nothing is shown, the stem is what comes before that, or it
ends in the full stop. -/
theorem stem_eq_of_suffix {scheme before start ending : Text}
    (hname : Path.IsComponent (start ++ 0x2E :: ending)) (hstart : start ≠ [])
    (hfree : 0x2E ∉ ending) (hshown : ∀ c ∈ start, ¬IsHidden scheme c)
    (hurl : url.path = before ++ separator :: shown scheme (start ++ 0x2E :: ending) ∨
      url.path = shown scheme (start ++ 0x2E :: ending)) :
    (Path.ofText url.path).stem =
      if shown scheme ending = [] then start ++ [0x2E] else start := by
  have hname' : shown scheme (start ++ 0x2E :: ending) = start ++ 0x2E :: shown scheme ending := by
    have hall : ∀ c ∈ start ++ [0x2E], ¬IsHidden scheme c :=
      List.forall_mem_append.mpr
        ⟨hshown, List.forall_mem_singleton.mpr (not_isHidden_stop scheme)⟩
    have happend := Url.shown_append hall ending
    simpa only [List.append_assoc, List.singleton_append] using happend
  have hslash : separator ∉ shown scheme (start ++ 0x2E :: ending) :=
    fun hmem => hname.separator_not_mem (Url.mem_of_mem_shown hmem)
  rw [hname'] at hurl hslash
  have hne : start ++ 0x2E :: shown scheme ending ≠ [] :=
    List.append_ne_nil_of_left_ne_nil hstart _
  have hhere : start ++ 0x2E :: shown scheme ending ≠ Path.here := by
    intro heq
    have hlength := congrArg List.length heq
    have hpositive := List.length_pos_of_ne_nil hstart
    rw [List.length_append, List.length_cons] at hlength
    change _ = 1 at hlength
    omega
  rw [stem_of_shown hslash hne hhere hurl]
  split
  case isTrue hnil => rw [hnil, Path.splitSuffix_append_stop]
  case isFalse hending =>
    rw [Path.splitSuffix_append hstart hending fun hmem => hfree (Url.mem_of_mem_shown hmem)]

/-- Where the URL comes to the last name, its path holds no hidden character. -/
theorem not_isHidden_of_mem_path {scheme before : Text} (hbefore : ∀ c ∈ before, ¬IsHidden scheme c)
    (hurl : url.path = before ++ separator :: shown scheme name ∨ url.path = shown scheme name) :
    ∀ c ∈ url.path, ¬IsHidden scheme c := by
  have hname : ∀ c ∈ shown scheme name, ¬IsHidden scheme c :=
    fun c hc => Url.not_isHidden_of_mem_shown hc
  rcases hurl with hurl | hurl
  · rw [hurl]
    exact List.forall_mem_append.mpr
      ⟨hbefore, List.forall_mem_cons.mpr ⟨not_isHidden_separator scheme, hname⟩⟩
  · rwa [hurl]

/-- Where the URL comes to the last name, the document is named after the stem if and only if the
stem is shown. -/
theorem stem_eq_iff_showsStem (hpath : path.IsRegular) (h : ReachesName path)
    (hurl : Url.ofText path.toText = .ok url) :
    (Path.ofText url.path).stem = path.stem ↔ ShowsStem path := by
  obtain ⟨hname, _⟩ := exists_directories_of_reachesName hpath h
  obtain ⟨before, hbefore, hurlPath⟩ := exists_path_of_reachesName hpath h hurl
  rw [(Url.ofText_eq_ok hurl).1] at hbefore hurlPath
  have hstem : (Path.ofText url.path).stem = path.stem →
      ∀ c ∈ path.stem, ¬IsHidden (schemeOf path.toText) c := fun hsame c hc =>
    not_isHidden_of_mem_path hbefore hurlPath c (mem_path_of_mem_stem (hsame ▸ hc))
  rcases Path.stem_suffix_cases path with
    ⟨hwhole, hsuffix⟩ | ⟨start, ending, hstart, _, hfree, hcut, hstart', hsuffix⟩
  · constructor
    · exact fun hsame => ⟨hstem hsame, Or.inl hsuffix⟩
    · intro hshows
      rw [hwhole]
      exact stem_eq_of_no_suffix hname hwhole (hwhole ▸ hshows.stem) hurlPath
  · rw [hcut] at hname hurlPath
    constructor
    · intro hsame
      refine ⟨hstem hsame, Or.inr fun hnil => ?_⟩
      have hstop := stem_eq_of_suffix hname hstart hfree (hstart' ▸ hstem hsame) hurlPath
      rw [hsuffix, List.tail_cons] at hnil
      rw [hsame, hstart', if_pos hnil] at hstop
      exact absurd (congrArg List.length hstop) (by simp)
    · intro hshows
      have hrest := hshows.suffix.resolve_left (by rw [hsuffix]; exact List.cons_ne_nil _ _)
      rw [hsuffix, List.tail_cons] at hrest
      rw [stem_eq_of_suffix hname hstart hfree (hstart' ▸ hshows.stem) hurlPath, if_neg hrest,
        hstart']

end Name

/-! ## Loaded documents -/

theorem documentName_of_loadFile {files : FileTree} {path : Path} {document : Schema.Document}
    (h : loadFile files path = .ok document) : documentName path.toText = .ok document.name := by
  obtain ⟨found, _, h⟩ := Fallible.bind_eq_ok_iff.mp h
  cases found with
  | none => cases h
  | some node =>
      obtain ⟨_, _, h⟩ := Fallible.bind_eq_ok_iff.mp h
      obtain ⟨name, hname, h⟩ := Fallible.bind_eq_ok_iff.mp h
      cases h
      exact Fallible.mapError_eq_ok_iff.mp hname

/-- A stem with a character that URLs drop, or that starts a query or fragment, is not the name of
the document.  Where reading the path as a URL comes to its last name, the stem is the name if and
only if the reading shows it. -/
theorem loadFile_named {files : FileTree} {t : Text} {document : Schema.Document}
    (h : loadFile files (Path.ofText t) = .ok document) :
    ((∃ c ∈ (Path.ofText t).stem, Url.isJunk c = true ∨ c = 0x3F ∨ c = 0x23) →
        document.name ≠ (Path.ofText t).stem) ∧
      (ReachesName (Path.ofText t) →
        (document.name = (Path.ofText t).stem ↔ ShowsStem (Path.ofText t))) := by
  obtain ⟨url, hurl, hname⟩ := documentName_eq_ok_iff.mp (documentName_of_loadFile h)
  rw [← hname]
  constructor
  · rintro ⟨c, hc, hmark⟩ hsame
    exact Url.not_mark_of_mem_path hurl (mem_path_of_mem_stem (hsame ▸ hc)) hmark
  · exact fun hreaches => stem_eq_iff_showsStem (Path.isRegular_ofText t) hreaches hurl

/-- A tree with a file whose name has a character with a meaning in URLs, and one whose name has
none. -/
def markedFiles : FileTree where
  nodes := [(["d"], .directory), (["b.c.avsc", "d"], .file [0x7B, 0x7D]),
    (["a#b.avsc"], .file [0x7B, 0x7D])]

theorem loadFile_plainName : loadFile markedFiles (Path.ofText "d/b.c.avsc") =
    .ok { name := "b.c", content := "{}" } := rfl

theorem loadFile_markedName : loadFile markedFiles (Path.ofText "a#b.avsc") =
    .ok { name := "a", content := "{}" } := rfl

theorem markedFiles_named :
    Text.ofString "a" ≠ (Path.ofText "a#b.avsc").stem ∧
      ReachesName (Path.ofText "d/b.c.avsc") ∧ ShowsStem (Path.ofText "d/b.c.avsc") ∧
      Text.ofString "b.c" = (Path.ofText "d/b.c.avsc").stem := by
  have hreaches : ReachesName (Path.ofText "d/b.c.avsc") :=
    ⟨by decide +kernel, Or.inl (by decide +kernel)⟩
  have hshows : ShowsStem (Path.ofText "d/b.c.avsc") :=
    ⟨by decide +kernel, Or.inr (by decide +kernel)⟩
  refine ⟨(loadFile_named loadFile_markedName).1 ⟨0x23, by decide +kernel, Or.inr (Or.inr rfl)⟩,
    hreaches, hshows, ?_⟩
  exact ((loadFile_named loadFile_plainName).2 hreaches).mpr hshows

/-- A document from a file is not always named after the stem. -/
theorem markedName_not_stem :
    ¬∀ (files : FileTree) (t : Text) (document : Schema.Document),
      loadFile files (Path.ofText t) = .ok document → document.name = (Path.ofText t).stem := by
  intro h
  have hname := h markedFiles "a#b.avsc" _ loadFile_markedName
  revert hname
  decide +kernel

end Loading

end RecordSmith
