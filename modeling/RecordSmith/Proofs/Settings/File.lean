import RecordSmith.Proofs.Files.Presence
import RecordSmith.Proofs.Json.LineEndings
import RecordSmith.Proofs.Settings.Refusals

/-!
# What comes of reading a settings file

Settings are read exactly from an object in a JSON document in UTF-8, in a file with the suffix of
such files.  Most else is refused with a message.  Without one end a path that is too long for the
system, bytes that are not UTF-8, and a document in which the reader of JSON comes to an integer
that is too long, or to containers too deep inside one another.
-/

namespace RecordSmith

namespace Catalog

open Fallible (FailsOnly failsOnly_ok failsOnly_error_iff)

/-- A file with these bytes and the suffix of settings files stands at the path. -/
structure IsSettingsFile (files : FileTree) (path : Path) (content : Bytes) : Prop where
  allowed : path.IsAllowed
  found : files.node path = .ok (.file content)
  suffixed : Text.toLower path.suffix = fileSuffix

/-- A settings file with an object of these entries stands at the path. -/
def HoldsSettings (files : FileTree) (path : Path) (entries : Entries) : Prop :=
  ∃ content t, IsSettingsFile files path content ∧ Text.ofUtf8? content = some t ∧
    Json.read t = .ok (.object entries)

/-- The reader of JSON gives up on the text, but not for a defect of it. -/
inductive Exhausts (t : Text) : Prop where
  | integerTooLong (h : Json.read t = .error .integerTooLong)
  | nestedTooDeep (h : Json.read t = .error .nestedTooDeep)

/-- What stands at the path makes the reading of settings fail without a message. -/
inductive Defeats (files : FileTree) (path : Path) : Prop where
  | pathTooLong (h : files.IsTooLong path)
  | notUtf8 {content : Bytes} (hfile : IsSettingsFile files path content)
      (hbytes : Text.ofUtf8? content = none)
  | exhausted {content : Bytes} {t : Text} (hfile : IsSettingsFile files path content)
      (ht : Text.ofUtf8? content = some t) (h : Exhausts t)

/-! ## Documents -/

section Documents

variable {path : Path} {t : Text}

theorem settingsOfJson_eq_ok_iff {entries : Entries} :
    settingsOfJson path t = .ok entries ↔ Json.read t = .ok (.object entries) := by
  unfold settingsOfJson
  split
  case h_1 found hfound => rw [hfound, Except.ok.injEq, Except.ok.injEq, Value.object.injEq]
  case h_2 value hvalue hfound =>
    rw [hfound, Except.ok.injEq]
    exact iff_of_false (by rintro ⟨⟩) (hvalue entries)
  all_goals
    rename_i hfound
    rw [hfound]
    exact iff_of_false (by rintro ⟨⟩) (by rintro ⟨⟩)

theorem failsOnly_settingsOfJson_iff :
    FailsOnly SettingsError.IsAnnounced (settingsOfJson path t) ↔ ¬Exhausts t := by
  rw [settingsOfJson]
  split
  case h_1 hfound =>
    refine iff_of_true (failsOnly_ok _) ?_
    rintro (h | h) <;> cases hfound.symm.trans h
  case h_2 hfound =>
    refine iff_of_true (failsOnly_error_iff.mpr rfl) ?_
    rintro (h | h) <;> cases hfound.symm.trans h
  case h_3 hfound =>
    refine iff_of_true (failsOnly_error_iff.mpr rfl) ?_
    rintro (h | h) <;> cases hfound.symm.trans h
  case h_4 hfound =>
    rw [failsOnly_error_iff]
    exact iff_of_false Bool.false_ne_true fun h => h (.integerTooLong hfound)
  case h_5 hfound =>
    rw [failsOnly_error_iff]
    exact iff_of_false Bool.false_ne_true fun h => h (.nestedTooDeep hfound)

/-- The line endings of a document do not matter for whether the reader follows it. -/
theorem exhausts_normalizeNewlines : Exhausts (Text.normalizeNewlines t) ↔ Exhausts t := by
  have hinteger : ∀ other : Json.Failure,
      other.withoutPlace = .integerTooLong ↔ other = .integerTooLong := by
    rintro (_ | _ | _) <;> simp [Json.Failure.withoutPlace]
  have hdepth : ∀ other : Json.Failure,
      other.withoutPlace = .nestedTooDeep ↔ other = .nestedTooDeep := by
    rintro (_ | _ | _) <;> simp [Json.Failure.withoutPlace]
  constructor
  · rintro (h | h)
    · exact .integerTooLong ((Json.read_normalizeNewlines_eq_error_iff hinteger).mp h)
    · exact .nestedTooDeep ((Json.read_normalizeNewlines_eq_error_iff hdepth).mp h)
  · rintro (h | h)
    · exact .integerTooLong ((Json.read_normalizeNewlines_eq_error_iff hinteger).mpr h)
    · exact .nestedTooDeep ((Json.read_normalizeNewlines_eq_error_iff hdepth).mpr h)

end Documents

/-! ## Files -/

section Files

variable {files : FileTree} {path : Path}

/-- Without a file to read settings from, what is left is whether the path is too long. -/
theorem readSettings_without_file (hfile : ∀ content, ¬IsSettingsFile files path content) :
    ∃ error, readSettings files path = .error error ∧
      (error.IsAnnounced ↔ ¬files.IsTooLong path) := by
  rw [readSettings, FileAction.pathExists_run]
  rcases hnode : files.node? path with fault | _ | node
  · refine ⟨_, rfl, iff_of_false Bool.false_ne_true ?_⟩
    exact not_not_intro (FileTree.node?_eq_error_iff.mp hnode).1
  all_goals
    have hshort : ¬files.IsTooLong path := by
      intro hlong
      cases hnode.symm.trans (FileTree.node?_eq_error_iff.mpr ⟨hlong, rfl⟩)
  · exact ⟨_, rfl, iff_of_true rfl hshort⟩
  · obtain ⟨hallowed, hfound⟩ := FileTree.node?_eq_some_iff.mp hnode
    dsimp only [Option.isSome]
    by_cases hsuffix : Text.toLower path.suffix = fileSuffix
    · rw [if_neg (by simpa using hsuffix)]
      cases node with
      | directory =>
          rw [FileAction.readText_run_directory hallowed hfound]
          exact ⟨_, rfl, iff_of_true rfl hshort⟩
      | file content => exact absurd ⟨hallowed, hfound, hsuffix⟩ (hfile content)
    · rw [if_pos (by simpa using hsuffix)]
      exact ⟨_, rfl, iff_of_true rfl hshort⟩

section IsSettingsFile

variable {content : Bytes} (hfile : IsSettingsFile files path content)
include hfile

theorem IsSettingsFile.eq {other : Bytes} (hother : IsSettingsFile files path other) :
    other = content :=
  Node.file.inj (Except.ok.inj (hother.found.symm.trans hfile.found))

theorem IsSettingsFile.holdsSettings_iff {entries : Entries} :
    HoldsSettings files path entries ↔
      ∃ t, Text.ofUtf8? content = some t ∧ Json.read t = .ok (.object entries) := by
  constructor
  · rintro ⟨other, t, hother, ht, hread⟩
    exact ⟨t, hfile.eq hother ▸ ht, hread⟩
  · rintro ⟨t, ht, hread⟩
    exact ⟨content, t, hfile, ht, hread⟩

/-- The path to a file is not too long, so that the bytes alone can defeat the reading. -/
theorem IsSettingsFile.defeats_iff :
    Defeats files path ↔ ∀ t, Text.ofUtf8? content = some t → Exhausts t := by
  constructor
  · rintro (hlong | ⟨hother, hbytes⟩ | ⟨hother, ht, hexhausts⟩) t hcontent
    · cases hfile.found.symm.trans hlong.2
    · rw [hfile.eq hother, hcontent] at hbytes
      cases hbytes
    · rw [hfile.eq hother, hcontent, Option.some.injEq] at ht
      rwa [ht]
  · intro h
    cases hbytes : Text.ofUtf8? content with
    | none => exact .notUtf8 hfile hbytes
    | some t => exact .exhausted hfile hbytes (h t hbytes)

theorem readSettings_of_file :
    readSettings files path =
      match Text.ofUtf8? content with
      | none => .error .fileNotUtf8
      | some t => settingsOfJson path (Text.normalizeNewlines t) := by
  obtain ⟨hallowed, hfound, hsuffix⟩ := hfile
  rw [readSettings, FileAction.pathExists_run,
    FileTree.node?_eq_some_iff.mpr ⟨hallowed, hfound⟩]
  dsimp only [Option.isSome]
  rw [if_neg (by simpa using hsuffix), FileAction.readText_run_file hallowed hfound]
  cases Text.ofUtf8? content with
  | none => rfl
  | some t => rfl

end IsSettingsFile

/-- Settings are read if and only if they are there.  A failure has a message if and only if
nothing defeats the reading. -/
theorem readSettings_answers (files : FileTree) (path : Path) :
    (∀ entries, readSettings files path = .ok entries ↔ HoldsSettings files path entries) ∧
      (FailsOnly SettingsError.IsAnnounced (readSettings files path) ↔ ¬Defeats files path) := by
  by_cases hfile : ∃ content, IsSettingsFile files path content
  · obtain ⟨content, hfile⟩ := hfile
    simp only [hfile.holdsSettings_iff, hfile.defeats_iff, readSettings_of_file hfile]
    cases Text.ofUtf8? content with
    | none =>
        constructor
        · exact fun entries => iff_of_false (by rintro ⟨⟩) (by rintro ⟨t, ⟨⟩, _⟩)
        · rw [failsOnly_error_iff]
          exact iff_of_false Bool.false_ne_true (not_not_intro (by rintro _ ⟨⟩))
    | some t =>
        simp only [Option.some.injEq, exists_eq_left', forall_eq']
        constructor
        · intro entries
          rw [settingsOfJson_eq_ok_iff, Json.read_normalizeNewlines_eq_ok_iff]
        · rw [failsOnly_settingsOfJson_iff, exhausts_normalizeNewlines]
  · rw [not_exists] at hfile
    obtain ⟨error, herror, hannounced⟩ := readSettings_without_file hfile
    rw [herror]
    refine ⟨fun entries => iff_of_false (by rintro ⟨⟩) ?_, ?_⟩
    · rintro ⟨content, _, hcontent, _⟩
      exact hfile content hcontent
    · rw [failsOnly_error_iff, hannounced]
      refine not_congr ⟨.pathTooLong, ?_⟩
      rintro (hlong | ⟨hother, _⟩ | ⟨hother, _, _⟩)
      · exact hlong
      · exact absurd hother (hfile _)
      · exact absurd hother (hfile _)

/-- A file with a byte that begins no character is refused, but without a message. -/
theorem strayByte_refused_without_message :
    ¬FailsOnly SettingsError.IsAnnounced
      (readSettings { nodes := [(["c.json"], .file [0xFF])] } (Path.ofText "c.json")) := by
  have hrefused : readSettings { nodes := [(["c.json"], .file [0xFF])] } (Path.ofText "c.json") =
      .error .fileNotUtf8 := rfl
  rw [hrefused, failsOnly_error_iff]
  exact Bool.false_ne_true

end Files

end Catalog

end RecordSmith
