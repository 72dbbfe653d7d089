import RecordSmith.Files.Tree
import RecordSmith.Proofs.Text.Basic

/-!
# Where paths lead

Where a path leads depends on its names alone: every name goes one step inward and
two full stops go one step back.  A file name without slashes that is put behind a
text leads one step further than the parts of the text before its slashes.
-/

namespace RecordSmith

namespace Location

/-- The place that names lead to from another place. -/
def walk (start : Location) (names : List Text) : Location :=
  names.foldl (fun location name =>
    if name == Path.up then location.tail else name :: location) start

/-- The place lies strictly below another one. -/
def IsBelow (around location : Location) : Prop :=
  around <:+ location ∧ location ≠ around

instance (around location : Location) : Decidable (IsBelow around location) :=
  inferInstanceAs (Decidable (_ ∧ _))

theorem walk_append (start : Location) (names others : List Text) :
    walk start (names ++ others) = walk (walk start names) others :=
  List.foldl_append

theorem walk_singleton {name : Text} (hname : name ≠ Path.up) (start : Location) :
    walk start [name] = name :: start :=
  if_neg (by simpa using hname)

/-- What is below a place is in it or below it one step before. -/
theorem isBelow_cons {around location : Location} {name : Text} :
    IsBelow around (name :: location) ↔ around <:+ location := by
  constructor
  · rintro ⟨hsuffix, hne⟩
    rcases List.suffix_cons_iff.mp hsuffix with heq | hrest
    · exact absurd heq.symm hne
    · exact hrest
  · intro hsuffix
    refine ⟨hsuffix.trans (List.suffix_cons name location), ?_⟩
    rintro rfl
    have hlength := hsuffix.length_le
    rw [List.length_cons] at hlength
    exact absurd hlength (Nat.not_succ_le_self _)

/-- Names without two full stops lead inward. -/
theorem suffix_walk {names : List Text} (hnames : Path.up ∉ names) (start : Location) :
    start <:+ walk start names := by
  induction names generalizing start with
  | nil => exact List.suffix_refl start
  | cons name rest ih =>
      have hname : name ≠ Path.up := (List.ne_of_not_mem_cons hnames).symm
      rw [← List.singleton_append, walk_append, walk_singleton hname]
      exact (List.suffix_cons name start).trans
        (ih (List.not_mem_of_not_mem_cons hnames) (name :: start))

end Location

namespace Path

/-- The place that the names of a path start from. -/
def start (path : Path) (working : Location) : Location :=
  if path.isAbsolute then [] else working

/-- The place that a path leads to from a working directory. -/
def place (path : Path) (working : Location) : Location :=
  Location.walk (path.start working) path.names

/-- The names that are read from the parts of a text before its slashes. -/
def directoriesOf (t : Text) : List Text :=
  (Text.splitOn (· == separator) t).dropLast.filter fun name => !name.isEmpty && name != here

theorem place_join (directory path : Path) (working : Location) :
    (directory.join path).place working = path.place (directory.place working) := by
  by_cases habsolute : path.isAbsolute = true
  · rw [join, if_pos habsolute, place, start, if_pos habsolute, place, start,
      if_pos habsolute]
  · rw [join, if_neg habsolute, place.eq_1 path, start, if_neg habsolute]
    exact Location.walk_append _ directory.names path.names

section FileName

variable {ending : Text}

theorem rootOf_append (hslash : separator ∉ ending) (t : Text) :
    rootOf (t ++ ending) = rootOf t := by
  have hending : ending.takeWhile (· == separator) = [] := by
    cases ending with
    | nil => rfl
    | cons c rest =>
        have hc : c ≠ separator := (List.ne_of_not_mem_cons hslash).symm
        rw [List.takeWhile_cons, if_neg (by simpa using hc)]
  have hslashes : (t ++ ending).takeWhile (· == separator) =
      t.takeWhile (· == separator) := by
    rw [List.takeWhile_append, hending, List.append_nil]
    split
    case isTrue hall => exact ((List.takeWhile_prefix _).eq_of_length hall).symm
    case isFalse => rfl
  rw [rootOf, hslashes, rootOf]

theorem names_ofText_append (hslash : separator ∉ ending) (hlong : 2 < ending.length)
    (t : Text) :
    ∃ name, (ofText (t ++ ending)).names = directoriesOf t ++ [name] ∧ name ≠ up := by
  have hfree : ∀ c ∈ ending, (c == separator) = false :=
    fun c hc => beq_false_of_ne fun heq => hslash (heq ▸ hc)
  let part := (Text.splitOn (· == separator) t).getLast (Text.splitOn_ne_nil _ t)
  have hlength : ∀ other : Text, other.length ≤ 2 → part ++ ending ≠ other := by
    rintro other hshort rfl
    rw [List.length_append] at hshort
    exact absurd (Nat.le_trans (Nat.le_add_left _ _) hshort) (Nat.not_le_of_lt hlong)
  have hnil : part ++ ending ≠ [] := hlength [] (by decide)
  have hhere : part ++ ending ≠ here := hlength here (by decide)
  refine ⟨part ++ ending, ?_, hlength up (by decide)⟩
  rw [ofText, Text.splitOn_append_of_free hfree, List.filter_append, directoriesOf]
  rw [List.filter_cons_of_pos (by simp [part, hnil, hhere])]
  rfl

/-- A file name behind a text leads one step further than the directories. -/
theorem place_ofText_append (hslash : separator ∉ ending) (hlong : 2 < ending.length)
    (t : Text) (working : Location) :
    ∃ name, (ofText (t ++ ending)).place working =
      name :: Location.walk ((ofText t).start working) (directoriesOf t) := by
  obtain ⟨name, hnames, hname⟩ := names_ofText_append hslash hlong t
  have hstart : (ofText (t ++ ending)).start working = (ofText t).start working := by
    rw [start, isAbsolute, ofText, rootOf_append hslash]
    rfl
  refine ⟨name, ?_⟩
  rw [place, hnames, Location.walk_append, Location.walk_singleton hname, hstart]

end FileName

end Path

end RecordSmith
