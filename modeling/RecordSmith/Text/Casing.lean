import RecordSmith.Text.CaseTable

/-!
# Upper and lower case

Case mapping of texts.  A code point may be mapped to several, and the lower case of a capital
sigma depends on its neighbours: at the end of a word it is the final form U+03C2.
-/

namespace RecordSmith.Text

/-- The code point that a run maps `c` to, if `c` belongs to the run. -/
def CaseRun.image? (run : CaseRun) (c : CodePoint) : Option CodePoint :=
  if run.start ≤ c && c ≤ run.stop && (c - run.start) % run.step == 0 then
    some (run.image + (c - run.start))
  else none

/-- The image of `c` under a mapping that is given by runs and by single expansions; a code point
that is in neither is mapped to itself. -/
def mapCase (runs : List CaseRun) (expansions : List (CodePoint × Text)) (c : CodePoint) : Text :=
  match runs.findSome? (·.image? c) with
  | some d => [d]
  | none => (expansions.lookup c).getD [c]

/-- The upper case of one code point. -/
def upperOf (c : CodePoint) : Text := mapCase upperRuns upperExpansions c

/-- The lower case of one code point that has no neighbours. -/
def lowerOf (c : CodePoint) : Text := mapCase lowerRuns lowerExpansions c

/-- The upper case of a text. -/
def toUpper (t : Text) : Text := t.flatMap upperOf

/-- GREEK CAPITAL LETTER SIGMA. -/
def capitalSigma : CodePoint := 0x3A3

/-- The first code point that is not skipped is a cased one. -/
def meetsCased (t : Text) : Bool :=
  match t.dropWhile (inRanges caseIgnorableRanges) with
  | [] => false
  | c :: _ => inRanges casedRanges c

/-- The lower case of a capital sigma between `before`, read backwards, and `after`. -/
def lowerSigma (before after : Text) : CodePoint :=
  if meetsCased before && !meetsCased after then 0x3C2 else 0x3C3

/-- The lower case of a text that follows `before`, which is given backwards. -/
def lowerAfter (before : Text) : Text → Text
  | [] => []
  | c :: rest =>
    (if c == capitalSigma then [lowerSigma before rest] else lowerOf c) ++
      lowerAfter (c :: before) rest

/-- The lower case of a text. -/
def toLower (t : Text) : Text := lowerAfter [] t

/-- The text with its first code point in upper case and the others as they are. -/
def capitalizeFirst : Text → Text
  | [] => []
  | c :: rest => upperOf c ++ rest

end RecordSmith.Text
