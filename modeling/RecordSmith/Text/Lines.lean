import RecordSmith.Text.Basic

/-!
# Line boundaries

Two notions of a line meet in a generated file.  Documentation text is cut at every line boundary
that Unicode knows; files are read with each of CR LF, CR and LF standing for one line feed.
-/

namespace RecordSmith.Text

/-- A code point that ends a line of documentation text. -/
def isLineBoundary (c : CodePoint) : Bool :=
  (0x0A ≤ c && c ≤ 0x0D) || (0x1C ≤ c && c ≤ 0x1E) || c == 0x85 || c == 0x2028 || c == 0x2029

/-- Every CR LF and every other CR of a text becomes a line feed; `afterReturn` says that the text
follows a CR, which has been replaced already. -/
def newlinesAfter (afterReturn : Bool) : Text → Text
  | [] => []
  | c :: rest =>
    if c == 0x0D then 0x0A :: newlinesAfter true rest
    else if afterReturn && c == 0x0A then newlinesAfter false rest
    else c :: newlinesAfter false rest

/-- Every CR LF and every other CR becomes a line feed. -/
def normalizeNewlines (t : Text) : Text := newlinesAfter false t

/-- The list without an empty text at its end. -/
def dropLastEmpty (lines : List Text) : List Text :=
  if lines.getLast? == some [] then lines.dropLast else lines

/-- The lines of a text without their boundaries; CR LF is one boundary, and a boundary at the very
end opens no further line. -/
def documentationLines (t : Text) : List Text :=
  dropLastEmpty (splitOn isLineBoundary (normalizeNewlines t))

/-- The text without one line feed at its end. -/
def chomp (t : Text) : Text := if t.getLast? == some 0x0A then t.dropLast else t

end RecordSmith.Text
