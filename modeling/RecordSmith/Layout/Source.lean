import RecordSmith.Text.Blank
import RecordSmith.Text.Lines

/-!
# Source texts

A source text is put together from the parts of a layout and then cleaned up: no line ends in white
space, no more than two lines in a row are empty, and the text ends with a single line ending.
-/

namespace RecordSmith.Layout

/-- The lines of a part, each with a line feed behind it. -/
def unlines (lines : List Text) : Text := lines.flatMap (· ++ [0x0A])

/-- The parts of a source text, as lines of its layout. -/
structure Source where
  header : List Text
  members : List (List Text)
  footer : List Text
  deriving Repr, DecidableEq

/-- The source text: header, members and footer on lines of their own, with an empty line behind
each member. -/
def Source.assemble (source : Source) : Text :=
  Text.join [0x0A] ([Text.chomp (unlines source.header)] ++
    (source.members.flatMap fun member => [Text.chomp (unlines member), []]) ++
    [Text.chomp (unlines source.footer)])

/-- How many empty lines may follow one another. -/
def maxEmptyLines : Nat := 2

/-- Trims the lines at their ends and drops empty ones beyond the limit; `run` counts the empty
lines directly before. -/
def squeeze (run : Nat) : List Text → List Text
  | [] => []
  | line :: rest =>
    match Text.trimEnd line with
    | [] => if run < maxEmptyLines then [] :: squeeze (run + 1) rest else squeeze (run + 1) rest
    | c :: trimmed => (c :: trimmed) :: squeeze 0 rest

/-- The lines without the empty ones at the end. -/
def dropFinalEmpty (lines : List Text) : List Text := (lines.reverse.dropWhile List.isEmpty).reverse

/-- The lines of a cleaned up source text. -/
def cleanLines (t : Text) : List Text := dropFinalEmpty (squeeze 0 (Text.splitLines t))

/-- The cleaned up source text. -/
def cleanUp (lineEnding t : Text) : Text := Text.join lineEnding (cleanLines t) ++ lineEnding

end RecordSmith.Layout
