import RecordSmith.Console.Cells
import RecordSmith.Console.Markup
import RecordSmith.Text.Lines

/-!
# Listings

Source text is shown line by line as it is.  Lines are not broken but end at the edge of the
terminal.
-/

namespace RecordSmith.Console

/-- Tabs of a source text become spaces up to the next multiple of `size` characters in their line,
of which `column` are there. -/
def expandSourceTabs (size column : Nat) : Text → Text
  | [] => []
  | c :: rest =>
    if c == 0x09 then
      List.replicate (size - column % size) 0x20 ++
        expandSourceTabs size (column + (size - column % size)) rest
    else if c == 0x0A || c == 0x0D then c :: expandSourceTabs size 0 rest
    else c :: expandSourceTabs size (column + 1) rest

/-- The number of characters between tab stops in source texts. -/
def sourceTabs : Nat := 4

/-- The lines of a source text.  A line feed at the end is followed by one more line, which is
empty. -/
def listing (width : Nat) (source : Text) : List Text :=
  let t := Text.normalizeNewlines (expandSourceTabs sourceTabs 0 source)
  let t := if source.getLast? == some 0x0A then t else Text.chomp t
  (Text.splitLines (t.filter fun c => !Markup.isHidden c)).map (crop width)

end RecordSmith.Console
