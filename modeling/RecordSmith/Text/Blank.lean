import RecordSmith.Text.Ranges

/-!
# White space

The code points that separate words and that trimming removes: spaces of every width, tabs, line
and paragraph separators, the information separators U+001C to U+001F and U+0085.
-/

namespace RecordSmith.Text

/-- Ranges of the white space code points. -/
def blankRanges : List (CodePoint × CodePoint) :=
  [(9, 13), (28, 32), (133, 133), (160, 160), (5760, 5760), (8192, 8202), (8232, 8233),
   (8239, 8239), (8287, 8287), (12288, 12288)]

/-- White space: the characters that trimming removes. -/
def isBlank (c : CodePoint) : Bool := inRanges blankRanges c

/-- The text without the white space at its end. -/
def trimEnd (t : Text) : Text := (t.reverse.dropWhile isBlank).reverse

/-- The text without the white space at either end. -/
def trim (t : Text) : Text := trimEnd (t.dropWhile isBlank)

end RecordSmith.Text
