import RecordSmith.Console.Cells
import RecordSmith.Text.Blank

/-!
# Line breaking

A line that is too long for the terminal is broken before a word.  A word that is longer than a line
is cut into pieces or cropped with an ellipsis.
-/

namespace RecordSmith.Console

/-- What happens to a word that is longer than a line. -/
inductive Overflow where
  | fold
  | ellipsis
  deriving Repr, DecidableEq

/-- The start of a word is followed by white space, so that further letters start a new one. -/
def isFinished (word : Text) : Bool :=
  (word.getLast?.map Text.isBlank).getD false && word.any fun c => !Text.isBlank c

/-- The words of a text that follows the start of a word. -/
def wordsAfter (word : Text) : Text → List Text
  | [] => [word]
  | c :: rest =>
    if !Text.isBlank c && isFinished word then word :: wordsAfter [c] rest
    else wordsAfter (word ++ [c]) rest

/-- The words of a text, each with the white space after it, and the first with that before it. -/
def words (t : Text) : List Text := wordsAfter [] t

/-- Puts words on lines.  `line` takes `used` cells and is still to be filled. -/
def placeWords (width : Nat) (overflow : Overflow) (line : Text) (used : Nat) :
    List Text → List Text
  | [] => [line]
  | word :: rest =>
    let size := cells (Text.trimEnd word)
    let before := if line.isEmpty then [] else [line]
    if used + size ≤ width then placeWords width overflow (line ++ word) (used + cells word) rest
    else if width < size && overflow == .fold then
      let pieces := chop width word
      let last := pieces.getLastD []
      before ++ pieces.dropLast ++ placeWords width overflow last (cells last) rest
    else if width < size || (used != 0 && !line.isEmpty) then
      before ++ placeWords width overflow word (cells word) rest
    else placeWords width overflow (line ++ word) used rest

/-- The text without white space at its end that goes beyond a number of characters. -/
def trimBeyond (length : Nat) (t : Text) : Text :=
  t.take (max length (Text.trimEnd t).length)

/-- Makes a broken line fit. -/
def cropLine (width : Nat) (overflow : Overflow) (line : Text) : Text :=
  match overflow with
  | .fold => crop width line
  | .ellipsis => if width < cells line then crop (width - 1) line ++ "…" else line

/-- The number of cells between tab stops in messages. -/
def messageTabs : Nat := 8

/-- The lines of a text, broken at a width. -/
def wrap (width : Nat) (overflow : Overflow) (t : Text) : List Text :=
  (Text.splitLines t).flatMap fun line =>
    (placeWords width overflow [] 0 (words (expandTabs messageTabs line))).map fun broken =>
      cropLine width overflow (trimBeyond width broken)

end RecordSmith.Console
