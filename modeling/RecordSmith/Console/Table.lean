import RecordSmith.Console.Wrap
import RecordSmith.Text.Lines

/-!
# Tables and panels

Boxes drawn with line characters.  The columns of a table are as wide as their contents, unless that
is too wide for the terminal: then the widest columns are narrowed first and their cells broken.
-/

namespace RecordSmith.Console

/-- A line across a box. -/
structure Rule where
  left : CodePoint
  fill : CodePoint
  divider : CodePoint
  right : CodePoint

/-- The lines of a box.  The fill of `row` is not used. -/
structure Border where
  top : Rule
  row : Rule
  head : Rule
  bottom : Rule

namespace Border

/-- A frame with round corners. -/
def rounded : Border where
  top := ⟨'╭'.toNat, '─'.toNat, '┬'.toNat, '╮'.toNat⟩
  row := ⟨'│'.toNat, 0x20, '│'.toNat, '│'.toNat⟩
  head := ⟨'├'.toNat, '─'.toNat, '┼'.toNat, '┤'.toNat⟩
  bottom := ⟨'╰'.toNat, '─'.toNat, '┴'.toNat, '╯'.toNat⟩

/-- A line below the head and nothing else. -/
def simple : Border where
  top := ⟨0x20, 0x20, 0x20, 0x20⟩
  row := ⟨0x20, 0x20, 0x20, 0x20⟩
  head := ⟨0x20, '─'.toNat, '─'.toNat, 0x20⟩
  bottom := ⟨0x20, 0x20, 0x20, 0x20⟩

end Border

/-- A rule over columns of the given widths. -/
def Rule.draw (rule : Rule) (widths : List Nat) : Text :=
  rule.left ::
    Text.join [rule.divider] (widths.map fun width => List.replicate width rule.fill) ++
      [rule.right]

/-- A table.  Every row has a cell for each column. -/
structure Table where
  title : Text
  border : Border
  columns : List Text
  rows : List (List Text)

namespace Table

/-- The space around the text of a cell, on both sides together. -/
def padding : Nat := 2

/-- The cells of each column, with its head. -/
def columnTexts (table : Table) : List (List Text) :=
  table.rows.foldr (fun row below => List.zipWith (· :: ·) row below)
      (table.columns.map fun _ => [])
    |> List.zipWith (· :: ·) table.columns

/-- The number of cells that a text takes if no line of it is broken. -/
def naturalWidth (t : Text) : Nat := ((Text.documentationLines t).map cells).foldl max 0

/-- The width of a column that shows texts without breaking a line, within a limit. -/
def columnWidth (limit : Nat) (texts : List Text) : Nat :=
  min limit ((texts.map naturalWidth).foldl max 0 + padding)

/-- A quotient rounded to the nearest number, a half to the even one. -/
def roundHalfEven (num den : Nat) : Nat :=
  let quotient := num / den
  let rest := num % den
  if 2 * rest < den || (2 * rest == den && quotient % 2 == 0) then quotient else quotient + 1

/-- Takes `excess` away from the columns of width `widest`, of which there are `count`, in even
shares and at most `most` from each. -/
def narrow (widest most : Nat) : (excess count : Nat) → List Nat → List Nat
  | _, _, [] => []
  | excess, count, width :: rest =>
    if width == widest then
      let share := min most (roundHalfEven excess count)
      (width - share) :: narrow widest most (excess - share) (count - 1) rest
    else width :: narrow widest most excess count rest

/-- The width of all columns together. -/
def totalWidth (widths : List Nat) : Nat := widths.foldl (· + ·) 0

/-- Narrows the widest columns until all fit into `limit`, in at most as many steps as are given. -/
def narrowUntil (limit : Nat) : Nat → List Nat → List Nat
  | 0, widths => widths
  | steps + 1, widths =>
    if totalWidth widths ≤ limit then widths
    else
      let excess := totalWidth widths - limit
      let widest := widths.foldl max 0
      let next := (widths.filter (· != widest)).foldl max 0
      narrowUntil limit steps
        (narrow widest (min excess (widest - next)) excess (widths.count widest) widths)

/-- The widths of columns that fit into `limit`; every step narrows a column. -/
def fitColumns (limit : Nat) (widths : List Nat) : List Nat :=
  narrowUntil limit (totalWidth widths) widths

/-- The lines of a cell, with the space around them. -/
def cellLines (width : Nat) (t : Text) : List Text :=
  (wrap (width - padding) .ellipsis t).map fun line =>
    padRight width (0x20 :: line)

/-- The lines of a row. -/
def rowLines (rule : Rule) (widths : List Nat) (row : List Text) : List Text :=
  let lines := List.zipWith cellLines widths row
  let height := (lines.map List.length).foldl max 1
  (List.range height).map fun index =>
    let parts := List.zipWith
      (fun width (cell : List Text) => (cell[index]?).getD (List.replicate width 0x20)) widths lines
    rule.left :: Text.join [rule.divider] parts ++ [rule.right]

/-- A text in the middle of a width. -/
def center (width : Nat) (t : Text) : Text :=
  let t := crop width (Text.trimEnd t)
  padRight width (List.replicate ((width - cells t) / 2) 0x20 ++ t)

/-- The lines of a table on a terminal of a width. -/
def lines (table : Table) (width : Nat) : List Text :=
  let frame := table.columns.length + 1
  let widths := fitColumns (width - frame)
    (table.columnTexts.map (columnWidth (width - frame)))
  let total := totalWidth widths + frame
  (wrap total .fold table.title).map (center total) ++
    [table.border.top.draw widths] ++
    rowLines table.border.row widths table.columns ++
    [table.border.head.draw widths] ++
    table.rows.flatMap (rowLines table.border.row widths) ++
    [table.border.bottom.draw widths]

end Table

/-- A text in a frame with a title. -/
structure Panel where
  title : Text
  content : Text

namespace Panel

/-- The line of a frame with a title in the middle. -/
def titleLine (width : Nat) (title : Text) : Text :=
  let line := '─'.toNat
  let room := width - 4
  let title := crop room (0x20 :: title ++ [0x20])
  let excess := room - cells title
  '╭'.toNat :: line :: List.replicate (excess / 2) line ++ title ++
    List.replicate (excess - excess / 2) line ++ [line, '╮'.toNat]

/-- The lines of a panel as wide as the terminal. -/
def lines (panel : Panel) (width : Nat) : List Text :=
  let inner := width - 4
  [titleLine width panel.title] ++
    ((wrap inner .fold panel.content).map fun line =>
      Border.rounded.row.left :: 0x20 :: padRight inner line ++ [0x20, Border.rounded.row.right]) ++
    [Border.rounded.bottom.draw [width - 2]]

end Panel

end RecordSmith.Console
