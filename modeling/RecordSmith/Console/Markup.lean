import RecordSmith.Console.Emoji

/-!
# Markup

Messages carry style tags such as `[red]` and `[/red]`.  Without colours a tag shows nothing, but it
has to be read all the same: a closing tag needs an open one, and a backslash before a tag makes it
plain text.  Emoji codes are replaced in the text between tags.
-/

namespace RecordSmith.Console

/-- A part of a message. -/
inductive Markup where
  | plain (t : Text)
  | opening (name : Text)
  | closing (name : Text)
  deriving Repr, DecidableEq

namespace Markup

/-- The character before a tag that is to be plain text. -/
def escape : CodePoint := '\\'.toNat

/-- A character that can be the first of a tag. -/
def startsTag (c : CodePoint) : Bool :=
  Text.isAsciiLower c || c == '#'.toNat || c == '/'.toNat || c == '@'.toNat

/-- The text up to a closing bracket, if no bracket opens before. -/
def untilBracket? : Text → Option Text
  | [] => none
  | c :: rest =>
    if c == ']'.toNat then some []
    else if c == '['.toNat then none
    else (untilBracket? rest).map (c :: ·)

/-- The tag in brackets, of which the opening one has been read. -/
def tag? : Text → Option Text
  | [] => none
  | c :: rest => if startsTag c then (untilBracket? rest).map (c :: ·) else none

/-- The text before the parameters of a tag. -/
def tagName (tag : Text) : Text := tag.takeWhile (· != '='.toNat)

/-- Short names of styles with the names they stand for. -/
def styleAliases : List (Text × Text) :=
  [("b", "bold"), ("d", "dim"), ("i", "italic"), ("u", "underline"), ("uu", "underline2"),
    ("r", "reverse"), ("c", "conceal"), ("s", "strike"), ("o", "overline")]

/-- The name under which styles are compared. -/
def styleName (name : Text) : Text :=
  let name := Text.toLower (Text.trim name)
  (styleAliases.lookup name).getD name

/-- The part that a tag stands for. -/
def ofTag (tag : Text) : Markup :=
  match tagName tag with
  | [] => .opening []
  | c :: name =>
    if c == '/'.toNat then .closing (Text.trim name) else .opening (styleName (c :: name))

/-- Puts text in front of parts, into the first one if that is text. -/
def prepend (t : Text) : List Markup → List Markup
  | .plain other :: rest => .plain (t ++ other) :: rest
  | parts => .plain t :: parts

/-- A row of backslashes. -/
def escapes (count : Nat) : Text := List.replicate count escape

/-- The parts of a message.  `pending` backslashes have been read and `skip` characters belong to a
tag that has been read.  Text before a tag, the backslashes that it shows and a tag that is shown
are parts of their own. -/
def partsAfter : (pending skip : Nat) → Text → List Markup
  | pending, _, [] => [.plain (escapes pending)]
  | pending, skip + 1, _ :: rest => partsAfter pending skip rest
  | pending, 0, c :: rest =>
    if c == escape then partsAfter (pending + 1) 0 rest
    else if c == '['.toNat then
      match tag? rest with
      | some tag =>
        let part := if pending % 2 == 1 then .plain (c :: tag ++ "]") else ofTag tag
        .plain [] :: .plain (escapes (pending / 2)) :: part :: partsAfter 0 (tag.length + 1) rest
      | none => prepend (escapes (pending - 1) ++ [c]) (partsAfter 0 0 rest)
    else prepend (escapes pending ++ [c]) (partsAfter 0 0 rest)

/-- The parts of a message. -/
def parts (t : Text) : List Markup := partsAfter 0 0 t

/-- The open tags after a closing one, the innermost first: without a name it closes the innermost,
otherwise the innermost of that name. -/
def close? (tags : List Text) (name : Text) : Option (List Text) :=
  match name, tags with
  | [], [] => none
  | [], _ :: tags => some tags
  | _, _ => if tags.contains (styleName name) then some (tags.erase (styleName name)) else none

/-- A control character that is not shown. -/
def isHidden (c : CodePoint) : Bool := c == 7 || c == 8 || c == 11 || c == 12 || c == 13

/-- The text that parts show, unless one of them closes a tag that is not open. -/
def shown? (tags : List Text) : List Markup → Option Text
  | [] => some []
  | .plain t :: rest =>
    (shown? tags rest).map ((replaceEmojiCodes t).filter (fun c => !isHidden c) ++ ·)
  | .opening name :: rest => shown? (name :: tags) rest
  | .closing name :: rest => do shown? (← close? tags name) rest

/-- The text that a message shows, unless a tag is closed that is not open. -/
def plain? (t : Text) : Option Text := shown? [] (parts t)

end Markup

end RecordSmith.Console
