import RecordSmith.Text.Basic

/-!
# Addresses in brackets

An authority of a URL may hold an address in square brackets: eight groups of hexadecimal digits, of
which a row can be left out and the last two can be four decimal numbers, or a text of a later
format.
-/

namespace RecordSmith.Address

/-- The colon, which separates groups. -/
def colon : CodePoint := 0x3A

/-- The full stop, which separates decimal numbers. -/
def stop : CodePoint := 0x2E

/-- A group: one to four hexadecimal digits. -/
def isGroup (t : Text) : Bool :=
  !t.isEmpty && t.length ≤ 4 && t.all fun c => (Text.hexValue? c).isSome

/-- A decimal number up to 255 without leading zeros. -/
def isOctet (t : Text) : Bool :=
  !t.isEmpty && t.all Text.isAsciiDigit && t.length ≤ 3 && Text.digitsValue t ≤ 255 &&
    (t.length == 1 || t.head? != some 0x30)

/-- Four decimal numbers between full stops. -/
def isDottedQuad (t : Text) : Bool :=
  let parts := Text.splitOn (· == stop) t
  parts.length == 4 && parts.all isOctet

/-- The groups with two in place of four decimal numbers at the end, unless these are malformed. -/
def expandQuad (groups : List Text) : Option (List Text) :=
  match groups.getLast? with
  | some last =>
    if last.contains stop then
      if isDottedQuad last then
        some (groups.dropLast ++ [Text.ofString "0", Text.ofString "0"])
      else none
    else some groups
  | none => some groups

/-- A row of groups at one side of those that are left out: the side may be empty. -/
def side (groups : List Text) : List Text := if groups == [[]] then [] else groups

/-- The place of the first empty group that is neither the first nor the last one. -/
def gap? (groups : List Text) : Option Nat :=
  (groups.dropLast.drop 1).findIdx? List.isEmpty |>.map (· + 1)

/-- The groups are those of an address. -/
def areGroups (groups : List Text) : Bool :=
  match gap? groups with
  | none => groups.length == 8 && groups.all isGroup
  | some place =>
    let left := side (groups.take place)
    let right := side (groups.drop (place + 1))
    left.all isGroup && right.all isGroup && left.length + right.length ≤ 7

/-- The address without the zone behind a percent sign; none if the zone is malformed. -/
def withoutZone (t : Text) : Option Text :=
  match Text.splitFirst? 0x25 t with
  | none => some t
  | some (address, zone) => if zone.isEmpty || zone.contains 0x25 then none else some address

/-- An address of eight groups. -/
def isGrouped (t : Text) : Bool :=
  match withoutZone t with
  | none => false
  | some address =>
    let parts := Text.splitOn (· == colon) address
    3 ≤ parts.length && !t.contains 0x2F &&
      (match expandQuad parts with
        | none => false
        | some groups => groups.length ≤ 9 && areGroups groups)

/-- An address of a later format: the letter `v`, hexadecimal digits, a full stop and more. -/
def isFuture (t : Text) : Bool :=
  match Text.splitFirst? stop t with
  | some (version, rest) =>
    match version with
    | [] => false
    | letter :: digits =>
      letter == 0x76 && !digits.isEmpty && (digits.all fun c => (Text.hexValue? c).isSome) &&
        !rest.isEmpty
  | none => false

/-- A text that can stand in brackets. -/
def isAddress (t : Text) : Bool := if t.head? == some 0x76 then isFuture t else isGrouped t

end RecordSmith.Address
