import RecordSmith.Text.Basic

/-!
# UTF-8

Files and digests work on bytes.  Encoding fails on a surrogate; decoding fails on every byte
sequence that is not the encoding of a text, so that the two are inverse to each other.
-/

namespace RecordSmith

/-- A sequence of bytes. -/
abbrev Bytes := List UInt8

namespace Text

/-- The bytes of one code point; none for a surrogate and beyond U+10FFFF. -/
def utf8Bytes? (c : CodePoint) : Option Bytes :=
  if c < 0x80 then some [c.toUInt8]
  else if c < 0x800 then some [(0xC0 + c / 0x40).toUInt8, (0x80 + c % 0x40).toUInt8]
  else if isSurrogate c then none
  else if c < 0x10000 then
    some [(0xE0 + c / 0x1000).toUInt8, (0x80 + c / 0x40 % 0x40).toUInt8,
      (0x80 + c % 0x40).toUInt8]
  else if c < 0x110000 then
    some [(0xF0 + c / 0x40000).toUInt8, (0x80 + c / 0x1000 % 0x40).toUInt8,
      (0x80 + c / 0x40 % 0x40).toUInt8, (0x80 + c % 0x40).toUInt8]
  else none

/-- The UTF-8 encoding of a text, unless it holds a surrogate. -/
def toUtf8? (t : Text) : Option Bytes := (t.mapM utf8Bytes?).map List.flatten

/-- The payload of a continuation byte. -/
def continuation? (b : UInt8) : Option Nat :=
  if 0x80 ≤ b && b ≤ 0xBF then some (b.toNat - 0x80) else none

/-- The code point of a sequence of two bytes. -/
def twoBytes? (a b : UInt8) : Option CodePoint := do
  let low ← continuation? b
  if 0xC2 ≤ a && a ≤ 0xDF then some ((a.toNat - 0xC0) * 0x40 + low) else none

/-- The code point of a sequence of three bytes. -/
def threeBytes? (a b c : UInt8) : Option CodePoint := do
  let middle ← continuation? b
  let low ← continuation? c
  let point := (a.toNat - 0xE0) * 0x1000 + middle * 0x40 + low
  if 0xE0 ≤ a && a ≤ 0xEF && 0x800 ≤ point && !isSurrogate point then some point else none

/-- The code point of a sequence of four bytes. -/
def fourBytes? (a b c d : UInt8) : Option CodePoint := do
  let high ← continuation? b
  let middle ← continuation? c
  let low ← continuation? d
  let point := (a.toNat - 0xF0) * 0x40000 + high * 0x1000 + middle * 0x40 + low
  if 0xF0 ≤ a && a ≤ 0xF4 && 0x10000 ≤ point && point < 0x110000 then some point else none

/-- The text that a sequence of bytes encodes. -/
def ofUtf8? : Bytes → Option Text
  | [] => some []
  | a :: rest =>
    if a < 0x80 then (ofUtf8? rest).map (a.toNat :: ·)
    else
      match rest with
      | [] => none
      | b :: rest =>
        if a < 0xE0 then do
          let point ← twoBytes? a b
          (ofUtf8? rest).map (point :: ·)
        else
          match rest with
          | [] => none
          | c :: rest =>
            if a < 0xF0 then do
              let point ← threeBytes? a b c
              (ofUtf8? rest).map (point :: ·)
            else
              match rest with
              | [] => none
              | d :: rest => do
                let point ← fourBytes? a b c d
                (ofUtf8? rest).map (point :: ·)

/-- The byte order mark. -/
def byteOrderMark : CodePoint := 0xFEFF

/-- The text without one byte order mark at its start. -/
def dropByteOrderMark (t : Text) : Text := (dropStart? [byteOrderMark] t).getD t

/-- Bytes that are only the start of a byte order mark.  They are held back in case the rest of it
follows, and at the end nothing becomes of them. -/
def unfinishedMarks : List Bytes := [[0xEF], [0xEF, 0xBB]]

/-- The text that a sequence of bytes encodes, without a byte order mark at its start. -/
def ofMarkedUtf8? (bytes : Bytes) : Option Text :=
  if unfinishedMarks.contains bytes then some []
  else (ofUtf8? bytes).map dropByteOrderMark

end Text

end RecordSmith
