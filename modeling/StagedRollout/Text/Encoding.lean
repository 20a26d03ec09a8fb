/-
Bytes as code points, in the encodings of the Unicode standard. Halves of characters are read like
characters; bytes that make no code point make the whole unreadable.
-/
import StagedRollout.Text.Basic

namespace StagedRollout.Text

/-! ## UTF-8 -/

/-- A code point whose first bytes are read: its number so far, the bytes that are owed, and the
least number that is not written in fewer bytes. -/
structure Partial where
  number : Nat
  owed : Nat
  least : Nat

/-- What the first byte of several begins. -/
def firstByte? (b : Nat) : Option Partial :=
  if 0xc0 ≤ b ∧ b < 0xe0 then some ⟨b - 0xc0, 1, 0x80⟩
  else if 0xe0 ≤ b ∧ b < 0xf0 then some ⟨b - 0xe0, 2, 0x800⟩
  else if 0xf0 ≤ b ∧ b < 0xf8 then some ⟨b - 0xf0, 3, 0x10000⟩
  else none

/-- The code points of bytes after the first bytes of one. -/
def utf8From? : Option Partial → List UInt8 → Option (List Point)
  | none, [] => some []
  | some _, [] => none
  | none, b :: rest =>
    if b.toNat < 0x80 then do return (← Point.ofNumber? b.toNat) :: (← utf8From? none rest)
    else do utf8From? (some (← firstByte? b.toNat)) rest
  | some p, b :: rest =>
    let number := p.number * 64 + (b.toNat - 0x80)
    if b.toNat < 0x80 ∨ 0xc0 ≤ b.toNat then none
    else if p.owed = 1 then
      if number < p.least then none
      else do return (← Point.ofNumber? number) :: (← utf8From? none rest)
    else utf8From? (some ⟨number, p.owed - 1, p.least⟩) rest

def utf8? (bytes : List UInt8) : Option (List Point) := utf8From? none bytes

/-! ## Wider units -/

/-- Two bytes as a number, the greater one first or last. -/
def pairNumber (bigEndian : Bool) (a b : UInt8) : Nat :=
  if bigEndian then a.toNat * 256 + b.toNat else b.toNat * 256 + a.toNat

/-- The units of two bytes; none if a byte is left over. -/
def pairs? (bigEndian : Bool) : List UInt8 → Option (List Nat)
  | [] => some []
  | [_] => none
  | a :: b :: rest => (pairs? bigEndian rest).map (pairNumber bigEndian a b :: ·)

def isHigh (n : Nat) : Bool := 0xd800 ≤ n && n < 0xdc00

def isLow (n : Nat) : Bool := 0xdc00 ≤ n && n < 0xe000

/-- The number of a pair of halves. -/
def pairedNumber (high low : Nat) : Nat := 0x10000 + (high - 0xd800) * 0x400 + (low - 0xdc00)

/-- The code points of units of two bytes. Two halves that fit are one character. -/
def units? : List Nat → Option (List Point)
  | [] => some []
  | [n] => do return [← Point.ofNumber? n]
  | n :: m :: rest =>
    if isHigh n && isLow m then do return (← Point.ofNumber? (pairedNumber n m)) :: (← units? rest)
    else do return (← Point.ofNumber? n) :: (← units? (m :: rest))

def utf16? (bigEndian : Bool) (bytes : List UInt8) : Option (List Point) :=
  (pairs? bigEndian bytes).bind units?

/-- The code points of units of four bytes. -/
def utf32? (bigEndian : Bool) : List UInt8 → Option (List Point)
  | [] => some []
  | a :: b :: c :: d :: rest =>
    let n := if bigEndian then pairNumber true a b * 65536 + pairNumber true c d
      else pairNumber false c d * 65536 + pairNumber false a b
    do return (← Point.ofNumber? n) :: (← utf32? bigEndian rest)
  | _ => none

end StagedRollout.Text
