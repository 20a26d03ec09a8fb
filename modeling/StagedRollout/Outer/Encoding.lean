/-
Bytes as characters, in the encodings of one byte and in those of the Unicode standard. A run of
bytes that is no character gives a gap in the result, which a lenient reading fills.
-/
import StagedRollout.Text.Encoding

namespace StagedRollout.Bytes

open Text (pairNumber isHigh isLow pairedNumber)

/-- The characters of bytes, with a gap for every run of bytes that is no character. -/
abbrev Decoded := List (Option Char)

/-- Stands for bytes that are no character. -/
def replacement : Char := '\ufffd'

def Decoded.lenient (d : Decoded) : String := String.ofList (d.map fun c => c.getD replacement)

/-- The character of a number, none for the surrogates and beyond the last one. -/
def scalar? (n : Nat) : Option Char :=
  if h : n.isValidChar then some (Char.ofNatAux n h) else none

/-! ## One byte for each character -/

def latin1 (bytes : List UInt8) : Decoded := bytes.map fun b => scalar? b.toNat

def ascii (bytes : List UInt8) : Decoded :=
  bytes.map fun b => if b.toNat < 0x80 then scalar? b.toNat else none

/-- The characters of an encoding that has its own ones from a byte on, and those of Latin-1
elsewhere. A zero in the list stands for no character. -/
def withOwn (first : Nat) (own : List Nat) (bytes : List UInt8) : Decoded :=
  bytes.map fun b =>
    match if first ≤ b.toNat then own[b.toNat - first]? else none with
    | some 0 => none
    | some n => scalar? n
    | none => scalar? b.toNat

/-- The western encoding with typographic signs in the place of the upper controls. -/
def windows1252 : List UInt8 → Decoded :=
  withOwn 0x80 [0x20ac, 0, 0x201a, 0x192, 0x201e, 0x2026, 0x2020, 0x2021, 0x2c6, 0x2030, 0x160,
    0x2039, 0x152, 0, 0x17d, 0, 0, 0x2018, 0x2019, 0x201c, 0x201d, 0x2022, 0x2013, 0x2014, 0x2dc,
    0x2122, 0x161, 0x203a, 0x153, 0, 0x17e, 0x178]

/-- Latin-1 with the sign of the euro and a few letters more. -/
def latin9 : List UInt8 → Decoded :=
  withOwn 0xa4 [0x20ac, 0xa5, 0x160, 0xa7, 0x161, 0xa9, 0xaa, 0xab, 0xac, 0xad, 0xae, 0xaf, 0xb0,
    0xb1, 0xb2, 0xb3, 0x17d, 0xb5, 0xb6, 0xb7, 0x17e, 0xb9, 0xba, 0xbb, 0x152, 0x153, 0x178]

/-! ## UTF-8 -/

/-- A character whose first bytes are read: its number so far, the bytes that are owed, and the
least and the greatest byte that may come next. -/
structure Partial where
  number : Nat
  owed : Nat
  low : Nat
  high : Nat

/-- What the first byte of a character begins. -/
def firstByte (b : Nat) : Option Partial :=
  if 0xc2 ≤ b ∧ b ≤ 0xdf then some ⟨b - 0xc0, 1, 0x80, 0xbf⟩
  else if b = 0xe0 then some ⟨0, 2, 0xa0, 0xbf⟩
  else if b = 0xed then some ⟨0xd, 2, 0x80, 0x9f⟩
  else if 0xe1 ≤ b ∧ b ≤ 0xef then some ⟨b - 0xe0, 2, 0x80, 0xbf⟩
  else if b = 0xf0 then some ⟨0, 3, 0x90, 0xbf⟩
  else if b = 0xf4 then some ⟨4, 3, 0x80, 0x8f⟩
  else if 0xf1 ≤ b ∧ b ≤ 0xf3 then some ⟨b - 0xf0, 3, 0x80, 0xbf⟩
  else none

/-- A byte between characters: what it completes, and what it begins. -/
def startByte (b : Nat) : Decoded × Option Partial :=
  if b < 0x80 then ([scalar? b], none)
  else
    match firstByte b with
    | some p => ([], some p)
    | none => ([none], none)

/-- A byte after the first ones of a character. One that does not fit ends the run before it. -/
def nextByte (p : Partial) (b : Nat) : Decoded × Option Partial :=
  if p.low ≤ b ∧ b ≤ p.high then
    let number := p.number * 64 + (b - 0x80)
    if p.owed = 1 then ([scalar? number], none)
    else ([], some ⟨number, p.owed - 1, 0x80, 0xbf⟩)
  else
    let (done, p) := startByte b
    (none :: done, p)

/-- The characters of bytes after the first bytes of one. -/
def utf8From : Option Partial → List UInt8 → Decoded
  | none, [] => []
  | some _, [] => [none]
  | none, b :: rest =>
    let (done, p) := startByte b.toNat
    done ++ utf8From p rest
  | some p, b :: rest =>
    let (done, p) := nextByte p b.toNat
    done ++ utf8From p rest

def utf8 (bytes : List UInt8) : Decoded := utf8From none bytes

/-! ## Wider units -/

/-- The units of two bytes, and whether a byte is left over. -/
def pairs (bigEndian : Bool) : List UInt8 → List Nat × Bool
  | [] => ([], false)
  | [_] => ([], true)
  | a :: b :: rest =>
    let (units, odd) := pairs bigEndian rest
    (pairNumber bigEndian a b :: units, odd)

/-- The characters of units of two bytes; a high surrogate waits for the low one. -/
def utf16Units : Option Nat → List Nat → Decoded
  | none, [] => []
  | some _, [] => [none]
  | none, n :: rest =>
    if isHigh n then utf16Units (some n) rest else scalar? n :: utf16Units none rest
  | some high, n :: rest =>
    if isLow n then scalar? (pairedNumber high n) :: utf16Units none rest
    else if isHigh n then none :: utf16Units (some n) rest
    else none :: scalar? n :: utf16Units none rest

/-- The characters of bytes that make units of two bytes. A byte left over is a gap, one with a high
surrogate before it. -/
def utf16 (bigEndian : Bool) (bytes : List UInt8) : Decoded :=
  let (units, odd) := pairs bigEndian bytes
  utf16Units none units ++ if odd && !units.getLast?.any isHigh then [none] else []

/-- The characters of units of four bytes. -/
def utf32 (bigEndian : Bool) : List UInt8 → Decoded
  | [] => []
  | a :: b :: c :: d :: rest =>
    let n := if bigEndian then pairNumber true a b * 65536 + pairNumber true c d
      else pairNumber false c d * 65536 + pairNumber false a b
    scalar? n :: utf32 bigEndian rest
  | _ => [none]

/-! ## Marks of the byte order -/

/-- Whether units of two bytes begin with a mark of the byte order. -/
def isMarked16 : List UInt8 → Bool
  | 0xfe :: 0xff :: _ => true
  | 0xff :: 0xfe :: _ => true
  | _ => false

/-- Whether units of four bytes begin with a mark of the byte order. -/
def isMarked32 : List UInt8 → Bool
  | 0x00 :: 0x00 :: 0xfe :: 0xff :: _ => true
  | 0xff :: 0xfe :: 0x00 :: 0x00 :: _ => true
  | _ => false

/-- The characters after a mark of the byte order. Without a mark the smaller byte comes first. -/
def utf16Marked (bytes : List UInt8) : Decoded :=
  match bytes with
  | 0xfe :: 0xff :: rest => utf16 true rest
  | 0xff :: 0xfe :: rest => utf16 false rest
  | bytes => utf16 false bytes

def utf32Marked (bytes : List UInt8) : Decoded :=
  match bytes with
  | 0x00 :: 0x00 :: 0xfe :: 0xff :: rest => utf32 true rest
  | 0xff :: 0xfe :: 0x00 :: 0x00 :: rest => utf32 false rest
  | bytes => utf32 false bytes

def utf8Marked (bytes : List UInt8) : Decoded :=
  match bytes with
  | 0xef :: 0xbb :: 0xbf :: rest => utf8 rest
  | bytes => utf8 bytes

end StagedRollout.Bytes
