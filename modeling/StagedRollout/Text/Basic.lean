/-
Text as a sequence of code points. Nearly every text is made of characters only; halves of
characters, which the encoding in units of 16 bits keeps apart, may stand alone in a text as well,
and then it has no bytes in the usual encoding.
-/

namespace StagedRollout

/-! ## Code points -/

/-- Half a character in units of 16 bits. -/
structure Surrogate where
  index : Fin 0x800
  deriving DecidableEq

namespace Surrogate

def number (half : Surrogate) : Nat := 0xd800 + half.index

end Surrogate

inductive Point where
  | char (c : Char)
  | lone (half : Surrogate)
  deriving DecidableEq

namespace Point

def number : Point → Nat
  | .char c => c.toNat
  | .lone half => half.number

/-- The code point of a number, none beyond the last one. -/
def ofNumber? (n : Nat) : Option Point :=
  if h : n.isValidChar then some (.char (Char.ofNatAux n h))
  else if h : 0xd800 ≤ n ∧ n < 0xe000 then some (.lone ⟨⟨n - 0xd800, by omega⟩⟩)
  else none

/-- The character of a code point. What is no character is shown as one that is no letter, digit,
blank or mark. -/
def shown : Point → Char
  | .char c => c
  | .lone _ => '\ufffd'

end Point

/-! ## Texts -/

/-- Runs of characters with halves of characters between them. A sequence of code points is one
text only. -/
inductive Text where
  | plain (s : String)
  | broken (s : String) (half : Surrogate) (rest : Text)
  deriving DecidableEq

namespace Text

instance : Coe String Text := ⟨plain⟩

instance : Inhabited Text := ⟨plain ""⟩

/-- The characters of a text, if it is made of nothing else. -/
def string? : Text → Option String
  | plain s => some s
  | broken _ _ _ => none

/-- A text with characters before it. -/
def after (s : String) : Text → Text
  | plain t => plain (s ++ t)
  | broken t half rest => broken (s ++ t) half rest

def append : Text → Text → Text
  | plain s, t => t.after s
  | broken s half rest, t => broken s half (rest.append t)

instance : Append Text := ⟨append⟩

/-- The code points of a text. -/
def points : Text → List Point
  | plain s => s.toList.map .char
  | broken s half rest => s.toList.map .char ++ .lone half :: rest.points

/-- The text of code points after characters, the nearest first. -/
def ofPointsAfter (before : List Char) : List Point → Text
  | [] => plain (String.ofList before.reverse)
  | .char c :: rest => ofPointsAfter (c :: before) rest
  | .lone half :: rest => broken (String.ofList before.reverse) half (ofPointsAfter [] rest)

def ofPoints (ps : List Point) : Text := ofPointsAfter [] ps

def numbers (s : Text) : List Nat := s.points.map Point.number

def length (s : Text) : Nat := s.points.length

/-- The characters of a text as they are shown. -/
def chars (s : Text) : List Char := s.points.map Point.shown

/-- Texts in the order of their code points. -/
instance : LT Text := ⟨fun s t => s.numbers < t.numbers⟩

instance (s t : Text) : Decidable (s < t) := inferInstanceAs (Decidable (s.numbers < t.numbers))

/-! ## Ranges and blanks -/

/-- The code points from the first component to the second, both included. -/
abbrev Range := Nat × Nat

/-- Whether a character lies in one of the ranges. -/
def Range.contains (ranges : List Range) (c : Char) : Bool :=
  ranges.any fun r => r.1 ≤ c.toNat && c.toNat ≤ r.2

/-- Blank characters: the ASCII ones, the four information separators, and the spaces of
other scripts. -/
def blankRanges : List Range :=
  [(0x09, 0x0d), (0x1c, 0x20), (0x85, 0x85), (0xa0, 0xa0), (0x1680, 0x1680), (0x2000, 0x200a),
   (0x2028, 0x2029), (0x202f, 0x202f), (0x205f, 0x205f), (0x3000, 0x3000)]

def isBlank (c : Char) : Bool := Range.contains blankRanges c

/-! ## Parts -/

/-- The elements without those at either end that satisfy `p`. -/
def trimList {α : Type} (p : α → Bool) (cs : List α) : List α :=
  ((cs.dropWhile p).reverse.dropWhile p).reverse

/-- The text without blanks at either end. -/
def trim (s : Text) : Text := ofPoints (trimList (fun p => isBlank p.shown) s.points)

/-- The parts between separators; there is always at least one. -/
def splitList {α : Type} [DecidableEq α] (sep : α) : List α → List (List α)
  | [] => [[]]
  | c :: rest =>
    if c = sep then [] :: splitList sep rest
    else
      match splitList sep rest with
      | part :: parts => (c :: part) :: parts
      | [] => [[c]]

def split (sep : Char) (s : Text) : List Text := (splitList (.char sep) s.points).map ofPoints

/-- The texts one after the other. -/
def join (ss : List Text) : Text := ss.foldr (· ++ ·) ""

/-- The texts with a separator between any two of them. -/
def intercalate (sep : Text) : List Text → Text
  | [] => ""
  | [s] => s
  | s :: rest => s ++ sep ++ intercalate sep rest

end Text

end StagedRollout
