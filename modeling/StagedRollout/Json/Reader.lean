/-
Reading values from JSON texts. Numbers with a fraction or an exponent are doubles and all others
whole numbers, which must not have too many digits; the words for infinities and for NaN are read as
well. Of members under one key the last one counts, in the place of the first. Reading goes from left
to right, so of several faults the first one shows.
-/
import StagedRollout.Fault
import StagedRollout.Text.Encoding
import StagedRollout.Text.Numeral

namespace StagedRollout.Json

/-! ## Bytes -/

/-- The code points of bytes in the encoding that the first ones show: a mark of the byte order, or
zeros in the places where the first characters, being ASCII, have them. -/
def decode? (bytes : List UInt8) : Option (List Point) :=
  match bytes with
  | 0x00 :: 0x00 :: 0xfe :: 0xff :: rest => Text.utf32? true rest
  | 0xff :: 0xfe :: 0x00 :: 0x00 :: rest => Text.utf32? false rest
  | 0xfe :: 0xff :: rest => Text.utf16? true rest
  | 0xff :: 0xfe :: rest => Text.utf16? false rest
  | 0xef :: 0xbb :: 0xbf :: rest => Text.utf8? rest
  | a :: b :: c :: d :: _ =>
    if a = 0 then (if b ≠ 0 then Text.utf16? true bytes else Text.utf32? true bytes)
    else if b = 0 then
      (if c ≠ 0 || d ≠ 0 then Text.utf16? false bytes else Text.utf32? false bytes)
    else Text.utf8? bytes
  | [a, b] =>
    if a = 0 then Text.utf16? true bytes
    else if b = 0 then Text.utf16? false bytes
    else Text.utf8? bytes
  | _ => Text.utf8? bytes

/-! ## Code points -/

def points (s : String) : List Point := s.toList.map .char

def isSpace (p : Point) : Bool :=
  p = .char ' ' || p = .char '\t' || p = .char '\n' || p = .char '\r'

def skipSpace (ps : List Point) : List Point := ps.dropWhile isSpace

/-! ## Strings -/

/-- The number of four hexadecimal digits, and what follows them. -/
def hex4? (ps : List Point) : Option (Nat × List Point) :=
  let digits := (ps.take 4).map Point.shown
  if digits.length = 4 && digits.all (Text.isDigitOf 16) then
    some (Text.digitsValue 16 digits, ps.drop 4)
  else none

/-- The character that a letter after a backslash stands for. -/
def escaped? (c : Char) : Option Char :=
  [('"', '"'), ('\\', '\\'), ('/', '/'), ('b', '\x08'), ('f', '\x0c'), ('n', '\n'), ('r', '\r'),
    ('t', '\t')].lookup c

/-- The second half of a character that completes a first one, if it follows as an escape. -/
def lowHalf? (ps : List Point) : Option (Nat × List Point) :=
  match ps with
  | .char '\\' :: .char 'u' :: rest =>
    match hex4? rest with
    | some (n, rest) => if Text.isLow n then some (n, rest) else none
    | none => none
  | _ => none

/-- The code point of four digits, together with those of a second half. A half that no other one
completes stands alone. -/
def numbered? (ps : List Point) : Option (Point × List Point) := do
  let (n, rest) ← hex4? ps
  match if Text.isHigh n then lowHalf? rest else none with
  | some (m, rest) => return (← Point.ofNumber? (Text.pairedNumber n m), rest)
  | none => return (← Point.ofNumber? n, rest)

/-- The code points up to the closing quotation mark, and what follows it. Control characters must
be escaped. -/
def string? : Nat → List Point → Option (List Point × List Point)
  | 0, _ => none
  | fuel + 1, ps =>
    match ps with
    | [] => none
    | .char '"' :: rest => some ([], rest)
    | .char '\\' :: .char 'u' :: rest => do
      let (p, rest) ← numbered? rest
      let (s, rest) ← string? fuel rest
      return (p :: s, rest)
    | .char '\\' :: .char e :: rest => do
      let c ← escaped? e
      let (s, rest) ← string? fuel rest
      return (.char c :: s, rest)
    | p :: rest =>
      if p.number < 0x20 || p = .char '\\' then none
      else do
        let (s, rest) ← string? fuel rest
        return (p :: s, rest)

/-- The text up to the closing quotation mark. -/
def string (ps : List Point) : Except Fault (Text × List Point) :=
  match string? (ps.length + 1) ps with
  | some (s, rest) => .ok (Text.ofPoints s, rest)
  | none => .error .notJson

/-! ## Numbers -/

def isDigit : Point → Bool
  | .char c => c.isDigit
  | .lone _ => false

def digits (ps : List Point) : List Char := (ps.takeWhile isDigit).map Point.shown

def afterDigits (ps : List Point) : List Point := ps.dropWhile isDigit

/-- The whole part of a number, which starts with a zero only if it is one. -/
def wholePart? (ps : List Point) : Option (List Char × List Point) :=
  match ps with
  | .char '0' :: rest => some (['0'], rest)
  | ps => if (digits ps).isEmpty then none else some (digits ps, afterDigits ps)

/-- The digits after a point, if there is a fraction. -/
def fractionPart (ps : List Point) : List Char × List Point :=
  match ps with
  | .char '.' :: rest => if (digits rest).isEmpty then ([], ps) else (digits rest, afterDigits rest)
  | ps => ([], ps)

/-- A leading sign, whether it is a minus, and what follows it. -/
def splitSign : List Point → Bool × List Point
  | .char '-' :: rest => (true, rest)
  | .char '+' :: rest => (false, rest)
  | ps => (false, ps)

/-- The exponent, if there is one. -/
def exponentPart (ps : List Point) : Option Int × List Point :=
  match ps with
  | e :: rest =>
    let (negative, body) := splitSign rest
    if (e = .char 'e' || e = .char 'E') && !(digits body).isEmpty then
      let n : Int := Text.digitsValue 10 (digits body)
      (some (if negative then -n else n), afterDigits body)
    else (none, ps)
  | [] => (none, ps)

/-- The whole number of digits. -/
def whole (negative : Bool) (digits : List Char) : Except Fault Value :=
  if Value.digitLimit < digits.length then .error (.breach (.longNumeral digits.length))
  else
    let n : Int := Text.digitsValue 10 digits
    .ok (.int (if negative then -n else n))

/-- A number after its sign. -/
def number (negative : Bool) (ps : List Point) : Except Fault (Value × List Point) :=
  match wholePart? ps with
  | none => .error .notJson
  | some (digits, rest) => do
    let (fraction, rest) := fractionPart rest
    let (exponent, rest) := exponentPart rest
    if fraction.isEmpty && exponent.isNone then return (← whole negative digits, rest)
    else
      let mantissa := Text.digitsValue 10 (digits ++ fraction)
      return (.float (Number.ofDecimal negative mantissa (exponent.getD 0 - fraction.length)), rest)

/-! ## Values -/

/-- The words that stand for values. -/
def words : List (List Point × Value) :=
  [(points "null", .null), (points "true", .bool true), (points "false", .bool false),
    (points "NaN", .float .nan), (points "Infinity", .float (.infinity false)),
    (points "-Infinity", .float (.infinity true))]

/-- A word or a number. -/
def atom (ps : List Point) : Except Fault (Value × List Point) :=
  match words.find? fun w => w.1.isPrefixOf ps with
  | some w => .ok (w.2, ps.drop w.1.length)
  | none =>
    match ps with
    | .char '-' :: rest => number true rest
    | ps => number false ps

mutual

/-- A value at the start of the text, with room for lists and objects inside one another; the first
number bounds how many parts are read. -/
def value : Nat → Nat → List Point → Except Fault (Value × List Point)
  | 0, _, _ => .error .notJson
  | fuel + 1, room, ps =>
    match ps with
    | .char '"' :: rest => do
      let (s, rest) ← string rest
      return (.text s, rest)
    | .char '[' :: rest =>
      match room with
      | 0 => .error .tooDeep
      | room + 1 =>
        match skipSpace rest with
        | .char ']' :: rest => .ok (.list [], rest)
        | rest => do
          let (vs, rest) ← items fuel room rest
          return (.list vs, rest)
    | .char '\x7b' :: rest =>
      match room with
      | 0 => .error .tooDeep
      | room + 1 =>
        match skipSpace rest with
        | .char '\x7d' :: rest => .ok (.object [], rest)
        | rest => do
          let (members, rest) ← rows fuel room rest
          return (.object (Table.ofRows members), rest)
    | ps => atom ps

/-- The elements of a list up to the closing bracket. -/
def items : Nat → Nat → List Point → Except Fault (List Value × List Point)
  | 0, _, _ => .error .notJson
  | fuel + 1, room, ps => do
    let (v, rest) ← value fuel room ps
    match skipSpace rest with
    | .char ',' :: rest => do
      let (vs, rest) ← items fuel room (skipSpace rest)
      return (v :: vs, rest)
    | .char ']' :: rest => return ([v], rest)
    | _ => .error .notJson

/-- The members of an object up to the closing brace. -/
def rows : Nat → Nat → List Point → Except Fault (List (Key × Value) × List Point)
  | 0, _, _ => .error .notJson
  | fuel + 1, room, ps =>
    match ps with
    | .char '"' :: rest => do
      let (key, rest) ← string rest
      match skipSpace rest with
      | .char ':' :: rest => do
        let (v, rest) ← value fuel room (skipSpace rest)
        match skipSpace rest with
        | .char ',' :: rest => do
          let (members, rest) ← rows fuel room (skipSpace rest)
          return ((.text key, v) :: members, rest)
        | .char '\x7d' :: rest => return ([(.text key, v)], rest)
        | _ => .error .notJson
      | _ => .error .notJson
    | _ => .error .notJson

end

/-- The value of a whole text. -/
def ofPoints (room : Nat) (ps : List Point) : Except Fault Value := do
  let ps := skipSpace ps
  let (v, rest) ← value (2 * ps.length + 1) room ps
  if (skipSpace rest).isEmpty then return v else .error .notJson

/-- The value of a text given as bytes, with room for so many lists and objects inside one
another. -/
def read (room : Nat) (bytes : List UInt8) : Except Fault Value :=
  match decode? bytes with
  | none => .error .undecodable
  | some ps => ofPoints room ps

end StagedRollout.Json
