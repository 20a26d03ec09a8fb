/-
The values of scalars by their tags. A text under a tag that it does not fit is a fault of the
reader of that kind.
-/
import StagedRollout.Outer.Base64
import StagedRollout.Text.Lowercase
import StagedRollout.Outer.Yaml.Tag

namespace StagedRollout.Yaml.Scalar

/-! ## Truth values -/

/-- A truth value, a word in any letter case. -/
def readBool (s : String) : Except Fault Value :=
  let word := Text.lowerString s
  if ["yes", "true", "on"].contains word then .ok (.bool true)
  else if ["no", "false", "off"].contains word then .ok (.bool false)
  else .error .unknownWord

/-! ## Numbers -/

/-- The sign of a numeral without underscores, and what follows it. A numeral is not empty. -/
def splitNumeral (cs : List Char) : Except Fault (Bool × List Char) :=
  match cs.filter (· ≠ '_') with
  | [] => .error .noSuchPosition
  | '-' :: rest => .ok (true, rest)
  | '+' :: rest => .ok (false, rest)
  | cs => .ok (false, cs)

/-- A whole number in a base. -/
def readDigits (base : Nat) (cs : List Char) : Except Fault Int :=
  let s := String.ofList cs
  match Text.readInt? base s with
  | some n => .ok n
  | none => .error (.breach (.unreadableInteger base s))

/-- A whole number in sixtieths, the largest first. -/
def ofSixtieths (parts : List Int) : Int := parts.foldl (fun n part => n * 60 + part) 0

/-- A whole number without its sign: binary, hexadecimal or octal after a mark, in sixtieths, or
decimal. -/
def readUnsigned (cs : List Char) : Except Fault Int :=
  match cs with
  | [] => .error .noSuchPosition
  | ['0'] => .ok 0
  | '0' :: 'b' :: rest => readDigits 2 rest
  | '0' :: 'x' :: rest => readDigits 16 rest
  | '0' :: rest => readDigits 8 ('0' :: rest)
  | cs =>
    if cs.contains ':' then
      return ofSixtieths (← (Text.splitList ':' cs).mapM (readDigits 10))
    else readDigits 10 cs

def readInt (s : String) : Except Fault Value := do
  let (negative, rest) ← splitNumeral s.toList
  let n ← readUnsigned rest
  return .int (if negative then -n else n)

/-- A double. -/
def readDecimal (cs : List Char) : Except Fault Double :=
  let s := String.ofList cs
  match Text.readDouble? s with
  | some x => .ok x
  | none => .error (.breach (.unreadableNumber s))

/-- Doubles in sixtieths, the smallest first, added up from a total; `base` is the weight of the
first one. -/
def addSixtieths (total : Double) (base : Int) : List Double → Except Fault Double
  | [] => .ok total
  | digit :: rest =>
    match Double.ofInt? base with
    | some weight => addSixtieths (total.add (digit.mul weight)) (base * 60) rest
    | none => .error .outOfRange

/-- A double without its sign. -/
def readUnsignedDouble (cs : List Char) : Except Fault Double := do
  let word := String.ofList cs
  if word = ".inf" then return .infinity false
  else if word = ".nan" then return .nan
  else if cs.contains ':' then
    addSixtieths Double.zero 1 (← (Text.splitList ':' cs).mapM readDecimal).reverse
  else readDecimal cs

def readFloat (s : String) : Except Fault Value := do
  let (negative, rest) ← splitNumeral (Text.lowerString s).toList
  let x ← readUnsignedDouble rest
  return .float (if negative then x.neg else x)

/-! ## Bytes -/

/-- The bytes of a text in base 64, which count as the text that they encode. -/
def readBinary (s : String) : Except Fault Value :=
  let bytes := if s.toList.all (·.toNat < 0x80) then Base64.decode? s.toList else none
  match bytes with
  | none => .error (.yaml .constructor)
  | some bytes =>
    match String.fromUTF8? ⟨bytes.toArray⟩ with
    | some t => .ok (.text t)
    | none => .ok (.list (bytes.map fun b => .int b.toNat))

/-! ## All scalars -/

/-- The value of a scalar's text under a tag. -/
def read (tag : Tag) (s : String) : Except Fault Value :=
  match tag with
  | .null => .ok .null
  | .bool => readBool s
  | .int => readInt s
  | .float => readFloat s
  | .binary => readBinary s
  | .timestamp => Timestamp.read s
  | .text => .ok (.text s)
  | _ => .error (.yaml .constructor)

end StagedRollout.Yaml.Scalar
