/-
Single settings. Each reader takes a value of any kind, accepts what stands for the setting without
doubt, and says otherwise what is wrong with it.
-/
import StagedRollout.Fault
import StagedRollout.Text.Numeral

namespace StagedRollout.Settings

/-! ## Complaints -/

/-- What is wrong with one setting. -/
inductive Flaw where
  | missing
  | notText
  | tooShort
  | notNumber
  | unreadableNumber
  | notPositive
  | notBool
  | unreadableBool
  | unknownSetting
  | keyNotText
  | notAnObject (expected : String)
  deriving DecidableEq

namespace Flaw

/-- The short name of a flaw. -/
def name : Flaw → String
  | .missing => "missing"
  | .notText => "string_type"
  | .tooShort => "string_too_short"
  | .notNumber => "float_type"
  | .unreadableNumber => "float_parsing"
  | .notPositive => "greater_than"
  | .notBool => "bool_type"
  | .unreadableBool => "bool_parsing"
  | .unknownSetting => "extra_forbidden"
  | .keyNotText => "invalid_key"
  | .notAnObject _ => "model_type"

def message : Flaw → String
  | .missing => "Field required"
  | .notText => "Input should be a valid string"
  | .tooShort => "String should have at least 1 character"
  | .notNumber => "Input should be a valid number"
  | .unreadableNumber => "Input should be a valid number, unable to parse string as a number"
  | .notPositive => "Input should be greater than 0"
  | .notBool => "Input should be a valid boolean"
  | .unreadableBool => "Input should be a valid boolean, unable to interpret input"
  | .unknownSetting => "Extra inputs are not permitted"
  | .keyNotText => "Keys should be strings"
  | .notAnObject expected => "Input should be a valid dictionary or instance of " ++ expected

/-- A flaw in a place. -/
def complaint (place : List Key) (flaw : Flaw) : Complaint := ⟨place, flaw.name, flaw.message⟩

end Flaw

/-! ## Texts -/

/-- A text that is not empty. -/
def readText : Value → Except Flaw Text
  | .text s => if s = "" then .error .tooShort else .ok s
  | _ => .error .notText

/-! ## Numbers -/

/-- Two underscores in a row, anywhere. -/
def hasDoubleUnderscore : List Char → Bool
  | '_' :: '_' :: _ => true
  | _ :: rest => hasDoubleUnderscore rest
  | [] => false

/-- The characters without underscores, if there are some and each stands alone inside. -/
def withoutUnderscores? (cs : List Char) : Option (List Char) :=
  if !cs.contains '_' || cs.head? = some '_' || cs.getLast? = some '_' || hasDoubleUnderscore cs
  then none
  else some (cs.filter (· ≠ '_'))

/-- White space as a property of characters: the blanks without the information separators. -/
def isWhiteSpace (c : Char) : Bool := Text.isBlank c && !(0x1c ≤ c.toNat && c.toNat ≤ 0x1f)

/-- A number written in ASCII, with white space around it or underscores inside, but not both. -/
def numberOfText? (s : Text) : Option Double :=
  match Text.readPlainDouble? (Text.trimList isWhiteSpace s.chars) with
  | some x => some x
  | none => (withoutUnderscores? s.chars).bind Text.readPlainDouble?

/-- A number. Truth values count as 0 and 1, whole numbers must be in range of the doubles. -/
def readNumber : Value → Except Flaw Double
  | .bool b => .ok (if b then Double.one else Double.zero)
  | .int n =>
    match Double.ofInt? n with
    | some x => .ok x
    | none => .error .notNumber
  | .float x => .ok x
  | .text s =>
    match numberOfText? s with
    | some x => .ok x
    | none => .error .unreadableNumber
  | _ => .error .notNumber

/-- A number above zero. -/
def readPositive (v : Value) : Except Flaw Double := do
  let x ← readNumber v
  if Double.zero.lt x then return x else .error .notPositive

/-! ## Truth values -/

def trueWords : List String := ["1", "t", "y", "on", "yes", "true"]

def falseWords : List String := ["0", "f", "n", "no", "off", "false"]

/-- A truth value from a word, in any letter case of ASCII. -/
def boolOfText (s : Text) : Except Flaw Bool :=
  let word := String.ofList (s.chars.map Char.toLower)
  if trueWords.contains word then .ok true
  else if falseWords.contains word then .ok false
  else .error .unreadableBool

/-- Whether a whole number fits into 64 bits with its sign. -/
def isSmall (n : Int) : Bool := -0x8000000000000000 ≤ n && n < 0x8000000000000000

/-- A truth value from a whole number: 0 or 1. One that takes more than 64 bits is no candidate. -/
def boolOfInt (n : Int) : Except Flaw Bool :=
  if n = 0 then .ok false
  else if n = 1 then .ok true
  else if isSmall n then .error .unreadableBool
  else .error .notBool

/-- A truth value, a word for one, or 0 or 1. -/
def readBool : Value → Except Flaw Bool
  | .bool b => .ok b
  | .int n => boolOfInt n
  | .float x =>
    match x.toInt? with
    | some n => boolOfInt n
    | none => .error .notBool
  | .text s => boolOfText s
  | _ => .error .notBool

end StagedRollout.Settings
