/-
Values as JSON texts in ASCII, without spaces. Keys that are no texts are written as the text of
their value. A value with a whole number of too many digits is not written, nor one that goes too deep.
-/
import StagedRollout.Fault

namespace StagedRollout.Json

/-! ## Strings -/

/-- The letter that stands for a character after a backslash. -/
def escapeLetter? (c : Char) : Option Char :=
  [('"', '"'), ('\\', '\\'), ('\x08', 'b'), ('\x0c', 'f'), ('\n', 'n'), ('\r', 'r'),
    ('\t', 't')].lookup c

/-- A unit of 16 bits as four digits. -/
def unitText (n : Nat) : String := "\\u" ++ Text.hexPadded 4 n

/-- A character inside quotation marks. Beyond ASCII it is written by its units. -/
def charText (c : Char) : String :=
  match escapeLetter? c with
  | some e => String.ofList ['\\', e]
  | none =>
    let n := c.toNat
    if 0x20 ≤ n && n < 0x7f then c.toString
    else if n < 0x10000 then unitText n
    else
      unitText (0xd800 + (n - 0x10000) / 0x400) ++ unitText (0xdc00 + (n - 0x10000) % 0x400)

/-- A code point inside quotation marks; half a character is one unit. -/
def pointText : Point → String
  | .char c => charText c
  | .lone half => unitText half.number

def stringText (s : Text) : String := "\"" ++ String.join (s.points.map pointText) ++ "\""

/-! ## Values -/

def boolText (b : Bool) : String := if b then "true" else "false"

/-- A double; the infinities and NaN are words. -/
def doubleText : Double → String
  | .nan => "NaN"
  | .infinity negative => if negative then "-Infinity" else "Infinity"
  | x => x.text

/-- The text of a key, without quotation marks. -/
def keyText : Key → Text
  | .null => "null"
  | .bool b => boolText b
  | .int n => toString n
  | .float x => doubleText x
  | .text s => s

mutual

def text : Value → String
  | .null => "null"
  | .bool b => boolText b
  | .int n => toString n
  | .float x => doubleText x
  | .text s => stringText s
  | .list items => "[" ++ String.intercalate "," (texts items) ++ "]"
  | .object members => "\x7b" ++ String.intercalate "," (memberTexts members) ++ "\x7d"

def texts : List Value → List String
  | [] => []
  | v :: rest => text v :: texts rest

def memberTexts : List (Key × Value) → List String
  | [] => []
  | (k, v) :: rest => (stringText (keyText k) ++ ":" ++ text v) :: memberTexts rest

end

mutual

/-- The first thing that keeps a value from being written: a whole number of too many digits, or a list
or an object that lies deeper in others than there is room. -/
def flaw? : Nat → Value → Option Fault
  | _, .int n => if Value.isShort n then none else some (.breach .tooManyDigits)
  | 0, .list _ => some .tooDeep
  | room + 1, .list items => flawIn? room items
  | 0, .object _ => some .tooDeep
  | room + 1, .object members => flawInMembers? room members
  | _, _ => none

def flawIn? : Nat → List Value → Option Fault
  | _, [] => none
  | room, v :: rest => (flaw? room v).or (flawIn? room rest)

def flawInMembers? : Nat → List (Key × Value) → Option Fault
  | _, [] => none
  | room, (k, v) :: rest =>
    if Value.isShortKey k then (flaw? room v).or (flawInMembers? room rest)
    else some (.breach .tooManyDigits)

end

/-- The text of a value that can be written. -/
def write (room : Nat) (v : Value) : Except Fault String :=
  match flaw? room v with
  | some f => .error f
  | none => .ok (text v)

end StagedRollout.Json
