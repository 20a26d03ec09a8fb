/-
The text of a value. Texts stand for themselves at the top and are quoted inside lists and objects.
-/
import StagedRollout.Value.Basic
import StagedRollout.Text.Quoted

namespace StagedRollout

/-- Truth values as whole words with a capital. -/
def boolWord (b : Bool) : String := if b then "True" else "False"

def Key.quotedText : Key → String
  | .null => "None"
  | .bool b => boolWord b
  | .int n => toString n
  | .float x => x.text
  | .text s => Text.quoted s

namespace Value

mutual

/-- The text of a value inside another one. -/
def quotedText : Value → String
  | .null => "None"
  | .bool b => boolWord b
  | .int n => toString n
  | .float x => x.text
  | .text s => Text.quoted s
  | .list items => "[" ++ String.intercalate ", " (quotedTexts items) ++ "]"
  | .object members => "\x7b" ++ String.intercalate ", " (memberTexts members) ++ "\x7d"

def quotedTexts : List Value → List String
  | [] => []
  | v :: rest => quotedText v :: quotedTexts rest

def memberTexts : List (Key × Value) → List String
  | [] => []
  | (k, v) :: rest => (k.quotedText ++ ": " ++ quotedText v) :: memberTexts rest

end

/-- The text of a value. -/
def asText : Value → Text
  | .text s => s
  | v => v.quotedText

/-! ## Limits -/

/-- How many digits a whole number has at most when it is written. -/
def digitLimit : Nat := 4300

/-- Whether a whole number can be written. -/
def isShort (n : Int) : Bool := decide (n.natAbs < Nat.pow 10 digitLimit)

/-- Whether a key can be written. -/
def isShortKey : Key → Bool
  | .int n => isShort n
  | _ => true

mutual

/-- Whether a value can be written: no whole number in it has too many digits. -/
def isWritable : Value → Bool
  | .int n => isShort n
  | .list items => areWritable items
  | .object members => areWritableMembers members
  | _ => true

def areWritable : List Value → Bool
  | [] => true
  | v :: rest => isWritable v && areWritable rest

def areWritableMembers : List (Key × Value) → Bool
  | [] => true
  | (k, v) :: rest => isShortKey k && isWritable v && areWritableMembers rest

end

/-- The name of a value's kind. -/
def kindName : Value → String
  | .null => "NoneType"
  | .bool _ => "bool"
  | .int _ => "int"
  | .float _ => "float"
  | .text _ => "str"
  | .list _ => "list"
  | .object _ => "dict"

end Value

end StagedRollout
