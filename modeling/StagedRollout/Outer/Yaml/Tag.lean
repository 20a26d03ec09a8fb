/-
The tags of nodes, which say what a node stands for, and the tags that plain scalars have by their
form.
-/
import StagedRollout.Text.Basic
import StagedRollout.Outer.Yaml.Timestamp

namespace StagedRollout.Yaml

inductive Tag where
  | null
  | bool
  | int
  | float
  | binary
  | timestamp
  | text
  | sequence
  | mapping
  | set
  | orderedMap
  | pairs
  /-- The key whose value is merged into the mapping. -/
  | merge
  /-- The key of a mapping's own value. -/
  | value
  | unknown (name : String)
  deriving DecidableEq

namespace Tag

/-- What the handle of the standard tags stands for. -/
def standard : String := "tag:yaml.org,2002:"

/-- The standard tags by name. -/
def byName : List (String × Tag) :=
  [("null", .null), ("bool", .bool), ("int", .int), ("float", .float), ("binary", .binary),
    ("timestamp", .timestamp), ("str", .text), ("seq", .sequence), ("map", .mapping),
    ("set", .set), ("omap", .orderedMap), ("pairs", .pairs), ("merge", .merge), ("value", .value)]

/-- The tag that is written out. -/
def ofName (s : String) : Tag :=
  ((byName.find? fun t => standard ++ t.1 = s).map (·.2)).getD (.unknown s)

/-- Whether nodes of a tag are built from parts. -/
def isCollection : Tag → Bool
  | .sequence => true
  | .mapping => true
  | .set => true
  | .orderedMap => true
  | .pairs => true
  | _ => false

end Tag

/-! ## Forms of plain scalars -/

namespace Form

def isDigit (c : Char) : Bool := c.isDigit

def isDigitOrUnderscore (c : Char) : Bool := c.isDigit || c = '_'

def dropSign : List Char → List Char
  | '+' :: rest => rest
  | '-' :: rest => rest
  | cs => cs

def isNull (s : String) : Bool := ["~", "null", "Null", "NULL", ""].contains s

def isBool (s : String) : Bool :=
  ["yes", "Yes", "YES", "no", "No", "NO", "true", "True", "TRUE", "false", "False", "FALSE",
    "on", "On", "ON", "off", "Off", "OFF"].contains s

/-- One digit, or two of which the first is below six. -/
def isSixtieth : List Char → Bool
  | [d] => d.isDigit
  | [t, d] => '0' ≤ t && t ≤ '5' && d.isDigit
  | _ => false

/-- Groups of sixtieths after a first group, at least one. -/
def isSexagesimal (isFirst : List Char → Bool) (cs : List Char) : Bool :=
  match Text.splitList ':' cs with
  | first :: group :: groups => isFirst first && (group :: groups).all isSixtieth
  | _ => false

/-- A first digit that satisfies `p`, then digits and underscores. -/
def startsWithDigit (p : Char → Bool) : List Char → Bool
  | c :: rest => c.isDigit && p c && rest.all isDigitOrUnderscore
  | [] => false

/-- Characters of one kind, at least one. -/
def isRun (p : Char → Bool) (cs : List Char) : Bool := !cs.isEmpty && cs.all p

/-- A whole number without its sign. -/
def isUnsignedInt (cs : List Char) : Bool :=
  match cs with
  | '0' :: 'b' :: rest => isRun (fun c => c = '0' || c = '1' || c = '_') rest
  | '0' :: 'x' :: rest => isRun (fun c => Text.isDigitOf 16 c || c = '_') rest
  | ['0'] => true
  | '0' :: rest => isRun (fun c => Text.isDigitOf 8 c || c = '_') rest
  | cs => startsWithDigit (· ≠ '0') cs || isSexagesimal (startsWithDigit (· ≠ '0')) cs

def isInt (s : String) : Bool := isUnsignedInt (dropSign s.toList)

/-- Nothing, or an exponent with a sign. -/
def isExponent : List Char → Bool
  | [] => true
  | e :: sign :: digits =>
    (e = 'e' || e = 'E') && (sign = '+' || sign = '-') && isRun isDigit digits
  | _ => false

/-- What follows the point of a decimal. -/
def isFraction (cs : List Char) : Bool := isExponent (cs.dropWhile isDigitOrUnderscore)

/-- A decimal that starts with its point. -/
def isBareFraction : List Char → Bool
  | '.' :: d :: rest => d.isDigit && isFraction (d :: rest)
  | _ => false

/-- A decimal with digits before its point, in base ten or in sixtieths. -/
def isDecimal (cs : List Char) : Bool :=
  let whole := cs.takeWhile (· ≠ '.')
  match cs.dropWhile (· ≠ '.') with
  | '.' :: fraction =>
    (startsWithDigit (fun _ => true) whole && isFraction fraction) ||
      (isSexagesimal (startsWithDigit fun _ => true) whole && fraction.all isDigitOrUnderscore)
  | _ => false

def isFloat (s : String) : Bool :=
  let cs := s.toList
  isDecimal (dropSign cs) || isBareFraction cs ||
    [".inf", ".Inf", ".INF"].contains (String.ofList (dropSign cs)) ||
    [".nan", ".NaN", ".NAN"].contains s

end Form

/-- The tag that a plain scalar has by its form. -/
def Tag.ofPlain (s : String) : Tag :=
  if Form.isBool s then .bool
  else if Form.isFloat s then .float
  else if Form.isInt s then .int
  else if s = "<<" then .merge
  else if Form.isNull s then .null
  else if Timestamp.isStrict s then .timestamp
  else if s = "=" then .value
  else if ["!", "&", "*"].contains s then .unknown (standard ++ "yaml")
  else .text

end StagedRollout.Yaml
