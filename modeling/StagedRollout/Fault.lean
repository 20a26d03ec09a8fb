/-
What can go wrong, by cause. A broken rule of a value carries the text that callers see; a fault of
the service as a whole carries a code, a text and the fault that caused it.
-/
import StagedRollout.Value.Text

namespace StagedRollout

/-! ## Settings that do not fit -/

/-- What is wrong with one setting: its place among the settings, and what is wrong with it by a
short name and as a text. -/
structure Complaint where
  place : List Key
  kind : String
  message : String
  deriving DecidableEq

/-! ## Faults -/

/-- The stage at which a configuration text is refused. -/
inductive YamlStage where
  | reader
  | scanner
  | parser
  | composer
  | constructor
  deriving DecidableEq

/-- The part of the service that failed. -/
inductive Code where
  | connection
  | config
  | http
  | parse
  deriving DecidableEq

def Code.name : Code → String
  | .connection => "CONNECTION_ERROR"
  | .config => "CONFIG_ERROR"
  | .http => "HTTP_ERROR"
  | .parse => "PARSE_ERROR"

/-- A rule of a value that does not hold. -/
inductive Breach where
  | missingHashKey
  | missingSalt
  | missingDistinctId
  | emptyFlagKey
  | flagKeyNotText
  | ratioOutOfRange (name : String) (value : Value)
  | notConvertible (kind : String)
  | unreadableNumber (text : Text)
  | unreadableInteger (base : Nat) (text : Text)
  | tooManyDigits
  | longNumeral (digits : Nat)
  | wholeOfNan
  | unknownOperation (name : Text)
  | noLeast
  | noGreatest
  | badIdentifier
  | pairLength (position length : Nat)
  | badFormat (kind : String)
  | stated (text : Text)

/-- What is said of a whole number with too many digits. -/
def Breach.limitText : String :=
  "Exceeds the limit (" ++ toString Value.digitLimit ++ " digits) for integer string conversion"

def Breach.limitAdvice : String := "use sys.set_int_max_str_digits() to increase the limit"

/-- The text of a broken rule. -/
def Breach.message : Breach → Text
  | .missingHashKey => "key cannot be None"
  | .missingSalt => "salt cannot be None"
  | .missingDistinctId => "distinct_id cannot be None"
  | .emptyFlagKey => "flag_key cannot be empty"
  | .flagKeyNotText => "flag_key must be a non-empty string"
  | .ratioOutOfRange name value => name ++ " must be between 0 and 1: " ++ value.asText
  | .notConvertible kind => "cannot convert " ++ kind ++ " to number"
  | .unreadableNumber text => "could not convert string to float: " ++ Text.quoted text
  | .unreadableInteger base text =>
    "invalid literal for int() with base " ++ toString base ++ ": " ++
      String.ofList ((Text.quoted text).toList.take 200)
  | .tooManyDigits => Breach.limitText ++ "; " ++ Breach.limitAdvice
  | .longNumeral digits =>
    Breach.limitText ++ ": value has " ++ toString digits ++ " digits; " ++ Breach.limitAdvice
  | .wholeOfNan => "cannot convert float NaN to integer"
  | .unknownOperation name => "unrecognized operation: " ++ name
  | .noLeast => "min() arg is an empty sequence"
  | .noGreatest => "max() arg is an empty sequence"
  | .badIdentifier => "badly formed hexadecimal UUID string"
  | .pairLength position length =>
    "dictionary update sequence element #" ++ toString position ++ " has length " ++
      toString length ++ "; 2 is required"
  | .badFormat kind => "Unknown format code 'x' for object of type '" ++ kind ++ "'"
  | .stated text => text

/-- Why an operation has no result. -/
inductive Fault where
  /-- A value breaks a stated rule. -/
  | breach (b : Breach)
  /-- A value is of a kind that the operation does not take. -/
  | wrongKind
  /-- An operand or element is not there. -/
  | noSuchPosition
  /-- A member is asked of something that has no members. -/
  | noMembers
  /-- A word is not in the list of known words. -/
  | unknownWord
  | divisionByZero
  /-- A whole number is beyond the doubles, or an infinity beyond the whole numbers. -/
  | outOfRange
  /-- A value cannot be stored in single precision. -/
  | notStorable
  /-- Bytes are not text in the encoding they claim. -/
  | undecodable
  /-- A text with halves of characters has no bytes. -/
  | unencodable
  /-- A text in an encoding of wide units does not begin with the mark of their byte order. -/
  | unmarked
  /-- A text is not JSON. -/
  | notJson
  /-- Lists and objects lie inside one another deeper than there is room. -/
  | tooDeep
  | fileMissing
  | fileIsDirectory
  /-- A configuration text is refused at a stage. -/
  | yaml (stage : YamlStage)
  /-- Settings do not fit. -/
  | misfit (complaints : List Complaint)
  /-- A failure of the transport, by its name and text. -/
  | transport (name : String) (text : Text)
  /-- An address that no request can be sent to. -/
  | invalidAddress
  /-- A failure of the caller's own, by its name. -/
  | foreign (name : String)
  /-- A demand to end, by its name. It is no failure, and no one who handles failures handles it. -/
  | exit (name : String)
  /-- A part of the service failed. -/
  | service (code : Code) (detail : Text) (cause : Option Fault)

/-- The text that a fault adds to the text of a fault it causes. -/
def Fault.ownText? : Fault → Option Text
  | .breach b => some b.message
  | .transport _ text => some text
  | _ => none

/-- A text under the name of the failed part. -/
def labelled (code : String) (text : Text) : Text := code ++ ": " ++ text

/-- The text of a fault that has one. -/
def Fault.message? : Fault → Option Text
  | .service code detail cause =>
    let text := match cause.bind Fault.ownText? with
      | some own => detail ++ ": " ++ own
      | none => detail
    some (labelled code.name text)
  | f => f.ownText?

end StagedRollout
