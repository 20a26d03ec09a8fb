/-
Encodings by the names under which a message announces them.
-/
import StagedRollout.Outer.Encoding
import StagedRollout.Text.Basic

namespace StagedRollout.Bytes

open Text (splitList trimList isBlank)

inductive Charset where
  | utf8
  | utf8Marked
  | utf16
  | utf16Big
  | utf16Little
  | utf32
  | utf32Big
  | utf32Little
  | latin1
  | latin9
  | windows1252
  | ascii
  deriving DecidableEq

namespace Charset

def decode : Charset → List UInt8 → Decoded
  | .utf8 => Bytes.utf8
  | .utf8Marked => Bytes.utf8Marked
  | .utf16 => utf16Marked
  | .utf16Big => Bytes.utf16 true
  | .utf16Little => Bytes.utf16 false
  | .utf32 => utf32Marked
  | .utf32Big => Bytes.utf32 true
  | .utf32Little => Bytes.utf32 false
  | .latin1 => Bytes.latin1
  | .latin9 => Bytes.latin9
  | .windows1252 => Bytes.windows1252
  | .ascii => Bytes.ascii

/-- Whether bytes lack the mark that an encoding needs before its first character. -/
def lacksMark (c : Charset) (bytes : List UInt8) : Bool :=
  match c with
  | .utf16 => 2 ≤ bytes.length && !isMarked16 bytes
  | .utf32 => 4 ≤ bytes.length && !isMarked32 bytes
  | _ => false

/-- The names of an encoding, with underscores between their words. -/
def names : Charset → List String
  | .utf8 => ["utf_8", "utf8", "u8", "utf", "cp65001", "utf8_ucs2", "utf8_ucs4"]
  | .utf8Marked => ["utf_8_sig"]
  | .utf16 => ["utf_16", "utf16", "u16"]
  | .utf16Big => ["utf_16_be", "utf_16be", "unicodebigunmarked"]
  | .utf16Little => ["utf_16_le", "utf_16le", "unicodelittleunmarked"]
  | .utf32 => ["utf_32", "utf32", "u32"]
  | .utf32Big => ["utf_32_be", "utf_32be"]
  | .utf32Little => ["utf_32_le", "utf_32le"]
  | .latin1 => ["latin_1", "latin1", "latin", "l1", "iso8859_1", "iso8859", "8859", "iso_8859_1",
      "iso_8859_1_1987", "iso_ir_100", "csisolatin1", "cp819", "ibm819"]
  | .latin9 => ["iso8859_15", "iso_8859_15", "latin9", "l9"]
  | .windows1252 => ["cp1252", "1252", "windows_1252"]
  | .ascii => ["ascii", "us_ascii", "us", "646", "ansi_x3.4_1968", "ansi_x3_4_1968",
      "ansi_x3.4_1986", "cp367", "csascii", "ibm367", "iso646_us", "iso_646.irv_1991",
      "iso_ir_6"]

def all : List Charset :=
  [.utf8, .utf8Marked, .utf16, .utf16Big, .utf16Little, .utf32, .utf32Big, .utf32Little, .latin1,
    .latin9, .windows1252, .ascii]

/-- A name in lower case with an underscore between its words, whatever stood there. -/
def plainName (s : String) : String :=
  let cs := s.toList.map fun c => if c.isAlphanum || c = '.' then c.toLower else '_'
  String.intercalate "_" (((splitList '_' cs).filter fun w => !w.isEmpty).map String.ofList)

/-- The encoding of a name. -/
def ofName? (s : String) : Option Charset := all.find? fun c => c.names.contains (plainName s)

/-! ## Content types -/

/-- A value without the quotation marks around it. -/
def unquoted (s : String) : String :=
  match s.toList with
  | '"' :: rest =>
    if rest.getLast? = some '"' then String.ofList rest.dropLast else s
  | _ => s

/-- The text of characters without the blanks around them. -/
def trimmed (cs : List Char) : String := String.ofList (trimList isBlank cs)

/-- The value of a parameter of a content type. -/
def parameter? (contentType name : String) : Option String :=
  (splitList ';' contentType.toList).findSome? fun part =>
    match splitList '=' part with
    | key :: value :: more =>
      if trimmed (key.map Char.toLower) = name then
        some (unquoted (trimmed (List.intercalate ['='] (value :: more))))
      else none
    | _ => none

/-- The encoding of a message by its content type; one that names none, or one that is not known,
is the usual one. -/
def ofContentType (contentType : Option String) : Charset :=
  ((contentType.bind fun t => parameter? t "charset").bind ofName?).getD .utf8

end Charset

end StagedRollout.Bytes
