/-
Trace parents: the header that ties a request to a trace, `00-trace-parent-flags` in hexadecimal
digits.
-/
import StagedRollout.Fault
import StagedRollout.Text.Numeral

namespace StagedRollout

/-- A trace, the span that asks, and the flags. -/
structure TraceParent where
  traceId : Value
  parentId : Value
  flags : Value

namespace TraceParent

/-- The version of the header's format. -/
def version : String := "00"

/-! ## Writing -/

/-- A whole number in hexadecimal digits, padded with zeros to two characters; a minus sign counts
as a character and stands before the zeros. -/
def flagDigits (n : Int) : String :=
  if n < 0 then "-" ++ Text.hexPadded 1 n.natAbs else Text.hexPadded 2 n.natAbs

/-- The flags as text. -/
def flagText : Value → Except Fault Text
  | .bool b => .ok (flagDigits (if b then 1 else 0))
  | .int n => .ok (flagDigits n)
  | .float x => .error (.breach (.badFormat (Value.float x).kindName))
  | .text s => .error (.breach (.badFormat (Value.text s).kindName))
  | _ => .error .wrongKind

/-- The header's text. -/
def text (t : TraceParent) : Except Fault Text :=
  return Text.intercalate "-"
    [version, t.traceId.asText, t.parentId.asText, ← flagText t.flags]

/-- The parent made from a random trace number and a random span number. -/
def ofNumbers (trace span : Nat) : TraceParent :=
  ⟨.text (Text.hexPadded 32 trace), .text (Text.hexPadded 16 span), .int 1⟩

/-! ## Reading -/

/-- A part of the header: a numeral of a given length. -/
def part? (length : Nat) (s : Text) : Option Int :=
  if s.length = length then Text.readInt? 16 s else none

/-- The parent that a header names: four parts, the version and three numerals of 32, 16 and two
characters. -/
def ofText? (s : Text) : Option TraceParent :=
  match Text.split '-' s with
  | [v, trace, span, flags] =>
    if v = version then do
      let _ ← part? 32 trace
      let _ ← part? 16 span
      let n ← part? 2 flags
      return ⟨.text trace, .text span, .int n⟩
    else none
  | _ => none

end TraceParent

end StagedRollout
