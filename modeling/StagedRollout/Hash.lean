/-
Bucketing: the 64-bit FNV-1a hash of a text's bytes, reduced to one of a hundred buckets.
-/
import StagedRollout.Fault

namespace StagedRollout.Hash

/-- The hash of no bytes. -/
def offsetBasis : UInt64 := 0xCBF29CE484222325

def prime : UInt64 := 0x100000001B3

/-- One byte is mixed in by exclusive or, then the words are spread by the prime. -/
def mix (h : UInt64) (b : UInt8) : UInt64 := (h ^^^ b.toUInt64) * prime

/-- The hash of a byte string. -/
def fnv1a (bytes : List UInt8) : UInt64 := bytes.foldl mix offsetBasis

/-- The bytes of a text. -/
def textBytes (s : String) : List UInt8 := s.toUTF8.toList

/-- The bucket of a text, from 0 to 99. -/
def bucket (s : String) : Nat := (fnv1a (textBytes s)).toNat % 100

/-- The lower end of a bucket as a share of the whole. -/
def share (n : Nat) : Double := Double.div (.finite n) (.finite 100)

/-- The position of a salted key, as a share of the whole. -/
def position (key salt : String) : Double := share (bucket (key ++ salt))

def rolloutSalt : String := "rollout"

def variantSalt : String := "variant"

/-- The position that decides whether a rollout includes the key. -/
def rolloutPosition (key : String) : Double := position key rolloutSalt

/-- The position that decides which arm the key gets. -/
def variantPosition (key : String) : Double := position key variantSalt

/-- The characters of a text that is to be put into bytes. -/
def characters (s : Text) : Except Fault String :=
  match s.string? with
  | some s => .ok s
  | none => .error .unencodable

/-- The position of any key under any salt. Both must be texts; two numbers or two lists can be
added, but the sum has no bytes. -/
def positionOf (key salt : Value) : Except Fault Double :=
  match key, salt with
  | .null, _ => .error (.breach .missingHashKey)
  | _, .null => .error (.breach .missingSalt)
  | .text k, .text s => do return position (← characters k) (← characters s)
  | .list _, .list _ => .error .noMembers
  | k, s => if k.number?.isSome && s.number?.isSome then .error .noMembers else .error .wrongKind

end StagedRollout.Hash
