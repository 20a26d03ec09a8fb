/-
Base 64: bytes as letters, digits and two more characters, six bits each, filled up with equals
signs. Reading skips every other character.
-/

namespace StagedRollout.Base64

/-- The characters in the order of their values. -/
def alphabet : List Char :=
  "ABCDEFGHIJKLMNOPQRSTUVWXYZabcdefghijklmnopqrstuvwxyz0123456789+/".toList

def digit (n : Nat) : Char := (alphabet[n % 64]?).getD 'A'

def value? (c : Char) : Option Nat := alphabet.idxOf? c

def pad : Char := '='

/-! ## Writing -/

/-- Three bytes make four characters; one or two bytes at the end are padded. -/
def encodeChars : List UInt8 → List Char
  | [] => []
  | [a] =>
    let n := a.toNat * 16
    [digit (n / 64), digit n, pad, pad]
  | [a, b] =>
    let n := (a.toNat * 256 + b.toNat) * 4
    [digit (n / 4096), digit (n / 64), digit n, pad]
  | a :: b :: c :: rest =>
    let n := (a.toNat * 256 + b.toNat) * 256 + c.toNat
    digit (n / 262144) :: digit (n / 4096) :: digit (n / 64) :: digit n :: encodeChars rest

def encode (bytes : List UInt8) : String := String.ofList (encodeChars bytes)

/-! ## Reading -/

/-- The values of the digits up to a group that padding completes, and whether there is one. `place`
is the place in the current group and `pads` the number of equals signs since the last digit. -/
def digitValues (place pads : Nat) : List Char → List Nat × Bool
  | [] => ([], false)
  | c :: rest =>
    if c = pad then
      if 2 ≤ place && 4 ≤ place + pads + 1 then ([], true)
      else digitValues place (if 2 ≤ place then pads + 1 else pads) rest
    else
      match value? c with
      | none => digitValues place pads rest
      | some n =>
        let (values, complete) := digitValues ((place + 1) % 4) 0 rest
        (n :: values, complete)

/-- The bytes of values of six bits; what is left over of the last group is dropped. -/
def bytesOf : List Nat → List UInt8
  | a :: b :: c :: d :: rest =>
    let n := ((a * 64 + b) * 64 + c) * 64 + d
    (n / 65536).toUInt8 :: (n / 256).toUInt8 :: n.toUInt8 :: bytesOf rest
  | [a, b, c] =>
    let n := (a * 64 + b) * 64 + c
    [(n / 1024).toUInt8, (n / 4).toUInt8]
  | [a, b] => [((a * 64 + b) / 16).toUInt8]
  | _ => []

/-- The bytes that a text stands for; the last group must be whole or padded. -/
def decode? (cs : List Char) : Option (List UInt8) :=
  let (values, complete) := digitValues 0 0 cs
  if complete || values.length % 4 = 0 then some (bytesOf values) else none

end StagedRollout.Base64
