/-
The hash in numbers of any size, and what a common ending does to two hashes. Exclusive or and
multiplication read the lower 64 bits of a number only, so the bits above them may be cut off after
every byte, after the last one, or in words that have no others. The prime is odd, so one byte is mixed
in reversibly, and texts that end alike have one hash just if they have one without the ending.
-/
import StagedRollout.Hash
import Mathlib.Algebra.Group.Nat.Defs
import Mathlib.Logic.Function.Basic

namespace StagedRollout.Hash

/-! ## Numbers of any size -/

/-- One byte mixed into a number of any size. -/
def mixNumber (n : Nat) (b : UInt8) : Nat := (n ^^^ b.toNat) * prime.toNat

/-- The hash in numbers that grow with every byte. -/
def grown (bytes : List UInt8) : Nat := bytes.foldl mixNumber offsetBasis.toNat

/-- One byte mixed into a number, of which the lower 64 bits are kept. -/
def mixMasked (n : Nat) (b : UInt8) : Nat := mixNumber n b &&& (2 ^ 64 - 1)

/-- The hash in numbers whose upper bits are cut off after every byte. -/
def masked (bytes : List UInt8) : Nat := bytes.foldl mixMasked offsetBasis.toNat

theorem mix_ofNat (n : Nat) (b : UInt8) :
    mix (UInt64.ofNat n) b = UInt64.ofNat (mixNumber n b) := by
  have hbyte : b.toUInt64 = UInt64.ofNat b.toNat := by
    rw [← UInt64.toNat_inj, UInt8.toNat_toUInt64, UInt64.toNat_ofNat',
      Nat.mod_eq_of_lt (Nat.lt_trans b.toNat_lt (by decide))]
  rw [mix, mixNumber, hbyte, UInt64.ofNat_mul, UInt64.ofNat_xor, UInt64.ofNat_toNat]

theorem mixMasked_toNat (h : UInt64) (b : UInt8) : mixMasked h.toNat b = (mix h b).toNat := by
  rw [mixMasked, Nat.and_two_pow_sub_one_eq_mod, ← UInt64.toNat_ofNat', ← mix_ofNat,
    UInt64.ofNat_toNat]

theorem masked_eq (bytes : List UInt8) : masked bytes = (fnv1a bytes).toNat :=
  List.foldl_hom UInt64.toNat mixMasked_toNat

theorem grown_mod (bytes : List UInt8) : grown bytes % 2 ^ 64 = (fnv1a bytes).toNat := by
  have hword : fnv1a bytes = UInt64.ofNat (grown bytes) := by
    unfold fnv1a
    rw [← UInt64.ofNat_toNat (x := offsetBasis)]
    exact List.foldl_hom UInt64.ofNat mix_ofNat
  rw [hword, UInt64.toNat_ofNat']

/-! ## Common endings -/

/-- The word that the prime makes one with. -/
def primeInverse : UInt64 := 0xCE965057AFF6957B

theorem mix_injective (b : UInt8) : Function.Injective fun h => mix h b := by
  have hone : prime * primeInverse = 1 := by decide
  refine Function.LeftInverse.injective (g := fun h => (h * primeInverse) ^^^ b.toUInt64) fun h => ?_
  show (h ^^^ b.toUInt64) * prime * primeInverse ^^^ b.toUInt64 = h
  rw [UInt64.mul_assoc, hone, UInt64.mul_one, UInt64.xor_assoc, UInt64.xor_self, UInt64.xor_zero]

/-- What is mixed in one byte after the other leaves different words different. -/
theorem foldl_mix_injective (bytes : List UInt8) : Function.Injective (bytes.foldl mix) := by
  induction bytes with
  | nil => exact Function.injective_id
  | cons b rest ih => exact ih.comp (mix_injective b)

theorem fnv1a_append_inj (xs ys ending : List UInt8) :
    fnv1a (xs ++ ending) = fnv1a (ys ++ ending) ↔ fnv1a xs = fnv1a ys := by
  unfold fnv1a
  rw [List.foldl_append, List.foldl_append]
  exact (foldl_mix_injective ending).eq_iff

/-! ## Texts -/

theorem toList_loop_eq (bytes : ByteArray) (i : Nat) (read : List UInt8) :
    ByteArray.toList.loop bytes i read = read.reverse ++ bytes.data.toList.drop i := by
  fun_induction ByteArray.toList.loop bytes i read with
  | case1 i read hlt ih =>
    have hi : i < bytes.data.toList.length := hlt
    have hget : bytes.get! i = bytes.data.toList[i] := getElem!_pos bytes.data i hlt
    rw [ih, List.drop_eq_getElem_cons hi, hget, List.reverse_cons, List.append_assoc]
    rfl
  | case2 i read hge =>
    have hi : bytes.data.toList.length ≤ i := Nat.le_of_not_lt hge
    rw [List.drop_eq_nil_of_le hi, List.append_nil]

theorem textBytes_append (s t : String) : textBytes (s ++ t) = textBytes s ++ textBytes t := by
  have hlist : ∀ bytes : ByteArray, bytes.toList = bytes.data.toList := fun bytes =>
    toList_loop_eq bytes 0 []
  unfold textBytes
  rw [hlist, hlist, hlist, ← Array.toList_append, ← ByteArray.data_append]
  exact congrArg (·.data.toList) String.toByteArray_append

/-- The hash is the one that comes of cutting numbers off at 64 bits after every byte, and the one that
comes of cutting them off once at the end; and an ending, of bytes or of a text, neither makes two hashes
equal nor different. -/
theorem hash_is_modular_and_cancels (bytes xs ys ending : List UInt8) (key other salt : String) :
    masked bytes < 2 ^ 64 ∧ masked bytes = (fnv1a bytes).toNat ∧
      masked bytes = grown bytes % 2 ^ 64 ∧
      (fnv1a (xs ++ ending) = fnv1a (ys ++ ending) ↔ fnv1a xs = fnv1a ys) ∧
      (fnv1a (textBytes (key ++ salt)) = fnv1a (textBytes (other ++ salt)) ↔
        fnv1a (textBytes key) = fnv1a (textBytes other)) := by
  have hword : masked bytes = (fnv1a bytes).toNat := masked_eq bytes
  refine ⟨?_, hword, ?_, fnv1a_append_inj xs ys ending, ?_⟩
  · rw [hword]
    exact (fnv1a bytes).toNat_lt
  · rw [hword, grown_mod]
  · rw [textBytes_append, textBytes_append]
    exact fnv1a_append_inj _ _ _

end StagedRollout.Hash
