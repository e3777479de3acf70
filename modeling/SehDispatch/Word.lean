import Mathlib.Data.UInt

/-!
# ULONG and LONG arithmetic

The routines of `exdsptch.c` compute on 32-bit words. A ULONG (and every pointer, which the
code casts to ULONG before comparing) is a `UInt32`: addition wraps modulo `2^32` and `<` is
the unsigned comparison. Proofs read a `UInt32` as the natural `toNat` below `2^32` and close
the goal with `omega`; the lemmas of the first section make that move.

The binary search of `RtlIsValidHandler` computes on LONG, 32-bit two's complement. A LONG is
an `Int`, and `toLong` wraps the result of every operation the way the x86 code does, so that
`Low + High` is wrapped when it overflows; `>> 1` is an arithmetic shift, the floor of the half
(`shiftRight_one`).

The flag words are ULONGs too, and the last section gives the few facts about `|||`, `&&&`
and `~~~` the exception flags need: a bit that is set stays set, a bit that is cleared stays
clear, and disjoint masks do not see each other.
-/

namespace SehDispatch

/-! ### ULONG values as naturals -/

theorem ulong_lt_iff {a b : UInt32} : a < b ↔ a.toNat < b.toNat := Iff.rfl

theorem ulong_le_iff {a b : UInt32} : a ≤ b ↔ a.toNat ≤ b.toNat := Iff.rfl

theorem ulong_eq_iff {a b : UInt32} : a = b ↔ a.toNat = b.toNat :=
  ⟨congrArg UInt32.toNat, UInt32.toNat.inj⟩

theorem ulong_toNat_add (a b : UInt32) : (a + b).toNat = (a.toNat + b.toNat) % 4294967296 := rfl

theorem ulong_toNat_lt (a : UInt32) : a.toNat < 4294967296 := UInt32.toNat_lt_size a

theorem ulong_lt_of_not_lt_of_ne {a b : UInt32} (h : ¬ b < a) (hne : a ≠ b) : a < b := by
  rw [ulong_lt_iff] at h ⊢
  rw [Ne, ulong_eq_iff] at hne
  omega

theorem ulong_le_of_lt {a b : UInt32} (h : a < b) : a ≤ b := by
  rw [ulong_lt_iff] at h
  rw [ulong_le_iff]
  omega

theorem ulong_lt_of_le_of_lt {a b c : UInt32} (h₁ : a ≤ b) (h₂ : b < c) : a < c := by
  rw [ulong_le_iff] at h₁
  rw [ulong_lt_iff] at h₂ ⊢
  omega

theorem ulong_ne_zero_of_lt {a b : UInt32} (h : a < b) : b ≠ 0 := by
  rw [ulong_lt_iff] at h
  rw [Ne, ulong_eq_iff, UInt32.toNat_zero]
  omega

theorem ulong_ne_zero_of_le {a b : UInt32} (h : a ≤ b) (ha : a ≠ 0) : b ≠ 0 := by
  rw [ulong_le_iff] at h
  rw [Ne, ulong_eq_iff, UInt32.toNat_zero] at ha ⊢
  omega

/-! ### LONG values -/

/-- The LONG a computation yields: the integer wrapped to 32-bit two's complement. -/
def toLong (x : Int) : Int := (x + 2147483648) % 4294967296 - 2147483648

theorem toLong_of_lt {x : Int} (h₁ : -2147483648 ≤ x) (h₂ : x < 2147483648) : toLong x = x := by
  unfold toLong
  omega

/-- The ULONG with the bits of a LONG, as pointer arithmetic uses a LONG index. -/
def ulongOfLong (x : Int) : UInt32 := UInt32.ofNat (x % 4294967296).toNat

theorem ulongOfLong_natCast {i : Nat} (h : i < 4294967296) : ulongOfLong i = UInt32.ofNat i := by
  unfold ulongOfLong
  congr
  omega

theorem shiftRight_one (x : Int) : Int.shiftRight x 1 = x / 2 := by
  cases x with
  | ofNat n =>
    show Int.ofNat (n >>> 1) = _
    simp [Nat.shiftRight_eq_div_pow]
  | negSucc n =>
    show Int.negSucc (n >>> 1) = Int.negSucc n / 2
    rw [Nat.shiftRight_eq_div_pow]
    rfl

/-! ### Flag words -/

section Flags

variable (a m m' : UInt32)

theorem or_and_self_mask : (a ||| m) &&& m = m := by
  apply UInt32.eq_of_toBitVec_eq
  show (a.toBitVec ||| m.toBitVec) &&& m.toBitVec = m.toBitVec
  ext i
  simp only [BitVec.getLsbD_and, BitVec.getLsbD_or]
  cases m.toBitVec.getLsbD i <;> simp

theorem and_not_and_self_mask : (a &&& ~~~m) &&& m = 0 := by
  apply UInt32.eq_of_toBitVec_eq
  show (a.toBitVec &&& ~~~m.toBitVec) &&& m.toBitVec = 0#32
  ext i
  simp

variable {m m'}

theorem or_and_of_disjoint (h : m &&& m' = 0) : (a ||| m) &&& m' = a &&& m' := by
  apply UInt32.eq_of_toBitVec_eq
  have h' : m.toBitVec &&& m'.toBitVec = 0#32 := congrArg UInt32.toBitVec h
  show (a.toBitVec ||| m.toBitVec) &&& m'.toBitVec = a.toBitVec &&& m'.toBitVec
  ext i
  have hi := congrArg (fun x => BitVec.getLsbD x i) h'
  revert hi
  simp only [BitVec.getLsbD_and, BitVec.getLsbD_or, BitVec.getLsbD_zero]
  cases m.toBitVec.getLsbD i <;> cases m'.toBitVec.getLsbD i <;> simp

theorem and_not_and_of_disjoint (h : m &&& m' = 0) : (a &&& ~~~m) &&& m' = a &&& m' := by
  apply UInt32.eq_of_toBitVec_eq
  have h' : m.toBitVec &&& m'.toBitVec = 0#32 := congrArg UInt32.toBitVec h
  show (a.toBitVec &&& ~~~m.toBitVec) &&& m'.toBitVec = a.toBitVec &&& m'.toBitVec
  ext i
  have hi := congrArg (fun x => BitVec.getLsbD x i) h'
  revert hi
  simp only [BitVec.getLsbD_and, BitVec.getLsbD_not, BitVec.getLsbD_zero, i.isLt, decide_True,
    Bool.true_and]
  cases m.toBitVec.getLsbD i <;> cases m'.toBitVec.getLsbD i <;> simp

end Flags

end SehDispatch
