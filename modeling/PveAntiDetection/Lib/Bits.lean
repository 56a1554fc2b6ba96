import Mathlib.Logic.Basic

/-!
# Bits of words

* `setBit`, `clearBit`, `putBit` — one bit of a word; `getLsbD_putBit`: the others are as they were;
* `place`, `field` — a small number in a bit field of a word, and back;
* `field_place_self`, `field_place_other`, `field_and_not` — what is read of a field.
-/

set_option autoImplicit false

namespace Bits

variable {n : Nat}

/-- `set_bit`. -/
def setBit (w : BitVec n) (i : Nat) : BitVec n := w ||| BitVec.twoPow n i

/-- `clear_bit`. -/
def clearBit (w : BitVec n) (i : Nat) : BitVec n := w &&& ~~~BitVec.twoPow n i

theorem getLsbD_setBit {w : BitVec n} {i : Nat} (hi : i < n) (j : Nat) :
    (setBit w i).getLsbD j = if j = i then true else w.getLsbD j := by
  rw [setBit, BitVec.getLsbD_or, BitVec.getLsbD_twoPow]
  by_cases hj : j = i
  · simp [hj, hi]
  · simp [hj, Ne.symm hj]

theorem getLsbD_clearBit {w : BitVec n} {i : Nat} (hi : i < n) (j : Nat) :
    (clearBit w i).getLsbD j = if j = i then false else w.getLsbD j := by
  rw [clearBit, BitVec.getLsbD_and, BitVec.getLsbD_not, BitVec.getLsbD_twoPow]
  by_cases hj : j = i
  · simp [hj, hi]
  · by_cases hlt : j < n
    · simp [hj, Ne.symm hj, hlt]
    · simp [hj, BitVec.getLsbD_of_ge w j (by omega)]

/-- One of the two. -/
def putBit (w : BitVec n) (i : Nat) (v : Bool) : BitVec n := if v then setBit w i else clearBit w i

theorem getLsbD_putBit {w : BitVec n} {i : Nat} (hi : i < n) (v : Bool) (j : Nat) :
    (putBit w i v).getLsbD j = if j = i then v else w.getLsbD j := by
  cases v with
  | false => exact getLsbD_clearBit hi j
  | true => exact getLsbD_setBit hi j

/-! ## Fields -/

section Fields

variable {m : Nat}

/-- The bits of `v` under `mask`, at `shift`. -/
def place (n : Nat) (v : BitVec m) (mask : BitVec n) (shift : Nat) : BitVec n :=
  (v.setWidth n &&& mask) <<< shift

/-- What `mask` leaves of the word from bit `shift` on. -/
def field (m : Nat) (w : BitVec n) (shift : Nat) (mask : BitVec n) : BitVec m :=
  ((w >>> shift) &&& mask).setWidth m

theorem getLsbD_field (w : BitVec n) (shift : Nat) (mask : BitVec n) (i : Nat) :
    (field m w shift mask).getLsbD i =
      (decide (i < m) && (w.getLsbD (shift + i) && mask.getLsbD i)) := by
  rw [field, BitVec.getLsbD_setWidth, BitVec.getLsbD_and, BitVec.getLsbD_ushiftRight]

theorem field_or (v w : BitVec n) (shift : Nat) (mask : BitVec n) :
    field m (v ||| w) shift mask = field m v shift mask ||| field m w shift mask := by
  apply BitVec.eq_of_getLsbD_eq
  intro i hi
  simp only [getLsbD_field, BitVec.getLsbD_or, Bool.and_or_distrib_left, Bool.and_or_distrib_right]

/-- A word without bits in the field. -/
theorem field_eq_zero {w : BitVec n} {shift : Nat} {mask : BitVec n}
    (h : w &&& (mask <<< shift) = 0#n) : field m w shift mask = 0#m := by
  apply BitVec.eq_of_getLsbD_eq
  intro i hi
  rw [getLsbD_field, BitVec.getLsbD_zero]
  by_cases hn : shift + i < n
  · have hbit : (w &&& (mask <<< shift)).getLsbD (shift + i) = false := by
      rw [h, BitVec.getLsbD_zero]
    have hle : ¬ shift + i < shift := by omega
    rw [BitVec.getLsbD_and, BitVec.getLsbD_shiftLeft, Nat.add_sub_cancel_left] at hbit
    simp only [hn, hle, decide_true, decide_false, Bool.not_false, Bool.true_and] at hbit
    rw [hbit, Bool.and_false]
  · rw [BitVec.getLsbD_of_ge w _ (by omega), Bool.false_and, Bool.and_false]

theorem field_place_self (v : BitVec m) {shift : Nat} {mask : BitVec n} (hn : shift + m ≤ n) :
    field m (place n v mask shift) shift mask = v &&& mask.setWidth m := by
  apply BitVec.eq_of_getLsbD_eq
  intro i hi
  have h1 : shift + i < n := by omega
  have h2 : ¬ shift + i < shift := by omega
  have h3 : i < n := by omega
  simp only [place, getLsbD_field, BitVec.getLsbD_shiftLeft, BitVec.getLsbD_and,
    BitVec.getLsbD_setWidth, Nat.add_sub_cancel_left, hi, h1, h2, h3, decide_true, decide_false,
    Bool.not_false, Bool.true_and, Bool.and_assoc, Bool.and_self]

/-- The same where the mask, shifted, still fits into the word. -/
theorem field_place_fits (v : BitVec m) {shift : Nat} {mask : BitVec n}
    (hfits : (mask <<< shift) >>> shift = mask) :
    field m (place n v mask shift) shift mask = v &&& mask.setWidth m := by
  apply BitVec.eq_of_getLsbD_eq
  intro i hi
  have hbit : mask.getLsbD i = (decide (shift + i < n) && mask.getLsbD i) := by
    have h := congrArg (fun w => w.getLsbD i) hfits
    simp only [BitVec.getLsbD_ushiftRight, BitVec.getLsbD_shiftLeft] at h
    have hsub : shift + i - shift = i := by omega
    have hlt : ¬ shift + i < shift := by omega
    rw [hsub, decide_eq_false hlt, Bool.not_false, Bool.and_true] at h
    exact h.symm
  have hlt : ¬ shift + i < shift := by omega
  have hsub : shift + i - shift = i := by omega
  rw [getLsbD_field, place, BitVec.getLsbD_shiftLeft, BitVec.getLsbD_and, BitVec.getLsbD_setWidth,
    BitVec.getLsbD_and, BitVec.getLsbD_setWidth, hsub, decide_eq_true hi, decide_eq_false hlt]
  cases hmask : mask.getLsbD i with
  | false => simp
  | true =>
    have hin : shift + i < n := by
      rw [hmask] at hbit
      simpa using hbit.symm
    have hi' : i < n := by omega
    simp [hin, hi']

/-- The fields do not overlap. -/
theorem field_place_other (v : BitVec m) {shift shift' : Nat} {mask mask' : BitVec n}
    (hd : (mask <<< shift) &&& (mask' <<< shift') = 0#n) :
    field m (place n v mask shift) shift' mask' = 0#m := by
  apply field_eq_zero
  rw [place, BitVec.shiftLeft_and_distrib, BitVec.and_assoc, hd, BitVec.and_zero]

/-- A field is no wider than its mask. -/
theorem field_and_mask (w : BitVec n) (shift : Nat) (mask : BitVec n) :
    field m w shift mask &&& mask.setWidth m = field m w shift mask := by
  apply BitVec.eq_of_getLsbD_eq
  intro i hi
  rw [BitVec.getLsbD_and, getLsbD_field, BitVec.getLsbD_setWidth, decide_eq_true hi]
  cases mask.getLsbD i <;> simp

/-- Clearing bits outside the field. -/
theorem field_and_not (w : BitVec n) {c mask : BitVec n} {shift : Nat}
    (hd : c &&& (mask <<< shift) = 0#n) :
    field m (w &&& ~~~c) shift mask = field m w shift mask := by
  have hsplit : w = (w &&& ~~~c) ||| (w &&& c) := by
    apply BitVec.eq_of_getLsbD_eq
    intro i hi
    rw [BitVec.getLsbD_or, BitVec.getLsbD_and, BitVec.getLsbD_and, BitVec.getLsbD_not]
    cases w.getLsbD i <;> cases c.getLsbD i <;> simp [hi]
  have hzero : field m (w &&& c) shift mask = 0#m := by
    apply field_eq_zero
    rw [BitVec.and_assoc, hd, BitVec.and_zero]
  calc field m (w &&& ~~~c) shift mask
      = field m (w &&& ~~~c) shift mask ||| field m (w &&& c) shift mask := by
        rw [hzero, BitVec.or_zero]
    _ = field m w shift mask := by rw [← field_or, ← hsplit]

end Fields

end Bits
