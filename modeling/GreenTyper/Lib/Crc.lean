/-
  GreenTyper.Lib.Crc — a reflected cyclic redundancy check of any width `w`, and why it
  sees a single changed byte.

  One bit step shifts right and, when the bit shifted out was set, adds the
  polynomial. With the polynomial's top bit set the step is injective: the result's top
  bit tells the bit that was shifted out (`step_injective`). So a byte step is injective
  in the remainder (`update_injective`) and, when the width holds a byte, in the byte
  (`update_byte_injective`), and two messages that differ in one byte keep different
  remainders to the end (`fold_ne`).
-/

import GreenTyper.Lib.Bytes

namespace GreenTyper.Lib.Crc

variable {w : Nat} (p : BitVec w)

/-- One bit: shift right, and add the polynomial when the bit shifted out was set. -/
def step (c : BitVec w) : BitVec w := (c >>> 1) ^^^ (p &&& (0#w - (c &&& 1#w)))

def steps : Nat → BitVec w → BitVec w
  | 0, c => c
  | n + 1, c => steps n (step p c)

/-- One byte: add it to the remainder's low end, then eight bits. -/
def update (c : BitVec w) (b : Byte) : BitVec w := steps p 8 (c ^^^ b.toBitVec.setWidth w)

/-- The remainder after a message, from remainder `c`. -/
def fold (c : BitVec w) (bytes : List Byte) : BitVec w := bytes.foldl (update p) c

theorem and_one (c : BitVec w) : c &&& 1#w = if c.getLsbD 0 then 1#w else 0#w := by
  rw [BitVec.and_one_eq_setWidth_ofBool_getLsbD]
  cases c.getLsbD 0
  · simp
  · apply BitVec.eq_of_toNat_eq
    simp

/-- The mask is all ones when the low bit is set, and zero otherwise. -/
theorem step_eq (c : BitVec w) : step p c = if c.getLsbD 0 then (c >>> 1) ^^^ p else c >>> 1 := by
  unfold step
  rw [and_one]
  cases h : c.getLsbD 0 <;> simp [BitVec.neg_one_eq_allOnes]

variable {p}

theorem step_msb (hp : p.getLsbD (w - 1) = true) (c : BitVec w) : (step p c).getLsbD (w - 1) = c.getLsbD 0 := by
  have hw : 0 < w := by
    rcases Nat.eq_zero_or_pos w with rfl | h
    · simp at hp
    · exact h
  have hs : (c >>> 1).getLsbD (w - 1) = false := by
    rw [BitVec.getLsbD_ushiftRight]
    exact BitVec.getLsbD_of_ge c _ (by omega)
  rw [step_eq]
  split
  · rw [BitVec.getLsbD_xor, hs, hp]; simp_all
  · simp_all

theorem shift_inj {a b : BitVec w} (h0 : a.getLsbD 0 = b.getLsbD 0) (hs : a >>> 1 = b >>> 1) : a = b := by
  apply BitVec.eq_of_getLsbD_eq
  intro i _
  rcases i with _ | i
  · exact h0
  · have := congrArg (·.getLsbD i) hs
    simp only [BitVec.getLsbD_ushiftRight] at this
    rwa [Nat.add_comm 1 i] at this

theorem step_injective (hp : p.getLsbD (w - 1) = true) {a b : BitVec w} (h : step p a = step p b) : a = b := by
  have h0 : a.getLsbD 0 = b.getLsbD 0 := by rw [← step_msb hp a, ← step_msb hp b, h]
  refine shift_inj h0 ?_
  rw [step_eq, step_eq, h0] at h
  split at h
  · exact (BitVec.xor_left_inj p).mp h
  · exact h

theorem steps_injective (hp : p.getLsbD (w - 1) = true) (n : Nat) {a b : BitVec w}
    (h : steps p n a = steps p n b) : a = b := by
  induction n generalizing a b with
  | zero => exact h
  | succ n ih => exact step_injective hp (ih h)

theorem update_injective (hp : p.getLsbD (w - 1) = true) {a b : BitVec w} {x : Byte}
    (h : update p a x = update p b x) : a = b :=
  (BitVec.xor_left_inj _).mp (steps_injective hp 8 h)

theorem update_byte_injective (hp : p.getLsbD (w - 1) = true) (hw : 8 ≤ w) {c : BitVec w} {x y : Byte}
    (h : update p c x = update p c y) : x = y := by
  have hxy : x.toBitVec.setWidth w = y.toBitVec.setWidth w := (BitVec.xor_right_inj c).mp (steps_injective hp 8 h)
  apply UInt8.toBitVec_inj.mp
  have := congrArg (·.setWidth 8) hxy
  simpa [BitVec.setWidth_setWidth_of_le _ hw] using this

theorem fold_injective (hp : p.getLsbD (w - 1) = true) (bytes : List Byte) {a b : BitVec w}
    (h : fold p a bytes = fold p b bytes) : a = b := by
  induction bytes generalizing a b with
  | nil => exact h
  | cons x bytes ih => exact update_injective hp (ih h)

/-- Two messages that differ in exactly one byte have different remainders. -/
theorem fold_ne (hp : p.getLsbD (w - 1) = true) (hw : 8 ≤ w) {xs ys : List Byte} (h : OneChanged xs ys)
    (c : BitVec w) : fold p c ys ≠ fold p c xs := by
  induction h generalizing c with
  | head hxy => exact fun heq => hxy (update_byte_injective hp hw (fold_injective hp _ heq)).symm
  | tail _ ih => exact ih _

end GreenTyper.Lib.Crc
