/-
  GreenTyper.Lib.Bytes — little-endian integers and a reading cursor over a byte
  sequence.

  `leBytes n v` is the `n`-byte little-endian image of `v` and `leNat` reads one back;
  they are inverse on `v < 256 ^ n` and on byte sequences of length `n`. A `Cursor`
  reads a given number of bytes from the front of what is left; what a successful read
  says (`read_some`) and when a read succeeds (`read_append`) is all a decoder's proofs
  use of it.
-/

import Mathlib.Algebra.GroupWithZero.Nat

namespace GreenTyper.Lib

abbrev Byte := UInt8

/-! ## Little-endian integers -/

def leBytes : Nat → Nat → List Byte
  | 0, _ => []
  | n + 1, v => UInt8.ofNat v :: leBytes n (v / 256)

def leNat : List Byte → Nat
  | [] => 0
  | b :: bs => b.toNat + 256 * leNat bs

@[simp] theorem leBytes_length (n v : Nat) : (leBytes n v).length = n := by
  induction n generalizing v with
  | zero => rfl
  | succ n ih => simp [leBytes, ih]

theorem leNat_lt (bs : List Byte) : leNat bs < 256 ^ bs.length := by
  induction bs with
  | nil => simp [leNat]
  | cons b bs ih =>
    have hb : b.toNat < 256 := b.toNat_lt
    simp only [leNat, List.length_cons, Nat.pow_succ]
    omega

theorem leNat_leBytes {n v : Nat} (h : v < 256 ^ n) : leNat (leBytes n v) = v := by
  induction n generalizing v with
  | zero => simp only [Nat.pow_zero] at h; simp [leBytes, leNat]; omega
  | succ n ih =>
    have hd : v / 256 < 256 ^ n := by
      rw [Nat.div_lt_iff_lt_mul (by decide)]
      rwa [Nat.pow_succ] at h
    simp only [leBytes, leNat, ih hd, UInt8.toNat_ofNat']
    omega

theorem leBytes_leNat (bs : List Byte) : leBytes bs.length (leNat bs) = bs := by
  induction bs with
  | nil => rfl
  | cons b bs ih =>
    have hb : b.toNat < 256 := b.toNat_lt
    have hd : (b.toNat + 256 * leNat bs) / 256 = leNat bs := by omega
    have hm : UInt8.ofNat (b.toNat + 256 * leNat bs) = b := by
      apply UInt8.toNat_inj.mp
      rw [UInt8.toNat_ofNat']
      omega
    simp only [List.length_cons, leNat, leBytes, hd, hm, ih]

theorem leBytes_of_leNat {bs : List Byte} {n v : Nat} (hn : bs.length = n) (hv : leNat bs = v) : leBytes n v = bs := by
  subst hn hv; exact leBytes_leNat bs

/-- Byte sequences of one length that read as the same number are the same. -/
theorem leNat_inj {as bs : List Byte} (hl : as.length = bs.length) (h : leNat as = leNat bs) : as = bs := by
  rw [← leBytes_leNat as, ← leBytes_leNat bs, hl, h]

/-! ## One changed byte -/

/-- The second sequence is the first with exactly one byte changed. -/
inductive OneChanged : List Byte → List Byte → Prop where
  | head {a b : Byte} {xs : List Byte} (h : a ≠ b) : OneChanged (a :: xs) (b :: xs)
  | tail {a : Byte} {xs ys : List Byte} (h : OneChanged xs ys) : OneChanged (a :: xs) (a :: ys)

namespace OneChanged

theorem of_set {xs : List Byte} {old b : Byte} {i : Nat} (h : xs[i]? = some old) (hb : b ≠ old) :
    OneChanged xs (xs.set i b) := by
  induction xs generalizing i with
  | nil => simp at h
  | cons x xs ih =>
    cases i with
    | zero =>
      obtain rfl : x = old := by simpa using h
      exact .head hb.symm
    | succ i => exact .tail (ih (by simpa using h))

theorem length {xs ys : List Byte} (h : OneChanged xs ys) : ys.length = xs.length := by
  induction h with
  | head => rfl
  | tail _ ih => simp [ih]

theorem ne {xs ys : List Byte} (h : OneChanged xs ys) : ys ≠ xs := by
  induction h with
  | head h => simp [h.symm]
  | tail _ ih => simp [ih]

/-- The change is in the first part or in the second. -/
theorem append {xs ys zs : List Byte} (h : OneChanged (xs ++ ys) zs) :
    (∃ xs', OneChanged xs xs' ∧ zs = xs' ++ ys) ∨ ∃ ys', OneChanged ys ys' ∧ zs = xs ++ ys' := by
  induction xs generalizing zs with
  | nil => exact Or.inr ⟨zs, h, rfl⟩
  | cons x xs ih =>
    cases h with
    | head h => exact Or.inl ⟨_, .head h, rfl⟩
    | tail h =>
      rcases ih h with ⟨xs', h', rfl⟩ | ⟨ys', h', rfl⟩
      · exact Or.inl ⟨_, .tail h', rfl⟩
      · exact Or.inr ⟨ys', h', rfl⟩

end OneChanged

/-! ## Cursors -/

structure Cursor where
  body : List Byte
  position : Nat

namespace Cursor

def new (body : List Byte) : Cursor := ⟨body, 0⟩

/-- The bytes not read yet. -/
def rest (c : Cursor) : List Byte := c.body.drop c.position

/-- The next `n` bytes, when as many are left. -/
def read (c : Cursor) (n : Nat) : Option (List Byte × Cursor) :=
  if c.position + n ≤ c.body.length then some (c.rest.take n, ⟨c.body, c.position + n⟩) else none

def isEmpty (c : Cursor) : Bool := c.position == c.body.length

/-- A cursor at the end of `pre` in `pre ++ r`: what decoding keeps true of it. -/
def At (c : Cursor) (pre r : List Byte) : Prop := c.body = pre ++ r ∧ c.position = pre.length

@[simp] theorem new_rest (body : List Byte) : (new body).rest = body := rfl

theorem at_new (body : List Byte) : (new body).At [] body := ⟨rfl, rfl⟩

theorem at_rest {c : Cursor} {pre r : List Byte} (h : c.At pre r) : c.rest = r := by
  simp [rest, h.1, h.2]

theorem at_isEmpty {c : Cursor} {pre r : List Byte} (h : c.At pre r) : c.isEmpty = true ↔ r = [] := by
  simp only [isEmpty, h.1, h.2, beq_iff_eq, List.length_append]
  rw [← List.length_eq_zero_iff]
  omega

/-- A read succeeds when the bytes are there. -/
theorem read_append {c : Cursor} {pre x r : List Byte} (h : c.At pre (x ++ r)) :
    ∃ c', c.read x.length = some (x, c') ∧ c'.At (pre ++ x) r := by
  refine ⟨⟨c.body, c.position + x.length⟩, ?_, ?_, ?_⟩
  · unfold read
    rw [if_pos (by rw [h.1, h.2]; simp), at_rest h]
    simp
  · simp [h.1]
  · simp [h.2]

/-- What a successful read says. -/
theorem read_some {c c' : Cursor} {n : Nat} {x pre r : List Byte} (h : c.At pre r) (hr : c.read n = some (x, c')) :
    x.length = n ∧ ∃ r', r = x ++ r' ∧ c'.At (pre ++ x) r' := by
  unfold read at hr
  split at hr
  · rename_i hle
    simp only [Option.some.injEq, Prod.mk.injEq] at hr
    obtain ⟨rfl, rfl⟩ := hr
    have hn : n ≤ r.length := by rw [h.1, h.2, List.length_append] at hle; omega
    rw [at_rest h]
    refine ⟨by simp [hn], r.drop n, (List.take_append_drop n r).symm, ?_, ?_⟩
    · show c.body = _
      rw [h.1, List.append_assoc, List.take_append_drop]
    · show c.position + n = _
      rw [h.2]; simp [hn]
  · cases hr

end Cursor

end GreenTyper.Lib
