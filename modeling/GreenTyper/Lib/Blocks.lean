/-
  GreenTyper.Lib.Blocks — byte sequences as words, each with its length before it.

  What follows a block does not change how it is read: two sequences of words that begin
  with as many blocks have the same ones (`blocks_inj`). A part that may be absent is
  read as the one there is, if what follows cannot be taken for one (`optional_inj`).
-/

import GreenTyper.Lib.Bytes

namespace GreenTyper.Lib

/-- The words of a hash over a slice: its length and its bytes. -/
def block (bytes : List Byte) : List UInt64 := UInt64.ofNat bytes.length :: bytes.map (·.toUInt64)

def blocks (parts : List (List Byte)) : List UInt64 := parts.flatMap block

/-- The slices of a value if there is one; nothing says that there is none. -/
def optional {α : Type} (parts : α → List (List Byte)) (value : Option α) : List UInt64 := value.elim [] fun a => blocks (parts a)

section Blocks

variable {bytes bytes' : List Byte} {parts parts' : List (List Byte)} {r s : List UInt64}

@[simp] theorem blocks_nil : blocks [] = [] := rfl

theorem blocks_cons (bytes : List Byte) (parts : List (List Byte)) : blocks (bytes :: parts) = block bytes ++ blocks parts := rfl

theorem ofNat_inj {m n : Nat} (hm : m < 2 ^ 64) (hn : n < 2 ^ 64) (h : UInt64.ofNat m = UInt64.ofNat n) : m = n := by
  have hnat := congrArg UInt64.toNat h
  rw [UInt64.toNat_ofNat_of_lt' hm, UInt64.toNat_ofNat_of_lt' hn] at hnat
  exact hnat

theorem toUInt64_inj : Function.Injective (fun byte : Byte => byte.toUInt64) := by
  intro a b h
  have hnat := congrArg UInt64.toNat h
  dsimp only at hnat
  rw [UInt8.toNat_toUInt64, UInt8.toNat_toUInt64] at hnat
  exact UInt8.toNat_inj.mp hnat

/-- The length says where a block ends. -/
theorem block_inj (hbytes : bytes.length < 2 ^ 64) (hbytes' : bytes'.length < 2 ^ 64) (h : block bytes ++ r = block bytes' ++ s) :
    bytes = bytes' ∧ r = s := by
  unfold block at h
  rw [List.cons_append, List.cons_append, List.cons.injEq] at h
  obtain ⟨hlength, hwords⟩ := h
  have hsame := ofNat_inj hbytes hbytes' hlength
  obtain ⟨hmap, hrest⟩ := List.append_inj hwords (by rw [List.length_map, List.length_map, hsame])
  exact ⟨(List.map_inj_right fun _ _ heq => toUInt64_inj heq).mp hmap, hrest⟩

/-- As many blocks are the same ones. -/
theorem blocks_inj (hlength : parts.length = parts'.length) (hparts : ∀ bytes ∈ parts, bytes.length < 2 ^ 64)
    (hparts' : ∀ bytes ∈ parts', bytes.length < 2 ^ 64) (h : blocks parts ++ r = blocks parts' ++ s) : parts = parts' ∧ r = s := by
  induction parts generalizing parts' with
  | nil =>
    rw [List.length_nil, eq_comm, List.length_eq_zero_iff] at hlength
    rw [hlength] at h ⊢
    exact ⟨rfl, h⟩
  | cons bytes parts ih =>
    cases parts' with
    | nil => cases hlength
    | cons bytes' parts' =>
      rw [blocks_cons, blocks_cons, List.append_assoc, List.append_assoc] at h
      obtain ⟨hhead, htail⟩ := block_inj (hparts _ List.mem_cons_self) (hparts' _ List.mem_cons_self) h
      obtain ⟨hrest, hleft⟩ := ih (by simpa using hlength) (fun b hb => hparts b (List.mem_cons_of_mem _ hb))
        (fun b hb => hparts' b (List.mem_cons_of_mem _ hb)) htail
      exact ⟨by rw [hhead, hrest], hleft⟩

/-- What follows decides whether there is a value, if it cannot begin with the blocks of one. -/
theorem optional_inj {α : Type} {write : α → List (List Byte)} {value value' : Option α}
    (hsame : ∀ a ∈ value, ∀ a' ∈ value', ∀ t t', blocks (write a) ++ t = blocks (write a') ++ t' → a = a' ∧ t = t')
    (hr : ∀ a ∈ value', ∀ t, r ≠ blocks (write a) ++ t) (hs : ∀ a ∈ value, ∀ t, s ≠ blocks (write a) ++ t)
    (h : optional write value ++ r = optional write value' ++ s) : value = value' ∧ r = s := by
  unfold optional at h
  cases value with
  | none =>
    cases value' with
    | none => exact ⟨rfl, h⟩
    | some a' => exact absurd h (hr a' rfl s)
  | some a =>
    cases value' with
    | none => exact absurd h.symm (hs a rfl r)
    | some a' =>
      obtain ⟨hvalue, hrest⟩ := hsame a rfl a' rfl r s h
      exact ⟨by rw [hvalue], hrest⟩

end Blocks

end GreenTyper.Lib
