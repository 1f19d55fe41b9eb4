/-
  GreenTyper.Lib.Hex — SHA-256 digests and their texts in lower-case hexadecimal.

  The hash function is an argument wherever it is used; a digest is its 32 bytes, and its
  text is 64 ASCII characters from which the digest can be read back (`hexDigest_inj`).
-/

import GreenTyper.Lib.JsonValue

namespace GreenTyper.Lib

abbrev Digest := Vector Byte 32

abbrev Sha256 := List Byte → Digest

/-- No two of these texts have one digest. -/
def CollisionFree (sha256 : Sha256) (texts : List (List Byte)) : Prop :=
  ∀ a ∈ texts, ∀ b ∈ texts, sha256 a = sha256 b → a = b

theorem CollisionFree.subset {sha256 : Sha256} {texts more : List (List Byte)} (h : CollisionFree sha256 more) (hsub : texts ⊆ more) :
    CollisionFree sha256 texts := fun a ha b hb => h a (hsub ha) b (hsub hb)

/-- `{byte:02x}`. -/
def hexByte (byte : Byte) : List Char := [hexChar (byte.toNat / 16), hexChar (byte.toNat % 16)]

def hexDigest (digest : Digest) : String := String.ofList (digest.toList.flatMap hexByte)

def isHexDigest (c : Char) : Bool := ('0' ≤ c && c ≤ '9') || ('a' ≤ c && c ≤ 'f')

theorem hexChar_isHexDigest : ∀ n, n < 16 → isHexDigest (hexChar n) = true := by decide

theorem hexChar_inj : ∀ m, m < 16 → ∀ n, n < 16 → hexChar m = hexChar n → m = n := by decide

theorem hexByte_inj {a b : Byte} (h : hexByte a = hexByte b) : a = b := by
  simp only [hexByte, List.cons.injEq, and_true] at h
  have ha := a.toNat_lt
  have hb := b.toNat_lt
  have hhigh := hexChar_inj _ (by omega) _ (by omega) h.1
  have hlow := hexChar_inj _ (by omega) _ (by omega) h.2
  exact UInt8.toNat_inj.mp (by omega)

theorem hexBytes_inj : ∀ {as bs : List Byte}, as.flatMap hexByte = bs.flatMap hexByte → as = bs := by
  intro as
  induction as with
  | nil =>
    intro bs h
    cases bs with
    | nil => rfl
    | cons b bs => simp [hexByte] at h
  | cons a as ih =>
    intro bs h
    cases bs with
    | nil => simp [hexByte] at h
    | cons b bs =>
      rw [List.flatMap_cons, List.flatMap_cons] at h
      obtain ⟨hhead, htail⟩ := List.append_inj h rfl
      rw [hexByte_inj hhead, ih htail]

theorem hexDigest_inj {a b : Digest} (h : hexDigest a = hexDigest b) : a = b :=
  Vector.toList_inj.mp (hexBytes_inj (String.ofList_injective h))

theorem hexDigest_chars (digest : Digest) : ∀ c ∈ (hexDigest digest).toList, isHexDigest c = true := by
  intro c hc
  rw [hexDigest, String.toList_ofList, List.mem_flatMap] at hc
  obtain ⟨byte, _, hc⟩ := hc
  have hbyte := byte.toNat_lt
  simp only [hexByte, List.mem_cons, List.not_mem_nil, or_false] at hc
  rcases hc with rfl | rfl
  · exact hexChar_isHexDigest _ (by omega)
  · exact hexChar_isHexDigest _ (by omega)

theorem hexDigest_length (digest : Digest) : (hexDigest digest).toList.length = 64 := by
  rw [hexDigest, String.toList_ofList, List.length_flatMap]
  simp [hexByte]

theorem isHexDigest_ascii {c : Char} (h : isHexDigest c = true) : c.toNat < 0x80 := by
  simp only [isHexDigest, Bool.or_eq_true, Bool.and_eq_true, decide_eq_true_eq, Char.le_def, UInt32.le_iff_toNat_le] at h
  simp only [Char.toNat]
  have h9 : ('9' : Char).val.toNat = 57 := rfl
  have hf : ('f' : Char).val.toNat = 102 := rfl
  omega

end GreenTyper.Lib
