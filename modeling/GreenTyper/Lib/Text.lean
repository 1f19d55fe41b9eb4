/-
  GreenTyper.Lib.Text — the parts of Rust's `str` and `char` that the validators use.

  `trim` cuts the characters with the Unicode `White_Space` property off both ends;
  `isControl` is the general category `Cc`. A trimmed text has nothing left to trim
  (`trim_trim`), so what a planner trims passes the check that a stored text is trimmed.
-/

import GreenTyper.Lib.Bytes
import Mathlib.Data.Finset.Sort
import Mathlib.Data.String.Basic

namespace GreenTyper.Lib

/-- `char::is_whitespace`. -/
def isWhitespace (c : Char) : Bool :=
  let n := c.toNat
  (0x9 ≤ n && n ≤ 0xd) || n == 0x20 || n == 0x85 || n == 0xa0 || n == 0x1680 || (0x2000 ≤ n && n ≤ 0x200a) ||
    n == 0x2028 || n == 0x2029 || n == 0x202f || n == 0x205f || n == 0x3000

/-- `char::is_control`. -/
def isControl (c : Char) : Bool := c.toNat ≤ 0x1f || (0x7f ≤ c.toNat && c.toNat ≤ 0x9f)

def trimEnd (cs : List Char) : List Char := (cs.reverse.dropWhile isWhitespace).reverse

def trimList (cs : List Char) : List Char := trimEnd (cs.dropWhile isWhitespace)

/-- `str::trim`. -/
def trim (s : String) : String := String.ofList (trimList s.toList)

/-- `str::is_empty` of the trimmed text. -/
def isBlank (s : String) : Bool := trim s == ""

/-- `str::len`. -/
def byteLen (s : String) : Nat := s.utf8ByteSize

/-- A `BTreeSet<String>` in its order. -/
def inOrder (texts : Finset String) : List String := texts.sort (· ≤ ·)

/-- `str::split_once`. -/
def splitOnce (c : Char) (s : String) : Option (String × String) :=
  if c ∈ s.toList then
    some (String.ofList (s.toList.takeWhile (· ≠ c)), String.ofList ((s.toList.dropWhile (· ≠ c)).drop 1))
  else none

/-- `str::strip_prefix` of one character. -/
def stripPrefix (c : Char) (s : String) : Option String :=
  match s.toList with
  | [] => none
  | d :: rest => if d = c then some (String.ofList rest) else none

/-- `str::as_bytes`. -/
def utf8 (s : String) : List Byte := s.toByteArray.data.toList

/-- `str::from_utf8`. -/
def fromUtf8 (bs : List Byte) : Option String := String.fromUTF8? ⟨bs.toArray⟩

theorem fromUtf8_utf8 (s : String) : fromUtf8 (utf8 s) = some s := by
  have hbytes : (⟨(utf8 s).toArray⟩ : ByteArray) = s.toByteArray := by rw [utf8, Array.toArray_toList]
  rw [fromUtf8, hbytes, String.fromUTF8?, dif_pos s.isValidUTF8]
  rfl

theorem fromUtf8_some {bs : List Byte} {s : String} (h : fromUtf8 bs = some s) : utf8 s = bs := by
  rw [fromUtf8, String.fromUTF8?] at h
  split at h
  · cases h
    rfl
  · cases h

theorem utf8_inj {a b : String} (h : utf8 a = utf8 b) : a = b := Option.some.inj (by rw [← fromUtf8_utf8, ← fromUtf8_utf8, h])

theorem utf8_ofList (cs : List Char) : utf8 (String.ofList cs) = cs.flatMap String.utf8EncodeChar := by
  rw [utf8, String.toByteArray_ofList, List.utf8Encode, List.data_toByteArray]

theorem utf8_length (s : String) : (utf8 s).length = byteLen s := rfl

theorem dropWhile_idem {α : Type} (p : α → Bool) (xs : List α) : (xs.dropWhile p).dropWhile p = xs.dropWhile p := by
  induction xs with
  | nil => rfl
  | cons x xs ih =>
    simp only [List.dropWhile_cons]
    split
    · exact ih
    · rename_i h
      rw [List.dropWhile_cons, if_neg h]

theorem trimEnd_idem (cs : List Char) : trimEnd (trimEnd cs) = trimEnd cs := by
  simp only [trimEnd, List.reverse_reverse, dropWhile_idem]

/-- Cutting the end off a text that starts with no whitespace leaves its start. -/
theorem dropWhile_trimEnd {cs : List Char} (h : cs.dropWhile isWhitespace = cs) :
    (trimEnd cs).dropWhile isWhitespace = trimEnd cs := by
  cases cs with
  | nil => rfl
  | cons c cs =>
    have hc : isWhitespace c = false := by
      rw [List.dropWhile_cons] at h
      split at h
      · have := congrArg List.length h
        have hle := (List.dropWhile_sublist isWhitespace (l := cs)).length_le
        simp only [List.length_cons] at this
        omega
      · simp_all
    have hpre : trimEnd (c :: cs) <+: c :: cs := by
      have hsuf := List.dropWhile_suffix isWhitespace (l := (c :: cs).reverse)
      have := List.reverse_prefix.mpr hsuf
      rwa [List.reverse_reverse] at this
    cases ht : trimEnd (c :: cs) with
    | nil => rfl
    | cons d ds =>
      rw [ht] at hpre
      obtain ⟨rfl, _⟩ := List.cons_prefix_cons.mp hpre
      rw [List.dropWhile_cons, hc]
      rfl

theorem trim_trim (s : String) : trim (trim s) = trim s := by
  have h := dropWhile_trimEnd (dropWhile_idem isWhitespace s.toList)
  simp only [trim, trimList, String.toList_ofList, h, trimEnd_idem]

theorem dropWhile_none {α : Type} {p : α → Bool} {xs : List α} (h : xs.any p = false) : xs.dropWhile p = xs := by
  cases xs with
  | nil => rfl
  | cons x xs =>
    rw [List.any_cons, Bool.or_eq_false_iff] at h
    rw [List.dropWhile_cons, h.1]
    rfl

/-- A text without whitespace has nothing to trim. -/
theorem trim_none {s : String} (h : s.toList.any isWhitespace = false) : trim s = s := by
  have hreverse : s.toList.reverse.any isWhitespace = false := by rw [List.any_reverse, h]
  rw [trim, trimList, trimEnd, dropWhile_none h, dropWhile_none hreverse, List.reverse_reverse, String.ofList_toList]

/-- Texts split at a separator that neither first part has. -/
theorem append_sep_inj {α : Type} {l l' r r' : List α} {c : α} (h : c ∉ l) (h' : c ∉ l') (heq : l ++ c :: r = l' ++ c :: r') :
    l = l' ∧ r = r' := by
  induction l generalizing l' with
  | nil =>
    cases l' with
    | nil => exact ⟨rfl, (List.cons.inj heq).2⟩
    | cons d l' => exact absurd ((List.cons.inj heq).1 ▸ List.mem_cons_self) h'
  | cons d l ih =>
    cases l' with
    | nil => exact absurd ((List.cons.inj heq).1 ▸ List.mem_cons_self) h
    | cons d' l' =>
      obtain ⟨rfl, htail⟩ := List.cons.inj heq
      obtain ⟨rfl, hr⟩ := ih (fun hm => h (List.mem_cons_of_mem _ hm)) (fun hm => h' (List.mem_cons_of_mem _ hm)) htail
      exact ⟨rfl, hr⟩

theorem byteLen_append (a b : String) : byteLen (a ++ b) = byteLen a + byteLen b := String.utf8ByteSize_append

theorem byteLen_eq_sum (s : String) : byteLen s = (s.toList.map Char.utf8Size).sum := by
  have hsize : ∀ cs : List Char, byteLen (String.ofList cs) = (cs.map Char.utf8Size).sum := by
    intro cs
    induction cs with
    | nil => rfl
    | cons c cs ih =>
      have hcons : String.ofList (c :: cs) = String.singleton c ++ String.ofList cs := by
        simp
      rw [hcons, byteLen_append, ih, List.map_cons, List.sum_cons]
      simp [byteLen]
  have := hsize s.toList
  rwa [String.ofList_toList] at this

/-- Characters of one byte are counted by the length. -/
theorem byteLen_ascii {s : String} (h : ∀ c ∈ s.toList, c.utf8Size = 1) : byteLen s = s.toList.length := by
  rw [byteLen_eq_sum, List.map_congr_left h, List.map_const', List.sum_replicate_nat, Nat.mul_one]

theorem length_le_byteLen (s : String) : s.toList.length ≤ byteLen s := by
  rw [byteLen_eq_sum]
  induction s.toList with
  | nil => exact Nat.le_refl 0
  | cons c cs ih =>
    have := c.utf8Size_pos
    rw [List.map_cons, List.sum_cons, List.length_cons]
    omega

end GreenTyper.Lib
