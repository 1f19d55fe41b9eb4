/-
  GreenTyper.Lib.Suffix — the longest suffix of a list with a property that passes to
  shorter suffixes.

  A walk from the end finds it: it takes members as long as the property holds, and what it
  stops at cannot be taken by any longer suffix (`LongestSuffix.of_stop`).
-/

import Mathlib.Data.List.Infix

namespace GreenTyper.Lib

variable {α : Type}

/-- What has `p` keeps it when its start is cut off. -/
def SuffixClosed (p : List α → Prop) : Prop := ∀ a l, p (a :: l) → p l

theorem SuffixClosed.of_append {p : List α → Prop} (h : SuffixClosed p) : ∀ {pre l : List α}, p (pre ++ l) → p l := by
  intro pre
  induction pre with
  | nil => exact fun hp => hp
  | cons a pre ih => exact fun hp => ih (h a _ hp)

structure LongestSuffix (p : List α → Prop) (l s : List α) : Prop where
  suffix : s <:+ l
  holds : p s
  longest : ∀ t, t <:+ l → p t → t <:+ s

theorem LongestSuffix.unique {p : List α → Prop} {l s s' : List α} (h : LongestSuffix p l s) (h' : LongestSuffix p l s') : s = s' :=
  (h'.longest s h.suffix h.holds).eq_of_length_le (h.longest s' h'.suffix h'.holds).length_le

/-- The whole list. -/
theorem LongestSuffix.all {p : List α → Prop} {l : List α} (h : p l) : LongestSuffix p l l := ⟨List.suffix_refl l, h, fun _ ht _ => ht⟩

/-- A suffix that cannot take the member before it. -/
theorem LongestSuffix.of_stop {p : List α → Prop} (hp : SuffixClosed p) {older s : List α} {a : α} (hs : p s)
    (hstop : ¬ p (a :: s)) : LongestSuffix p (older ++ a :: s) s := by
  refine ⟨⟨older ++ [a], by simp⟩, hs, fun t ht hpt => ?_⟩
  rcases List.suffix_or_suffix_of_suffix ht (List.suffix_append older (a :: s)) with h | h
  · rcases List.suffix_cons_iff.mp h with rfl | h
    · exact absurd hpt hstop
    · exact h
  · obtain ⟨pre, rfl⟩ := h
    exact absurd (hp.of_append hpt) hstop

end GreenTyper.Lib
