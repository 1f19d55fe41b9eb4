/-
  GreenTyper.Lib.Summary — what is kept of observations that are not kept.

  A summary is shown observations one at a time, and two summaries can be merged. Its laws
  say that it is a function of the observations alone (`of`), whatever their order, and
  that a merge is what one summary would be that was shown both parts. Counters that
  saturate and sums that are lost once they overflow are such functions (`sat`, `total`):
  what is added to a saturated count or to a lost sum does not matter any more. Summaries
  kept by key are a summary again (`Summary.keyed`).
-/

import GreenTyper.Lib.OrdMap
import GreenTyper.Lib.Result

namespace GreenTyper.Lib

/-! ## Counters and sums of 64 bits -/

/-- `u64::MAX`. -/
def maxU64 : Nat := 2 ^ 64 - 1

/-- `a.saturating_add(b)`. -/
def satAdd (a b : Nat) : Nat := min (a + b) maxU64

/-- What a saturating counter shows of a count. -/
def sat (n : Nat) : Nat := min n maxU64

@[simp] theorem sat_zero : sat 0 = 0 := rfl

@[simp] theorem satAdd_sat (a b : Nat) : satAdd (sat a) (sat b) = sat (a + b) := by
  simp only [satAdd, sat]
  omega

theorem satAdd_one (a : Nat) : satAdd (sat a) 1 = sat (a + 1) := satAdd_sat a 1

theorem sat_of_le {n : Nat} (h : n ≤ maxU64) : sat n = n := Nat.min_eq_left h

/-- What a checked sum shows of a true one. -/
def total (n : Nat) : Option Nat := if n < 2 ^ 64 then some n else none

@[simp] theorem total_zero : total 0 = some 0 := rfl

theorem total_isNone {n : Nat} : (total n).isNone = true ↔ 2 ^ 64 ≤ n := by
  unfold total
  split
  · simp
    omega
  · simp
    omega

/-- Two checked sums, added (`a.zip(b).and_then(checked_add)`). -/
def addTotals (a b : Option Nat) : Option Nat := a.bind fun a => b.bind fun b => checkedAdd 64 a b

@[simp] theorem total_checkedAdd (a b : Nat) : ((total a).bind fun a => checkedAdd 64 a b) = total (a + b) := by
  unfold total checkedAdd
  by_cases ha : a < 2 ^ 64
  · rw [if_pos ha]
    rfl
  · rw [if_neg ha, if_neg (by omega)]
    rfl

@[simp] theorem addTotals_total (a b : Nat) : addTotals (total a) (total b) = total (a + b) := by
  by_cases hb : b < 2 ^ 64
  · have htotal : total b = some b := if_pos hb
    rw [addTotals, htotal]
    exact total_checkedAdd a b
  · have hlost : total b = none := if_neg hb
    have hsum : total (a + b) = none := if_neg (by omega)
    rw [addTotals, hlost, hsum]
    cases total a <;> rfl

/-! ## Summaries -/

/-- A summary of observations `β` by values `α`. -/
structure Summary (β α : Type) where
  of : List β → α
  observe : α → β → α
  merge : α → α → α
  observe_of : ∀ os o, observe (of os) o = of (os ++ [o])
  merge_of : ∀ os os', merge (of os) (of os') = of (os ++ os')
  of_perm : ∀ {os os'}, os.Perm os' → of os = of os'

namespace Summary

variable {β α κ : Type} [LinearOrder κ]

/-- Observations shown one by one. -/
theorem foldl_of (s : Summary β α) (shown : List β) : ∀ os, shown.foldl s.observe (s.of os) = s.of (os ++ shown) := by
  induction shown with
  | nil =>
    intro os
    rw [List.append_nil]
    rfl
  | cons o shown ih =>
    intro os
    rw [List.foldl_cons, s.observe_of, ih, List.append_assoc]
    rfl

/-- Merged parts. -/
theorem foldl_merge (s : Summary β α) (parts : List (List β)) :
    ∀ os, (parts.map s.of).foldl s.merge (s.of os) = s.of (os ++ parts.flatten) := by
  induction parts with
  | nil =>
    intro os
    simp
  | cons part parts ih =>
    intro os
    rw [List.map_cons, List.foldl_cons, s.merge_of, ih, List.append_assoc]
    rfl

/-- A count of observations. -/
def count (β : Type) : Summary β Nat where
  of os := sat os.length
  observe n _ := satAdd n 1
  merge := satAdd
  observe_of os o := by rw [satAdd_one, List.length_append]; rfl
  merge_of os os' := by rw [satAdd_sat, List.length_append]
  of_perm h := by rw [h.length_eq]

/-- What was observed under a key. -/
def under (k : κ) (os : List (κ × β)) : List β := os.filterMap fun o => if o.1 = k then some o.2 else none

@[simp] theorem under_append (k : κ) (os os' : List (κ × β)) : under k (os ++ os') = under k os ++ under k os' :=
  List.filterMap_append

theorem under_one (k : κ) (o : κ × β) : under k [o] = if o.1 = k then [o.2] else [] := by
  unfold under
  split <;> simp [*]

/-- What a map of summaries shows under a key: nothing, before the first observation. -/
def shown (s : Summary β α) (os : List β) : Option α := if os.isEmpty then none else some (s.of os)

theorem shown_getD (s : Summary β α) (os : List β) : (s.shown os).getD (s.of []) = s.of os := by
  cases os <;> rfl

theorem shown_append_one (s : Summary β α) (os : List β) (o : β) : s.shown (os ++ [o]) = some (s.of (os ++ [o])) := by
  cases os <;> rfl

/-- A map of summaries, shown one observation. -/
def observeKeyed (s : Summary β α) (m : OrdMap κ α) (o : κ × β) : OrdMap κ α := m.upsert o.1 (s.of []) (s.observe · o.2)

theorem get_foldl_observeKeyed (s : Summary β α) (os : List (κ × β)) (k : κ) :
    (os.foldl s.observeKeyed .empty).get k = s.shown (under k os) := by
  induction os using List.reverseRecOn with
  | nil => rfl
  | append_singleton os o ih =>
    rw [List.foldl_append, List.foldl_cons, List.foldl_nil, observeKeyed, OrdMap.get_upsert, under_append, under_one]
    by_cases hk : o.1 = k
    · rw [if_pos hk, if_pos hk, hk, ih, shown_getD, s.observe_of, shown_append_one]
    · rw [if_neg hk, if_neg hk, List.append_nil, ih]

/-- Summaries kept by key. -/
def keyed (s : Summary β α) : Summary (κ × β) (OrdMap κ α) where
  of os := os.foldl s.observeKeyed .empty
  observe := s.observeKeyed
  merge m m' := m.mergeWith (s.of []) s.merge m'
  observe_of os o := by rw [List.foldl_append]; rfl
  merge_of os os' := by
    apply OrdMap.ext_get
    intro k
    simp only [OrdMap.get_mergeWith, get_foldl_observeKeyed, under_append, shown_getD]
    cases under k os' with
    | nil =>
      rw [List.append_nil]
      rfl
    | cons o rest =>
      have hshown : ∀ os, s.shown (os ++ o :: rest) = some (s.of (os ++ o :: rest)) := by
        intro os
        rw [shown, if_neg (by simp)]
      rw [hshown, ← s.merge_of]
      rfl
  of_perm h := by
    apply OrdMap.ext_get
    intro k
    have hunder : (under k _).Perm (under k _) := h.filterMap _
    rw [get_foldl_observeKeyed, get_foldl_observeKeyed, shown, shown, s.of_perm hunder, hunder.isEmpty_eq]

theorem get_keyed (s : Summary β α) (os : List (κ × β)) (k : κ) : (s.keyed.of os).get k = s.shown (under k os) :=
  s.get_foldl_observeKeyed os k

end Summary

end GreenTyper.Lib
