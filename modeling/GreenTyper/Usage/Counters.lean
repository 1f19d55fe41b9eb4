/-
  GreenTyper.Usage.Counters — the counters of a rollup (`usage.rs`) and what each shows of
  its observations.

  Every counter is a summary (see `GreenTyper.Lib.Summary`): `tally` says in closed form what
  it shows of all its observations, as counts and sums of them, so neither their order nor
  a cut into merged parts can change it, also past an overflow.
-/

import GreenTyper.Lib.Summary
import GreenTyper.Usage.Model

namespace GreenTyper.Usage

open Lib Provider

/-! ## Quantities -/

structure UsageQuantity where
  exact : Option Nat
  estimated : Option Nat
  unknownRecords : Nat
  overflowed : Bool
  deriving DecidableEq

namespace UsageQuantity

def default : UsageQuantity := ⟨some 0, some 0, 0, false⟩

def observe (quantity : UsageQuantity) (value : Option Nat) (accuracy : UsageAccuracy) : UsageQuantity :=
  match value with
  | none => { quantity with unknownRecords := satAdd quantity.unknownRecords 1 }
  | some value =>
    match accuracy with
    | .exact =>
      let next := quantity.exact.bind fun current => checkedAdd 64 current value
      { quantity with exact := next, overflowed := quantity.overflowed || next.isNone }
    | .estimated =>
      let next := quantity.estimated.bind fun current => checkedAdd 64 current value
      { quantity with estimated := next, overflowed := quantity.overflowed || next.isNone }

def merge (quantity other : UsageQuantity) : UsageQuantity :=
  let exact := addTotals quantity.exact other.exact
  let estimated := addTotals quantity.estimated other.estimated
  { exact, estimated
    unknownRecords := satAdd quantity.unknownRecords other.unknownRecords
    overflowed := quantity.overflowed || other.overflowed || exact.isNone || estimated.isNone }

/-- The values that were shown with an accuracy. -/
def known (accuracy : UsageAccuracy) (os : List (Option Nat × UsageAccuracy)) : List Nat :=
  os.filterMap fun o => if o.2 = accuracy then o.1 else none

def tally (os : List (Option Nat × UsageAccuracy)) : UsageQuantity :=
  let exact := total (known .exact os).sum
  let estimated := total (known .estimated os).sum
  ⟨exact, estimated, sat (os.countP (·.1.isNone)), exact.isNone || estimated.isNone⟩

theorem total_overflow_iff (a b : Nat) : ((total a).isNone || (total (a + b)).isNone) = (total (a + b)).isNone := by
  cases h : (total a).isNone
  · rfl
  · rw [total_isNone] at h
    rw [Bool.true_or]
    exact (total_isNone.mpr (by omega)).symm

theorem observe_tally (os : List (Option Nat × UsageAccuracy)) (o : Option Nat × UsageAccuracy) :
    (tally os).observe o.1 o.2 = tally (os ++ [o]) := by
  obtain ⟨_ | value, _ | _⟩ := o
  · simp [observe, tally, known, satAdd_one]
  · simp [observe, tally, known, satAdd_one]
  · have hover := total_overflow_iff (known .exact os).sum value
    simp only [known] at hover
    simp [observe, tally, known]
    grind
  · have hover := total_overflow_iff (known .estimated os).sum value
    simp only [known] at hover
    simp [observe, tally, known]
    grind

theorem merge_tally (os os' : List (Option Nat × UsageAccuracy)) : (tally os).merge (tally os') = tally (os ++ os') := by
  have hexact := total_overflow_iff (known .exact os).sum (known .exact os').sum
  have hexact' := total_overflow_iff (known .exact os').sum (known .exact os).sum
  have hestimated := total_overflow_iff (known .estimated os).sum (known .estimated os').sum
  have hestimated' := total_overflow_iff (known .estimated os').sum (known .estimated os).sum
  rw [Nat.add_comm] at hexact' hestimated'
  have happ : ∀ accuracy, known accuracy (os ++ os') = known accuracy os ++ known accuracy os' := fun _ => List.filterMap_append
  simp only [merge, tally, addTotals_total, satAdd_sat, happ, List.sum_append, List.countP_append, mk.injEq, true_and]
  rw [← hexact, ← hestimated] at *
  grind

theorem tally_perm {os os' : List (Option Nat × UsageAccuracy)} (h : os.Perm os') : tally os = tally os' := by
  have hsum : ∀ accuracy, (known accuracy os).sum = (known accuracy os').sum := fun _ => (h.filterMap _).sum_eq
  rw [tally, tally, hsum, hsum, h.countP_eq]

def summary : Summary (Option Nat × UsageAccuracy) UsageQuantity where
  of := tally
  observe quantity o := quantity.observe o.1 o.2
  merge := merge
  observe_of := observe_tally
  merge_of := merge_tally
  of_perm := tally_perm

end UsageQuantity

/-! ## Ratios -/

structure UsageRatio where
  exactNumerator : Option Nat
  exactDenominator : Option Nat
  estimatedNumerator : Option Nat
  estimatedDenominator : Option Nat
  unknownRecords : Nat
  inconsistentRecords : Nat
  overflowed : Bool
  deriving DecidableEq

/-- What a record says of a ratio. -/
inductive RatioCase where
  | unknown
  | inconsistent
  | parts (numerator denominator : Nat) (accuracy : UsageAccuracy)
  deriving DecidableEq

def RatioCase.of (numerator denominator : Option Nat) (accuracy : UsageAccuracy) : RatioCase :=
  match numerator, denominator with
  | some numerator, some denominator =>
    if denominator = 0 then (if numerator = 0 then .unknown else .inconsistent)
    else if numerator > denominator then .inconsistent
    else .parts numerator denominator accuracy
  | _, _ => .unknown

/-- A numerator and a denominator, summed together; both are lost with either. -/
def mergeRatioPair (leftNumerator leftDenominator rightNumerator rightDenominator : Option Nat) :
    Option Nat × Option Nat × Bool :=
  let numerator := addTotals leftNumerator rightNumerator
  let denominator := addTotals leftDenominator rightDenominator
  let overflowed := numerator.isNone || denominator.isNone
  if overflowed then (none, none, true) else (numerator, denominator, false)

namespace UsageRatio

def default : UsageRatio := ⟨some 0, some 0, some 0, some 0, 0, 0, false⟩

def observeCase (ratio : UsageRatio) : RatioCase → UsageRatio
  | .unknown => { ratio with unknownRecords := satAdd ratio.unknownRecords 1 }
  | .inconsistent => { ratio with inconsistentRecords := satAdd ratio.inconsistentRecords 1 }
  | .parts numerator denominator .exact =>
    let nextNumerator := ratio.exactNumerator.bind fun value => checkedAdd 64 value numerator
    let nextDenominator := ratio.exactDenominator.bind fun value => checkedAdd 64 value denominator
    if nextNumerator.isNone || nextDenominator.isNone then
      { ratio with exactNumerator := none, exactDenominator := none, overflowed := true }
    else { ratio with exactNumerator := nextNumerator, exactDenominator := nextDenominator }
  | .parts numerator denominator .estimated =>
    let nextNumerator := ratio.estimatedNumerator.bind fun value => checkedAdd 64 value numerator
    let nextDenominator := ratio.estimatedDenominator.bind fun value => checkedAdd 64 value denominator
    if nextNumerator.isNone || nextDenominator.isNone then
      { ratio with estimatedNumerator := none, estimatedDenominator := none, overflowed := true }
    else { ratio with estimatedNumerator := nextNumerator, estimatedDenominator := nextDenominator }

def observe (ratio : UsageRatio) (numerator denominator : Option Nat) (accuracy : UsageAccuracy) : UsageRatio :=
  ratio.observeCase (.of numerator denominator accuracy)

def observeInconsistent (ratio : UsageRatio) : UsageRatio := ratio.observeCase .inconsistent

def merge (ratio other : UsageRatio) : UsageRatio :=
  let (exactNumerator, exactDenominator, exactOverflow) :=
    mergeRatioPair ratio.exactNumerator ratio.exactDenominator other.exactNumerator other.exactDenominator
  let (estimatedNumerator, estimatedDenominator, estimatedOverflow) :=
    mergeRatioPair ratio.estimatedNumerator ratio.estimatedDenominator other.estimatedNumerator other.estimatedDenominator
  { exactNumerator, exactDenominator, estimatedNumerator, estimatedDenominator
    unknownRecords := satAdd ratio.unknownRecords other.unknownRecords
    inconsistentRecords := satAdd ratio.inconsistentRecords other.inconsistentRecords
    overflowed := ratio.overflowed || other.overflowed || exactOverflow || estimatedOverflow }

/-- The numerators and the denominators that were shown with an accuracy. -/
def known (accuracy : UsageAccuracy) (os : List RatioCase) : List (Nat × Nat) :=
  os.filterMap fun
    | .parts numerator denominator accuracy' => if accuracy' = accuracy then some (numerator, denominator) else none
    | _ => none

def numerators (accuracy : UsageAccuracy) (os : List RatioCase) : Nat := ((known accuracy os).map (·.1)).sum
def denominators (accuracy : UsageAccuracy) (os : List RatioCase) : Nat := ((known accuracy os).map (·.2)).sum

/-- What two sums show that are lost together. -/
def pair (numerator denominator : Nat) : Option Nat × Option Nat :=
  if numerator < 2 ^ 64 ∧ denominator < 2 ^ 64 then (some numerator, some denominator) else (none, none)

def tally (os : List RatioCase) : UsageRatio :=
  let exact := pair (numerators .exact os) (denominators .exact os)
  let estimated := pair (numerators .estimated os) (denominators .estimated os)
  ⟨exact.1, exact.2, estimated.1, estimated.2, sat (os.count .unknown), sat (os.count .inconsistent),
    exact.1.isNone || estimated.1.isNone⟩

theorem pair_total (n d : Nat) : pair n d = if (total n).isNone || (total d).isNone then (none, none) else (total n, total d) := by
  unfold pair total
  by_cases hn : n < 2 ^ 64
  · by_cases hd : d < 2 ^ 64
    · rw [if_pos hn, if_pos hd, if_pos ⟨hn, hd⟩]
      rfl
    · rw [if_neg hd, if_neg (fun h => hd h.2), Option.isNone_none, Bool.or_true]
      rfl
  · rw [if_neg hn, if_neg (fun h => hn h.1)]
    rfl

theorem known_append (accuracy : UsageAccuracy) (os os' : List RatioCase) :
    known accuracy (os ++ os') = known accuracy os ++ known accuracy os' := List.filterMap_append

theorem numerators_append (accuracy : UsageAccuracy) (os os' : List RatioCase) :
    numerators accuracy (os ++ os') = numerators accuracy os + numerators accuracy os' := by
  simp [numerators, known_append]

theorem denominators_append (accuracy : UsageAccuracy) (os os' : List RatioCase) :
    denominators accuracy (os ++ os') = denominators accuracy os + denominators accuracy os' := by
  simp [denominators, known_append]

theorem mergeRatioPair_pair (n d n' d' : Nat) :
    mergeRatioPair (pair n d).1 (pair n d).2 (pair n' d').1 (pair n' d').2 =
      ((pair (n + n') (d + d')).1, (pair (n + n') (d + d')).2, (pair (n + n') (d + d')).1.isNone) := by
  simp only [pair_total, ← addTotals_total]
  cases total n with
  | none => simp [mergeRatioPair, addTotals]
  | some a =>
    cases total d with
    | none => simp [mergeRatioPair, addTotals]
    | some b =>
      cases total n' with
      | none => simp [mergeRatioPair, addTotals]
      | some a' =>
        cases total d' with
        | none => simp [mergeRatioPair, addTotals]
        | some b' =>
          simp only [mergeRatioPair, Option.isNone_some, Bool.or_self, Bool.false_eq_true, if_false]
          cases addTotals (some a) (some a') <;> cases addTotals (some b) (some b') <;> rfl

theorem pair_lost (n d n' d' : Nat) :
    ((pair n d).1.isNone || (pair (n + n') (d + d')).1.isNone) = (pair (n + n') (d + d')).1.isNone := by
  simp only [pair_total, ← addTotals_total]
  cases total n with
  | none => simp [addTotals]
  | some a =>
    cases total d with
    | none => simp [addTotals]
    | some b => simp

theorem merge_tally (os os' : List RatioCase) : (tally os).merge (tally os') = tally (os ++ os') := by
  have hexact := pair_lost (numerators .exact os) (denominators .exact os) (numerators .exact os') (denominators .exact os')
  have hexact' := pair_lost (numerators .exact os') (denominators .exact os') (numerators .exact os) (denominators .exact os)
  have hestimated := pair_lost (numerators .estimated os) (denominators .estimated os) (numerators .estimated os')
    (denominators .estimated os')
  have hestimated' := pair_lost (numerators .estimated os') (denominators .estimated os') (numerators .estimated os)
    (denominators .estimated os)
  rw [Nat.add_comm, Nat.add_comm (denominators _ _)] at hexact' hestimated'
  simp only [merge, tally, mergeRatioPair_pair, satAdd_sat, numerators_append, denominators_append, List.count_append, mk.injEq,
    true_and]
  grind

/-- One more part of a ratio, where it loses the sums and where it does not. -/
theorem pair_step (n d n' d' : Nat) :
    let nextNumerator := (pair n d).1.bind fun value => checkedAdd 64 value n'
    let nextDenominator := (pair n d).2.bind fun value => checkedAdd 64 value d'
    ((nextNumerator.isNone || nextDenominator.isNone) = true ∧ pair (n + n') (d + d') = (none, none)) ∨
      ((nextNumerator.isNone || nextDenominator.isNone) = false ∧ pair (n + n') (d + d') = (nextNumerator, nextDenominator) ∧
        (pair n d).1.isNone = false ∧ nextNumerator.isNone = false) := by
  simp only [pair_total, ← total_checkedAdd n n', ← total_checkedAdd d d']
  cases total n with
  | none => simp
  | some n =>
    cases total d with
    | none => simp
    | some d =>
      by_cases h : ((checkedAdd 64 n n').isNone || (checkedAdd 64 d d').isNone) = true
      · exact Or.inl ⟨h, if_pos h⟩
      · refine Or.inr ⟨Bool.not_eq_true _ ▸ h, if_neg h, rfl, ?_⟩
        rw [Bool.not_eq_true, Bool.or_eq_false_iff] at h
        exact h.1

theorem observe_tally (os : List RatioCase) (o : RatioCase) : (tally os).observeCase o = tally (os ++ [o]) := by
  cases o with
  | unknown => simp [observeCase, tally, numerators, denominators, known, satAdd_one]
  | inconsistent => simp [observeCase, tally, numerators, denominators, known, satAdd_one]
  | parts n d accuracy =>
    have hn : ∀ accuracy', numerators accuracy' (os ++ [.parts n d accuracy]) =
        numerators accuracy' os + if accuracy = accuracy' then n else 0 := by
      intro accuracy'
      rw [numerators_append]
      by_cases h : accuracy = accuracy' <;> simp [numerators, known, h]
    have hd : ∀ accuracy', denominators accuracy' (os ++ [.parts n d accuracy]) =
        denominators accuracy' os + if accuracy = accuracy' then d else 0 := by
      intro accuracy'
      rw [denominators_append]
      by_cases h : accuracy = accuracy' <;> simp [denominators, known, h]
    have hunknown : (os ++ [RatioCase.parts n d accuracy]).count RatioCase.unknown = os.count .unknown := by simp
    have hinconsistent : (os ++ [RatioCase.parts n d accuracy]).count RatioCase.inconsistent = os.count .inconsistent := by simp
    cases accuracy with
    | exact =>
      simp only [observeCase, tally, hn, hd, hunknown, hinconsistent, if_true, reduceCtorEq, if_false, Nat.add_zero]
      rcases pair_step (numerators .exact os) (denominators .exact os) n d with ⟨hlost, hpair⟩ | ⟨hkept, hpair, hbefore, hafter⟩
      · simp only [hlost, if_true, hpair, Option.isNone_none, Bool.true_or]
      · simp only [hkept, Bool.false_eq_true, if_false]
        simp only [hpair, hbefore, hafter]
    | estimated =>
      simp only [observeCase, tally, hn, hd, hunknown, hinconsistent, if_true, reduceCtorEq, if_false, Nat.add_zero]
      rcases pair_step (numerators .estimated os) (denominators .estimated os) n d with ⟨hlost, hpair⟩ | ⟨hkept, hpair, hbefore, hafter⟩
      · simp only [hlost, if_true, hpair, Option.isNone_none, Bool.or_true]
      · simp only [hkept, Bool.false_eq_true, if_false]
        simp only [hpair, hbefore, hafter]

theorem tally_perm {os os' : List RatioCase} (h : os.Perm os') : tally os = tally os' := by
  have hn : ∀ accuracy, numerators accuracy os = numerators accuracy os' := fun _ => ((h.filterMap _).map _).sum_eq
  have hd : ∀ accuracy, denominators accuracy os = denominators accuracy os' := fun _ => ((h.filterMap _).map _).sum_eq
  simp only [tally, hn, hd, h.count_eq]

def summary : Summary RatioCase UsageRatio where
  of := tally
  observe := observeCase
  merge := merge
  observe_of := observe_tally
  merge_of := merge_tally
  of_perm := tally_perm

end UsageRatio

/-! ## Costs -/

structure CostQuantity where
  scaleDecimalPlaces : Nat
  exactPicoUnits : Option Nat
  estimatedPicoUnits : Option Nat
  records : Nat
  overflowed : Bool
  deriving DecidableEq

namespace CostQuantity

def default : CostQuantity := ⟨costScaleDecimalPlaces, some 0, some 0, 0, false⟩

def observe (quantity : CostQuantity) (amountPicoUnits : Nat) (accuracy : UsageAccuracy) : CostQuantity :=
  let records := satAdd quantity.records 1
  match accuracy with
  | .exact =>
    let next := quantity.exactPicoUnits.bind fun current => checkedAdd 64 current amountPicoUnits
    { quantity with records, exactPicoUnits := next, overflowed := quantity.overflowed || next.isNone }
  | .estimated =>
    let next := quantity.estimatedPicoUnits.bind fun current => checkedAdd 64 current amountPicoUnits
    { quantity with records, estimatedPicoUnits := next, overflowed := quantity.overflowed || next.isNone }

def merge (quantity other : CostQuantity) : CostQuantity :=
  let exactPicoUnits := addTotals quantity.exactPicoUnits other.exactPicoUnits
  let estimatedPicoUnits := addTotals quantity.estimatedPicoUnits other.estimatedPicoUnits
  { quantity with
    exactPicoUnits, estimatedPicoUnits
    records := satAdd quantity.records other.records
    overflowed := quantity.overflowed || other.overflowed || exactPicoUnits.isNone || estimatedPicoUnits.isNone }

/-- Costs are summed as quantities are that were reported each time. -/
def reported (os : List (Nat × UsageAccuracy)) : List (Option Nat × UsageAccuracy) := os.map fun o => (some o.1, o.2)

def ofQuantity (quantity : UsageQuantity) (records : Nat) : CostQuantity :=
  ⟨costScaleDecimalPlaces, quantity.exact, quantity.estimated, records, quantity.overflowed⟩

def tally (os : List (Nat × UsageAccuracy)) : CostQuantity := ofQuantity (UsageQuantity.tally (reported os)) (sat os.length)

theorem tally_nil : tally [] = default := rfl

theorem observe_tally (os : List (Nat × UsageAccuracy)) (o : Nat × UsageAccuracy) :
    (tally os).observe o.1 o.2 = tally (os ++ [o]) := by
  have hquantity : UsageQuantity.tally (reported (os ++ [o])) = (UsageQuantity.tally (reported os)).observe (some o.1) o.2 := by
    rw [reported, List.map_append]
    exact (UsageQuantity.observe_tally _ (some o.1, o.2)).symm
  rw [tally, tally, hquantity, List.length_append, List.length_singleton, ← satAdd_one]
  obtain ⟨amount, accuracy⟩ := o
  cases accuracy with
  | exact => simp only [observe, UsageQuantity.observe, ofQuantity]
  | estimated => simp only [observe, UsageQuantity.observe, ofQuantity]

theorem merge_tally (os os' : List (Nat × UsageAccuracy)) : (tally os).merge (tally os') = tally (os ++ os') := by
  have hquantity : UsageQuantity.tally (reported (os ++ os')) =
      (UsageQuantity.tally (reported os)).merge (UsageQuantity.tally (reported os')) := by
    rw [reported, List.map_append]
    exact (UsageQuantity.merge_tally _ _).symm
  rw [tally, tally, tally, hquantity, List.length_append, ← satAdd_sat]
  simp only [merge, UsageQuantity.merge, ofQuantity]

def summary : Summary (Nat × UsageAccuracy) CostQuantity where
  of := tally
  observe quantity o := quantity.observe o.1 o.2
  merge := merge
  observe_of := observe_tally
  merge_of := merge_tally
  of_perm h := by rw [tally, tally, reported, reported, UsageQuantity.tally_perm (h.map _), h.length_eq]

end CostQuantity

/-! ## Distributions -/

structure UsageDistribution where
  values : OrdMap String Nat
  unknown : Nat
  deriving DecidableEq

namespace UsageDistribution

def default : UsageDistribution := ⟨.empty, 0⟩

def observe (distribution : UsageDistribution) : Option String → UsageDistribution
  | some value => { distribution with values := distribution.values.upsert value 0 (satAdd · 1) }
  | none => { distribution with unknown := satAdd distribution.unknown 1 }

def merge (distribution other : UsageDistribution) : UsageDistribution :=
  ⟨distribution.values.mergeWith 0 satAdd other.values, satAdd distribution.unknown other.unknown⟩

/-- The values that were reported, each a count under its own key. -/
def reported (os : List (Option String)) : List (String × Unit) := os.filterMap fun o => o.map (·, ())

def counts : Summary (String × Unit) (OrdMap String Nat) := (Summary.count Unit).keyed

def tally (os : List (Option String)) : UsageDistribution := ⟨counts.of (reported os), sat (os.countP (·.isNone))⟩

theorem reported_append (os os' : List (Option String)) : reported (os ++ os') = reported os ++ reported os' :=
  List.filterMap_append

theorem observe_tally (os : List (Option String)) (o : Option String) : (tally os).observe o = tally (os ++ [o]) := by
  rw [tally, tally, reported_append, List.countP_append]
  cases o with
  | none =>
    rw [show reported [none] = [] from rfl, List.append_nil, show [none].countP Option.isNone = 1 from rfl, ← satAdd_one, observe]
  | some value =>
    rw [show reported [some value] = [(value, ())] from rfl, ← counts.observe_of, show [some value].countP Option.isNone = 0 from rfl,
      Nat.add_zero, observe]
    simp only [counts, Summary.keyed, Summary.observeKeyed, Summary.count, List.length_nil, sat_zero]

theorem merge_tally (os os' : List (Option String)) : (tally os).merge (tally os') = tally (os ++ os') := by
  rw [tally, tally, tally, reported_append, ← counts.merge_of, List.countP_append, ← satAdd_sat, merge]
  simp only [counts, Summary.keyed, Summary.count, List.length_nil, sat_zero]

def summary : Summary (Option String) UsageDistribution where
  of := tally
  observe := observe
  merge := merge
  observe_of := observe_tally
  merge_of := merge_tally
  of_perm h := by rw [tally, tally, reported, reported, counts.of_perm (h.filterMap _), h.countP_eq]

end UsageDistribution

end GreenTyper.Usage
