/-
  GreenTyper.Usage.Rollup — what a rollup keeps of the attempts it covers (`usage.rs`).

  An attempt is observed when it finished and once more when its cost was evaluated. What a
  rollup shows is in closed form the counters of its attempts as they are recorded by now
  (`tally`): one step for an attempt without a cost (`observe_tally`), one for the cost of
  an attempt that was observed before (`evaluate_tally`), and merges (`merge_tally`).
-/

import GreenTyper.Usage.Counters

namespace GreenTyper.Usage

open Lib Provider

structure UsageRollup where
  attempts : Nat
  succeeded : Nat
  failed : Nat
  interrupted : Nat
  usageRecords : Nat
  inputTokens : UsageQuantity
  cachedInputTokens : UsageQuantity
  cacheWriteInputTokens : UsageQuantity
  cacheReadRatio : UsageRatio
  cacheWriteRatio : UsageRatio
  outputTokens : UsageQuantity
  reasoningOutputTokens : UsageQuantity
  totalTokens : UsageQuantity
  providerProfiles : UsageDistribution
  requestedModels : UsageDistribution
  observedModels : UsageDistribution
  dialects : UsageDistribution
  requestedContextModes : UsageDistribution
  requestedReasoningEfforts : UsageDistribution
  observedReasoningEfforts : UsageDistribution
  requestedServiceTiers : UsageDistribution
  serviceTiers : UsageDistribution
  paygCostEstimates : OrdMap String CostQuantity
  costUnknownAttempts : Nat
  deriving DecidableEq

def tokens (count : Option UInt64) : Option Nat := count.map UInt64.toNat

/-- Cached and written input tokens are parts of the input tokens. -/
def inconsistentCache (usage : UsageRecord) : Bool :=
  match usage.inputTokens, usage.cachedInputTokens, usage.cacheWriteInputTokens with
  | some input, some cached, some cacheWrite => (checkedAdd 64 cached.toNat cacheWrite.toNat).all (· > input.toNat)
  | _, _, _ => false

namespace UsageRollup

def default : UsageRollup where
  attempts := 0
  succeeded := 0
  failed := 0
  interrupted := 0
  usageRecords := 0
  inputTokens := .default
  cachedInputTokens := .default
  cacheWriteInputTokens := .default
  cacheReadRatio := .default
  cacheWriteRatio := .default
  outputTokens := .default
  reasoningOutputTokens := .default
  totalTokens := .default
  providerProfiles := .default
  requestedModels := .default
  observedModels := .default
  dialects := .default
  requestedContextModes := .default
  requestedReasoningEfforts := .default
  observedReasoningEfforts := .default
  requestedServiceTiers := .default
  serviceTiers := .default
  paygCostEstimates := .empty
  costUnknownAttempts := 0

def observeOutcome (rollup : UsageRollup) : UsageAttemptOutcome → UsageRollup
  | .succeeded => { rollup with succeeded := satAdd rollup.succeeded 1 }
  | .failed => { rollup with failed := satAdd rollup.failed 1 }
  | .interrupted => { rollup with interrupted := satAdd rollup.interrupted 1 }

def observeCacheRatios (rollup : UsageRollup) (usage : UsageRecord) (accuracy : UsageAccuracy) : UsageRollup :=
  let input := tokens usage.inputTokens
  if inconsistentCache usage then
    { rollup with
      cacheReadRatio := rollup.cacheReadRatio.observeInconsistent
      cacheWriteRatio := rollup.cacheWriteRatio.observeInconsistent }
  else
    { rollup with
      cacheReadRatio := rollup.cacheReadRatio.observe (tokens usage.cachedInputTokens) input accuracy
      cacheWriteRatio := rollup.cacheWriteRatio.observe (tokens usage.cacheWriteInputTokens) input accuracy }

def observe (rollup : UsageRollup) (attempt : UsageAttempt) : UsageRollup :=
  let rollup := { rollup with attempts := satAdd rollup.attempts 1 }.observeOutcome attempt.outcome
  let rollup := { rollup with
    providerProfiles := rollup.providerProfiles.observe (some attempt.providerProfile)
    requestedModels := rollup.requestedModels.observe (some attempt.requestedModel)
    observedModels := rollup.observedModels.observe attempt.observedModel
    dialects := rollup.dialects.observe (attempt.dialect.map ProviderDialect.asStr)
    requestedContextModes := rollup.requestedContextModes.observe attempt.requestedContextMode
    requestedReasoningEfforts := rollup.requestedReasoningEfforts.observe attempt.requestedReasoningEffort
    observedReasoningEfforts := rollup.observedReasoningEfforts.observe attempt.observedReasoningEffort
    requestedServiceTiers := rollup.requestedServiceTiers.observe attempt.requestedServiceTier
    costUnknownAttempts := satAdd rollup.costUnknownAttempts 1 }
  match attempt.usage with
  | none =>
    { rollup with
      cacheReadRatio := rollup.cacheReadRatio.observe none none .exact
      cacheWriteRatio := rollup.cacheWriteRatio.observe none none .exact
      inputTokens := rollup.inputTokens.observe none .exact
      cachedInputTokens := rollup.cachedInputTokens.observe none .exact
      cacheWriteInputTokens := rollup.cacheWriteInputTokens.observe none .exact
      outputTokens := rollup.outputTokens.observe none .exact
      reasoningOutputTokens := rollup.reasoningOutputTokens.observe none .exact
      totalTokens := rollup.totalTokens.observe none .exact
      serviceTiers := rollup.serviceTiers.observe none }
  | some usage =>
    let accuracy := usage.accuracy
    let rollup := { rollup with usageRecords := satAdd rollup.usageRecords 1 }.observeCacheRatios usage accuracy
    { rollup with
      inputTokens := rollup.inputTokens.observe (tokens usage.inputTokens) accuracy
      cachedInputTokens := rollup.cachedInputTokens.observe (tokens usage.cachedInputTokens) accuracy
      cacheWriteInputTokens := rollup.cacheWriteInputTokens.observe (tokens usage.cacheWriteInputTokens) accuracy
      outputTokens := rollup.outputTokens.observe (tokens usage.outputTokens) accuracy
      reasoningOutputTokens := rollup.reasoningOutputTokens.observe (tokens usage.reasoningOutputTokens) accuracy
      totalTokens := rollup.totalTokens.observe (tokens usage.totalTokens) accuracy
      serviceTiers := rollup.serviceTiers.observe usage.serviceTier }

def observeCostEvaluation (rollup : UsageRollup) : CostEstimateOutcome → UsageRollup
  | .known estimate =>
    { rollup with
      costUnknownAttempts := rollup.costUnknownAttempts - 1
      paygCostEstimates := rollup.paygCostEstimates.upsert estimate.currency .default
        (·.observe estimate.amountPicoUnits estimate.usageAccuracy) }
  | .unknown _ => rollup

def merge (rollup other : UsageRollup) : UsageRollup where
  attempts := satAdd rollup.attempts other.attempts
  succeeded := satAdd rollup.succeeded other.succeeded
  failed := satAdd rollup.failed other.failed
  interrupted := satAdd rollup.interrupted other.interrupted
  usageRecords := satAdd rollup.usageRecords other.usageRecords
  inputTokens := rollup.inputTokens.merge other.inputTokens
  cachedInputTokens := rollup.cachedInputTokens.merge other.cachedInputTokens
  cacheWriteInputTokens := rollup.cacheWriteInputTokens.merge other.cacheWriteInputTokens
  cacheReadRatio := rollup.cacheReadRatio.merge other.cacheReadRatio
  cacheWriteRatio := rollup.cacheWriteRatio.merge other.cacheWriteRatio
  outputTokens := rollup.outputTokens.merge other.outputTokens
  reasoningOutputTokens := rollup.reasoningOutputTokens.merge other.reasoningOutputTokens
  totalTokens := rollup.totalTokens.merge other.totalTokens
  providerProfiles := rollup.providerProfiles.merge other.providerProfiles
  requestedModels := rollup.requestedModels.merge other.requestedModels
  observedModels := rollup.observedModels.merge other.observedModels
  dialects := rollup.dialects.merge other.dialects
  requestedContextModes := rollup.requestedContextModes.merge other.requestedContextModes
  requestedReasoningEfforts := rollup.requestedReasoningEfforts.merge other.requestedReasoningEfforts
  observedReasoningEfforts := rollup.observedReasoningEfforts.merge other.observedReasoningEfforts
  requestedServiceTiers := rollup.requestedServiceTiers.merge other.requestedServiceTiers
  serviceTiers := rollup.serviceTiers.merge other.serviceTiers
  paygCostEstimates := rollup.paygCostEstimates.mergeWith .default CostQuantity.merge other.paygCostEstimates
  costUnknownAttempts := satAdd rollup.costUnknownAttempts other.costUnknownAttempts

end UsageRollup

/-! ## What an attempt shows each counter -/

namespace UsageAttempt

/-- A count of the attempt's usage record. -/
def shows (count : UsageRecord → Option UInt64) (attempt : UsageAttempt) : Option Nat × UsageAccuracy :=
  match attempt.usage with
  | none => (none, .exact)
  | some usage => (tokens (count usage), usage.accuracy)

/-- A part of the input tokens, as a ratio. -/
def showsRatio (count : UsageRecord → Option UInt64) (attempt : UsageAttempt) : RatioCase :=
  match attempt.usage with
  | none => .unknown
  | some usage =>
    if inconsistentCache usage then .inconsistent else .of (tokens (count usage)) (tokens usage.inputTokens) usage.accuracy

def cost (attempt : UsageAttempt) : Option (String × Nat × UsageAccuracy) :=
  attempt.costEstimate.map fun estimate => (estimate.currency, estimate.amountPicoUnits, estimate.usageAccuracy)

end UsageAttempt

namespace UsageRollup

def costs : Summary (String × Nat × UsageAccuracy) (OrdMap String CostQuantity) := CostQuantity.summary.keyed

/-- What a rollup shows of attempts, each with its cost as far as it was evaluated. -/
def tally (as : List UsageAttempt) : UsageRollup where
  attempts := sat as.length
  succeeded := sat (as.countP (·.outcome == .succeeded))
  failed := sat (as.countP (·.outcome == .failed))
  interrupted := sat (as.countP (·.outcome == .interrupted))
  usageRecords := sat (as.countP (·.usage.isSome))
  inputTokens := .tally (as.map (·.shows (·.inputTokens)))
  cachedInputTokens := .tally (as.map (·.shows (·.cachedInputTokens)))
  cacheWriteInputTokens := .tally (as.map (·.shows (·.cacheWriteInputTokens)))
  cacheReadRatio := .tally (as.map (·.showsRatio (·.cachedInputTokens)))
  cacheWriteRatio := .tally (as.map (·.showsRatio (·.cacheWriteInputTokens)))
  outputTokens := .tally (as.map (·.shows (·.outputTokens)))
  reasoningOutputTokens := .tally (as.map (·.shows (·.reasoningOutputTokens)))
  totalTokens := .tally (as.map (·.shows (·.totalTokens)))
  providerProfiles := .tally (as.map (some ·.providerProfile))
  requestedModels := .tally (as.map (some ·.requestedModel))
  observedModels := .tally (as.map (·.observedModel))
  dialects := .tally (as.map (·.dialect.map ProviderDialect.asStr))
  requestedContextModes := .tally (as.map (·.requestedContextMode))
  requestedReasoningEfforts := .tally (as.map (·.requestedReasoningEffort))
  observedReasoningEfforts := .tally (as.map (·.observedReasoningEffort))
  requestedServiceTiers := .tally (as.map (·.requestedServiceTier))
  serviceTiers := .tally (as.map (·.usage.bind (·.serviceTier)))
  paygCostEstimates := costs.of (as.filterMap (·.cost))
  costUnknownAttempts := sat (as.countP (·.costEstimate.isNone))

theorem tally_nil : tally [] = default := rfl

theorem merge_tally (as bs : List UsageAttempt) : (tally as).merge (tally bs) = tally (as ++ bs) := by
  simp only [merge, tally, satAdd_sat, List.length_append, List.countP_append, List.map_append, List.filterMap_append,
    UsageQuantity.merge_tally, UsageRatio.merge_tally, UsageDistribution.merge_tally, ← costs.merge_of]
  simp only [costs, Summary.keyed, CostQuantity.summary, CostQuantity.tally_nil]

theorem tally_perm {as bs : List UsageAttempt} (h : as.Perm bs) : tally as = tally bs := by
  have hq : ∀ f : UsageAttempt → Option Nat × UsageAccuracy, UsageQuantity.tally (as.map f) = .tally (bs.map f) :=
    fun f => UsageQuantity.tally_perm (h.map f)
  have hr : ∀ f : UsageAttempt → RatioCase, UsageRatio.tally (as.map f) = .tally (bs.map f) :=
    fun f => UsageRatio.tally_perm (h.map f)
  have hd : ∀ f : UsageAttempt → Option String, UsageDistribution.tally (as.map f) = .tally (bs.map f) :=
    fun f => UsageDistribution.summary.of_perm (h.map f)
  have hc : ∀ p : UsageAttempt → Bool, as.countP p = bs.countP p := fun p => h.countP_eq p
  simp only [tally, hq, hr, hd, hc, h.length_eq, costs.of_perm (h.filterMap _)]

theorem observeOutcome_eq (rollup : UsageRollup) (outcome : UsageAttemptOutcome) :
    rollup.observeOutcome outcome = { rollup with
      succeeded := if outcome == .succeeded then satAdd rollup.succeeded 1 else rollup.succeeded
      failed := if outcome == .failed then satAdd rollup.failed 1 else rollup.failed
      interrupted := if outcome == .interrupted then satAdd rollup.interrupted 1 else rollup.interrupted } := by
  cases outcome <;> rfl

theorem observeCacheRatios_eq (rollup : UsageRollup) (usage : UsageRecord) (accuracy : UsageAccuracy) :
    rollup.observeCacheRatios usage accuracy = { rollup with
      cacheReadRatio := rollup.cacheReadRatio.observeCase (if inconsistentCache usage then .inconsistent
        else .of (tokens usage.cachedInputTokens) (tokens usage.inputTokens) accuracy)
      cacheWriteRatio := rollup.cacheWriteRatio.observeCase (if inconsistentCache usage then .inconsistent
        else .of (tokens usage.cacheWriteInputTokens) (tokens usage.inputTokens) accuracy) } := by
  unfold observeCacheRatios
  cases inconsistentCache usage <;> rfl

/-- One attempt more, whose cost is not evaluated yet. -/
theorem observe_tally (as : List UsageAttempt) (a : UsageAttempt) (hcost : a.costEstimate = none) :
    (tally as).observe a = tally (as ++ [a]) := by
  have hcount : ∀ p : UsageAttempt → Bool, (as ++ [a]).countP p = as.countP p + if p a then 1 else 0 := by
    intro p
    rw [List.countP_append, List.countP_singleton]
  have hsat : ∀ (n : Nat) (p : Prop) [Decidable p], sat (n + if p then 1 else 0) = if p then satAdd (sat n) 1 else sat n := by
    intro n p _
    by_cases h : p
    · rw [if_pos h, if_pos h, satAdd_one]
    · rw [if_neg h, if_neg h, Nat.add_zero]
  have hq : ∀ f : UsageAttempt → Option Nat × UsageAccuracy,
      UsageQuantity.tally (as.map f ++ [f a]) = (UsageQuantity.tally (as.map f)).observe (f a).1 (f a).2 :=
    fun f => (UsageQuantity.observe_tally _ (f a)).symm
  have hr : ∀ f : UsageAttempt → RatioCase, UsageRatio.tally (as.map f ++ [f a]) = (UsageRatio.tally (as.map f)).observeCase (f a) :=
    fun f => (UsageRatio.observe_tally _ (f a)).symm
  have hd : ∀ f : UsageAttempt → Option String,
      UsageDistribution.tally (as.map f ++ [f a]) = (UsageDistribution.tally (as.map f)).observe (f a) :=
    fun f => (UsageDistribution.observe_tally _ (f a)).symm
  have hpayg : (as ++ [a]).filterMap (·.cost) = as.filterMap (·.cost) := by
    simp [UsageAttempt.cost, hcost]
  simp only [observe, observeOutcome_eq, observeCacheRatios_eq]
  simp only [tally, List.length_append, List.length_singleton, ← satAdd_one, hcount, hsat, List.map_append, List.map_singleton,
    hq, hr, hd, hpayg, hcost, Option.isNone_none, if_true]
  cases husage : a.usage with
  | none => simp [UsageAttempt.shows, UsageAttempt.showsRatio, husage, UsageRatio.observe, RatioCase.of]
  | some usage => simp [UsageAttempt.shows, UsageAttempt.showsRatio, husage]

/-- The evaluation of an attempt that was observed without one. The saturated count of
    unknown costs is the true one, or the step down would not be the one up. -/
theorem evaluate_tally {pre post : List UsageAttempt} {a a' : UsageAttempt} {outcome : CostEstimateOutcome}
    (h : a.recordCostEvaluation outcome = .ok a') (hfits : (pre ++ a :: post).length ≤ maxU64) :
    (tally (pre ++ a :: post)).observeCostEvaluation outcome = tally (pre ++ a' :: post) := by
  obtain ⟨_, hfresh, h⟩ := bind_ok.mp h
  have hnone : a.costEstimate = none := Option.isNone_iff_eq_none.mp (require_ok.mp hfresh).1
  have hlen : (pre ++ a' :: post).length = (pre ++ a :: post).length := by
    rw [List.length_append, List.length_append, List.length_cons, List.length_cons]
  cases outcome with
  | unknown reason =>
    cases h
    simp only [observeCostEvaluation, tally, hlen, List.map_append, List.map_cons, List.countP_append, List.countP_cons,
      List.filterMap_append, List.filterMap_cons, UsageAttempt.shows, UsageAttempt.showsRatio, UsageAttempt.cost]
  | known estimate =>
    cases h
    have hunknown : sat ((pre ++ a :: post).countP (·.costEstimate.isNone)) - 1 =
        sat ((pre ++ { a with costProvenance := .priceSchedule, costEstimate := some estimate } :: post).countP
          (·.costEstimate.isNone)) := by
      have hle := List.countP_le_length (p := fun a : UsageAttempt => a.costEstimate.isNone) (l := pre ++ a :: post)
      have hcount : (pre ++ a :: post).countP (·.costEstimate.isNone) = (pre ++
          { a with costProvenance := .priceSchedule, costEstimate := some estimate } :: post).countP (·.costEstimate.isNone) + 1 := by
        simp only [List.countP_append, List.countP_cons, hnone, Option.isNone_none, Option.isNone_some, if_true,
          Bool.false_eq_true, if_false]
        omega
      rw [sat_of_le (Nat.le_trans hle hfits), hcount, Nat.add_sub_cancel, sat_of_le (by omega)]
    have hcost : ({ a with costProvenance := .priceSchedule, costEstimate := some estimate } : UsageAttempt).cost =
        some (estimate.currency, estimate.amountPicoUnits, estimate.usageAccuracy) := rfl
    have hpayg : ((pre ++ a :: post).filterMap (·.cost) ++ [(estimate.currency, estimate.amountPicoUnits, estimate.usageAccuracy)]).Perm
        ((pre ++ { a with costProvenance := .priceSchedule, costEstimate := some estimate } :: post).filterMap (·.cost)) := by
      have hold : a.cost = none := by rw [UsageAttempt.cost, hnone, Option.map_none]
      simp only [List.filterMap_append, List.filterMap_cons, hold, hcost, List.append_assoc]
      exact (List.perm_append_singleton _ _).append_left _
    have hcosts := (costs.observe_of ((pre ++ a :: post).filterMap (·.cost))
      (estimate.currency, estimate.amountPicoUnits, estimate.usageAccuracy)).trans (costs.of_perm hpayg)
    simp only [costs, Summary.keyed, Summary.observeKeyed, CostQuantity.summary, CostQuantity.tally_nil] at hcosts
    simp only [observeCostEvaluation, tally, hlen, hunknown]
    simp only [costs, Summary.keyed, CostQuantity.summary, CostQuantity.tally_nil, hcosts]
    simp only [List.map_append, List.map_cons, List.countP_append, List.countP_cons, UsageAttempt.shows, UsageAttempt.showsRatio]

/-- Observed when it finished, and once more when its cost was evaluated. -/
def observeEvaluated (rollup : UsageRollup) (attempt : UsageAttempt) : UsageRollup :=
  match attempt.costEvaluation with
  | none => rollup.observe attempt
  | some outcome => (rollup.observe attempt).observeCostEvaluation outcome

/-- The attempts observed one after the other, each with its cost as far as it was evaluated. -/
def recompute (as : List UsageAttempt) : UsageRollup := as.foldl observeEvaluated default

theorem observeEvaluated_tally {as : List UsageAttempt} {a : UsageAttempt} (hfits : (as ++ [a]).length ≤ maxU64) :
    (tally as).observeEvaluated a = tally (as ++ [a]) := by
  unfold observeEvaluated
  -- The attempt as it was observed first.
  let unevaluated : UsageAttempt := { a with costProvenance := .unknown, costEstimate := none, costUnknownReason := none }
  have hobserve : (tally as).observe a = tally (as ++ [unevaluated]) := observe_tally as unevaluated rfl
  cases hestimate : a.costEstimate with
  | some estimate =>
    have heval : a.costEvaluation = some (.known estimate) := by rw [UsageAttempt.costEvaluation, hestimate]
    have hrecord : unevaluated.recordCostEvaluation (.known estimate) =
        .ok { unevaluated with costProvenance := .priceSchedule, costEstimate := some estimate } := rfl
    rw [heval]
    show ((tally as).observe a).observeCostEvaluation _ = _
    rw [hobserve, evaluate_tally hrecord (by rwa [List.length_append] at hfits ⊢)]
    simp only [tally, List.length_append, List.length_singleton, List.map_append, List.map_singleton, List.countP_append,
      List.countP_singleton, List.filterMap_append, List.filterMap_cons, UsageAttempt.shows, UsageAttempt.showsRatio,
      UsageAttempt.cost, hestimate, unevaluated]
  | none =>
    have hsame : tally (as ++ [unevaluated]) = tally (as ++ [a]) := by
      simp only [tally, List.length_append, List.length_singleton, List.map_append, List.map_singleton, List.countP_append,
        List.countP_singleton, List.filterMap_append, List.filterMap_cons, UsageAttempt.shows, UsageAttempt.showsRatio,
        UsageAttempt.cost, hestimate, unevaluated]
    rw [← hsame, ← hobserve, UsageAttempt.costEvaluation, hestimate]
    cases a.costUnknownReason <;> rfl

theorem recompute_tally {as : List UsageAttempt} (hfits : as.length ≤ maxU64) : recompute as = tally as := by
  unfold recompute
  induction as using List.reverseRecOn with
  | nil => rfl
  | append_singleton as a ih =>
    have hless : as.length ≤ maxU64 := by
      rw [List.length_append] at hfits
      omega
    rw [List.foldl_append, ih hless]
    exact observeEvaluated_tally hfits

end UsageRollup

end GreenTyper.Usage
