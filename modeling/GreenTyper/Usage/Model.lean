/-
  GreenTyper.Usage.Model — usage windows and inference attempts (`usage.rs`).

  A window is a key of the rollups; its order is that of its fields. Which moments a window
  contains is left to the time-zone database.
-/

import GreenTyper.Usage.Pricing
import Mathlib.Data.List.Lex
import Mathlib.Data.Prod.Lex
import Mathlib.Data.String.Basic

namespace GreenTyper.Usage

open Lib Provider

inductive UsageError where
  | invalidWindowId
  | invalidLocalTime
  | emptyWindow
  | missingDays
  | unknownTimezone
  | nonCanonicalTimezone
  | localTimezoneUnavailable
  | missingRulesetVersion
  | rulesetVersionMismatch
  | invalidTimezoneData
  | clockBeforeUnixEpoch
  | timestampRange
  | invalidAttemptIdentity
  | completionBeforeStart
  | duplicateWindow
  | duplicateAttempt
  | unknownAttempt
  | duplicateCostEvaluation
  | invalidPageSize
  | invalidCursor
  | staleCursor
  | cursorQueryMismatch
  deriving DecidableEq

/-! ## Windows -/

inductive UsageWeekday where
  | mon
  | tue
  | wed
  | thu
  | fri
  | sat
  | sun
  deriving DecidableEq

theorem UsageWeekday.ctorIdx_injective : Function.Injective UsageWeekday.ctorIdx := by
  intro a b h
  cases a <;> cases b <;> first | rfl | cases h

instance : LinearOrder UsageWeekday := .lift' UsageWeekday.ctorIdx UsageWeekday.ctorIdx_injective

inductive UsageTimezoneSource where
  | explicit
  | localSystem
  deriving DecidableEq

theorem UsageTimezoneSource.ctorIdx_injective : Function.Injective UsageTimezoneSource.ctorIdx := by
  intro a b h
  cases a <;> cases b <;> first | rfl | cases h

instance : LinearOrder UsageTimezoneSource := .lift' UsageTimezoneSource.ctorIdx UsageTimezoneSource.ctorIdx_injective

/-- `days` are in the order of a `BTreeSet`. -/
structure UsageWindow where
  id : String
  startMinute : Nat
  endMinute : Nat
  days : List UsageWeekday
  timezone : String
  timezoneSource : UsageTimezoneSource
  rulesetVersion : String
  inOrder : days.Pairwise (· < ·)
  deriving DecidableEq

namespace UsageWindow

/-- The fields, as `derive(Ord)` compares them. -/
def key (window : UsageWindow) :
    String ×ₗ Nat ×ₗ Nat ×ₗ List UsageWeekday ×ₗ String ×ₗ UsageTimezoneSource ×ₗ String :=
  toLex (window.id, toLex (window.startMinute, toLex (window.endMinute, toLex (window.days,
    toLex (window.timezone, toLex (window.timezoneSource, window.rulesetVersion))))))

theorem key_injective : Function.Injective key := by
  intro a b h
  cases a
  cases b
  simp only [key, EmbeddingLike.apply_eq_iff_eq, Prod.mk.injEq] at h
  obtain ⟨rfl, rfl, rfl, rfl, rfl, rfl, rfl⟩ := h
  rfl

instance : LinearOrder UsageWindow := .lift' key key_injective

end UsageWindow

/-! ## Attempts -/

inductive UsageAttemptOutcome where
  | succeeded
  | failed
  | interrupted
  deriving DecidableEq

inductive UsageCostProvenance where
  | unknown
  | priceSchedule
  deriving DecidableEq

/-- An attempt names no window twice. -/
structure UsageAttempt where
  attempt : Nat
  thread : Nat
  turn : Nat
  agent : Option Nat
  providerProfile : String
  requestedModel : String
  observedModel : Option String
  dialect : Option ProviderDialect
  requestedContextMode : Option String
  requestedReasoningEffort : Option String
  observedReasoningEffort : Option String
  requestedServiceTier : Option String
  observedServiceTier : Option String
  startedAt : Option UsageTimestamp
  completedAt : Option UsageTimestamp
  outcome : UsageAttemptOutcome
  usage : Option UsageRecord
  costProvenance : UsageCostProvenance
  costEstimate : Option CostEstimate
  costUnknownReason : Option CostEstimateUnknownReason
  namedWindows : List UsageWindow
  distinct : (namedWindows.map (·.id)).Nodup
  deriving DecidableEq

namespace UsageAttempt

def new (attempt thread turn : Nat) (agent : Option Nat) (providerProfile requestedModel : String)
    (dialect : Option ProviderDialect) (startedAt completedAt : Option UsageTimestamp) (outcome : UsageAttemptOutcome)
    (usage : Option UsageRecord) (namedWindows : List UsageWindow) : Except UsageError UsageAttempt := do
  require (attempt ≠ 0 ∧ thread ≠ 0 ∧ turn ≠ 0) .invalidAttemptIdentity
  require (startedAt.all fun start => completedAt.all fun done => start.unixMillis ≤ done.unixMillis) .completionBeforeStart
  if distinct : (namedWindows.map (·.id)).Nodup then
    return {
      attempt, thread, turn, agent, providerProfile, requestedModel
      observedModel := none
      dialect
      requestedContextMode := none
      requestedReasoningEffort := none
      observedReasoningEffort := none
      requestedServiceTier := none
      observedServiceTier := usage.bind (·.serviceTier)
      startedAt, completedAt, outcome, usage
      costProvenance := .unknown
      costEstimate := none
      costUnknownReason := none
      namedWindows, distinct
    }
  else .error .duplicateWindow

def withRequestedPolicy (attempt : UsageAttempt) (contextMode reasoningEffort serviceTier : Option String) : UsageAttempt :=
  { attempt with
    requestedContextMode := contextMode
    requestedReasoningEffort := reasoningEffort
    requestedServiceTier := serviceTier }

def recordCostEvaluation (attempt : UsageAttempt) (outcome : CostEstimateOutcome) : Except UsageError UsageAttempt := do
  require (attempt.costEstimate.isNone ∧ attempt.costUnknownReason.isNone) .duplicateCostEvaluation
  match outcome with
  | .known estimate => return { attempt with costProvenance := .priceSchedule, costEstimate := some estimate }
  | .unknown reason => return { attempt with costUnknownReason := some reason }

/-- The Cost Estimate that was recorded for an attempt. -/
def costEvaluation (attempt : UsageAttempt) : Option CostEstimateOutcome :=
  match attempt.costEstimate, attempt.costUnknownReason with
  | some estimate, _ => some (.known estimate)
  | none, some reason => some (.unknown reason)
  | none, none => none

end UsageAttempt

end GreenTyper.Usage
