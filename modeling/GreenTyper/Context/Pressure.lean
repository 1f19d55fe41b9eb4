/-
  GreenTyper.Context.Pressure — how full a context is and what may be admitted to it
  (`ContextPressure` of `context.rs`), and the policy of the checkpoints that relieve it.
-/

import GreenTyper.Context.Model

namespace GreenTyper.Context

open Lib

def defaultSoftContextPressurePercent : Nat := 65
def defaultHardContextPressurePercent : Nat := 90

inductive ContextPressureAccuracy where
  | exact
  | estimated
  deriving DecidableEq

inductive ContextPressureState where
  | normal
  | soft
  | hard
  | unknown
  deriving DecidableEq

inductive ContextAdmissionDecision where
  | allow
  | reduce
  | stop
  | unknown
  deriving DecidableEq

inductive ContextPressureUnknownReason where
  | missingContextLimit
  | missingUsedTokens
  | missingOutputReserve
  | missingAccuracy
  deriving DecidableEq

inductive ContextPressureError where
  | invalidThresholds
  | invalidContextLimit
  | arithmeticOverflow
  deriving DecidableEq

/-- Thresholds, of which the soft one is the lower. -/
structure ContextPressurePolicy where
  softPercent : Nat
  hardPercent : Nat
  soft_pos : 0 < softPercent
  soft_lt : softPercent < hardPercent
  hard_le : hardPercent ≤ 100
  deriving DecidableEq

def ContextPressurePolicy.new (softPercent hardPercent : Nat) : Except ContextPressureError ContextPressurePolicy :=
  if h : 0 < softPercent ∧ softPercent < hardPercent ∧ hardPercent ≤ 100 then .ok ⟨softPercent, hardPercent, h.1, h.2.1, h.2.2⟩
  else .error .invalidThresholds

def ContextPressurePolicy.default : ContextPressurePolicy :=
  ⟨defaultSoftContextPressurePercent, defaultHardContextPressurePercent, by decide, by decide, by decide⟩

structure ContextPressureInput where
  contextLimitTokens : Option Nat
  usedTokens : Option Nat
  outputReserveTokens : Option Nat
  accuracy : Option ContextPressureAccuracy
  deriving DecidableEq

structure ContextPressureSnapshot where
  contextLimitTokens : Option Nat
  usedTokens : Option Nat
  outputReserveTokens : Option Nat
  projectedTokens : Option Nat
  occupancyPercent : Option Nat
  accuracy : Option ContextPressureAccuracy
  state : ContextPressureState
  admission : ContextAdmissionDecision
  unknownReason : Option ContextPressureUnknownReason
  softThresholdPercent : Nat
  hardThresholdPercent : Nat
  deriving DecidableEq

/-- What is missing of the input, if anything is. -/
def ContextPressureInput.unknownReason (input : ContextPressureInput) : Option ContextPressureUnknownReason :=
  if input.contextLimitTokens = none then some .missingContextLimit
  else if input.usedTokens = none then some .missingUsedTokens
  else if input.outputReserveTokens = none then some .missingOutputReserve
  else if input.accuracy = none then some .missingAccuracy
  else none

/-- The state of a context with `scaled` hundredths of its limit in use. -/
def pressureState (policy : ContextPressurePolicy) (scaled limit : Nat) : ContextPressureState × ContextAdmissionDecision :=
  if limit * policy.hardPercent ≤ scaled then (.hard, .stop)
  else if limit * policy.softPercent ≤ scaled then (.soft, .reduce)
  else (.normal, .allow)

/-- `ContextPressure::project`. -/
def projectPressure (input : ContextPressureInput) (policy : ContextPressurePolicy) :
    Except ContextPressureError ContextPressureSnapshot :=
  if input.contextLimitTokens = some 0 then .error .invalidContextLimit
  else
    match input.contextLimitTokens, input.usedTokens, input.outputReserveTokens, input.accuracy with
    | some limit, some used, some reserve, some accuracy => do
      let projected ← okOr (checkedAdd 64 used reserve) .arithmeticOverflow
      let scaled := projected * 100
      let (state, admission) := pressureState policy scaled limit
      return {
        contextLimitTokens := some limit
        usedTokens := some used
        outputReserveTokens := some reserve
        projectedTokens := some projected
        occupancyPercent := some (min (scaled / limit) 100)
        accuracy := some accuracy
        state, admission
        unknownReason := none
        softThresholdPercent := policy.softPercent
        hardThresholdPercent := policy.hardPercent
      }
    | contextLimitTokens, usedTokens, outputReserveTokens, _ => .ok {
        contextLimitTokens, usedTokens, outputReserveTokens
        projectedTokens := none
        occupancyPercent := none
        accuracy := none
        state := .unknown
        admission := .unknown
        unknownReason := input.unknownReason
        softThresholdPercent := policy.softPercent
        hardThresholdPercent := policy.hardPercent
      }

def defaultContextRawTailBytes : Nat := 64 * 1024
def defaultContextRawTailItems : Nat := 32

def ContextReductionPolicy.default : ContextReductionPolicy :=
  ⟨defaultContextRawTailBytes, defaultContextRawTailItems, by decide, by decide, by decide, by decide⟩

end GreenTyper.Context
