/-
  GreenTyper.Usage.Pricing — Price Schedules and the Cost Estimates they give (`pricing.rs`).

  A schedule and a book exist only as their constructors make them, so each carries what
  was checked. The fingerprint that a schedule keeps is a function of its definition.
  A timestamp is a number of milliseconds in 64 bits, of which the calendar allows fewer.
-/

import GreenTyper.Provider.Event
import Mathlib.Algebra.Group.Int.Defs
import Mathlib.Data.List.Sort

namespace GreenTyper.Usage

open Lib Provider

/-- Milliseconds since the Unix epoch. -/
structure UsageTimestamp where
  unixMillis : Int
  fits : -2 ^ 63 ≤ unixMillis ∧ unixMillis < 2 ^ 63
  deriving DecidableEq

def maxPriceSchedules : Nat := 256
def costScaleDecimalPlaces : Nat := 12
def maxPriceIdBytes : Nat := 64
def maxPriceTextBytes : Nat := 512

inductive PriceScheduleSource where
  | template
  | templateMirror
  | manual
  | providerReported
  deriving DecidableEq

structure TokenRates where
  inputMicrosPerMillion : UInt64
  cachedInputMicrosPerMillion : UInt64
  cacheWriteMicrosPerMillion : UInt64
  outputMicrosPerMillion : UInt64
  reasoningOutputMicrosPerMillion : UInt64
  deriving DecidableEq

structure PriceScheduleDefinition where
  id : String
  version : String
  currency : String
  providerProfile : String
  model : String
  dialect : Option ProviderDialect
  serviceTier : Option String
  minimumContextTokens : UInt64
  maximumContextTokens : Option UInt64
  effectiveFrom : UsageTimestamp
  effectiveUntil : Option UsageTimestamp
  source : PriceScheduleSource
  sourceRef : String
  rates : TokenRates
  deriving DecidableEq

inductive PricingError where
  | invalidId
  | invalidVersion
  | invalidCurrency
  | invalidProviderProfile
  | invalidModel
  | invalidServiceTier
  | invalidContextRange
  | invalidEffectiveInterval
  | invalidSourceReference
  | untrustedSource
  | tooManySchedules
  | duplicateSchedule
  | overlappingSchedules
  deriving DecidableEq

/-! ## Schedules -/

def isAsciiLowercase (c : Char) : Bool := 0x61 ≤ c.toNat && c.toNat ≤ 0x7a
def isAsciiUppercase (c : Char) : Bool := 0x41 ≤ c.toNat && c.toNat ≤ 0x5a
def isAsciiDigit (c : Char) : Bool := 0x30 ≤ c.toNat && c.toNat ≤ 0x39

/-- Lower-case letters, digits and, after the first character, hyphens. -/
def isIdText : List Char → Bool
  | [] => true
  | c :: cs => (isAsciiLowercase c || isAsciiDigit c) && cs.all fun c => isAsciiLowercase c || isAsciiDigit c || c == '-'

theorem isIdText_char {cs : List Char} (h : isIdText cs = true) {c : Char} (hc : c ∈ cs) :
    isAsciiLowercase c = true ∨ isAsciiDigit c = true ∨ c = '-' := by
  cases cs with
  | nil => cases hc
  | cons d ds =>
    rw [isIdText, Bool.and_eq_true, Bool.or_eq_true, List.all_eq_true] at h
    obtain ⟨hfirst, hrest⟩ := h
    rcases List.mem_cons.mp hc with hd | hmem
    · rw [hd]
      exact hfirst.imp id Or.inl
    · have hchar := hrest c hmem
      rw [Bool.or_eq_true, Bool.or_eq_true, beq_iff_eq, or_assoc] at hchar
      exact hchar

def validId (value : String) : Bool := value != "" && byteLen value ≤ maxPriceIdBytes && isIdText value.toList

def validateId (value : String) : Except PricingError Unit := require (validId value) .invalidId

def validateProviderProfile (value : String) : Except PricingError Unit := require (validId value) .invalidProviderProfile

def validateText (value : String) (error : PricingError) : Except PricingError Unit :=
  require (ProviderText maxPriceTextBytes value) error

def validateCurrency (value : String) : Except PricingError Unit :=
  require (byteLen value = 3 ∧ value.toList.all isAsciiUppercase) .invalidCurrency

def validateServiceTier (value : String) : Except PricingError Unit :=
  require (ProviderText maxServiceTierBytes value) .invalidServiceTier

/-- The checks of `PriceSchedule::new_trusted`. -/
def PriceScheduleDefinition.validate (definition : PriceScheduleDefinition) : Except PricingError Unit := do
  validateId definition.id
  validateText definition.version .invalidVersion
  validateCurrency definition.currency
  validateProviderProfile definition.providerProfile
  validateText definition.model .invalidModel
  definition.serviceTier.forM validateServiceTier
  require (definition.maximumContextTokens.all (definition.minimumContextTokens < ·)) .invalidContextRange
  require (definition.effectiveUntil.all (definition.effectiveFrom.unixMillis < ·.unixMillis)) .invalidEffectiveInterval
  validateText definition.sourceRef .invalidSourceReference

def hashByte (hash : UInt64) (byte : Byte) : UInt64 := (hash ^^^ byte.toUInt64) * 0x100000001b3

def hashBytes (hash : UInt64) (bytes : List Byte) : UInt64 :=
  bytes.foldl hashByte ((hash ^^^ UInt64.ofNat bytes.length) * 0x100000001b3)

def hashText (hash : UInt64) (text : String) : UInt64 := hashBytes hash (utf8 text)

def hashWord (hash : UInt64) (word : UInt64) : UInt64 := hashBytes hash (leBytes 8 word.toNat)

/-- The eight bytes of an `i64`. -/
def UsageTimestamp.toWord (timestamp : UsageTimestamp) : UInt64 := UInt64.ofInt timestamp.unixMillis

def hashOption (hash : UInt64) : Option UInt64 → UInt64
  | some word => hashWord (hashBytes hash [1]) word
  | none => hashBytes hash [0]

def providerDialectTag : ProviderDialect → Byte
  | .responses => 1
  | .chatCompletions => 2
  | .messages => 3

def sourceTag : PriceScheduleSource → Byte
  | .template => 1
  | .manual => 2
  | .providerReported => 3
  | .templateMirror => 4

def fingerprint (definition : PriceScheduleDefinition) : UInt64 :=
  let hash := [definition.id, definition.version, definition.currency, definition.providerProfile, definition.model].foldl hashText
    0xcbf29ce484222325
  let hash := hashBytes hash [(definition.dialect.map providerDialectTag).getD 0]
  let hash := hashText hash (definition.serviceTier.getD "")
  let hash := hashWord hash definition.minimumContextTokens
  let hash := hashOption hash definition.maximumContextTokens
  let hash := hashWord hash definition.effectiveFrom.toWord
  let hash := hashOption hash (definition.effectiveUntil.map (·.toWord))
  let hash := hashBytes hash [sourceTag definition.source]
  let hash := hashText hash definition.sourceRef
  let rates := definition.rates
  [rates.inputMicrosPerMillion, rates.cachedInputMicrosPerMillion, rates.cacheWriteMicrosPerMillion,
    rates.outputMicrosPerMillion, rates.reasoningOutputMicrosPerMillion].foldl hashWord hash

structure PriceSchedule extends PriceScheduleDefinition where
  valid : toPriceScheduleDefinition.validate = .ok ()
  deriving DecidableEq

namespace PriceSchedule

def fingerprint (schedule : PriceSchedule) : UInt64 := Usage.fingerprint schedule.toPriceScheduleDefinition

def newTrusted (definition : PriceScheduleDefinition) : Except PricingError PriceSchedule :=
  match h : definition.validate with
  | .ok () => .ok ⟨definition, h⟩
  | .error e => .error e

def new (definition : PriceScheduleDefinition) : Except PricingError PriceSchedule := do
  require (definition.source = .manual) .untrustedSource
  newTrusted definition

def matchesBase (schedule : PriceSchedule) (providerProfile model : String) (dialect : Option ProviderDialect)
    (startedAt : UsageTimestamp) : Bool :=
  schedule.providerProfile == providerProfile && schedule.model == model &&
    schedule.dialect.all (some · == dialect) && schedule.effectiveFrom.unixMillis ≤ startedAt.unixMillis &&
      schedule.effectiveUntil.all (startedAt.unixMillis < ·.unixMillis)

def matchesServiceTier (schedule : PriceSchedule) (serviceTier : Option String) : Bool :=
  schedule.serviceTier.all (some · == serviceTier)

def matchesContext (schedule : PriceSchedule) (inputTokens : UInt64) : Bool :=
  schedule.minimumContextTokens ≤ inputTokens && schedule.maximumContextTokens.all (inputTokens < ·)

end PriceSchedule

def selectorsOverlap {α : Type} [DecidableEq α] (left right : Option α) : Bool := left.isNone || right.isNone || left == right

def rangesOverlap {α : Type} [LT α] [DecidableLT α] (leftStart : α) (leftEnd : Option α) (rightStart : α) (rightEnd : Option α) :
    Bool :=
  leftEnd.all (rightStart < ·) && rightEnd.all (leftStart < ·)

def PriceSchedule.overlaps (schedule other : PriceSchedule) : Bool :=
  schedule.providerProfile == other.providerProfile && schedule.model == other.model &&
    selectorsOverlap schedule.dialect other.dialect && selectorsOverlap schedule.serviceTier other.serviceTier &&
    rangesOverlap schedule.minimumContextTokens schedule.maximumContextTokens other.minimumContextTokens
      other.maximumContextTokens &&
    rangesOverlap schedule.effectiveFrom.unixMillis (schedule.effectiveUntil.map (·.unixMillis)) other.effectiveFrom.unixMillis
      (other.effectiveUntil.map (·.unixMillis))

/-! ## Estimates -/

structure CostBreakdown where
  uncachedInputPicoUnits : Nat
  cachedInputPicoUnits : Nat
  cacheWritePicoUnits : Nat
  visibleOutputPicoUnits : Nat
  reasoningOutputPicoUnits : Nat
  deriving DecidableEq

def CostBreakdown.checkedTotal (breakdown : CostBreakdown) : Option Nat :=
  [breakdown.uncachedInputPicoUnits, breakdown.cachedInputPicoUnits, breakdown.cacheWritePicoUnits,
    breakdown.visibleOutputPicoUnits, breakdown.reasoningOutputPicoUnits].foldlM (checkedAdd 64) 0

structure CostEstimate where
  schedule : PriceSchedule
  amountPicoUnits : Nat
  breakdown : CostBreakdown
  usageAccuracy : UsageAccuracy
  deriving DecidableEq

def CostEstimate.currency (estimate : CostEstimate) : String := estimate.schedule.currency

inductive CostEstimateUnknownReason where
  | missingUsageRecord
  | noMatchingSchedule
  | missingInputTokens
  | missingCachedInputTokens
  | missingCacheWriteInputTokens
  | missingOutputTokens
  | missingReasoningOutputTokens
  | missingServiceTier
  | inconsistentInputAccounting
  | inconsistentOutputAccounting
  | arithmeticOverflow
  deriving DecidableEq

inductive CostEstimateOutcome where
  | known (estimate : CostEstimate)
  | unknown (reason : CostEstimateUnknownReason)
  deriving DecidableEq

def CostEstimateOutcome.of : Except CostEstimateUnknownReason CostEstimate → CostEstimateOutcome
  | .ok estimate => .known estimate
  | .error reason => .unknown reason

/-- A reported count, or `fallback` where the schedule's rates make it irrelevant. -/
def countOr (reported : Option UInt64) (irrelevant : Bool) (reason : CostEstimateUnknownReason) :
    Except CostEstimateUnknownReason Nat :=
  match reported with
  | some value => .ok value.toNat
  | none => if irrelevant then .ok 0 else .error reason

def PriceSchedule.estimate (schedule : PriceSchedule) (usage : UsageRecord) : CostEstimateOutcome := .of do
  let rates := schedule.rates
  let input ← okOr usage.inputTokens .missingInputTokens
  let cachedInput ← okOr usage.cachedInputTokens .missingCachedInputTokens
  let cacheWrite ← countOr usage.cacheWriteInputTokens (rates.cacheWriteMicrosPerMillion == 0) .missingCacheWriteInputTokens
  let output ← okOr usage.outputTokens .missingOutputTokens
  let reasoningOutput ← countOr usage.reasoningOutputTokens
    (rates.reasoningOutputMicrosPerMillion == rates.outputMicrosPerMillion) .missingReasoningOutputTokens
  let uncachedInput ← okOr ((checkedSub input.toNat cachedInput.toNat).bind (checkedSub · cacheWrite)) .inconsistentInputAccounting
  let visibleOutput ← okOr (checkedSub output.toNat reasoningOutput) .inconsistentOutputAccounting
  let uncachedInputPicoUnits ← okOr (checkedMul 64 uncachedInput rates.inputMicrosPerMillion.toNat) .arithmeticOverflow
  let cachedInputPicoUnits ← okOr (checkedMul 64 cachedInput.toNat rates.cachedInputMicrosPerMillion.toNat) .arithmeticOverflow
  let cacheWritePicoUnits ← okOr (checkedMul 64 cacheWrite rates.cacheWriteMicrosPerMillion.toNat) .arithmeticOverflow
  let visibleOutputPicoUnits ← okOr (checkedMul 64 visibleOutput rates.outputMicrosPerMillion.toNat) .arithmeticOverflow
  let reasoningOutputPicoUnits ← okOr (checkedMul 64 reasoningOutput rates.reasoningOutputMicrosPerMillion.toNat) .arithmeticOverflow
  let breakdown := CostBreakdown.mk uncachedInputPicoUnits cachedInputPicoUnits cacheWritePicoUnits visibleOutputPicoUnits
    reasoningOutputPicoUnits
  let amountPicoUnits ← okOr breakdown.checkedTotal .arithmeticOverflow
  return ⟨schedule, amountPicoUnits, breakdown, usage.accuracy⟩

/-! ## Books -/

/-- Schedules in the order of their distinct ids, no two of which apply to one attempt. -/
structure PriceScheduleBook where
  schedules : List PriceSchedule
  few : schedules.length ≤ maxPriceSchedules
  distinct : schedules.Pairwise (fun left right => left.id < right.id)
  disjoint : schedules.Pairwise (fun left right => left.overlaps right = false)
  deriving DecidableEq

namespace PriceScheduleBook

def default : PriceScheduleBook := ⟨[], Nat.zero_le _, .nil, .nil⟩

/-- In a list sorted by id, ids are distinct where no neighbours share one. -/
def new (schedules : List PriceSchedule) : Except PricingError PriceScheduleBook :=
  let sorted := schedules.insertionSort (fun left right => left.id ≤ right.id)
  if few : sorted.length ≤ maxPriceSchedules then
    if distinct : sorted.Pairwise (fun left right => left.id < right.id) then
      if disjoint : sorted.Pairwise (fun left right => left.overlaps right = false) then .ok ⟨sorted, few, distinct, disjoint⟩
      else .error .overlappingSchedules
    else .error .duplicateSchedule
  else .error .tooManySchedules

def estimateAttempt (book : PriceScheduleBook) (providerProfile model : String) (dialect : Option ProviderDialect)
    (startedAt : UsageTimestamp) (usage : UsageRecord) : CostEstimateOutcome :=
  let base := book.schedules.filter (·.matchesBase providerProfile model dialect startedAt)
  if base.isEmpty then .unknown .noMatchingSchedule
  else
    let tiers := base.filter (·.matchesServiceTier usage.serviceTier)
    if tiers.isEmpty then .unknown (if usage.serviceTier.isNone then .missingServiceTier else .noMatchingSchedule)
    else
      match usage.inputTokens with
      | none => .unknown .missingInputTokens
      | some inputTokens =>
        match tiers.find? (·.matchesContext inputTokens) with
        | none => .unknown .noMatchingSchedule
        | some schedule => schedule.estimate usage

end PriceScheduleBook

end GreenTyper.Usage
