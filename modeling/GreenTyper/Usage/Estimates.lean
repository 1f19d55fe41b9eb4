/-
  GreenTyper.Usage.Estimates — what an estimate charges (`pricing.rs`).

  The token classes of a record partition its reported input and output. An estimate is the
  sum over them of tokens times rate in the natural numbers, or an overflow where that sum
  has no 64-bit value (`estimate_of_counts`): a product or a partial sum is never larger
  than the whole, so no check fails on the way to a result that fits.
-/

import GreenTyper.Usage.Books

namespace GreenTyper.Usage

open Lib Provider

/-! ## Token classes -/

/-- A partition of the input and output tokens. -/
structure TokenClasses (input output : Nat) where
  uncachedInput : Nat
  cachedInput : Nat
  cacheWrite : Nat
  visibleOutput : Nat
  reasoningOutput : Nat
  input_parts : uncachedInput + cachedInput + cacheWrite = input
  output_parts : visibleOutput + reasoningOutput = output

variable {input output : Nat}

def TokenClasses.charge (classes : TokenClasses input output) (rates : TokenRates) : CostBreakdown where
  uncachedInputPicoUnits := classes.uncachedInput * rates.inputMicrosPerMillion.toNat
  cachedInputPicoUnits := classes.cachedInput * rates.cachedInputMicrosPerMillion.toNat
  cacheWritePicoUnits := classes.cacheWrite * rates.cacheWriteMicrosPerMillion.toNat
  visibleOutputPicoUnits := classes.visibleOutput * rates.outputMicrosPerMillion.toNat
  reasoningOutputPicoUnits := classes.reasoningOutput * rates.reasoningOutputMicrosPerMillion.toNat

/-- The exact sum. -/
def TokenClasses.cost (classes : TokenClasses input output) (rates : TokenRates) : Nat :=
  classes.uncachedInput * rates.inputMicrosPerMillion.toNat + classes.cachedInput * rates.cachedInputMicrosPerMillion.toNat +
    classes.cacheWrite * rates.cacheWriteMicrosPerMillion.toNat + classes.visibleOutput * rates.outputMicrosPerMillion.toNat +
    classes.reasoningOutput * rates.reasoningOutputMicrosPerMillion.toNat

/-- Classes that the record can be charged by. Unreported cache writes are none where they
    are free; unreported reasoning may be any part of the output where it costs the same. -/
structure Charged (rates : TokenRates) (usage : UsageRecord) (classes : TokenClasses input output) : Prop where
  input_reported : usage.inputTokens.map UInt64.toNat = some input
  cached_reported : usage.cachedInputTokens.map UInt64.toNat = some classes.cachedInput
  cacheWrite_counted : usage.cacheWriteInputTokens.map UInt64.toNat = some classes.cacheWrite ∨
    usage.cacheWriteInputTokens = none ∧ rates.cacheWriteMicrosPerMillion = 0 ∧ classes.cacheWrite = 0
  output_reported : usage.outputTokens.map UInt64.toNat = some output
  reasoning_counted : usage.reasoningOutputTokens.map UInt64.toNat = some classes.reasoningOutput ∨
    usage.reasoningOutputTokens = none ∧ rates.reasoningOutputMicrosPerMillion = rates.outputMicrosPerMillion

/-- At one rate for all output, only its total counts. -/
theorem TokenClasses.cost_split {rates : TokenRates} (hrates : rates.reasoningOutputMicrosPerMillion = rates.outputMicrosPerMillion)
    {classes other : TokenClasses input output} (huncached : classes.uncachedInput = other.uncachedInput)
    (hcached : classes.cachedInput = other.cachedInput) (hwrite : classes.cacheWrite = other.cacheWrite) :
    classes.cost rates = other.cost rates := by
  unfold cost
  rw [huncached, hcached, hwrite, hrates, Nat.add_assoc _ (classes.visibleOutput * _), ← Nat.add_mul, classes.output_parts,
    Nat.add_assoc _ (other.visibleOutput * _), ← Nat.add_mul, other.output_parts]

/-! ## The arithmetic -/

theorem checkedTotal_eq (breakdown : CostBreakdown) : breakdown.checkedTotal =
    let total := breakdown.uncachedInputPicoUnits + breakdown.cachedInputPicoUnits + breakdown.cacheWritePicoUnits +
      breakdown.visibleOutputPicoUnits + breakdown.reasoningOutputPicoUnits
    if total < 2 ^ 64 then some total else none := by
  unfold CostBreakdown.checkedTotal
  rw [checkedSum_eq _ (by decide)]
  simp only [List.sum_cons, List.sum_nil, Nat.zero_add, Nat.add_zero, Nat.add_assoc]

theorem okOr_checkedMul {ε : Type} (a b : Nat) (e : ε) :
    okOr (checkedMul 64 a b) e = if a * b < 2 ^ 64 then .ok (a * b) else .error e := by
  rw [checkedMul_eq]
  split <;> rfl

theorem countOr_ok {reported : Option UInt64} {irrelevant : Bool} {reason : CostEstimateUnknownReason} {n : Nat} :
    countOr reported irrelevant reason = .ok n ↔ reported.map UInt64.toNat = some n ∨ reported = none ∧ irrelevant = true ∧ n = 0 := by
  cases reported with
  | some value => simp [countOr]
  | none => cases irrelevant <;> simp [countOr, eq_comm]

/-- The products and their total, from the classes on. -/
def chargeClasses (schedule : PriceSchedule) (accuracy : UsageAccuracy) (classes : TokenClasses input output) :
    CostEstimateOutcome :=
  if classes.cost schedule.rates < 2 ^ 64 then
    .known ⟨schedule, classes.cost schedule.rates, classes.charge schedule.rates, accuracy⟩
  else .unknown .arithmeticOverflow

variable {schedule : PriceSchedule} {usage : UsageRecord}

/-- The estimate from the counts the code settles on. -/
theorem estimate_of_counts {classes : TokenClasses input output} (hinput : usage.inputTokens.map UInt64.toNat = some input)
    (hcached : usage.cachedInputTokens.map UInt64.toNat = some classes.cachedInput)
    (hwrite : countOr usage.cacheWriteInputTokens (schedule.rates.cacheWriteMicrosPerMillion == 0) .missingCacheWriteInputTokens =
      .ok classes.cacheWrite)
    (houtput : usage.outputTokens.map UInt64.toNat = some output)
    (hreasoning : countOr usage.reasoningOutputTokens
      (schedule.rates.reasoningOutputMicrosPerMillion == schedule.rates.outputMicrosPerMillion) .missingReasoningOutputTokens =
      .ok classes.reasoningOutput) :
    schedule.estimate usage = chargeClasses schedule usage.accuracy classes := by
  obtain ⟨input', hinput', rfl⟩ := Option.map_eq_some_iff.mp hinput
  obtain ⟨cached, hcached', hcachedEq⟩ := Option.map_eq_some_iff.mp hcached
  obtain ⟨output', houtput', rfl⟩ := Option.map_eq_some_iff.mp houtput
  have huncached : (checkedSub input'.toNat classes.cachedInput).bind (checkedSub · classes.cacheWrite) = some classes.uncachedInput := by
    have hparts := classes.input_parts
    rw [Option.bind_eq_some_iff]
    exact ⟨classes.uncachedInput + classes.cacheWrite, checkedSub_some.mpr (by omega), checkedSub_some.mpr (by omega)⟩
  have hvisible : checkedSub output'.toNat classes.reasoningOutput = some classes.visibleOutput := by
    have hparts := classes.output_parts
    exact checkedSub_some.mpr (by omega)
  unfold PriceSchedule.estimate chargeClasses
  simp only [hinput', hcached', houtput', hwrite, hreasoning, okOr_some, ok_bind, huncached, hvisible, okOr_checkedMul, checkedTotal_eq,
    hcachedEq]
  by_cases hcost : classes.cost schedule.rates < 2 ^ 64
  · have hsum := hcost
    unfold TokenClasses.cost at hsum
    rw [if_pos hcost, if_pos (by omega), ok_bind, if_pos (by omega), ok_bind, if_pos (by omega), ok_bind, if_pos (by omega), ok_bind,
      if_pos (by omega), ok_bind, if_pos (by omega)]
    rfl
  · have hsum := hcost
    unfold TokenClasses.cost at hsum
    rw [if_neg hcost]
    -- with every product in range it is the total that is not; elsewhere a product already failed
    repeat' split
    · rw [ok_bind, ok_bind, ok_bind, ok_bind, ok_bind, if_neg (by omega)]
      rfl
    all_goals rfl

/-! ## Every estimate -/

/-- The classes the code charges: reasoning that is not reported counts as plain output. -/
theorem counted_of_charged {classes : TokenClasses input output} (h : Charged schedule.rates usage classes) :
    ∃ counted : TokenClasses input output, Charged schedule.rates usage counted ∧
      counted.cost schedule.rates = classes.cost schedule.rates ∧
      schedule.estimate usage = chargeClasses schedule usage.accuracy counted := by
  have hwrite : countOr usage.cacheWriteInputTokens (schedule.rates.cacheWriteMicrosPerMillion == 0) .missingCacheWriteInputTokens =
      .ok classes.cacheWrite := by
    rw [countOr_ok, beq_iff_eq]
    exact h.cacheWrite_counted
  rcases h.reasoning_counted with hreported | ⟨hnone, hrates⟩
  · exact ⟨classes, h, rfl, estimate_of_counts h.input_reported h.cached_reported hwrite h.output_reported
      (countOr_ok.mpr (.inl hreported))⟩
  · let plain : TokenClasses input output :=
      ⟨classes.uncachedInput, classes.cachedInput, classes.cacheWrite, output, 0, classes.input_parts, rfl⟩
    have hplain : Charged schedule.rates usage plain :=
      ⟨h.input_reported, h.cached_reported, h.cacheWrite_counted, h.output_reported, .inr ⟨hnone, hrates⟩⟩
    refine ⟨plain, hplain, TokenClasses.cost_split hrates rfl rfl rfl, ?_⟩
    exact @estimate_of_counts _ _ schedule usage plain h.input_reported h.cached_reported hwrite h.output_reported
      (countOr_ok.mpr (.inr ⟨hnone, by rw [beq_iff_eq]; exact hrates, rfl⟩))

/-- Known, or unknown for an overflow only. -/
def Arithmetic (x : Except CostEstimateUnknownReason CostEstimate) : Prop := ∀ reason, x = .error reason → reason = .arithmeticOverflow

theorem Arithmetic.bind {α : Type} {x : Except CostEstimateUnknownReason α} {f : α → Except CostEstimateUnknownReason CostEstimate}
    (h : Arithmetic (x >>= f)) (hx : ∀ reason, x = .error reason → reason ≠ .arithmeticOverflow) : ∃ a, x = .ok a ∧ Arithmetic (f a) := by
  cases x with
  | error reason => exact absurd (h reason rfl) (hx reason rfl)
  | ok a => exact ⟨a, rfl, h⟩

theorem okOr_reason {α : Type} {o : Option α} {e : CostEstimateUnknownReason} (he : e ≠ .arithmeticOverflow) :
    ∀ reason, okOr o e = .error reason → reason ≠ .arithmeticOverflow := by
  intro reason h
  cases o with
  | none => cases h; exact he
  | some a => cases h

theorem countOr_reason {reported : Option UInt64} {irrelevant : Bool} {e : CostEstimateUnknownReason} (he : e ≠ .arithmeticOverflow) :
    ∀ reason, countOr reported irrelevant e = .error reason → reason ≠ .arithmeticOverflow := by
  intro reason h
  unfold countOr at h
  split at h
  · cases h
  · split at h
    · cases h
    · cases h; exact he

/-- An estimate that reaches the arithmetic has classes to charge. -/
theorem charged_of_estimate (h : (∃ estimate, schedule.estimate usage = .known estimate) ∨ schedule.estimate usage = .unknown .arithmeticOverflow) :
    ∃ input output, ∃ classes : TokenClasses input output, Charged schedule.rates usage classes := by
  have harith : ∀ {x}, ((∃ estimate, CostEstimateOutcome.of x = .known estimate) ∨ CostEstimateOutcome.of x = .unknown .arithmeticOverflow) →
      Arithmetic x := by
    intro x hx reason hreason
    subst hreason
    rcases hx with ⟨_, hx⟩ | hx
    · cases hx
    · cases hx; rfl
  unfold PriceSchedule.estimate at h
  obtain ⟨input, hinput, h⟩ := (harith h).bind (okOr_reason (by decide))
  obtain ⟨cached, hcached, h⟩ := h.bind (okOr_reason (by decide))
  obtain ⟨cacheWrite, hwrite, h⟩ := h.bind (countOr_reason (by decide))
  obtain ⟨output, houtput, h⟩ := h.bind (okOr_reason (by decide))
  obtain ⟨reasoning, hreasoning, h⟩ := h.bind (countOr_reason (by decide))
  obtain ⟨uncached, huncached, h⟩ := h.bind (okOr_reason (by decide))
  obtain ⟨visible, hvisible, -⟩ := h.bind (okOr_reason (by decide))
  rw [okOr_ok] at hinput hcached houtput huncached hvisible
  obtain ⟨rest, hrest, huncached⟩ := Option.bind_eq_some_iff.mp huncached
  rw [checkedSub_some] at hrest huncached hvisible
  refine ⟨input.toNat, output.toNat, ⟨uncached, cached.toNat, cacheWrite, visible, reasoning, by omega, by omega⟩, ?_⟩
  refine ⟨by rw [hinput]; rfl, by rw [hcached]; rfl, ?_, by rw [houtput]; rfl, ?_⟩
  · rw [countOr_ok, beq_iff_eq] at hwrite
    exact hwrite
  · rw [countOr_ok, beq_iff_eq] at hreasoning
    exact hreasoning.imp_right fun ⟨hnone, hrates, _⟩ => ⟨hnone, hrates⟩

/-- The record with reasoning tokens reported. -/
def withReasoning (usage : UsageRecord) (reasoning : UInt64) : UsageRecord := { usage with reasoningOutputTokens := some reasoning }

/-- Classes of a record with any reasoning reported in place of none are classes of it. -/
theorem charged_withReasoning {reasoning : UInt64} {classes : TokenClasses input output} (hnone : usage.reasoningOutputTokens = none)
    (h : Charged schedule.rates usage classes) (hle : reasoning.toNat ≤ output) :
    ∃ split : TokenClasses input output, split.reasoningOutput = reasoning.toNat ∧
      Charged schedule.rates (withReasoning usage reasoning) split ∧ split.cost schedule.rates = classes.cost schedule.rates := by
  have hrates : schedule.rates.reasoningOutputMicrosPerMillion = schedule.rates.outputMicrosPerMillion := by
    rcases h.reasoning_counted with hreported | ⟨_, hrates⟩
    · rw [hnone] at hreported
      cases hreported
    · exact hrates
  refine ⟨⟨classes.uncachedInput, classes.cachedInput, classes.cacheWrite, output - reasoning.toNat, reasoning.toNat,
    classes.input_parts, by omega⟩, rfl, ?_, TokenClasses.cost_split hrates rfl rfl rfl⟩
  exact ⟨h.input_reported, h.cached_reported, h.cacheWrite_counted, h.output_reported, .inl rfl⟩

theorem chargeClasses_known {accuracy : UsageAccuracy} {classes : TokenClasses input output} {estimate : CostEstimate}
    (h : chargeClasses schedule accuracy classes = .known estimate) : classes.cost schedule.rates < 2 ^ 64 ∧
      estimate.amountPicoUnits = classes.cost schedule.rates ∧ estimate.breakdown = classes.charge schedule.rates := by
  unfold chargeClasses at h
  split at h
  · cases h
    exact ⟨‹_›, rfl, rfl⟩
  · cases h

variable {estimate : CostEstimate}

theorem estimate_breakdown (h : schedule.estimate usage = .known estimate) : ∃ input output, ∃ classes : TokenClasses input output,
    Charged schedule.rates usage classes ∧ estimate.breakdown = classes.charge schedule.rates := by
  obtain ⟨input, output, classes, hcharged⟩ := charged_of_estimate (.inl ⟨estimate, h⟩)
  obtain ⟨counted, hcounted, _, heq⟩ := counted_of_charged hcharged
  exact ⟨input, output, counted, hcounted, (chargeClasses_known (heq.symm.trans h)).2.2⟩

theorem estimate_amount (h : schedule.estimate usage = .known estimate) {classes : TokenClasses input output}
    (hcharged : Charged schedule.rates usage classes) :
    classes.cost schedule.rates < 2 ^ 64 ∧ estimate.amountPicoUnits = classes.cost schedule.rates := by
  obtain ⟨counted, _, hcost, heq⟩ := counted_of_charged hcharged
  obtain ⟨hfits, hamount, _⟩ := chargeClasses_known (heq.symm.trans h)
  rw [← hcost]
  exact ⟨hfits, hamount⟩

theorem estimate_overflow : schedule.estimate usage = .unknown .arithmeticOverflow ↔
    ∃ input output, ∃ classes : TokenClasses input output, Charged schedule.rates usage classes ∧
      2 ^ 64 ≤ classes.cost schedule.rates := by
  constructor
  · intro hover
    obtain ⟨input, output, classes, hcharged⟩ := charged_of_estimate (.inr hover)
    obtain ⟨counted, hcounted, _, heq⟩ := counted_of_charged hcharged
    refine ⟨input, output, counted, hcounted, ?_⟩
    by_cases hfits : counted.cost schedule.rates < 2 ^ 64
    · rw [heq, chargeClasses, if_pos hfits] at hover
      cases hover
    · omega
  · intro ⟨input, output, classes, hcharged, hover⟩
    obtain ⟨counted, _, hcost, heq⟩ := counted_of_charged hcharged
    rw [heq]
    exact if_neg (by omega)

/-- Without a report of reasoning tokens the output rates are one, and whatever part of the
    output they are, the amount is the same. -/
theorem estimate_split (h : schedule.estimate usage = .known estimate) (hnone : usage.reasoningOutputTokens = none) :
    schedule.rates.reasoningOutputMicrosPerMillion = schedule.rates.outputMicrosPerMillion ∧
      ∀ outputTokens reasoning, usage.outputTokens = some outputTokens → reasoning ≤ outputTokens →
        ∃ split, schedule.estimate (withReasoning usage reasoning) = .known split ∧ split.amountPicoUnits = estimate.amountPicoUnits := by
  obtain ⟨input, output, classes, hcharged⟩ := charged_of_estimate (.inl ⟨estimate, h⟩)
  refine ⟨?_, fun outputTokens reasoning houtput hle => ?_⟩
  · rcases hcharged.reasoning_counted with hreported | ⟨_, hrates⟩
    · rw [hnone] at hreported
      cases hreported
    · exact hrates
  · have hreported := hcharged.output_reported
    rw [houtput] at hreported
    have hwithin : reasoning.toNat ≤ output := by
      rw [← Option.some.inj hreported]
      exact UInt64.le_iff_toNat_le.mp hle
    obtain ⟨split, _, hsplit, hcost⟩ := charged_withReasoning hnone hcharged hwithin
    obtain ⟨counted, _, hcountedCost, heq⟩ := counted_of_charged hsplit
    obtain ⟨hfits, hamount⟩ := estimate_amount h hcharged
    refine ⟨_, heq.trans (if_pos (by omega)), ?_⟩
    rw [hamount, ← hcost, ← hcountedCost]

/-- (1) A known amount is the exact sum over classes that partition the reported tokens, and
    over any other classes the record can be charged by. (2) Overflow is reported exactly
    where the exact sum has no 64-bit value. (3) Where reasoning is not reported, the rates
    are one and each possible report of it gives the same amount. -/
theorem estimate_exact (schedule : PriceSchedule) (usage : UsageRecord) :
    (∀ estimate, schedule.estimate usage = .known estimate →
      (∃ input output, ∃ classes : TokenClasses input output, Charged schedule.rates usage classes ∧
        estimate.breakdown = classes.charge schedule.rates) ∧
      (∀ input output, ∀ classes : TokenClasses input output, Charged schedule.rates usage classes →
        estimate.amountPicoUnits = classes.cost schedule.rates) ∧
      (usage.reasoningOutputTokens = none →
        schedule.rates.reasoningOutputMicrosPerMillion = schedule.rates.outputMicrosPerMillion ∧
        ∀ outputTokens reasoning, usage.outputTokens = some outputTokens → reasoning ≤ outputTokens →
          ∃ split, schedule.estimate (withReasoning usage reasoning) = .known split ∧
            split.amountPicoUnits = estimate.amountPicoUnits)) ∧
    (schedule.estimate usage = .unknown .arithmeticOverflow ↔
      ∃ input output, ∃ classes : TokenClasses input output, Charged schedule.rates usage classes ∧
        2 ^ 64 ≤ classes.cost schedule.rates) :=
  ⟨fun _ h => ⟨estimate_breakdown h, fun _ _ _ hcharged => (estimate_amount h hcharged).2, estimate_split h⟩, estimate_overflow⟩

/-- The estimate of an attempt is that of one of the book's schedules. -/
theorem estimateAttempt_known {book : PriceScheduleBook} {profile model : String} {dialect : Option ProviderDialect}
    {startedAt : UsageTimestamp} (h : book.estimateAttempt profile model dialect startedAt usage = .known estimate) :
    ∃ schedule ∈ book.schedules, schedule.estimate usage = .known estimate := by
  rcases book.estimateAttempt_cases profile model dialect startedAt usage with ⟨reason, hunknown, _⟩ | ⟨schedule, hmem, _, _, _, hestimate⟩
  · rw [hunknown] at h
    cases h
  · exact ⟨schedule, hmem, hestimate.symm.trans h⟩

end GreenTyper.Usage
