/-
  GreenTyper.Runtime.Steps — what each event does, once: when it is accepted and the state
  that it leaves.

  The invariants of the Runtime are proved from these, and so is that the kernel writes only
  what its state accepts.
-/

import GreenTyper.Lib.Result
import GreenTyper.Runtime.State
import Mathlib.Data.List.Induction

namespace GreenTyper.Runtime

open Lib Config Context Provider Usage
open GreenTyper.Ledger (LedgerHead)
open GreenTyper.Team (AgentId)

@[simp] theorem observeId_ok {next observed n : Nat} :
    observeId next observed = .ok n ↔ observed + 1 < 2 ^ 64 ∧ n = max next (observed + 1) := by
  unfold observeId
  simp only [bind_ok, okOr_ok, checkedAdd_some, pure, Except.pure, Except.ok.injEq]
  constructor
  · intro h
    obtain ⟨candidate, ⟨hlt, hcandidate⟩, hn⟩ := h
    exact ⟨hlt, by rw [← hn, hcandidate]⟩
  · intro h
    obtain ⟨hlt, hn⟩ := h
    exact ⟨_, ⟨hlt, rfl⟩, hn.symm⟩

theorem validateInput_ok {input : String} : validateInput input = .ok () ↔ isBlank input = false ∧ byteLen input ≤ maxInputBytes := by
  unfold validateInput
  rw [seq_ok, require_ok, require_ok]

theorem canonicalItem_ok {id : ItemId} {turn : TurnId} {role : ItemRole} {text : String} {item : CanonicalItem} :
    canonicalItem id turn role text = .ok item ↔ isBlank text = false ∧ byteLen text ≤ maxItemTextBytes ∧
      item.id = id ∧ item.turn = turn ∧ item.role = role ∧ item.text = text := by
  unfold canonicalItem
  by_cases hshown : isBlank text = false
  · by_cases hfits : byteLen text ≤ maxItemTextBytes
    · rw [dif_pos hshown, dif_pos hfits, Except.ok.injEq]
      constructor
      · intro h
        subst h
        exact ⟨hshown, hfits, rfl, rfl, rfl, rfl⟩
      · intro h
        obtain ⟨_, _, hid, hturn, hrole, htext⟩ := h
        cases item
        simp_all
    · rw [dif_pos hshown, dif_neg hfits]
      simp [hfits]
  · rw [dif_neg hshown]
    simp [hshown]

namespace RuntimeState

variable {sha256 : Sha256} {state next : RuntimeState} {turn : TurnId}

@[simp] theorem pendingFor_ok {pending : PendingTurn} : state.pendingFor turn = .ok pending ↔ state.pending = some pending ∧ pending.turn = turn := by
  unfold pendingFor
  rw [okOr_ok, Option.filter_eq_some_iff, decide_eq_true_iff]

theorem contextCheckpointPublished_ok {checkpoint : ContextCheckpoint} : state.contextCheckpointPublished sha256 checkpoint = .ok next ↔
    state.pending = none ∧ checkpoint.view.validateAgainstItems sha256 state.items = .ok () ∧
      next = { state with contextCheckpoint := some checkpoint } := by
  unfold contextCheckpointPublished
  simp only [seq_ok, require_ok, mapError_ok, pure, Except.pure, Except.ok.injEq, Option.isNone_iff_eq_none, eq_comm (a := next)]

theorem modelSelectionStaged_ok {agent : AgentId} {selection : ModelSelection} : state.modelSelectionStaged agent selection = .ok next ↔
    state.pending = none ∧ (∀ staged, state.pendingModelSelection = some staged → staged.agent = agent) ∧
      next = { state with pendingModelSelection := some ⟨agent, selection⟩ } := by
  unfold modelSelectionStaged
  simp only [seq_ok, require_ok, pure, Except.pure, Except.ok.injEq, Option.isNone_iff_eq_none, Option.all_eq_true, decide_eq_true_iff,
    eq_comm (a := next)]

theorem threadCreated_ok {thread : ThreadId} : state.threadCreated thread = .ok next ↔
    state.thread = none ∧ state.turns.entries = [] ∧ (thread : Nat) + 1 < 2 ^ 64 ∧
      next = { state with thread := some thread, nextThread := max state.nextThread (thread + 1) } := by
  unfold threadCreated
  simp only [bind_ok, exists_unit, require_ok, observeId_ok, pure, Except.pure, Except.ok.injEq, List.isEmpty_iff, and_assoc,
    exists_and_left, exists_eq_left, eq_comm (a := next)]

theorem configFrozen_ok {epoch : ConfigEpoch} : state.configFrozen epoch = .ok next ↔
    state.configs.get epoch.id = none ∧ (epoch.id : Nat) + 1 < 2 ^ 64 ∧
      next = { state with configs := state.configs.insert epoch.id epoch, nextConfig := max state.nextConfig (epoch.id + 1) } := by
  unfold configFrozen
  simp only [bind_ok, exists_unit, require_ok, observeId_ok, pure, Except.pure, Except.ok.injEq, Option.isNone_iff_eq_none, and_assoc,
    exists_and_left, exists_eq_left, eq_comm (a := next)]

theorem providerFrozen_ok {epoch : ProviderEpoch} : state.providerFrozen epoch = .ok next ↔
    state.providers.get epoch.id = none ∧ (epoch.id : Nat) + 1 < 2 ^ 64 ∧
      next = { state with providers := state.providers.insert epoch.id epoch, nextProvider := max state.nextProvider (epoch.id + 1) } := by
  unfold providerFrozen
  simp only [bind_ok, exists_unit, require_ok, observeId_ok, pure, Except.pure, Except.ok.injEq, Option.isNone_iff_eq_none, and_assoc,
    exists_and_left, exists_eq_left, eq_comm (a := next)]

/-- A selection that is staged is the one that the Turn takes. -/
def TakesSelection (state : RuntimeState) (config : ConfigEpochId) (agent : Option AgentId) : Prop :=
  ∀ staged, state.pendingModelSelection = some staged → ∃ epoch, state.configs.get config = some epoch ∧ agent = some staged.agent ∧
    staged.selection.Matches epoch

theorem takesSelection_ok {config : ConfigEpochId} {agent : Option AgentId} :
    state.takesSelection config agent = .ok () ↔ state.TakesSelection config agent := by
  unfold takesSelection TakesSelection
  cases state.pendingModelSelection with
  | none => simp [Option.forM, pure, Except.pure]
  | some staged => simp [Option.forM, bind_ok]

/-- A Turn at its admission. -/
def admittedTurn (turn : TurnId) (config : ConfigEpochId) (provider : ProviderEpochId) (agent : Option AgentId) (input : String) :
    PendingTurn :=
  ⟨turn, config, provider, 0, agent, input, .admitted, none, "", none, false, none, none, none, 1, none⟩

structure Admissible (state : RuntimeState) (thread : ThreadId) (turn : TurnId) (userItem : ItemId) (config : ConfigEpochId)
    (provider : ProviderEpochId) (fallbacks : List FrozenProviderFallback) (agent : Option AgentId) (input : String) : Prop where
  thread : state.thread = some thread
  idle : state.pending = none
  snapshots : state.configs.contains config = true ∧ state.providers.contains provider = true
  few : fallbacks.length < maxModelPresetFallbackCandidates
  fallbacks : state.ValidFallbacks config provider fallbacks
  selection : state.TakesSelection config agent
  new : state.turns.get turn = none ∧ state.itemExists userItem = false
  input : isBlank input = false ∧ byteLen input ≤ maxInputBytes
  ids : (turn : Nat) + 1 < 2 ^ 64 ∧ (userItem : Nat) + 1 < 2 ^ 64

theorem turnAdmitted_ok {thread : ThreadId} {userItem : ItemId} {config : ConfigEpochId} {provider : ProviderEpochId}
    {fallbacks : List FrozenProviderFallback} {agent : Option AgentId} {input : String} :
    state.turnAdmitted thread turn userItem config provider fallbacks agent input = .ok next ↔
      state.Admissible thread turn userItem config provider fallbacks agent input ∧ ∃ item : CanonicalItem,
        (item.id = userItem ∧ item.turn = turn ∧ item.role = .user ∧ item.text = input) ∧
        next = { state with
          pendingModelSelection := none
          items := state.items ++ [item]
          turns := state.turns.insert turn ⟨userItem, config, provider, fallbacks, agent, none, none, false, false⟩
          pending := some (admittedTurn turn config provider agent input)
          nextTurn := max state.nextTurn (turn + 1)
          nextItem := max state.nextItem (userItem + 1) } := by
  unfold turnAdmitted
  simp only [bind_ok, exists_unit, require_ok, takesSelection_ok, validateInput_ok, canonicalItem_ok, observeId_ok, pure, Except.pure,
    Except.ok.injEq, Option.isNone_iff_eq_none]
  constructor
  · intro h
    obtain ⟨⟨hthread, hidle⟩, hsnapshots, hfew, hfallbacks, hselection, ⟨hturn, hitem⟩, hinput, item, ⟨_, _, hid, hof, hrole, htext⟩,
      _, ⟨hlt, rfl⟩, _, ⟨hlt', rfl⟩, hnext⟩ := h
    have hnew : state.turns.get turn = none := by
      simpa [OrdMap.contains] using hturn
    exact ⟨⟨hthread, hidle, hsnapshots, hfew, hfallbacks, hselection, ⟨hnew, hitem⟩, hinput, hlt, hlt'⟩, item,
      ⟨by rw [hid], by rw [hof], hrole, htext⟩, hnext.symm⟩
  · intro h
    obtain ⟨h, item, ⟨hid, hof, hrole, htext⟩, hnext⟩ := h
    have hfits : byteLen input ≤ maxItemTextBytes := Nat.le_trans h.input.2 (by decide)
    have hturn : state.turns.contains turn = false := by
      simp [OrdMap.contains, h.new.1]
    exact ⟨⟨h.thread, h.idle⟩, h.snapshots, h.few, h.fallbacks, h.selection, ⟨hturn, h.new.2⟩, h.input, item,
      ⟨h.input.1, hfits, hid, hof, hrole, htext⟩, _, ⟨h.ids.1, rfl⟩, _, ⟨h.ids.2, rfl⟩, hnext.symm⟩

theorem assistantItemStarted_ok {item : ItemId} : state.assistantItemStarted turn item = .ok next ↔
    state.itemExists item = false ∧ (item : Nat) + 1 < 2 ^ 64 ∧ ∃ pending, state.pending = some pending ∧ pending.turn = turn ∧
      pending.phase = .admitted ∧ pending.assistantItem = none ∧
      next = { state with
        pending := some { pending with phase := .streaming, assistantItem := some item }, nextItem := max state.nextItem (item + 1) } := by
  unfold assistantItemStarted
  simp only [bind_ok, exists_unit, require_ok, pendingFor_ok, observeId_ok, pure, Except.pure, Except.ok.injEq]
  constructor
  · intro h
    obtain ⟨hnew, pending, ⟨hpending, hturn⟩, ⟨hphase, hitem⟩, _, ⟨hlt, rfl⟩, hnext⟩ := h
    exact ⟨hnew, hlt, pending, hpending, hturn, hphase, hitem, hnext.symm⟩
  · intro h
    obtain ⟨hnew, hlt, pending, hpending, hturn, hphase, hitem, hnext⟩ := h
    exact ⟨hnew, pending, ⟨hpending, hturn⟩, ⟨hphase, hitem⟩, _, ⟨hlt, rfl⟩, hnext.symm⟩

theorem assistantTextDelta_ok {item : ItemId} {delta : String} : state.assistantTextDelta turn item delta = .ok next ↔
    delta ≠ "" ∧ ∃ pending, state.pending = some pending ∧ pending.turn = turn ∧ pending.phase = .streaming ∧
      pending.assistantItem = some item ∧ byteLen pending.streamedText + byteLen delta ≤ maxInputBytes ∧
      next = { state with pending := some { pending with streamedText := pending.streamedText ++ delta } } := by
  unfold assistantTextDelta
  simp only [bind_ok, exists_unit, require_ok, pendingFor_ok, okOr_ok, checkedAdd_some, pure, Except.pure, Except.ok.injEq]
  constructor
  · intro h
    obtain ⟨hne, pending, ⟨hpending, hturn⟩, ⟨hphase, hitem⟩, _, ⟨_, rfl⟩, hle, hnext⟩ := h
    exact ⟨hne, pending, hpending, hturn, hphase, hitem, hle, hnext.symm⟩
  · intro h
    obtain ⟨hne, pending, hpending, hturn, hphase, hitem, hle, hnext⟩ := h
    have hlt : byteLen pending.streamedText + byteLen delta < 2 ^ 64 := by
      have : maxInputBytes < 2 ^ 64 := by decide
      omega
    exact ⟨hne, pending, ⟨hpending, hturn⟩, ⟨hphase, hitem⟩, _, ⟨hlt, rfl⟩, hle, hnext.symm⟩

theorem outputAcknowledged_ok {delivery : DeliveryId} : state.outputAcknowledged turn delivery = .ok next ↔
    ∃ pending, state.pending = some pending ∧ pending.turn = turn ∧ pending.phase = .prepared ∧ pending.acknowledged = false ∧
      pending.prepared.map (·.delivery) = some delivery ∧ delivery ∉ state.acknowledged ∧
      next = { state with pending := some { pending with acknowledged := true }, acknowledged := insert delivery state.acknowledged } := by
  unfold outputAcknowledged
  simp only [bind_ok, exists_unit, require_ok, pendingFor_ok, pure, Except.pure, Except.ok.injEq, and_assoc, eq_comm (a := next)]

theorem turnCompleted_ok : state.turnCompleted turn = .ok next ↔
    ∃ pending record, state.pending = some pending ∧ pending.turn = turn ∧ pending.phase = .prepared ∧ pending.acknowledged = true ∧
      state.turns.get turn = some record ∧
      next = { state with turns := state.turns.insert turn { record with completed := true }, pending := none } := by
  unfold turnCompleted
  simp only [bind_ok, exists_unit, require_ok, pendingFor_ok, okOr_ok, pure, Except.pure, Except.ok.injEq, and_assoc, eq_comm (a := next),
    exists_and_left]

theorem turnBlocked_ok {reason : String} {origin : TurnBlockOrigin} {stage : Option ProviderUnavailableStage} :
    state.turnBlocked turn reason origin stage = .ok next ↔ (BlockReason reason ∧ (stage = none ∨ origin = .provider)) ∧
      ∃ pending, state.pending = some pending ∧ pending.turn = turn ∧ pending.phase = .admitted ∧ pending.openUsageAttempt = none ∧
        next = { state with pending := some { pending with
          phase := .blocked, blockedReason := some reason, blockOrigin := some origin, providerUnavailableStage := stage } } := by
  unfold turnBlocked
  simp only [bind_ok, exists_unit, require_ok, pendingFor_ok, pure, Except.pure, Except.ok.injEq, and_assoc, eq_comm (a := next)]

theorem turnCancelled_ok : state.turnCancelled turn = .ok next ↔
    ∃ pending record, state.pending = some pending ∧ pending.turn = turn ∧ pending.Recoverable ∧ state.turns.get turn = some record ∧
      record.completed = false ∧ record.cancelled = false ∧
      next = { state with turns := state.turns.insert turn { record with cancelled := true }, pending := none } := by
  unfold turnCancelled
  simp only [bind_ok, exists_unit, require_ok, pendingFor_ok, okOr_ok, pure, Except.pure, Except.ok.injEq, and_assoc, eq_comm (a := next),
    exists_and_left]

theorem turnRetryRequested_ok : state.turnRetryRequested turn = .ok next ↔
    ∃ pending, state.pending = some pending ∧ pending.turn = turn ∧ pending.Recoverable ∧
      providerStageIsRetryable pending.providerUnavailableStage = true ∧ next = { state with pending := some pending.unblocked } := by
  unfold turnRetryRequested
  simp only [bind_ok, exists_unit, require_ok, pendingFor_ok, pure, Except.pure, Except.ok.injEq, and_assoc, eq_comm (a := next)]

theorem frozenFallback_some {index : Nat} {fallback : FrozenProviderFallback} : state.frozenFallback turn index = some fallback ↔
    ∃ record, state.turns.get turn = some record ∧ index ≠ 0 ∧ record.fallbacks[index - 1]? = some fallback := by
  unfold frozenFallback
  rw [Option.bind_eq_some_iff]
  by_cases hzero : index = 0
  · simp [hzero]
  · simp [hzero]

theorem providerFallbackRequested_ok {index : Nat} : state.providerFallbackRequested turn index = .ok next ↔
    ∃ fallback pending, state.frozenFallback turn index = some fallback ∧ state.pending = some pending ∧ pending.turn = turn ∧
      pending.Recoverable ∧ providerStageIsRetryable pending.providerUnavailableStage = true ∧
      (pending.fallbackIndex + 1 < 2 ^ 32 ∧ index = pending.fallbackIndex + 1) ∧
      next = { state with pending := some { pending.unblocked with
        config := fallback.config, provider := fallback.provider, fallbackIndex := index } } := by
  unfold providerFallbackRequested
  simp only [bind_ok, exists_unit, require_ok, pendingFor_ok, okOr_ok, checkedAdd_some, pure, Except.pure, Except.ok.injEq, and_assoc,
    eq_comm (a := next), exists_and_left]

theorem usageAttemptStarted_ok {attempt : Nat} {startedAt : UsageTimestamp} : state.usageAttemptStarted turn attempt startedAt = .ok next ↔
    ∃ pending, state.pending = some pending ∧ pending.turn = turn ∧ pending.phase = .admitted ∧ pending.openUsageAttempt = none ∧
      (attempt = pending.nextUsageAttempt ∧ attempt ≠ 0) ∧ pending.nextUsageAttempt + 1 < 2 ^ 32 ∧
      next = { state with pending := some { pending with
        nextUsageAttempt := pending.nextUsageAttempt + 1, openUsageAttempt := some ⟨attempt, startedAt⟩ } } := by
  unfold usageAttemptStarted
  simp only [bind_ok, exists_unit, require_ok, pendingFor_ok, okOr_ok, checkedAdd_some, pure, Except.pure, Except.ok.injEq, and_assoc,
    exists_and_left, exists_eq_left, eq_comm (a := next)]

theorem usageContext_ok {context : UsageContext} (h : state.usageContext turn = .ok context) :
    ∃ thread record provider config, state.thread = some thread ∧ state.turns.get turn = some record ∧
      (∀ pending, state.pending = some pending → pending.turn = turn → state.providers.get pending.provider = some provider ∧
        state.configs.get pending.config = some config) ∧
      context = ⟨thread, record.agent, provider.profile, provider.model, provider.dialect, config.resolved.contextMode.value,
        config.resolved.reasoningEffort.map (·.value), config.resolved.serviceTier.map (·.value)⟩ := by
  unfold usageContext at h
  simp only [bind_ok, okOr_ok, pure, Except.pure, Except.ok.injEq] at h
  obtain ⟨thread, hthread, record, hrecord, provider, hprovider, config, hconfig, hcontext⟩ := h
  refine ⟨thread, record, provider, config, hthread, hrecord, ?_, hcontext.symm⟩
  intro pending hpending hturn
  have hfilter : state.pending.filter (·.turn = turn) = some pending := by
    rw [hpending, Option.filter_some_pos (by simpa using hturn)]
  rw [hfilter] at hprovider hconfig
  exact ⟨hprovider, hconfig⟩

theorem usageAttemptFinished_ok {attempt : Nat} {completedAt : UsageTimestamp} {outcome : UsageAttemptOutcome}
    {usage : Option UsageRecord} {names : List String} {charged : Bool} :
    state.usageAttemptFinished turn attempt completedAt outcome usage names charged = .ok next ↔
      (outcome = .succeeded ↔ usage.isSome = true) ∧ ∃ pending opened config windows context created books,
        state.pending = some pending ∧ (pending.turn = turn ∧ pending.phase = .admitted) ∧
        (pending.openUsageAttempt = some opened ∧ opened.attempt = attempt) ∧ opened.startedAt.unixMillis ≤ completedAt.unixMillis ∧
        state.configs.get pending.config = some config ∧ resolveWindows config.usageWindows names = .ok windows ∧
        state.usageContext turn = .ok context ∧
        usageAttempt context turn attempt (some opened.startedAt) (some completedAt) outcome usage windows = .ok created ∧
        state.usage.record created = .ok books ∧
        next = { state with
          pending := some { pending with openUsageAttempt := none }
          usage := books
          pendingCostEvaluation := if charged then some (turn, attempt) else state.pendingCostEvaluation } := by
  unfold usageAttemptFinished
  simp only [bind_ok, exists_unit, require_ok, okOr_ok, mapError_ok, Option.filter_eq_some_iff, decide_eq_true_iff, pure, Except.pure,
    Except.ok.injEq]
  constructor
  · intro h
    obtain ⟨hboth, pending, ⟨hpending, hturn⟩, opened, hopened, hle, config, hconfig, windows, hwindows, context, hcontext, created,
      hcreated, books, hbooks, hnext⟩ := h
    exact ⟨hboth, pending, opened, config, windows, context, created, books, hpending, hturn, hopened, hle, hconfig, hwindows, hcontext,
      hcreated, hbooks, hnext.symm⟩
  · intro h
    obtain ⟨hboth, pending, opened, config, windows, context, created, books, hpending, hturn, hopened, hle, hconfig, hwindows, hcontext,
      hcreated, hbooks, hnext⟩ := h
    exact ⟨hboth, pending, ⟨hpending, hturn⟩, opened, hopened, hle, config, hconfig, windows, hwindows, context, hcontext, created,
      hcreated, books, hbooks, hnext.symm⟩

theorem usageAttemptCostEvaluated_ok {attempt : Nat} {evaluation : FrozenCostEvaluation} :
    state.usageAttemptCostEvaluated turn attempt evaluation = .ok next ↔
      state.pendingCostEvaluation = some (turn, attempt) ∧ ∃ context pending config record expected books,
        state.usageContext turn = .ok context ∧ (state.pending = some pending ∧ pending.turn = turn) ∧
        state.configs.get pending.config = some config ∧ state.usage.attempt turn attempt = some record ∧
        expectedCost context config record = .ok expected ∧ evaluation.matches expected = true ∧
        state.usage.recordCostEvaluation turn attempt expected = .ok books ∧
        next = { state with usage := books, pendingCostEvaluation := none } := by
  unfold usageAttemptCostEvaluated
  simp only [bind_ok, exists_unit, require_ok, okOr_ok, mapError_ok, Option.bind_eq_some_iff, Option.filter_eq_some_iff,
    decide_eq_true_iff, pure, Except.pure, Except.ok.injEq]
  constructor
  · intro h
    obtain ⟨hdue, context, hcontext, config, ⟨pending, hpending, hconfig⟩, record, hrecord, expected, hexpected, hmatches, books, hbooks,
      hnext⟩ := h
    exact ⟨hdue, context, pending, config, record, expected, books, hcontext, hpending, hconfig, hrecord, hexpected, hmatches, hbooks,
      hnext.symm⟩
  · intro h
    obtain ⟨hdue, context, pending, config, record, expected, books, hcontext, hpending, hconfig, hrecord, hexpected, hmatches, hbooks,
      hnext⟩ := h
    exact ⟨hdue, context, hcontext, config, ⟨pending, hpending, hconfig⟩, record, hrecord, expected, hexpected, hmatches, books, hbooks,
      hnext.symm⟩

/-- The usage that an output brings with it, and the number after its attempts. -/
def OutputUsage (state : RuntimeState) (pending : PendingTurn) (usageRecords : List UsageRecord) (legacyUsage : Bool)
    (books : UsageProjection) (nextUsageAttempt : Nat) : Prop :=
  if legacyUsage then ∃ context, state.usageContext pending.turn = .ok context ∧
    usageRecords.zipIdx.foldlM (legacyAttempt context pending.turn pending.nextUsageAttempt) state.usage = .ok books ∧
    pending.nextUsageAttempt + usageRecords.length < 2 ^ 32 ∧ nextUsageAttempt = pending.nextUsageAttempt + usageRecords.length
  else pending.openUsageAttempt = none ∧ books = state.usage ∧ nextUsageAttempt = pending.nextUsageAttempt

theorem recordLegacyUsage_ok {pending : PendingTurn} {usageRecords : List UsageRecord} (hpending : state.pending = some pending)
    (hturn : pending.turn = turn) : state.recordLegacyUsage turn usageRecords = .ok next ↔
      ∃ books nextUsageAttempt, state.OutputUsage pending usageRecords true books nextUsageAttempt ∧
        next = { state with usage := books, pending := some { pending with nextUsageAttempt } } := by
  subst hturn
  have hfor : state.pendingFor pending.turn = .ok pending := pendingFor_ok.mpr ⟨hpending, rfl⟩
  unfold recordLegacyUsage OutputUsage
  simp only [bind_ok, hfor, okOr_ok, checkedAdd_some, pure, Except.pure, Except.ok.injEq, exists_eq_left', if_true]
  constructor
  · intro h
    obtain ⟨context, hcontext, books, hbooks, _, ⟨hlt, rfl⟩, hnext⟩ := h
    exact ⟨books, _, ⟨context, hcontext, hbooks, hlt, rfl⟩, hnext.symm⟩
  · intro h
    obtain ⟨books, _, ⟨context, hcontext, hbooks, hlt, rfl⟩, hnext⟩ := h
    exact ⟨context, hcontext, books, hbooks, _, ⟨hlt, rfl⟩, hnext.symm⟩

theorem recordOutputUsage_ok {pending : PendingTurn} {usageRecords : List UsageRecord} {legacyUsage : Bool}
    (hpending : state.pending = some pending) (hturn : pending.turn = turn) :
    state.recordOutputUsage turn pending usageRecords legacyUsage = .ok next ↔
      ∃ books nextUsageAttempt, state.OutputUsage pending usageRecords legacyUsage books nextUsageAttempt ∧
        next = { state with usage := books, pending := some { pending with nextUsageAttempt } } := by
  unfold recordOutputUsage
  by_cases hlegacy : legacyUsage = true
  · subst hlegacy
    exact recordLegacyUsage_ok hpending hturn
  · have hsame : state = { state with usage := state.usage, pending := some { pending with nextUsageAttempt := pending.nextUsageAttempt } } := by
      rw [← hpending]
    unfold OutputUsage
    rw [if_neg hlegacy]
    simp only [seq_ok, require_ok, pure, Except.pure, Except.ok.injEq]
    constructor
    · intro h
      obtain ⟨hopened, hnext⟩ := h
      refine ⟨state.usage, pending.nextUsageAttempt, ?_, hnext.symm.trans hsame⟩
      rw [if_neg hlegacy]
      exact ⟨hopened, rfl, rfl⟩
    · intro h
      obtain ⟨books, nextUsageAttempt, husage, hnext⟩ := h
      rw [if_neg hlegacy] at husage
      obtain ⟨hopened, rfl, rfl⟩ := husage
      exact ⟨hopened, hsame.trans hnext.symm⟩

/-- What an output needs of the state and of the Turn that is being written. -/
structure Preparable (state : RuntimeState) (pending : PendingTurn) (record : TurnRecord) (item : ItemId) (delivery : DeliveryId)
    (text : String) (usageRecords : List UsageRecord) : Prop where
  newDelivery : delivery ∉ state.acknowledged
  records : usageRecords ≠ [] ∧ usageRecords.length ≤ maxUsageRecordsPerTurn
  current : state.pending = some pending
  written : pending.phase = .streaming ∧ pending.assistantItem = some item ∧ pending.streamedText = text ∧ pending.prepared = none
  shown : isBlank text = false
  bounded : ∃ config, state.configs.get pending.config = some config ∧ byteLen text ≤ config.maxOutputBytes
  recorded : state.turns.get pending.turn = some record
  ids : (delivery : Nat) + 1 < 2 ^ 64

theorem maxOutputBytes_le (config : ConfigEpoch) : config.maxOutputBytes ≤ maxItemTextBytes := by
  have hle : config.maxOutputBytes ≤ Config.maxOutputBytes.toNat := UInt32.le_iff_toNat_le.mp config.bounded
  exact Nat.le_trans hle (by decide)

theorem outputPrepared_ok {item : ItemId} {delivery : DeliveryId} {text : String} {usageRecords : List UsageRecord} {legacyUsage : Bool} :
    state.outputPrepared turn item delivery text usageRecords legacyUsage = .ok next ↔
      ∃ pending record books nextUsageAttempt, state.Preparable pending record item delivery text usageRecords ∧ pending.turn = turn ∧
        state.OutputUsage pending usageRecords legacyUsage books nextUsageAttempt ∧ ∃ assistant : CanonicalItem,
        (assistant.id = item ∧ assistant.turn = turn ∧ assistant.role = .assistant ∧ assistant.text = text) ∧
        next = { state with
          items := state.items ++ [assistant]
          pending := some { pending with phase := .prepared, prepared := some ⟨item, delivery, usageRecords⟩, nextUsageAttempt }
          turns := state.turns.insert turn { record with assistantItem := some item, delivery := some delivery }
          usage := books
          nextDelivery := max state.nextDelivery (delivery + 1) } := by
  unfold outputPrepared
  simp only [bind_ok, exists_unit, require_ok, pendingFor_ok, okOr_ok, canonicalItem_ok, observeId_ok, pure, Except.pure, Except.ok.injEq,
    Option.isNone_iff_eq_none]
  constructor
  · intro h
    obtain ⟨hdelivery, hrecords, pending, ⟨hpending, hturn⟩, hwritten, config, hconfig, hshown, hle, after, hafter, assistant,
      ⟨_, _, hid, hof, hrole, htext⟩, pending', ⟨hpending', _⟩, record, hrecord, _, ⟨hlt, rfl⟩, hnext⟩ := h
    obtain ⟨books, nextUsageAttempt, husage, rfl⟩ := (recordOutputUsage_ok hpending hturn).mp hafter
    obtain rfl := Option.some.inj hpending'
    subst hturn
    exact ⟨pending, record, books, nextUsageAttempt, ⟨hdelivery, hrecords, hpending, hwritten, hshown, ⟨config, hconfig, hle⟩, hrecord, hlt⟩,
      rfl, husage, assistant, ⟨hid, hof, hrole, htext⟩, hnext.symm⟩
  · intro h
    obtain ⟨pending, record, books, nextUsageAttempt, h, hturn, husage, assistant, ⟨hid, hof, hrole, htext⟩, hnext⟩ := h
    obtain ⟨config, hconfig, hle⟩ := h.bounded
    have hfits : byteLen text ≤ maxItemTextBytes := Nat.le_trans hle (maxOutputBytes_le config)
    exact ⟨h.newDelivery, h.records, pending, ⟨h.current, hturn⟩, h.written, config, hconfig, h.shown, hle, _,
      (recordOutputUsage_ok h.current hturn).mpr ⟨books, nextUsageAttempt, husage, rfl⟩, assistant,
      ⟨h.shown, hfits, hid, hof, hrole, htext⟩, _, ⟨rfl, hturn⟩, record, hturn ▸ h.recorded, _, ⟨h.ids, rfl⟩, hnext.symm⟩

/-- Where an evaluation is due, nothing else comes. -/
theorem apply_ok {event : RuntimeEvent} : state.apply sha256 event = .ok next ↔
    (∀ due, state.pendingCostEvaluation = some due → isEvaluationOf due event = true) ∧ state.perform sha256 event = .ok next := by
  unfold apply
  rw [seq_ok, require_ok, Option.all_eq_true]

theorem applyAll_append {events events' : List RuntimeEvent} : state.applyAll sha256 (events ++ events') = .ok next ↔
    ∃ middle, state.applyAll sha256 events = .ok middle ∧ middle.applyAll sha256 events' = .ok next := by
  unfold applyAll
  rw [List.foldlM_append, bind_ok]

theorem applyAll_cons {event : RuntimeEvent} {events : List RuntimeEvent} : state.applyAll sha256 (event :: events) = .ok next ↔
    ∃ middle, state.apply sha256 event = .ok middle ∧ middle.applyAll sha256 events = .ok next := by
  unfold applyAll
  rw [List.foldlM_cons, bind_ok]

/-! ## Replay -/

theorem checkpointBound_ok {prior : LedgerHead} {transaction : List RuntimeEvent} {event : RuntimeEvent} :
    checkpointBound prior transaction event = .ok () ↔
      ∀ checkpoint, event = .contextCheckpointPublished checkpoint → transaction.length = 1 ∧ checkpoint.sourceHead = prior := by
  cases event <;> simp [checkpointBound]

/-- A transaction is accepted where its checkpoint is bound, its events apply and the state it leaves is quiescent. -/
theorem replayTransaction_ok {prior : LedgerHead} {transaction : List RuntimeEvent} :
    replayTransaction sha256 prior state transaction = .ok next ↔
      (∀ event ∈ transaction, checkpointBound prior transaction event = .ok ()) ∧ state.applyAll sha256 transaction = .ok next ∧
        next.validateQuiescent = .ok () := by
  have hloop : ∀ (events : List RuntimeEvent) (state candidate : RuntimeState),
      events.foldlM (fun state event => do
        checkpointBound prior transaction event
        state.apply sha256 event) state = .ok candidate ↔
      (∀ event ∈ events, checkpointBound prior transaction event = .ok ()) ∧ state.applyAll sha256 events = .ok candidate := by
    intro events
    induction events with
    | nil => intro state candidate; simp [applyAll]
    | cons event events ih =>
      intro state candidate
      rw [List.foldlM_cons, bind_ok, List.forall_mem_cons]
      simp only [seq_ok, ih, applyAll_cons]
      constructor
      · intro h
        obtain ⟨middle, ⟨hbound, happly⟩, hall, hrest⟩ := h
        exact ⟨⟨hbound, hall⟩, middle, happly, hrest⟩
      · intro h
        obtain ⟨⟨hbound, hall⟩, middle, happly, hrest⟩ := h
        exact ⟨middle, ⟨hbound, happly⟩, hall, hrest⟩
  unfold replayTransaction
  simp only [bind_ok, exists_unit, hloop, pure, Except.pure, Except.ok.injEq]
  constructor
  · intro h
    obtain ⟨candidate, ⟨hbound, hall⟩, hquiescent, hnext⟩ := h
    subst hnext
    exact ⟨hbound, hall, hquiescent⟩
  · intro h
    obtain ⟨hbound, hall, hquiescent⟩ := h
    exact ⟨next, ⟨hbound, hall⟩, hquiescent, rfl⟩

theorem replayFrom_append {ledger : List (List RuntimeEvent)} {transaction : List RuntimeEvent} :
    ∀ {done : List (List RuntimeEvent)} {state : RuntimeState},
    replayFrom sha256 done state (ledger ++ [transaction]) = .ok next ↔ ∃ middle, replayFrom sha256 done state ledger = .ok middle ∧
      replayTransaction sha256 (headOf (done ++ ledger)) middle transaction = .ok next := by
  induction ledger with
  | nil =>
    intro done state
    simp [replayFrom, bind_ok]
  | cons first ledger ih =>
    intro done state
    rw [List.cons_append, replayFrom, bind_ok]
    simp only [ih, replayFrom, bind_ok, List.append_assoc, List.singleton_append]
    constructor
    · intro h
      obtain ⟨after, hfirst, middle, hmiddle, hlast⟩ := h
      exact ⟨middle, ⟨after, hfirst, hmiddle⟩, hlast⟩
    · intro h
      obtain ⟨middle, ⟨after, hfirst, hmiddle⟩, hlast⟩ := h
      exact ⟨after, hfirst, middle, hmiddle, hlast⟩

/-- One transaction more. -/
theorem replay_append {ledger : List (List RuntimeEvent)} {transaction : List RuntimeEvent} :
    replay sha256 (ledger ++ [transaction]) = .ok next ↔ ∃ state, replay sha256 ledger = .ok state ∧
      replayTransaction sha256 (headOf ledger) state transaction = .ok next := replayFrom_append

@[simp] theorem replay_nil : replay sha256 [] = .ok default := rfl

/-- What a replay accepts are the events one after another. -/
theorem applyAll_of_replay {ledger : List (List RuntimeEvent)} : ∀ {state : RuntimeState}, replay sha256 ledger = .ok state →
    default.applyAll sha256 ledger.flatten = .ok state := by
  induction ledger using List.reverseRecOn with
  | nil =>
    intro state h
    exact h
  | append_singleton ledger transaction ih =>
    intro state h
    obtain ⟨middle, hledger, htransaction⟩ := replay_append.mp h
    rw [List.flatten_append, List.flatten_singleton]
    exact applyAll_append.mpr ⟨middle, ih hledger, (replayTransaction_ok.mp htransaction).2.1⟩

end RuntimeState

end GreenTyper.Runtime
