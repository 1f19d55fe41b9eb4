/-
  GreenTyper.Runtime.Acceptance — the kernel plans no event that its state refuses.

  Where the state is one that a transaction may leave, a plan and the copy of the state that
  its commit makes end well or in an error that is `Fine`: a request that does not fit, a
  clock or calendar that fails, a number that overflows. None of them says that the Ledger
  contradicts itself.
-/

import GreenTyper.Runtime.Evidence
import GreenTyper.Runtime.Kernel
import GreenTyper.Runtime.Quiescent

namespace GreenTyper.Runtime

open Lib Config Context Provider Usage
open GreenTyper.Ledger (LedgerHead)
open GreenTyper.Team (AgentId AgentSession)

theorem observeId_ends (next observed : Nat) : Ends RuntimeError.Fine (fun n => observed + 1 < 2 ^ 64 ∧ n = max next (observed + 1))
    (observeId next observed) := by
  unfold observeId
  refine (Ends.checkOr (e := RuntimeError.integerOverflow) (o := checkedAdd 64 observed 1) (fun hcorrupt => hcorrupt)).bind ?_
  intro candidate _ hcandidate
  obtain ⟨hlt, rfl⟩ := checkedAdd_some.mp hcandidate
  exact ⟨hlt, rfl⟩

theorem nonzeroId_ok {kind : String} {value : Nat} {id : ℕ+} (h : nonzeroId kind value = .ok id) : (id : Nat) = value := by
  unfold nonzeroId at h
  by_cases hpos : 0 < value
  · rw [dif_pos hpos] at h
    obtain rfl := Except.ok.inj h
    rfl
  · rw [dif_neg hpos] at h
    cases h

namespace RuntimeState

variable {sha256 : Sha256} {state next : RuntimeState} {turn : TurnId} {Q R : RuntimeState → Prop}

/-! ## Transactions -/

theorem applyAll_ends {event : RuntimeEvent} {events : List RuntimeEvent} (h : Ends RuntimeError.Fine R (state.apply sha256 event))
    (hrest : ∀ next, state.apply sha256 event = .ok next → R next → Ends RuntimeError.Fine Q (next.applyAll sha256 events)) :
    Ends RuntimeError.Fine Q (state.applyAll sha256 (event :: events)) := by
  unfold applyAll
  rw [List.foldlM_cons]
  exact h.bind hrest

theorem applyAll_ends_append {events events' : List RuntimeEvent} (h : Ends RuntimeError.Fine R (state.applyAll sha256 events))
    (hrest : ∀ next, state.applyAll sha256 events = .ok next → R next → Ends RuntimeError.Fine Q (next.applyAll sha256 events')) :
    Ends RuntimeError.Fine Q (state.applyAll sha256 (events ++ events')) := by
  unfold applyAll
  rw [List.foldlM_append]
  exact h.bind hrest

/-- Where no evaluation is due, only the event itself can be refused. -/
theorem apply_ends {event : RuntimeEvent} (hnone : state.pendingCostEvaluation = none)
    (h : Ends RuntimeError.Fine Q (state.perform sha256 event)) : Ends RuntimeError.Fine Q (state.apply sha256 event) := by
  unfold apply
  rw [hnone]
  exact h

theorem perform_alone {event : RuntimeEvent} (hnone : state.pendingCostEvaluation = none)
    (h : Ends RuntimeError.Fine Q (state.perform sha256 event)) : Ends RuntimeError.Fine Q (state.applyAll sha256 [event]) := by
  refine applyAll_ends (apply_ends hnone h) ?_
  intro next _ hnext
  exact hnext

theorem kept_of_applyAll {events : List RuntimeEvent} (hk : state.Kept) (h : state.applyAll sha256 events = .ok next) : next.Kept :=
  foldlM_inv (fun hk => hk.apply) hk h

/-- The record of the Turn that is pending. -/
theorem AtRest.record {pending : PendingTurn} (h : state.AtRest) (hpending : state.pending = some pending) :
    ∃ record, state.Recorded pending record := h.kept.filed.coherent.recorded hpending

/-- The snapshots that the pending Turn uses are there. -/
theorem AtRest.snapshots {pending : PendingTurn} (h : state.AtRest) (hpending : state.pending = some pending) :
    (∃ config, state.configs.get pending.config = some config) ∧ ∃ provider, state.providers.get pending.provider = some provider := by
  obtain ⟨record, hrecord⟩ := h.record hpending
  have hvalid := h.quiescent.turns _ _ hrecord.get
  have huse := hrecord.inUse
  unfold TurnRecord.inUse at huse
  rw [← OrdMap.contains_iff, ← OrdMap.contains_iff]
  by_cases hzero : pending.fallbackIndex = 0
  · rw [if_pos hzero, Option.some.injEq, Prod.mk.injEq] at huse
    rw [← huse.1, ← huse.2]
    exact hvalid.snapshots
  · rw [if_neg hzero, Option.map_eq_some_iff] at huse
    obtain ⟨fallback, hfallback, hsame⟩ := huse
    rw [Prod.mk.injEq] at hsame
    rw [← hsame.1, ← hsame.2]
    exact hvalid.fallbacks fallback (List.mem_of_getElem? hfallback)

theorem AtRest.thread {pending : PendingTurn} (h : state.AtRest) (hpending : state.pending = some pending) :
    ∃ thread, state.thread = some thread := by
  obtain ⟨record, hrecord⟩ := h.record hpending
  have hsome := h.quiescent.thread
  rw [List.isEmpty_eq_false_iff_exists_mem.mpr ⟨_, OrdMap.mem_entries.mpr hrecord.get⟩] at hsome
  cases hof : state.thread with
  | none =>
    rw [hof] at hsome
    cases hsome
  | some thread => exact ⟨thread, rfl⟩

/-- The context of the usage of the Turn that is pending. -/
theorem AtRest.usageContext {pending : PendingTurn} (h : state.AtRest) (hpending : state.pending = some pending) :
    ∃ context, state.usageContext pending.turn = .ok context := by
  obtain ⟨thread, hthread⟩ := h.thread hpending
  obtain ⟨record, hrecord⟩ := h.record hpending
  obtain ⟨⟨config, hconfig⟩, provider, hprovider⟩ := h.snapshots hpending
  have hfilter : state.pending.filter (·.turn = pending.turn) = some pending := by
    rw [hpending, Option.filter_some_pos (by simp)]
  unfold RuntimeState.usageContext
  rw [hthread, okOr_some, ok_bind, hrecord.get, okOr_some, ok_bind, hfilter]
  simp only [Option.map_some, Option.getD_some, hprovider, hconfig, okOr_some, ok_bind]
  exact ⟨_, rfl⟩

/-! ## Usage attempts -/

/-- An attempt of the pending Turn begins, or the numbers run out. -/
theorem usageAttemptStarted_ends (pending : PendingTurn) {startedAt : UsageTimestamp} (hpending : state.pending = some pending)
    (hphase : pending.phase = .admitted) (hopened : pending.openUsageAttempt = none) (hpos : 1 ≤ pending.nextUsageAttempt) :
    Ends RuntimeError.Fine (fun next => next = { state with pending := some { pending with
        nextUsageAttempt := pending.nextUsageAttempt + 1, openUsageAttempt := some ⟨pending.nextUsageAttempt, startedAt⟩ } })
      (state.usageAttemptStarted pending.turn pending.nextUsageAttempt startedAt) := by
  unfold usageAttemptStarted
  rw [pendingFor_ok.mpr ⟨hpending, rfl⟩, ok_bind, require_bind ⟨hphase, hopened, rfl, by omega⟩]
  refine (Ends.checkOr (e := RuntimeError.integerOverflow) (fun hcorrupt => hcorrupt)).bind ?_
  intro number _ hnumber
  obtain ⟨_, rfl⟩ := checkedAdd_some.mp hnumber
  rfl

/-- The names of windows that a configuration has, each once. -/
theorem resolveWindows_isOk {windows : List UsageWindow} {names : List String} (hnames : names.Sublist (windows.map (·.id)))
    (hdistinct : (windows.map (·.id)).Nodup) : ∃ resolved, resolveWindows windows names = .ok resolved := by
  unfold resolveWindows
  rw [require_bind (hdistinct.sublist hnames)]
  refine mapM_isOk fun name hname => ?_
  obtain ⟨window, hwindow, hid⟩ := List.mem_map.mp (hnames.subset hname)
  have hfound : (windows.find? (·.id = name)).isSome = true := by
    rw [List.find?_isSome]
    exact ⟨window, hwindow, by simpa using hid⟩
  obtain ⟨found, hfound⟩ := Option.isSome_iff_exists.mp hfound
  exact ⟨found, okOr_ok.mpr hfound⟩

theorem usageContext_same {pending pending' : PendingTurn} (hpending : state.pending = some pending) (hnext : next.pending = some pending')
    (hsame : pending'.turn = pending.turn ∧ pending'.config = pending.config ∧ pending'.provider = pending.provider)
    (hrest : next.thread = state.thread ∧ next.turns = state.turns ∧ next.providers = state.providers ∧ next.configs = state.configs) :
    next.usageContext pending.turn = state.usageContext pending.turn := by
  obtain ⟨hturn, hconfig, hprovider⟩ := hsame
  obtain ⟨hthread, hturns, hproviders, hconfigs⟩ := hrest
  have hfilter : state.pending.filter (·.turn = pending.turn) = some pending := by
    rw [hpending, Option.filter_some_pos (by simp)]
  have hfilter' : next.pending.filter (·.turn = pending.turn) = some pending' := by
    rw [hnext, Option.filter_some_pos (by simpa using hturn)]
  unfold RuntimeState.usageContext
  rw [hfilter, hfilter', hthread, hturns, hproviders, hconfigs]
  simp only [Option.map_some, Option.getD_some, hconfig, hprovider]

theorem usageAttempt_fine (context : UsageContext) (turn : TurnId) (attempt : Nat) (startedAt completedAt : Option UsageTimestamp)
    (outcome : UsageAttemptOutcome) (usage : Option UsageRecord) (windows : List UsageWindow) :
    Ends RuntimeError.Fine (fun _ => True) (usageAttempt context turn attempt startedAt completedAt outcome usage windows) := by
  unfold usageAttempt
  exact (Ends.mapError (f := RuntimeError.usage) fun e hcorrupt => hcorrupt).bind fun _ _ _ => trivial

/-- The attempt that is open ends, with its cost, unless the books refuse it. -/
theorem finish_ends {pending : PendingTurn} {opened : OpenUsageAttempt} {config : ConfigEpoch} {context : UsageContext}
    {completedAt : UsageTimestamp} {outcome : UsageAttemptOutcome} {usage : Option UsageRecord} {names : List String}
    (hnone : state.pendingCostEvaluation = none) (hpending : state.pending = some pending) (hphase : pending.phase = .admitted)
    (hopened : pending.openUsageAttempt = some opened) (hconfig : state.configs.get pending.config = some config)
    (hcontext : state.usageContext pending.turn = .ok context) (hboth : outcome = .succeeded ↔ usage.isSome = true)
    (htime : opened.startedAt.unixMillis ≤ completedAt.unixMillis) (hnames : names.Sublist (config.usageWindows.map (·.id))) :
    Ends RuntimeError.Fine (fun next => ∃ books, next = { state with
        pending := some { pending with openUsageAttempt := none }, usage := books, pendingCostEvaluation := none })
      (state.applyAll sha256 [.usageAttemptFinished pending.turn opened.attempt completedAt outcome usage names true,
        .usageAttemptCostEvaluated pending.turn opened.attempt
          (.fromOutcome (estimateFrozen context config opened.startedAt usage))]) := by
  obtain ⟨windows, hwindows⟩ := resolveWindows_isOk hnames config.distinct
  refine applyAll_ends (R := fun next => ∃ created books,
      usageAttempt context pending.turn opened.attempt (some opened.startedAt) (some completedAt) outcome usage windows = .ok created ∧
      state.usage.record created = .ok books ∧ next = { state with
        pending := some { pending with openUsageAttempt := none }, usage := books
        pendingCostEvaluation := some (pending.turn, opened.attempt) }) (apply_ends hnone ?_) ?_
  · show Ends _ _ (state.usageAttemptFinished pending.turn opened.attempt completedAt outcome usage names true)
    have hfilter : state.pending.filter (fun pending' => pending'.turn = pending.turn ∧ pending'.phase = .admitted) = some pending := by
      rw [hpending, Option.filter_some_pos (by simpa using hphase)]
    have hfilter' : pending.openUsageAttempt.filter (·.attempt = opened.attempt) = some opened := by
      rw [hopened, Option.filter_some_pos (by simp)]
    unfold usageAttemptFinished
    rw [require_bind hboth, hfilter, okOr_some, ok_bind, hfilter', okOr_some, ok_bind, require_bind htime, hconfig, okOr_some, ok_bind,
      hwindows, ok_bind, hcontext, ok_bind]
    refine (usageAttempt_fine _ _ _ _ _ _ _ _).bind ?_
    intro created hcreated _
    refine (Ends.mapError (f := RuntimeError.usage) fun e hcorrupt => hcorrupt).bind ?_
    intro books _ hbooks
    exact ⟨created, books, hcreated, hbooks, rfl⟩
  · intro next _ hnext
    obtain ⟨created, books, hcreated, hbooks, rfl⟩ := hnext
    obtain ⟨⟨hturn, hattempt⟩, ⟨_, husage⟩, hstarted⟩ := usageAttempt_ok hcreated
    have hfound := (attempt_record hbooks).1
    rw [hturn, hattempt] at hfound
    have hsame : ({ state with
        pending := some { pending with openUsageAttempt := none }, usage := books
        pendingCostEvaluation := some (pending.turn, opened.attempt) } : RuntimeState).usageContext pending.turn = .ok context := by
      rw [← hcontext]
      exact usageContext_same hpending rfl ⟨rfl, rfl, rfl⟩ ⟨rfl, rfl, rfl, rfl⟩
    have hexpected : expectedCost context config created = .ok (estimateFrozen context config opened.startedAt usage) := by
      unfold expectedCost
      rw [husage, hstarted]
      cases usage <;> rfl
    refine applyAll_ends (R := fun next => ∃ books, next = { state with
      pending := some { pending with openUsageAttempt := none }, usage := books, pendingCostEvaluation := none }) ?_ ?_
    · unfold apply
      rw [require_bind (by simp [isEvaluationOf])]
      show Ends _ _ (usageAttemptCostEvaluated _ _ _ _)
      unfold usageAttemptCostEvaluated
      rw [require_bind rfl, hsame, ok_bind]
      simp only [Option.filter_some_pos, decide_true, Option.bind_some, hconfig, okOr_some, ok_bind, hfound, hexpected]
      rw [require_bind (FrozenCostEvaluation.matches_iff.mpr rfl)]
      refine (Ends.mapError (f := RuntimeError.usage) fun e hcorrupt => hcorrupt).bind ?_
      intro books' _ _
      exact ⟨books', rfl⟩
    · intro next _ hnext
      exact hnext

/-- The Turn that is pending, with nothing changed that the checks between transactions read. -/
theorem Quiescent.touch {pending pending' : PendingTurn} {books : UsageProjection} (h : state.Quiescent)
    (hpending : state.pending = some pending) (hturn : pending'.turn = pending.turn) (hphase : pending'.phase ≠ .streaming) :
    ({ state with pending := some pending', usage := books, pendingCostEvaluation := none } : RuntimeState).Quiescent :=
  h.edit ⟨rfl, rfl, rfl, fun _ hmem => hmem⟩ rfl hpending rfl hturn hphase rfl

/-- The Turn waits for its Provider, with this attempt open. -/
def Waits (state : RuntimeState) (turn : TurnId) (attempt : Option Nat) : Prop :=
  ∃ pending, state.pending = some pending ∧ pending.turn = turn ∧ pending.phase = .admitted ∧
    pending.openUsageAttempt.map (·.attempt) = attempt

/-! ## Reasons -/

theorem boundReason_spec : ∀ (rest bounded : List Char), bounded.any isControl = false →
    byteLen (String.ofList bounded) ≤ maxBlockReasonBytes → (boundReason rest bounded).any isControl = false ∧
      byteLen (String.ofList (boundReason rest bounded)) ≤ maxBlockReasonBytes := by
  intro rest
  induction rest with
  | nil => exact fun _ hclean hfits => ⟨hclean, hfits⟩
  | cons character rest ih =>
    intro bounded hclean hfits
    have hshown : isControl (if isControl character then ' ' else character) = false := by
      by_cases hcontrol : isControl character = true
      · rw [if_pos hcontrol]
        decide
      · rw [if_neg hcontrol]
        simpa using hcontrol
    unfold boundReason
    dsimp only
    by_cases hfull : maxBlockReasonBytes < byteLen (String.ofList bounded) +
        (if isControl character then ' ' else character).utf8Size
    · rw [if_pos hfull]
      exact ⟨hclean, hfits⟩
    · rw [if_neg hfull]
      refine ih _ ?_ ?_
      · rw [List.any_append, hclean, List.any_cons, hshown]
        rfl
      · rw [byteLen_eq_sum, String.toList_ofList] at hfits hfull ⊢
        rw [List.map_append, List.sum_append, List.map_singleton, List.sum_singleton]
        omega

/-- A bounded reason is one that a Turn may be blocked for. -/
theorem boundedReason_valid (reason : String) : BlockReason (boundedReason reason) := by
  obtain ⟨hclean, hfits⟩ := boundReason_spec reason.toList [] rfl (by decide)
  unfold boundedReason
  by_cases hblank : isBlank (String.ofList (boundReason reason.toList [])) = true
  · rw [if_pos hblank]
    decide
  · rw [if_neg hblank]
    refine ⟨by simpa using hblank, hfits, ?_⟩
    rw [String.toList_ofList]
    exact hclean

theorem blocked_ne_streaming : PendingPhase.blocked ≠ .streaming := by decide

theorem admitted_ne_streaming : PendingPhase.admitted ≠ .streaming := by decide

theorem prepared_ne_streaming : PendingPhase.prepared ≠ .streaming := by decide

/-- A Turn with no open attempt is blocked. -/
theorem block_ends (pending : PendingTurn) {reason : String} {origin : TurnBlockOrigin} {stage : Option ProviderUnavailableStage}
    (hreason : BlockReason reason) (hnone : state.pendingCostEvaluation = none) (hpending : state.pending = some pending)
    (hphase : pending.phase = .admitted) (hopened : pending.openUsageAttempt = none) (hstage : stage = none ∨ origin = .provider) :
    Ends RuntimeError.Fine (fun next => next = { state with pending := some { pending with
        phase := .blocked, blockedReason := some reason, blockOrigin := some origin, providerUnavailableStage := stage } })
      (state.applyAll sha256 [.turnBlocked pending.turn reason origin stage]) := by
  refine perform_alone hnone ?_
  show Ends _ _ (state.turnBlocked pending.turn reason origin stage)
  exact .of (turnBlocked_ok.mpr ⟨⟨hreason, hstage⟩, pending, hpending, rfl, hphase, hopened, rfl⟩) rfl

/-! ## Output -/

/-- The deltas of a text, one after another. -/
theorem deltas_ends (state : RuntimeState) (pending : PendingTurn) {item : ItemId} {maxOutputBytes : Nat} (hnone : state.pendingCostEvaluation = none)
    (hphase : pending.phase = .streaming) (hitem : pending.assistantItem = some item) (hmax : maxOutputBytes ≤ maxInputBytes) :
    ∀ (deltas : List String) {streamed text : String}, (∀ delta ∈ deltas, delta ≠ "") →
      Kernel.joinDeltas maxOutputBytes streamed deltas = .ok text →
      Ends RuntimeError.Fine (fun next => next = { state with pending := some { pending with streamedText := text } })
        (({ state with pending := some { pending with streamedText := streamed } } : RuntimeState).applyAll sha256
          (deltas.map (.assistantTextDelta pending.turn item))) := by
  intro deltas
  induction deltas with
  | nil =>
    intro streamed text _ hjoin
    obtain rfl := Except.ok.inj hjoin
    exact rfl
  | cons delta rest ih =>
    intro streamed text hne hjoin
    rw [List.forall_mem_cons] at hne
    unfold Kernel.joinDeltas at hjoin
    obtain ⟨length, hlength, hjoin⟩ := bind_ok.mp hjoin
    obtain ⟨hfits, hlater⟩ := seq_ok.mp hjoin
    obtain ⟨_, rfl⟩ := checkedAdd_some.mp (okOr_ok.mp hlength)
    have hle : byteLen streamed + byteLen delta ≤ maxInputBytes := Nat.le_trans (require_ok.mp hfits) hmax
    rw [List.map_cons]
    refine applyAll_ends (R := fun next => next = { state with pending := some { pending with streamedText := streamed ++ delta } })
      (apply_ends hnone ?_) ?_
    · exact Ends.of (assistantTextDelta_ok.mpr ⟨hne.1, _, rfl, rfl, hphase, hitem, hle, rfl⟩) rfl
    · intro next _ hnext
      subst hnext
      exact ih hne.2 hlater

theorem canonicalItem_isOk (item : ItemId) (turn : TurnId) (role : ItemRole) {text : String} (hshown : isBlank text = false)
    (hfits : byteLen text ≤ maxItemTextBytes) : ∃ canonical, canonicalItem item turn role text = .ok canonical := by
  unfold canonicalItem
  rw [dif_pos hshown, dif_pos hfits]
  exact ⟨_, rfl⟩

/-- What was streamed becomes the output, or the deliveries run out. -/
theorem outputPrepared_ends (state : RuntimeState) {pending : PendingTurn} {record : TurnRecord} {config : ConfigEpoch} {item : ItemId} {delivery : DeliveryId}
    {usageRecords : List UsageRecord} (hdelivery : delivery ∉ state.acknowledged)
    (hrecords : usageRecords ≠ [] ∧ usageRecords.length ≤ maxUsageRecordsPerTurn) (hpending : state.pending = some pending)
    (hwritten : pending.phase = .streaming ∧ pending.assistantItem = some item ∧ pending.prepared = none)
    (hopened : pending.openUsageAttempt = none) (hconfig : state.configs.get pending.config = some config)
    (hshown : isBlank pending.streamedText = false) (hfits : byteLen pending.streamedText ≤ config.maxOutputBytes)
    (hrecord : state.turns.get pending.turn = some record) :
    Ends RuntimeError.Fine (fun next => ∃ assistant number, next = { state with
        items := state.items ++ [assistant]
        pending := some { pending with phase := .prepared, prepared := some ⟨item, delivery, usageRecords⟩ }
        turns := state.turns.insert pending.turn { record with assistantItem := some item, delivery := some delivery }
        nextDelivery := number })
      (state.outputPrepared pending.turn item delivery pending.streamedText usageRecords false) := by
  obtain ⟨hphase, hitem, hprepared⟩ := hwritten
  have hfor : state.pendingFor pending.turn = .ok pending := pendingFor_ok.mpr ⟨hpending, rfl⟩
  obtain ⟨assistant, hassistant⟩ := canonicalItem_isOk item pending.turn .assistant hshown
    (Nat.le_trans hfits (maxOutputBytes_le config))
  unfold outputPrepared recordOutputUsage
  rw [require_bind hdelivery, require_bind hrecords, hfor, ok_bind, require_bind ⟨hphase, hitem, rfl, by rw [hprepared]; rfl⟩, hconfig,
    okOr_some, ok_bind, require_bind hshown, require_bind hfits, if_neg (by decide), require_bind hopened]
  show Ends _ _ (canonicalItem item pending.turn .assistant pending.streamedText >>= _)
  rw [hassistant, ok_bind, hfor, ok_bind, hrecord, okOr_some, ok_bind]
  refine (observeId_ends _ _).bind fun number _ _ => ?_
  exact ⟨assistant, number, rfl⟩

/-- The Item of the output begins, or the Items run out. -/
theorem assistantItemStarted_ends {pending : PendingTurn} {item : ItemId} (hpending : state.pending = some pending)
    (hphase : pending.phase = .admitted) (hnoItem : pending.assistantItem = none) (hnew : state.itemExists item = false) :
    Ends RuntimeError.Fine (fun next => ∃ number, next = { state with
        pending := some { pending with phase := .streaming, assistantItem := some item }, nextItem := number })
      (state.assistantItemStarted pending.turn item) := by
  unfold assistantItemStarted
  rw [require_bind hnew, pendingFor_ok.mpr ⟨hpending, rfl⟩, ok_bind, require_bind ⟨hphase, hnoItem⟩]
  refine (observeId_ends _ _).bind fun number _ _ => ?_
  exact ⟨number, rfl⟩

/-- The output of a Turn that has no open attempt. -/
theorem outputEvents_ends (state : RuntimeState) {pending : PendingTurn} {record : TurnRecord} {config : ConfigEpoch} {item : ItemId} {delivery : DeliveryId}
    {deltas : List String} {text : String} {usageRecords : List UsageRecord} (hnone : state.pendingCostEvaluation = none)
    (hpending : state.pending = some pending) (hphase : pending.phase = .admitted) (hopened : pending.openUsageAttempt = none)
    (hclean : pending.assistantItem = none ∧ pending.streamedText = "" ∧ pending.prepared = none) (hnew : state.itemExists item = false)
    (hdelivery : delivery ∉ state.acknowledged) (hconfig : state.configs.get pending.config = some config)
    (hrecord : state.turns.get pending.turn = some record) (hne : ∀ delta ∈ deltas, delta ≠ "")
    (hjoin : Kernel.joinDeltas config.maxOutputBytes "" deltas = .ok text) (hshown : isBlank text = false)
    (hfits : byteLen text ≤ config.maxOutputBytes) (hrecords : usageRecords ≠ [] ∧ usageRecords.length ≤ maxUsageRecordsPerTurn) :
    Ends RuntimeError.Fine (fun next => ∃ assistant number number', next = { state with
        items := state.items ++ [assistant]
        pending := some { pending with
          phase := .prepared, assistantItem := some item, streamedText := text, prepared := some ⟨item, delivery, usageRecords⟩ }
        turns := state.turns.insert pending.turn { record with assistantItem := some item, delivery := some delivery }
        nextItem := number, nextDelivery := number' })
      (state.applyAll sha256 (Kernel.outputEvents pending.turn item delivery deltas text usageRecords)) := by
  obtain ⟨hnoItem, hempty, hunprepared⟩ := hclean
  have hmax : config.maxOutputBytes ≤ maxInputBytes := UInt32.le_iff_toNat_le.mp config.bounded
  unfold Kernel.outputEvents
  rw [List.cons_append]
  refine applyAll_ends (apply_ends hnone (assistantItemStarted_ends hpending hphase hnoItem hnew)) fun next _ hnext => ?_
  obtain ⟨number, rfl⟩ := hnext
  rw [← hempty] at hjoin
  refine applyAll_ends_append (deltas_ends { state with
      pending := some { pending with phase := .streaming, assistantItem := some item }, nextItem := number }
    { pending with phase := .streaming, assistantItem := some item } hnone rfl rfl hmax deltas hne hjoin) fun next _ hnext => ?_
  subst hnext
  refine perform_alone hnone ?_
  refine (outputPrepared_ends { state with
      pending := some { pending with phase := .streaming, assistantItem := some item, streamedText := text }, nextItem := number }
    hdelivery hrecords rfl ⟨rfl, rfl, hunprepared⟩ hopened hconfig hshown hfits hrecord).mono (fun _ he => he) ?_
  intro next _ hnext
  obtain ⟨assistant, number', rfl⟩ := hnext
  exact ⟨assistant, number, number', rfl⟩

end RuntimeState

namespace Kernel

variable {host : Host} {k : Kernel} {turn : TurnId} {Q : RuntimeState → Prop}

/-- A copy of the state that is quiescent is one that the commit takes, or a sum overflowed. -/
theorem candidate_ends {events : List RuntimeEvent}
    (h : Ends RuntimeError.Fine (fun next => next.Quiescent ∧ Q next) (k.state.applyAll host.sha256 events)) :
    Ends RuntimeError.Fine Q (k.candidate host events) := by
  unfold candidate
  refine h.bind fun next _ hnext => ?_
  exact hnext.1.fine.bind fun _ _ _ => hnext.2

theorem windowsAt_ends (startedAt : UsageTimestamp) : ∀ windows : List UsageWindow,
    Ends RuntimeError.Fine (fun names => names.Sublist (windows.map (·.id))) (windowsAt host startedAt windows) := by
  intro windows
  induction windows with
  | nil => exact .slnil
  | cons window rest ih =>
    unfold windowsAt
    refine (Ends.mapError (f := RuntimeError.usage) fun e hcorrupt => hcorrupt).bind fun inside _ _ => ?_
    refine ih.bind fun names _ hnames => ?_
    show (if inside = true then window.id :: names else names).Sublist (window.id :: rest.map (·.id))
    by_cases hinside : inside = true
    · rw [if_pos hinside]
      exact hnames.cons_cons _
    · rw [if_neg hinside]
      exact hnames.cons _

/-! ## Attempts -/

/-- What ends an attempt of the pending Turn, as events that the state takes. -/
theorem usageAttemptFinishEvents_ends {pending : PendingTurn} {opened : OpenUsageAttempt} {outcome : UsageAttemptOutcome}
    {usage : Option UsageRecord} (completedAt : UsageTimestamp) (hrest : k.state.AtRest) (hpending : k.state.pending = some pending)
    (hphase : pending.phase = .admitted) (hopened : pending.openUsageAttempt = some opened)
    (hboth : outcome = .succeeded ↔ usage.isSome = true) :
    Ends RuntimeError.Fine (fun events => Ends RuntimeError.Fine (fun next => ∃ books, next = { k.state with
        pending := some { pending with openUsageAttempt := none }, usage := books, pendingCostEvaluation := none })
          (k.state.applyAll host.sha256 events))
      (k.usageAttemptFinishEvents host pending.turn opened.attempt completedAt outcome usage) := by
  obtain ⟨⟨config, hconfig⟩, _⟩ := hrest.snapshots hpending
  obtain ⟨context, hcontext⟩ := hrest.usageContext hpending
  have hfilter : k.state.pending.filter (fun pending' => pending'.turn = pending.turn ∧ pending'.phase = .admitted) = some pending := by
    rw [hpending, Option.filter_some_pos (by simpa using hphase)]
  have hfilter' : pending.openUsageAttempt.filter (·.attempt = opened.attempt) = some opened := by
    rw [hopened, Option.filter_some_pos (by simp)]
  unfold usageAttemptFinishEvents
  rw [hfilter, okOr_some, ok_bind, hfilter', okOr_some, ok_bind]
  simp only [hconfig, okOr_some, ok_bind]
  refine (windowsAt_ends opened.startedAt config.usageWindows).bind fun names _ hnames => ?_
  rw [hcontext, ok_bind]
  refine RuntimeState.finish_ends hrest.quiescent.charged hpending hphase hopened hconfig hcontext hboth ?_ hnames
  by_cases hbefore : completedAt.unixMillis < opened.startedAt.unixMillis
  · rw [if_pos hbefore]
  · rw [if_neg hbefore]
    omega

/-- The next attempt at the pending Turn, after the end of one that is open. -/
theorem beginUsageAttemptEvents_ends {pending : PendingTurn} (startedAt : UsageTimestamp) (hrest : k.state.AtRest)
    (hpending : k.state.pending = some pending) (hphase : pending.phase = .admitted) :
    Ends RuntimeError.Fine (fun begun => Ends RuntimeError.Fine (·.Waits pending.turn (some begun.1)) (k.candidate host begun.2))
      (k.beginUsageAttemptEvents host pending.turn startedAt) := by
  obtain ⟨⟨config, hconfig⟩, _⟩ := hrest.snapshots hpending
  have hpos := (hrest.kept.filed.coherent.shaped hpending).2.1
  have hfilter : k.state.pending.filter (fun pending' => pending'.turn = pending.turn ∧ pending'.phase = .admitted) = some pending := by
    rw [hpending, Option.filter_some_pos (by simpa using hphase)]
  -- The attempt that is still open ends before the next one starts.
  have hstart : ∀ (books : UsageProjection), Ends RuntimeError.Fine
      (fun next => next.Quiescent ∧ next.Waits pending.turn (some pending.nextUsageAttempt))
      (({ k.state with pending := some { pending with openUsageAttempt := none }, usage := books, pendingCostEvaluation := none } :
        RuntimeState).applyAll host.sha256 [.usageAttemptStarted pending.turn pending.nextUsageAttempt startedAt]) := by
    intro books
    refine RuntimeState.perform_alone rfl ?_
    refine (RuntimeState.usageAttemptStarted_ends { pending with openUsageAttempt := none } rfl hphase rfl hpos).mono
      (fun _ he => he) ?_
    intro next _ hnext
    subst hnext
    have hstreaming : pending.phase ≠ .streaming := by
      rw [hphase]
      decide
    exact ⟨hrest.quiescent.touch hpending rfl hstreaming, _, rfl, rfl, hphase, rfl⟩
  have hcharged := hrest.quiescent.charged
  unfold beginUsageAttemptEvents
  rw [hfilter, okOr_some, ok_bind]
  simp only [hconfig, okOr_some, ok_bind]
  refine (Ends.forM fun window _ => (Ends.mapError (f := RuntimeError.usage) fun e hcorrupt => hcorrupt).mono (fun _ he => he)
    fun _ _ _ => trivial).bind fun _ _ _ => ?_
  cases hopened : pending.openUsageAttempt with
  | none =>
    have hsame : k.state = { k.state with
        pending := some { pending with openUsageAttempt := none }, usage := k.state.usage, pendingCostEvaluation := none } := by
      rw [← hopened, ← hpending, ← hcharged]
    show Ends _ _ (k.candidate host _)
    refine candidate_ends ?_
    rw [List.nil_append, hsame]
    exact hstart _
  | some opened =>
    refine (usageAttemptFinishEvents_ends startedAt hrest hpending hphase hopened (by simp)).bind fun interrupted _ hfinish => ?_
    refine candidate_ends (RuntimeState.applyAll_ends_append hfinish fun next _ hnext => ?_)
    obtain ⟨books, rfl⟩ := hnext
    exact hstart books

theorem finishUsageAttempt_accepted {attempt : Nat} {outcome : UsageAttemptOutcome} {usage : Option UsageRecord}
    (completedAt : UsageTimestamp) (hrest : k.state.AtRest) (hwaits : k.state.Waits turn (some attempt))
    (hboth : outcome = .succeeded ↔ usage.isSome = true) :
    Ends RuntimeError.Fine (fun events => Ends RuntimeError.Fine (·.Waits turn none) (k.candidate host events))
      (k.usageAttemptFinishEvents host turn attempt completedAt outcome usage) := by
  obtain ⟨pending, hpending, rfl, hphase, hattempt⟩ := hwaits
  obtain ⟨opened, hopened, rfl⟩ := Option.map_eq_some_iff.mp hattempt
  refine (usageAttemptFinishEvents_ends completedAt hrest hpending hphase hopened hboth).mono (fun _ he => he) ?_
  intro events _ hfinish
  refine candidate_ends (hfinish.mono (fun _ he => he) ?_)
  intro next _ hnext
  obtain ⟨books, rfl⟩ := hnext
  have hstreaming : pending.phase ≠ .streaming := by
    rw [hphase]
    decide
  exact ⟨hrest.quiescent.touch hpending rfl hstreaming, _, rfl, rfl, hphase, rfl⟩

theorem finishAndBlock_accepted {attempt : Nat} {outcome : UsageAttemptOutcome} {usage : Option UsageRecord} {reason : String}
    {stage : Option ProviderUnavailableStage} (hreason : RuntimeState.BlockReason reason) (completedAt : UsageTimestamp) (hrest : k.state.AtRest)
    (hwaits : k.state.Waits turn (some attempt)) (hboth : outcome = .succeeded ↔ usage.isSome = true) :
    Ends RuntimeError.Fine (fun events => Ends RuntimeError.Fine (·.pending ≠ none)
        (k.candidate host (events ++ [.turnBlocked turn reason .provider stage])))
      (k.usageAttemptFinishEvents host turn attempt completedAt outcome usage) := by
  obtain ⟨pending, hpending, rfl, hphase, hattempt⟩ := hwaits
  obtain ⟨opened, hopened, rfl⟩ := Option.map_eq_some_iff.mp hattempt
  refine (usageAttemptFinishEvents_ends completedAt hrest hpending hphase hopened hboth).mono (fun _ he => he) ?_
  intro events _ hfinish
  refine candidate_ends (RuntimeState.applyAll_ends_append hfinish ?_)
  intro next _ hnext
  obtain ⟨books, rfl⟩ := hnext
  refine (RuntimeState.block_ends { pending with openUsageAttempt := none } hreason rfl rfl hphase rfl (.inr rfl)).mono
    (fun _ he => he) ?_
  intro next _ hnext
  subst hnext
  refine ⟨hrest.quiescent.touch hpending rfl RuntimeState.blocked_ne_streaming, ?_⟩
  intro hidle
  cases hidle

theorem block_accepted {reason : String} (hreason : RuntimeState.BlockReason reason) (hrest : k.state.AtRest) (hwaits : k.state.Waits turn none) :
    Ends RuntimeError.Fine (·.pending ≠ none) (k.candidate host [.turnBlocked turn reason .other none]) := by
  obtain ⟨pending, hpending, rfl, hphase, hattempt⟩ := hwaits
  have hopened := Option.map_eq_none_iff.mp hattempt
  refine candidate_ends ?_
  refine (RuntimeState.block_ends pending hreason hrest.quiescent.charged hpending hphase hopened (.inl rfl)).mono (fun _ he => he) ?_
  intro next _ hnext
  subst hnext
  refine ⟨hrest.quiescent.edit ⟨rfl, rfl, rfl, fun _ hmem => hmem⟩ rfl hpending rfl rfl RuntimeState.blocked_ne_streaming hrest.quiescent.charged, ?_⟩
  intro hidle
  cases hidle

/-- The end of the attempt that succeeded, and its output. -/
theorem output_accepted {attempt : Nat} {item : ItemId} {delivery : DeliveryId} {deltas : List String} {text : String} {usage : UsageRecord}
    {usageRecords : List UsageRecord} {maxOutputBytes : Nat} (completedAt : UsageTimestamp) (hrest : k.state.AtRest)
    (hwaits : k.state.Waits turn (some attempt)) (hids : k.outputIds = .ok (item, delivery))
    (hbound : k.pendingMaxOutputBytes turn = .ok maxOutputBytes) (hne : ∀ delta ∈ deltas, delta ≠ "")
    (hjoin : joinDeltas maxOutputBytes "" deltas = .ok text) (hshown : isBlank text = false)
    (hfits : byteLen text ≤ maxOutputBytes) (hrecords : usageRecords ≠ [] ∧ usageRecords.length ≤ maxUsageRecordsPerTurn) :
    Ends RuntimeError.Fine (fun events => Ends RuntimeError.Fine (fun _ => True)
        (k.candidate host (events ++ outputEvents turn item delivery deltas text usageRecords)))
      (k.usageAttemptFinishEvents host turn attempt completedAt .succeeded (some usage)) := by
  obtain ⟨pending, hpending, rfl, hphase, hattempt⟩ := hwaits
  obtain ⟨opened, hopened, rfl⟩ := Option.map_eq_some_iff.mp hattempt
  obtain ⟨config, hconfig, rfl⟩ : ∃ config, k.state.configs.get pending.config = some config ∧ config.maxOutputBytes = maxOutputBytes := by
    unfold pendingMaxOutputBytes at hbound
    rw [hpending, Option.filter_some_pos (by simpa using hphase), okOr_some, ok_bind] at hbound
    obtain ⟨config, hconfig, hmax⟩ := bind_ok.mp hbound
    exact ⟨config, okOr_ok.mp hconfig, Except.ok.inj hmax⟩
  obtain ⟨hitem, hdelivery⟩ : (item : Nat) = k.state.nextItem ∧ (delivery : Nat) = k.state.nextDelivery := by
    unfold outputIds at hids
    simp only [bind_ok, pure, Except.pure, Except.ok.injEq, Prod.mk.injEq] at hids
    obtain ⟨_, hitem, _, hdelivery, rfl, rfl⟩ := hids
    exact ⟨nonzeroId_ok hitem, nonzeroId_ok hdelivery⟩
  have hnewItem : k.state.itemExists item = false := by
    by_contra hexists
    have hlt : (item : Nat) < k.state.nextItem := hrest.kept.below (.item item) (by simpa [RuntimeState.Known] using hexists)
    omega
  have hnewDelivery : delivery ∉ k.state.acknowledged := by
    intro hmem
    have hlt : (delivery : Nat) < k.state.nextDelivery := hrest.kept.below (.delivery delivery) (.inl hmem)
    omega
  obtain ⟨record, hrecord⟩ := hrest.record hpending
  have hshaped := (hrest.kept.filed.coherent.shaped hpending).1
  unfold RuntimeState.Shaped at hshaped
  rw [hphase] at hshaped
  obtain ⟨hnoItem, hempty, hunprepared, _⟩ := hshaped
  refine (usageAttemptFinishEvents_ends completedAt hrest hpending hphase hopened (by simp)).mono (fun _ he => he) ?_
  intro events _ hfinish
  refine candidate_ends (RuntimeState.applyAll_ends_append hfinish fun next _ hnext => ?_)
  obtain ⟨books, rfl⟩ := hnext
  refine (RuntimeState.outputEvents_ends { k.state with
      pending := some { pending with openUsageAttempt := none }, usage := books, pendingCostEvaluation := none }
    rfl rfl hphase rfl ⟨hnoItem, hempty, hunprepared⟩ ?_ hnewDelivery hconfig hrecord.get hne hjoin hshown hfits hrecords).mono
    (fun _ he => he) ?_
  · unfold RuntimeState.itemExists at hnewItem ⊢
    rw [hpending] at hnewItem
    exact hnewItem
  intro next _ hnext
  obtain ⟨assistant, number, number', rfl⟩ := hnext
  have hrunning := hrecord.running
  refine ⟨hrest.quiescent.rewrite { record with assistantItem := some item, delivery := some delivery }
    ⟨rfl, rfl, rfl, fun _ hmem => List.mem_append_left _ hmem⟩ hpending hrecord.get rfl ⟨rfl, rfl, rfl, rfl⟩ ?_ rfl ?_ ?_ ?_ ?_, trivial⟩
  · intro of hof
    obtain rfl := Option.some.inj hof
    exact ⟨rfl, RuntimeState.prepared_ne_streaming⟩
  · intro hcompleted
    simp [hrunning.1] at hcompleted
  · intro hcompleted
    simp [hrunning.1] at hcompleted
  · intro hcancelled
    simp [hrunning.2] at hcancelled
  · simp [hrunning]

/-! ## Guards -/

theorem requireNoToolReconciliation_ends : Ends RuntimeError.Fine (fun _ => True) k.requireNoToolReconciliation := by
  unfold requireNoToolReconciliation
  cases k.tools.bind Tool.DurableToolRuntime.pendingReconciliation with
  | none => trivial
  | some call => exact fun hcorrupt => hcorrupt

theorem readyTeam_ends (team : Team.DurableTeamRuntime) : Ends RuntimeError.Fine (fun _ => True) (readyTeam team) := by
  unfold readyTeam
  refine (Ends.mapError (f := RuntimeError.ofKernelTeam) ?_).mono (fun _ he => he) fun _ _ _ => trivial
  intro e
  cases e <;> exact fun hcorrupt => hcorrupt

theorem activeAgentContext_ends (team : Team.DurableTeamRuntime) (session : AgentSession) :
    Ends RuntimeError.Fine (fun _ => True) (activeAgentContext team session) := by
  unfold activeAgentContext
  exact (Ends.mapError (f := fun source => RuntimeError.team (.team source)) fun _ hcorrupt => hcorrupt).mono (fun _ he => he)
    fun _ _ _ => trivial

theorem requireProviderSession_ends (session : AgentSession) : Ends RuntimeError.Fine (fun _ => True) (k.requireProviderSession session) := by
  unfold requireProviderSession
  refine requireNoToolReconciliation_ends.bind fun _ _ _ => ?_
  refine (Ends.check (e := RuntimeError.toolUnavailable) fun hcorrupt => hcorrupt).bind fun _ _ _ => ?_
  refine (Ends.checkOr (e := RuntimeError.teamUnavailable) fun hcorrupt => hcorrupt).bind fun team _ _ => ?_
  refine (readyTeam_ends team).bind fun _ _ _ => ?_
  exact (activeAgentContext_ends team session).bind fun _ _ _ => trivial

theorem sessionContext_ends (session : AgentSession) : Ends RuntimeError.Fine (fun _ => True) (k.sessionContext session) := by
  unfold sessionContext
  refine (Ends.checkOr (e := RuntimeError.teamUnavailable) fun hcorrupt => hcorrupt).bind fun team _ _ => ?_
  exact (readyTeam_ends team).bind fun _ _ _ => activeAgentContext_ends team session

theorem requireReady_ok : k.requireReady = .ok () ↔ k.state.pending = none := by
  unfold requireReady RuntimeState.status
  cases hpending : k.state.pending with
  | none => simp
  | some pending => cases hphase : pending.phase <;> simp [hphase]

theorem requireReady_ends : Ends RuntimeError.Fine (fun _ => k.state.pending = none) k.requireReady := by
  refine .intro (fun _ hready => requireReady_ok.mp hready) ?_
  intro e he
  unfold requireReady at he
  cases hstatus : k.state.status <;> rw [hstatus] at he <;> cases he <;> exact fun hcorrupt => hcorrupt

theorem requireContextSafeBarrier_ends : Ends RuntimeError.Fine (fun _ => k.state.pending = none) k.requireContextSafeBarrier := by
  unfold requireContextSafeBarrier
  refine requireReady_ends.bind fun _ _ hidle => ?_
  refine requireNoToolReconciliation_ends.bind fun _ _ _ => ?_
  refine (Ends.check (e := RuntimeError.contextCheckpointNotAtSafeBarrier) fun hcorrupt => hcorrupt).bind fun _ _ _ => ?_
  cases k.team with
  | none => exact hidle
  | some team => exact (readyTeam_ends team).mono (fun _ he => he) fun _ _ _ => hidle

theorem requireContextModeExecution_ends (mode : ContextMode) : Ends RuntimeError.Fine (fun _ => True) (requireContextModeExecution mode) := by
  cases mode with
  | canonical => trivial
  | providerNative => exact fun hcorrupt => hcorrupt

theorem requireLayersContextModeExecution_ends (layers : ConfigLayers) :
    Ends RuntimeError.Fine (fun _ => True) (requireLayersContextModeExecution layers) := by
  unfold requireLayersContextModeExecution
  refine (Ends.mapError (f := RuntimeError.config) fun _ hcorrupt => hcorrupt).bind fun resolved _ _ => ?_
  exact requireContextModeExecution_ends _

theorem validateInput_ends (input : String) : Ends RuntimeError.Fine (fun _ => isBlank input = false ∧ byteLen input ≤ maxInputBytes)
    (validateInput input) := by
  unfold validateInput
  refine (Ends.check (e := RuntimeError.invalidInput "input cannot be empty") fun hcorrupt => hcorrupt).bind fun _ _ hshown => ?_
  exact (Ends.check (e := RuntimeError.invalidInput "input is too large") fun hcorrupt => hcorrupt).mono (fun _ he => he)
    fun _ _ hfits => ⟨hshown, hfits⟩

theorem providerContextForHistory_ends (history : List CanonicalItem) (mode : ContextMode) :
    Ends RuntimeError.Fine (fun _ => True) (k.providerContextForHistory host history mode) := by
  unfold providerContextForHistory
  refine (requireContextModeExecution_ends mode).bind fun _ _ _ => ?_
  by_cases hempty : history.isEmpty = true
  · rw [if_pos hempty]
    trivial
  · rw [if_neg hempty]
    cases k.state.contextCheckpoint with
    | none => exact (Ends.mapError (f := RuntimeError.context) fun _ hcorrupt => hcorrupt).bind fun _ _ _ => trivial
    | some checkpoint => exact (Ends.mapError (f := RuntimeError.context) fun _ hcorrupt => hcorrupt).bind fun _ _ _ => trivial

/-! ## Recovery -/

theorem providerBlocked_iff {pending : PendingTurn} : providerBlocked pending = true ↔
    pending.phase = .blocked ∧ pending.blockOrigin = some .provider := by
  unfold providerBlocked
  rw [decide_eq_true_iff]

/-- A Turn that its Provider blocked has no output and no open attempt. -/
theorem recoverable_of_blocked {pending : PendingTurn} (hrest : k.state.AtRest) (hpending : k.state.pending = some pending)
    (hblocked : providerBlocked pending = true) : pending.Recoverable := by
  obtain ⟨hphase, horigin⟩ := providerBlocked_iff.mp hblocked
  have hshaped := (hrest.kept.filed.coherent.shaped hpending).1
  unfold RuntimeState.Shaped at hshaped
  rw [hphase] at hshaped
  obtain ⟨hitem, htext, hprepared, hacknowledged, hopened, _⟩ := hshaped
  exact ⟨hphase, horigin, hopened, by rw [hprepared]; rfl, hitem, htext, hacknowledged⟩

theorem ModelSelection.validate_ends (selection : ModelSelection) : Ends RuntimeError.Fine (fun _ => True) selection.validate := by
  unfold ModelSelection.validate
  refine (Ends.check (e := RuntimeError.invalidModelSelection "Preset ID is invalid") fun hcorrupt => hcorrupt).bind fun _ _ _ => ?_
  refine Ends.forM fun value _ => ?_
  exact (Ends.check (e := RuntimeError.invalidModelSelection "Provider identity is invalid") fun hcorrupt => hcorrupt).mono
    (fun _ he => he) fun _ _ _ => trivial

theorem stageModelSelection_ends {session : AgentSession} {selection : ModelSelection} (hrest : k.state.AtRest) :
    Ends RuntimeError.Fine (fun events => Ends RuntimeError.Fine (fun _ => True) (k.candidate host events))
      (k.stageModelSelectionEvents session selection) := by
  unfold stageModelSelectionEvents
  refine (requireProviderSession_ends session).bind fun _ _ _ => ?_
  refine requireReady_ends.bind fun _ _ hidle => ?_
  refine (ModelSelection.validate_ends selection).bind fun _ _ _ => ?_
  refine (Ends.check (e := RuntimeError.invalidModelSelection "another Agent already owns the pending selection")
    fun hcorrupt => hcorrupt).bind fun _ _ howned => ?_
  have hstaged : ∀ staged, k.state.pendingModelSelection = some staged → staged.agent = session.agent := by
    simpa [Option.all_eq_true] using howned
  show Ends _ _ (k.candidate host [.modelSelectionStaged session.agent selection])
  refine candidate_ends (RuntimeState.perform_alone hrest.quiescent.charged ?_)
  refine Ends.of (RuntimeState.modelSelectionStaged_ok.mpr ⟨hidle, hstaged, rfl⟩) ⟨?_, trivial⟩
  exact hrest.quiescent.keep ⟨rfl, rfl, rfl, fun _ hmem => hmem⟩ rfl rfl hrest.quiescent.charged

theorem publishContextCheckpoint_ends {draft : ReducedContextView} (hrest : k.state.AtRest) :
    Ends RuntimeError.Fine (fun events => Ends RuntimeError.Fine (fun _ => True) (k.candidate host events))
      (k.publishContextCheckpointEvents draft) := by
  unfold publishContextCheckpointEvents
  refine requireContextSafeBarrier_ends.bind fun _ _ hidle => ?_
  refine (Ends.check fun hcorrupt => hcorrupt).bind fun _ _ _ => ?_
  show Ends _ _ (k.candidate host [.contextCheckpointPublished ⟨draft⟩])
  refine candidate_ends (RuntimeState.perform_alone hrest.quiescent.charged ?_)
  show Ends _ _ (k.state.contextCheckpointPublished host.sha256 ⟨draft⟩)
  unfold RuntimeState.contextCheckpointPublished
  rw [require_bind (by rw [hidle]; rfl)]
  refine (Ends.mapError (f := RuntimeError.context) fun e hcorrupt => hcorrupt).bind fun _ _ _ => ?_
  exact ⟨hrest.quiescent.keep ⟨rfl, rfl, rfl, fun _ hmem => hmem⟩ rfl rfl hrest.quiescent.charged, trivial⟩

theorem acknowledge_ends {delivery : DeliveryId} (hrest : k.state.AtRest) :
    Ends RuntimeError.Fine (fun plan => ∀ events, plan = some events → Ends RuntimeError.Fine (fun _ => True) (k.candidate host events))
      (k.acknowledgeEvents delivery) := by
  unfold acknowledgeEvents
  by_cases hmem : delivery ∈ k.state.acknowledged
  · rw [if_pos hmem]
    intro events hnone
    cases hnone
  rw [if_neg hmem]
  refine (Ends.checkOr (e := RuntimeError.unknownDelivery delivery) fun hcorrupt => hcorrupt).bind fun pending _ hpending => ?_
  refine (Ends.checkOr (e := RuntimeError.unknownDelivery delivery) fun hcorrupt => hcorrupt).bind fun prepared _ hprepared => ?_
  refine (Ends.check (e := RuntimeError.unknownDelivery delivery) fun hcorrupt => hcorrupt).bind fun _ _ hsame => ?_
  subst hsame
  intro events hevents
  obtain rfl := Option.some.inj hevents
  obtain ⟨record, hrecord⟩ := hrest.record hpending
  have hshaped := (hrest.kept.filed.coherent.shaped hpending).1
  have hphase : pending.phase = .prepared := by
    unfold RuntimeState.Shaped at hshaped
    cases hphase : pending.phase <;> simp_all
  have hwaiting : pending.acknowledged = false := by
    by_contra hacknowledged
    exact hmem ((hrest.kept.filed.filed hpending hprepared).2.2 (by simpa using hacknowledged))
  refine candidate_ends (RuntimeState.applyAll_ends (R := fun next => next = { k.state with
      pending := some { pending with acknowledged := true }, acknowledged := insert prepared.delivery k.state.acknowledged })
    (RuntimeState.apply_ends hrest.quiescent.charged ?_) fun next _ hnext => ?_)
  · exact Ends.of (RuntimeState.outputAcknowledged_ok.mpr ⟨pending, hpending, rfl, hphase, hwaiting, by rw [hprepared]; rfl, hmem, rfl⟩) rfl
  subst hnext
  refine RuntimeState.perform_alone hrest.quiescent.charged ?_
  refine Ends.of (RuntimeState.turnCompleted_ok.mpr ⟨_, record, rfl, rfl, hphase, rfl, hrecord.get, rfl⟩) ⟨?_, trivial⟩
  refine hrest.quiescent.rewrite _ ⟨rfl, rfl, rfl, fun _ hmem => hmem⟩ hpending hrecord.get rfl ⟨rfl, rfl, rfl, rfl⟩ ?_
    hrest.quiescent.charged ?_ ?_ ?_ ?_
  · intro of hof
    cases hof
  · intro _
    rw [hrecord.output.2, hprepared]
    simp
  · exact fun _ => hrecord.running.2
  · intro hcancelled
    simp [hrecord.running.2] at hcancelled
  · simp

theorem cancelProviderBlockedTurn_ends {agent : Option AgentId} (hrest : k.state.AtRest) :
    Ends RuntimeError.Fine (fun plan => ∀ events, plan = some events → Ends RuntimeError.Fine (fun _ => True) (k.candidate host events))
      (k.cancelProviderBlockedTurnEvents agent turn) := by
  unfold cancelProviderBlockedTurnEvents
  refine (Ends.checkOr (e := RuntimeError.unknownTurn turn) fun hcorrupt => hcorrupt).bind fun record _ hget => ?_
  refine (Ends.check (e := RuntimeError.turnCancellationNotAllowed turn) fun hcorrupt => hcorrupt).bind fun _ _ _ => ?_
  by_cases hcancelled : record.cancelled = true
  · rw [if_pos hcancelled]
    intro events hnone
    cases hnone
  rw [if_neg hcancelled]
  refine (Ends.checkOr (e := RuntimeError.turnCancellationNotAllowed turn) fun hcorrupt => hcorrupt).bind fun pending _ hfilter => ?_
  refine (Ends.check (e := RuntimeError.turnCancellationNotAllowed turn) fun hcorrupt => hcorrupt).bind fun _ _ hblocked => ?_
  intro events hevents
  obtain rfl := Option.some.inj hevents
  obtain ⟨hpending, hturn⟩ := Option.filter_eq_some_iff.mp hfilter
  obtain rfl : pending.turn = turn := by simpa using hturn
  have hrecoverable := recoverable_of_blocked hrest hpending hblocked
  obtain ⟨of, hrecord⟩ := hrest.record hpending
  obtain rfl := Option.some.inj (hrecord.get.symm.trans hget)
  refine candidate_ends (RuntimeState.perform_alone hrest.quiescent.charged ?_)
  refine Ends.of (RuntimeState.turnCancelled_ok.mpr ⟨pending, of, hpending, rfl, hrecoverable, hrecord.get, hrecord.running.1,
    hrecord.running.2, rfl⟩) ⟨?_, trivial⟩
  have hunprepared : pending.prepared = none := by
    simpa using hrecoverable.2.2.2.1
  refine hrest.quiescent.rewrite _ ⟨rfl, rfl, rfl, fun _ hmem => hmem⟩ hpending hrecord.get rfl ⟨rfl, rfl, rfl, rfl⟩ ?_
    hrest.quiescent.charged ?_ ?_ ?_ ?_
  · intro of hof
    cases hof
  · intro hcompleted
    simp [hrecord.running.1] at hcompleted
  · intro hcompleted
    simp [hrecord.running.1] at hcompleted
  · intro _
    rw [hrecord.output.1, hrecord.output.2, hunprepared]
    exact ⟨rfl, rfl⟩
  · simp

/-- The plans of the next two only fail for a Turn that is not theirs: the configuration of the pending Turn is there. -/
theorem requirePendingContextModeExecution_ends (hrest : k.state.AtRest) :
    Ends RuntimeError.Fine (fun _ => True) (k.requirePendingContextModeExecution turn) := by
  unfold requirePendingContextModeExecution
  cases hfilter : k.state.pending.filter (·.turn = turn) with
  | none => trivial
  | some pending =>
    obtain ⟨hpending, _⟩ := Option.filter_eq_some_iff.mp hfilter
    obtain ⟨⟨config, hconfig⟩, _⟩ := hrest.snapshots hpending
    dsimp only
    rw [hconfig, okOr_some, ok_bind]
    cases config.resolved.contextMode.value with
    | canonical => trivial
    | providerNative => exact fun hcorrupt => hcorrupt

theorem requestProviderRetry_ends {agent : Option AgentId} (hrest : k.state.AtRest) :
    Ends RuntimeError.Fine (fun events => Ends RuntimeError.Fine (fun _ => True) (k.candidate host events))
      (k.requestProviderRetryEvents agent turn) := by
  unfold requestProviderRetryEvents
  refine (requirePendingContextModeExecution_ends hrest).bind fun _ _ _ => ?_
  refine (Ends.checkOr (e := RuntimeError.unknownTurn turn) fun hcorrupt => hcorrupt).bind fun record _ _ => ?_
  refine (Ends.check (e := RuntimeError.turnRetryNotAllowed turn) fun hcorrupt => hcorrupt).bind fun _ _ _ => ?_
  refine (Ends.checkOr (e := RuntimeError.turnRetryNotAllowed turn) fun hcorrupt => hcorrupt).bind fun pending _ hfilter => ?_
  refine (Ends.check (e := RuntimeError.turnRetryNotAllowed turn) fun hcorrupt => hcorrupt).bind fun _ _ hblocked => ?_
  obtain ⟨hpending, hturn⟩ := Option.filter_eq_some_iff.mp hfilter
  obtain rfl : pending.turn = turn := by simpa using hturn
  have hrecoverable := recoverable_of_blocked hrest hpending hblocked.1
  show Ends _ _ (k.candidate host [.turnRetryRequested pending.turn])
  refine candidate_ends (RuntimeState.perform_alone hrest.quiescent.charged ?_)
  refine Ends.of (RuntimeState.turnRetryRequested_ok.mpr ⟨pending, hpending, rfl, hrecoverable, hblocked.2, rfl⟩) ⟨?_, trivial⟩
  exact hrest.quiescent.edit ⟨rfl, rfl, rfl, fun _ hmem => hmem⟩ rfl hpending rfl rfl RuntimeState.admitted_ne_streaming
    hrest.quiescent.charged

theorem advanceProviderFallback_ends {agent : Option AgentId} (hrest : k.state.AtRest) :
    Ends RuntimeError.Fine (fun plan => ∀ events, plan = some events → Ends RuntimeError.Fine (fun _ => True) (k.candidate host events))
      (k.advanceProviderFallbackEvents agent turn) := by
  unfold advanceProviderFallbackEvents
  refine (requirePendingContextModeExecution_ends hrest).bind fun _ _ _ => ?_
  refine (Ends.checkOr (e := RuntimeError.unknownTurn turn) fun hcorrupt => hcorrupt).bind fun record _ hget => ?_
  cases hfilter : k.state.pending.filter (·.turn = turn) with
  | none =>
    intro events hnone
    cases hnone
  | some pending =>
    obtain ⟨hpending, hturn⟩ := Option.filter_eq_some_iff.mp hfilter
    obtain rfl : pending.turn = turn := by simpa using hturn
    refine (Ends.checkOr (e := RuntimeError.integerOverflow) fun hcorrupt => hcorrupt).bind fun index _ hindex => ?_
    obtain ⟨hlt, rfl⟩ := checkedAdd_some.mp hindex
    by_cases hallowed : record.agent = agent ∧ record.completed = false ∧ record.cancelled = false ∧ providerBlocked pending = true ∧
        providerStageIsRetryable pending.providerUnavailableStage = true ∧ pending.fallbackIndex + 1 ≤ record.fallbacks.length
    · rw [if_pos hallowed]
      obtain ⟨_, _, _, hblocked, hretryable, hleft⟩ := hallowed
      intro events hevents
      obtain rfl := Option.some.inj hevents
      have hrecoverable := recoverable_of_blocked hrest hpending hblocked
      have hfallback : k.state.frozenFallback pending.turn (pending.fallbackIndex + 1) = some record.fallbacks[pending.fallbackIndex] := by
        refine RuntimeState.frozenFallback_some.mpr ⟨record, hget, by omega, ?_⟩
        rw [Nat.add_sub_cancel, List.getElem?_eq_getElem]
      refine candidate_ends (RuntimeState.perform_alone hrest.quiescent.charged ?_)
      refine Ends.of (RuntimeState.providerFallbackRequested_ok.mpr ⟨_, pending, hfallback, hpending, rfl, hrecoverable, hretryable,
        ⟨hlt, rfl⟩, rfl⟩) ⟨?_, trivial⟩
      exact hrest.quiescent.edit ⟨rfl, rfl, rfl, fun _ hmem => hmem⟩ rfl hpending rfl rfl RuntimeState.admitted_ne_streaming
        hrest.quiescent.charged
    · rw [if_neg hallowed]
      intro events hnone
      cases hnone

end Kernel

end GreenTyper.Runtime
