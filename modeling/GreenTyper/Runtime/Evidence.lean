/-
  GreenTyper.Runtime.Evidence — the usage and the costs of a Ledger that is replayed, from its
  events alone.

  (1) `usage_exact`: the attempts on record are those of the events, each once and in order, and
      the rollups are the sums over them.
  (2) `costs_recomputed`: every attempt that has to be evaluated is evaluated by the very next
      event, and that event says what the frozen price schedules give for the usage that was
      recorded. The configuration and the Provider are those of the Turn's admission or of the
      fallback that it had come to, and the start is that of the attempt.
-/

import GreenTyper.Runtime.Ids

namespace GreenTyper.Runtime

open Lib Config Context Provider Usage
open GreenTyper.Team (AgentId)

/-! ## What the events say -/

namespace RuntimeEvent

def frozenConfig? (id : ConfigEpochId) : RuntimeEvent → Option ConfigEpoch
  | .configFrozen epoch => if epoch.id = id then some epoch else none
  | _ => none

def frozenProvider? (id : ProviderEpochId) : RuntimeEvent → Option ProviderEpoch
  | .providerFrozen epoch => if epoch.id = id then some epoch else none
  | _ => none

/-- The snapshots that a Turn was admitted with, and those of its fallbacks. -/
def admission? (turn : TurnId) : RuntimeEvent → Option (ConfigEpochId × ProviderEpochId × List FrozenProviderFallback)
  | .turnAdmitted _ of _ config provider fallbacks _ _ => if of = turn then some (config, provider, fallbacks) else none
  | _ => none

def start? (turn : TurnId) (attempt : Nat) : RuntimeEvent → Option UsageTimestamp
  | .usageAttemptStarted of number startedAt => if of = turn ∧ number = attempt then some startedAt else none
  | _ => none

/-- The attempts that an event puts on record. -/
def charges : RuntimeEvent → List (Nat × UsageAttemptOutcome × Option UsageRecord)
  | .usageAttemptFinished turn _ _ outcome usage _ _ => [(turn, outcome, usage)]
  | .outputPrepared turn _ _ _ usageRecords true => usageRecords.map fun record => (turn, .succeeded, some record)
  | _ => []

end RuntimeEvent

open RuntimeEvent

/-- The fallbacks that a Turn has come through. -/
def fallbacksTaken (turn : TurnId) (events : List RuntimeEvent) : Nat :=
  ((events.filterMap (actOf turn)).filterMap TurnAct.fallback?).length

/-- The snapshots that a Turn uses. -/
def inUse (turn : TurnId) (events : List RuntimeEvent) : Option (ConfigEpochId × ProviderEpochId) :=
  (latest (admission? turn) events).bind fun (config, provider, fallbacks) =>
    if fallbacksTaken turn events = 0 then some (config, provider)
    else fallbacks[fallbacksTaken turn events - 1]?.map fun fallback => (fallback.config, fallback.provider)

/-- What the snapshots are that a Turn uses. -/
def evidence (turn : TurnId) (events : List RuntimeEvent) : Option (ConfigEpoch × ProviderEpoch) :=
  (inUse turn events).bind fun (config, provider) =>
    (latest (frozenConfig? config) events).bind fun config => (latest (frozenProvider? provider) events).map fun provider => (config, provider)

/-- The cost of an attempt by its evidence. -/
def recomputed (config : ConfigEpoch) (provider : ProviderEpoch) (startedAt : UsageTimestamp) (usage : Option UsageRecord) :
    CostEstimateOutcome :=
  match usage with
  | none => .unknown .missingUsageRecord
  | some record => config.priceSchedules.estimateAttempt provider.profile provider.model provider.dialect startedAt record

namespace RuntimeState

variable {sha256 : Sha256} {state next : RuntimeState} {turn : TurnId}

/-! ## Snapshots -/

theorem get_insert_or {κ α : Type} [LinearOrder κ] (m : OrdMap κ α) (k k' : κ) (v : α) :
    (m.insert k v).get k' = (if k = k' then some v else none).or (m.get k') := by
  rw [OrdMap.get_insert]
  by_cases h : k = k'
  · rw [if_pos h, if_pos h]
    rfl
  · rw [if_neg h, if_neg h]
    rfl

theorem apply_snapshots {event : RuntimeEvent} (h : state.apply sha256 event = .ok next) :
    (∀ id, next.configs.get id = (frozenConfig? id event).or (state.configs.get id)) ∧
      ∀ id, next.providers.get id = (frozenProvider? id event).or (state.providers.get id) := by
  obtain ⟨_, hperform⟩ := apply_ok.mp h
  cases event with
  | threadCreated =>
    obtain ⟨_, _, _, rfl⟩ := threadCreated_ok.mp hperform
    exact ⟨fun _ => rfl, fun _ => rfl⟩
  | configFrozen epoch =>
    obtain ⟨_, _, rfl⟩ := configFrozen_ok.mp hperform
    exact ⟨fun id => get_insert_or _ _ _ _, fun _ => rfl⟩
  | providerFrozen epoch =>
    obtain ⟨_, _, rfl⟩ := providerFrozen_ok.mp hperform
    exact ⟨fun _ => rfl, fun id => get_insert_or _ _ _ _⟩
  | turnAdmitted =>
    obtain ⟨_, _, _, rfl⟩ := turnAdmitted_ok.mp hperform
    exact ⟨fun _ => rfl, fun _ => rfl⟩
  | assistantItemStarted =>
    obtain ⟨_, _, _, _, _, _, _, rfl⟩ := assistantItemStarted_ok.mp hperform
    exact ⟨fun _ => rfl, fun _ => rfl⟩
  | outputPrepared =>
    obtain ⟨_, _, _, _, _, _, _, _, _, rfl⟩ := outputPrepared_ok.mp hperform
    exact ⟨fun _ => rfl, fun _ => rfl⟩
  | _ =>
    rw [(apply_settled h rfl).configs, (apply_settled h rfl).providers]
    exact ⟨fun _ => rfl, fun _ => rfl⟩

def TurnRecord.snapshots (record : TurnRecord) : ConfigEpochId × ProviderEpochId × List FrozenProviderFallback :=
  (record.config, record.provider, record.fallbacks)

/-- A record that is written again keeps its snapshots. -/
theorem snapshots_rewrite {record record' : TurnRecord} {of : TurnId} (hget : state.turns.get of = some record)
    (hturns : next.turns = state.turns.insert of record') (hsame : TurnRecord.snapshots record' = TurnRecord.snapshots record) (turn : TurnId) :
    (next.turns.get turn).map TurnRecord.snapshots = (state.turns.get turn).map TurnRecord.snapshots := by
  rw [hturns, OrdMap.get_insert]
  by_cases h : of = turn
  · subst h
    rw [if_pos rfl, hget, Option.map_some, Option.map_some, hsame]
  · rw [if_neg h]

theorem apply_admission {event : RuntimeEvent} (h : state.apply sha256 event = .ok next) (turn : TurnId) :
    (next.turns.get turn).map TurnRecord.snapshots = (admission? turn event).or ((state.turns.get turn).map TurnRecord.snapshots) := by
  obtain ⟨_, hperform⟩ := apply_ok.mp h
  have hsame : next.turns = state.turns → (next.turns.get turn).map TurnRecord.snapshots =
      (none : Option _).or ((state.turns.get turn).map TurnRecord.snapshots) := fun hturns => by rw [hturns]; rfl
  cases event with
  | turnAdmitted _ of _ config provider fallbacks _ _ =>
    obtain ⟨_, _, _, rfl⟩ := turnAdmitted_ok.mp hperform
    show ((state.turns.insert of _).get turn).map TurnRecord.snapshots = _
    rw [get_insert_or, admission?]
    by_cases hof : of = turn
    · rw [if_pos hof, if_pos hof]
      rfl
    · rw [if_neg hof, if_neg hof]
      rfl
  | outputPrepared =>
    obtain ⟨_, _, _, _, hp, rfl, _, _, _, rfl⟩ := outputPrepared_ok.mp hperform
    refine snapshots_rewrite hp.recorded rfl ?_ turn
    rfl
  | turnCompleted =>
    obtain ⟨_, _, _, _, _, _, hget, rfl⟩ := turnCompleted_ok.mp hperform
    refine snapshots_rewrite hget rfl ?_ turn
    rfl
  | turnCancelled =>
    obtain ⟨_, _, _, _, _, hget, _, _, rfl⟩ := turnCancelled_ok.mp hperform
    refine snapshots_rewrite hget rfl ?_ turn
    rfl
  | contextCheckpointPublished =>
    obtain ⟨_, _, rfl⟩ := contextCheckpointPublished_ok.mp hperform
    exact hsame rfl
  | modelSelectionStaged =>
    obtain ⟨_, _, rfl⟩ := modelSelectionStaged_ok.mp hperform
    exact hsame rfl
  | threadCreated =>
    obtain ⟨_, _, _, rfl⟩ := threadCreated_ok.mp hperform
    exact hsame rfl
  | configFrozen =>
    obtain ⟨_, _, rfl⟩ := configFrozen_ok.mp hperform
    exact hsame rfl
  | providerFrozen =>
    obtain ⟨_, _, rfl⟩ := providerFrozen_ok.mp hperform
    exact hsame rfl
  | assistantItemStarted =>
    obtain ⟨_, _, _, _, _, _, _, rfl⟩ := assistantItemStarted_ok.mp hperform
    exact hsame rfl
  | assistantTextDelta =>
    obtain ⟨_, _, _, _, _, _, _, rfl⟩ := assistantTextDelta_ok.mp hperform
    exact hsame rfl
  | outputAcknowledged =>
    obtain ⟨_, _, _, _, _, _, _, rfl⟩ := outputAcknowledged_ok.mp hperform
    exact hsame rfl
  | turnBlocked =>
    obtain ⟨_, _, _, _, _, _, rfl⟩ := turnBlocked_ok.mp hperform
    exact hsame rfl
  | turnRetryRequested =>
    obtain ⟨_, _, _, _, _, rfl⟩ := turnRetryRequested_ok.mp hperform
    exact hsame rfl
  | providerFallbackRequested =>
    obtain ⟨_, _, _, _, _, _, _, _, rfl⟩ := providerFallbackRequested_ok.mp hperform
    exact hsame rfl
  | usageAttemptStarted =>
    obtain ⟨_, _, _, _, _, _, _, rfl⟩ := usageAttemptStarted_ok.mp hperform
    exact hsame rfl
  | usageAttemptFinished =>
    obtain ⟨_, _, _, _, _, _, _, _, _, _, _, _, _, _, _, _, _, rfl⟩ := usageAttemptFinished_ok.mp hperform
    exact hsame rfl
  | usageAttemptCostEvaluated =>
    obtain ⟨_, _, _, _, _, _, _, _, _, _, _, _, _, _, rfl⟩ := usageAttemptCostEvaluated_ok.mp hperform
    exact hsame rfl

/-- What the last event says is what the state has. -/
theorem latest_of_applyAll {β : Type} (part : RuntimeState → Option β) {reader : RuntimeEvent → Option β} {events : List RuntimeEvent}
    (hstep : ∀ {state next : RuntimeState} {event : RuntimeEvent}, state.apply sha256 event = .ok next →
      part next = (reader event).or (part state)) (hnone : part default = none) (h : default.applyAll sha256 events = .ok state) :
    latest reader events = part state := by
  have hlatest : part state = (latest reader events).or (part default) := by
    refine latest_run part ?_ h
    exact fun happly => hstep happly
  rw [hlatest, hnone, Option.or_none]

/-- A Turn uses the snapshots of its admission, or those of the last fallback that it took. -/
theorem evidence_of_pending {events : List RuntimeEvent} {pending : PendingTurn} {config : ConfigEpoch} {provider : ProviderEpoch}
    (h : default.applyAll sha256 events = .ok state) (hpending : state.pending = some pending) (hphase : pending.phase = .admitted)
    (hconfig : state.configs.get pending.config = some config) (hprovider : state.providers.get pending.provider = some provider) :
    evidence pending.turn events = some (config, provider) := by
  obtain ⟨record, hrecord⟩ := (coherent_of_applyAll coherent_default h).recorded hpending
  have hadmission : latest (admission? pending.turn) events = some (TurnRecord.snapshots record) := by
    rw [latest_of_applyAll (fun s => (s.turns.get pending.turn).map TurnRecord.snapshots) (fun happly => apply_admission happly _) rfl h,
      hrecord.get]
    rfl
  have hconfigs : latest (frozenConfig? pending.config) events = some config := by
    rw [latest_of_applyAll (fun s => s.configs.get pending.config) (fun happly => (apply_snapshots happly).1 _) rfl h, hconfig]
  have hproviders : latest (frozenProvider? pending.provider) events = some provider := by
    rw [latest_of_applyAll (fun s => s.providers.get pending.provider) (fun happly => (apply_snapshots happly).2 _) rfl h, hprovider]
  have htaken : fallbacksTaken pending.turn events = pending.fallbackIndex := by
    obtain ⟨n, hn, _, htries⟩ := Life.fallbacks (lives_of_applyAll h pending.turn)
    rw [hrecord.lifeOf hpending, PendingTurn.life, hphase] at htries
    rw [fallbacksTaken, hn, List.length_range', ← (htries _ rfl).1]
    rfl
  have huse : inUse pending.turn events = some (pending.config, pending.provider) := by
    unfold inUse
    rw [hadmission, htaken]
    exact hrecord.inUse
  unfold evidence
  rw [huse]
  show (latest (frozenConfig? pending.config) events).bind _ = _
  rw [hconfigs]
  show (latest (frozenProvider? pending.provider) events).map _ = _
  rw [hproviders]
  rfl

/-! ## Attempts -/

/-- The attempt that is open started where the events say, and the one whose evaluation is due has just ended. -/
structure Timed (events : List RuntimeEvent) (state : RuntimeState) : Prop where
  opened : ∀ {pending opened}, state.pending = some pending → pending.openUsageAttempt = some opened →
    latest (start? pending.turn opened.attempt) events = some opened.startedAt
  due : ∀ {turn attempt}, state.pendingCostEvaluation = some (turn, attempt) →
    ∃ front completedAt outcome usage names startedAt record,
      events = front ++ [.usageAttemptFinished turn attempt completedAt outcome usage names true] ∧
        latest (start? turn attempt) events = some startedAt ∧ state.usage.attempt turn attempt = some record ∧ record.usage = usage ∧
        record.startedAt = some startedAt

/-- An event that starts no attempt and leaves none due. -/
theorem Timed.frame {events : List RuntimeEvent} {event : RuntimeEvent} (ht : Timed events state)
    (hreader : ∀ turn attempt, start? turn attempt event = none) (hdue : next.pendingCostEvaluation = none)
    (hopened : ∀ pending' opened, next.pending = some pending' → pending'.openUsageAttempt = some opened →
      ∃ pending, state.pending = some pending ∧ pending.turn = pending'.turn ∧ pending.openUsageAttempt = some opened) :
    Timed (events ++ [event]) next := by
  constructor
  · intro pending' opened hpending' hopen'
    obtain ⟨pending, hpending, hturn, hopen⟩ := hopened pending' opened hpending' hopen'
    rw [latest_snoc, hreader, ← hturn]
    exact ht.opened hpending hopen
  · intro turn attempt h
    rw [hdue] at h
    cases h

theorem usageAttempt_ok {context : UsageContext} {attempt : Nat} {startedAt completedAt : Option UsageTimestamp}
    {outcome : UsageAttemptOutcome} {usage : Option UsageRecord} {windows : List UsageWindow} {created : UsageAttempt}
    (h : usageAttempt context turn attempt startedAt completedAt outcome usage windows = .ok created) :
    (created.turn = turn ∧ created.attempt = attempt) ∧ (created.outcome = outcome ∧ created.usage = usage) ∧ created.startedAt = startedAt := by
  unfold usageAttempt UsageAttempt.new at h
  simp only [bind_ok, mapError_ok, exists_unit, require_ok, pure, Except.pure, Except.ok.injEq] at h
  obtain ⟨made, ⟨_, _, hmade⟩, rfl⟩ := h
  by_cases hdistinct : (windows.map (·.id)).Nodup
  · rw [dif_pos hdistinct] at hmade
    obtain rfl := Except.ok.inj hmade
    exact ⟨⟨rfl, rfl⟩, ⟨rfl, rfl⟩, rfl⟩
  · rw [dif_neg hdistinct] at hmade
    cases hmade

/-- A new attempt is the one that its number finds. -/
theorem attempt_record {projection books : UsageProjection} {created : UsageAttempt} (h : projection.record created = .ok books) :
    books.attempt created.turn created.attempt = some created ∧ books.attempts = projection.attempts ++ [created] := by
  obtain ⟨hnew, hbooks⟩ := seq_ok.mp h
  obtain rfl := Except.ok.inj hbooks
  have hnone : projection.attempts.find? (UsageProjection.isAttempt created.turn created.attempt) = none := by
    rw [List.find?_eq_none]
    intro other hmem hsame
    have hany := List.any_eq_true.mpr ⟨other, hmem, hsame⟩
    rw [require_ok.mp hnew] at hany
    cases hany
  refine ⟨?_, rfl⟩
  unfold UsageProjection.attempt
  rw [List.find?_append, hnone]
  simp [UsageProjection.isAttempt]

theorem Timed.apply {events : List RuntimeEvent} {event : RuntimeEvent} (ht : Timed events state)
    (h : state.apply sha256 event = .ok next) : Timed (events ++ [event]) next := by
  obtain ⟨_, hperform⟩ := apply_ok.mp h
  cases event with
  | contextCheckpointPublished =>
    have hnone := not_due_of_apply h fun _ => rfl
    obtain ⟨_, _, rfl⟩ := contextCheckpointPublished_ok.mp hperform
    exact ht.frame (fun _ _ => rfl) hnone fun pending _ hp ho => ⟨pending, hp, rfl, ho⟩
  | modelSelectionStaged =>
    have hnone := not_due_of_apply h fun _ => rfl
    obtain ⟨_, _, rfl⟩ := modelSelectionStaged_ok.mp hperform
    exact ht.frame (fun _ _ => rfl) hnone fun pending _ hp ho => ⟨pending, hp, rfl, ho⟩
  | threadCreated =>
    have hnone := not_due_of_apply h fun _ => rfl
    obtain ⟨_, _, _, rfl⟩ := threadCreated_ok.mp hperform
    exact ht.frame (fun _ _ => rfl) hnone fun pending _ hp ho => ⟨pending, hp, rfl, ho⟩
  | configFrozen =>
    have hnone := not_due_of_apply h fun _ => rfl
    obtain ⟨_, _, rfl⟩ := configFrozen_ok.mp hperform
    exact ht.frame (fun _ _ => rfl) hnone fun pending _ hp ho => ⟨pending, hp, rfl, ho⟩
  | providerFrozen =>
    have hnone := not_due_of_apply h fun _ => rfl
    obtain ⟨_, _, rfl⟩ := providerFrozen_ok.mp hperform
    exact ht.frame (fun _ _ => rfl) hnone fun pending _ hp ho => ⟨pending, hp, rfl, ho⟩
  | turnAdmitted =>
    have hnone := not_due_of_apply h fun _ => rfl
    obtain ⟨_, _, _, rfl⟩ := turnAdmitted_ok.mp hperform
    refine ht.frame (fun _ _ => rfl) hnone fun pending _ hp ho => ?_
    obtain rfl := Option.some.inj hp
    cases ho
  | assistantItemStarted =>
    have hnone := not_due_of_apply h fun _ => rfl
    obtain ⟨_, _, pending, hpending, _, _, _, rfl⟩ := assistantItemStarted_ok.mp hperform
    refine ht.frame (fun _ _ => rfl) hnone fun pending' _ hp ho => ?_
    obtain rfl := Option.some.inj hp
    exact ⟨pending, hpending, rfl, ho⟩
  | assistantTextDelta =>
    have hnone := not_due_of_apply h fun _ => rfl
    obtain ⟨_, pending, hpending, _, _, _, _, rfl⟩ := assistantTextDelta_ok.mp hperform
    refine ht.frame (fun _ _ => rfl) hnone fun pending' _ hp ho => ?_
    obtain rfl := Option.some.inj hp
    exact ⟨pending, hpending, rfl, ho⟩
  | outputPrepared =>
    have hnone := not_due_of_apply h fun _ => rfl
    obtain ⟨pending, _, _, _, hpre, _, _, _, _, rfl⟩ := outputPrepared_ok.mp hperform
    refine ht.frame (fun _ _ => rfl) hnone fun pending' _ hp ho => ?_
    obtain rfl := Option.some.inj hp
    exact ⟨pending, hpre.current, rfl, ho⟩
  | outputAcknowledged =>
    have hnone := not_due_of_apply h fun _ => rfl
    obtain ⟨pending, hpending, _, _, _, _, _, rfl⟩ := outputAcknowledged_ok.mp hperform
    refine ht.frame (fun _ _ => rfl) hnone fun pending' _ hp ho => ?_
    obtain rfl := Option.some.inj hp
    exact ⟨pending, hpending, rfl, ho⟩
  | turnCompleted =>
    have hnone := not_due_of_apply h fun _ => rfl
    obtain ⟨_, _, _, _, _, _, _, rfl⟩ := turnCompleted_ok.mp hperform
    exact ht.frame (fun _ _ => rfl) hnone fun pending' _ hp _ => by cases hp
  | turnCancelled =>
    have hnone := not_due_of_apply h fun _ => rfl
    obtain ⟨_, _, _, _, _, _, _, _, rfl⟩ := turnCancelled_ok.mp hperform
    exact ht.frame (fun _ _ => rfl) hnone fun pending' _ hp _ => by cases hp
  | turnBlocked =>
    have hnone := not_due_of_apply h fun _ => rfl
    obtain ⟨_, pending, hpending, _, _, _, rfl⟩ := turnBlocked_ok.mp hperform
    refine ht.frame (fun _ _ => rfl) hnone fun pending' _ hp ho => ?_
    obtain rfl := Option.some.inj hp
    exact ⟨pending, hpending, rfl, ho⟩
  | turnRetryRequested =>
    have hnone := not_due_of_apply h fun _ => rfl
    obtain ⟨pending, hpending, _, _, _, rfl⟩ := turnRetryRequested_ok.mp hperform
    refine ht.frame (fun _ _ => rfl) hnone fun pending' _ hp ho => ?_
    obtain rfl := Option.some.inj hp
    exact ⟨pending, hpending, rfl, ho⟩
  | providerFallbackRequested =>
    have hnone := not_due_of_apply h fun _ => rfl
    obtain ⟨_, pending, _, hpending, _, _, _, _, rfl⟩ := providerFallbackRequested_ok.mp hperform
    refine ht.frame (fun _ _ => rfl) hnone fun pending' _ hp ho => ?_
    obtain rfl := Option.some.inj hp
    exact ⟨pending, hpending, rfl, ho⟩
  | usageAttemptStarted turn attempt startedAt =>
    have hnone := not_due_of_apply h fun _ => rfl
    obtain ⟨pending, hpending, rfl, _, _, _, _, rfl⟩ := usageAttemptStarted_ok.mp hperform
    constructor
    · intro pending' opened hp ho
      obtain rfl := Option.some.inj hp
      obtain rfl := Option.some.inj ho
      rw [latest_snoc, start?, if_pos ⟨rfl, rfl⟩]
      rfl
    · intro of number hdue
      rw [show state.pendingCostEvaluation = some _ from hdue] at hnone
      cases hnone
  | usageAttemptFinished turn attempt completedAt outcome usage names charged =>
    have hnone := not_due_of_apply h fun _ => rfl
    obtain ⟨_, pending, opened, _, _, context, created, books, hpending, ⟨rfl, _⟩, ⟨hopened, rfl⟩, _, _, _, _, hcreated, hbooks, rfl⟩ :=
      usageAttemptFinished_ok.mp hperform
    obtain ⟨⟨hturn, hnumber⟩, ⟨_, husage⟩, hstart⟩ := usageAttempt_ok hcreated
    have hfind := (attempt_record hbooks).1
    rw [hturn, hnumber] at hfind
    constructor
    · intro pending' opened' hp ho
      obtain rfl := Option.some.inj hp
      cases ho
    · intro of number hdue
      by_cases hcharged : charged = true
      · subst hcharged
        obtain ⟨rfl, rfl⟩ := Prod.mk.inj (Option.some.inj hdue)
        refine ⟨events, completedAt, outcome, usage, names, opened.startedAt, created, rfl, ?_, hfind, husage, hstart⟩
        rw [latest_snoc]
        exact ht.opened hpending hopened
      · simp [hcharged, hnone] at hdue
  | usageAttemptCostEvaluated =>
    obtain ⟨_, _, pending, _, _, _, _, _, ⟨hpending, _⟩, _, _, _, _, _, rfl⟩ := usageAttemptCostEvaluated_ok.mp hperform
    exact ht.frame (fun _ _ => rfl) rfl fun pending' _ hp ho => ⟨pending', hp, rfl, ho⟩

theorem timed_of_applyAll {events : List RuntimeEvent} : ∀ {state : RuntimeState}, default.applyAll sha256 events = .ok state →
    Timed events state := by
  induction events using List.reverseRecOn with
  | nil =>
    intro state h
    obtain rfl : default = state := Except.ok.inj h
    exact ⟨fun hp => (by cases hp), fun hdue => (by cases hdue)⟩
  | append_singleton events event ih =>
    intro state h
    obtain ⟨middle, hevents, hlast⟩ := applyAll_append.mp h
    obtain ⟨last, happly, hnil⟩ := applyAll_cons.mp hlast
    obtain rfl : last = state := Except.ok.inj hnil
    exact (ih hevents).apply happly

/-- The state between two transactions has no evaluation due. -/
theorem not_due_of_replay {ledger : List (List RuntimeEvent)} (h : replay sha256 ledger = .ok state) : state.pendingCostEvaluation = none := by
  rcases List.eq_nil_or_concat ledger with rfl | ⟨front, transaction, rfl⟩
  · obtain rfl : default = state := Except.ok.inj h
    rfl
  · rw [List.concat_eq_append] at h
    obtain ⟨_, _, htransaction⟩ := replay_append.mp h
    have hquiescent := (replayTransaction_ok.mp htransaction).2.2
    unfold validateQuiescent at hquiescent
    simp only [bind_ok, exists_unit, require_ok] at hquiescent
    obtain ⟨_, _, _, _, _, hdue, _⟩ := hquiescent
    exact hdue

/-- An evaluation that was accepted is the one that the evidence gives. -/
theorem evaluated {events : List RuntimeEvent} {attempt : Nat} {evaluation : FrozenCostEvaluation}
    (h : default.applyAll sha256 events = .ok state) (heval : state.usageAttemptCostEvaluated turn attempt evaluation = .ok next) :
    ∃ front completedAt outcome usage names config provider startedAt,
      events = front ++ [.usageAttemptFinished turn attempt completedAt outcome usage names true] ∧
        evidence turn events = some (config, provider) ∧ latest (start? turn attempt) events = some startedAt ∧
        evaluation = .fromOutcome (recomputed config provider startedAt usage) := by
  obtain ⟨hdue, context, pending, config, record, expected, _, hcontext, ⟨hpending, rfl⟩, hconfig, hrecord, hexpected, hmatches, _, _⟩ :=
    usageAttemptCostEvaluated_ok.mp heval
  obtain ⟨front, completedAt, outcome, usage, names, startedAt, found, hevents, hstart, hfind, husage, hat⟩ := (timed_of_applyAll h).due hdue
  obtain rfl := Option.some.inj (hrecord.symm.trans hfind)
  obtain ⟨of, hof, _, hphase, _⟩ := (coherent_of_applyAll coherent_default h).due hdue
  obtain rfl := Option.some.inj (hpending.symm.trans hof)
  obtain ⟨_, _, provider, _, _, _, hsnapshots, rfl⟩ := usageContext_ok hcontext
  obtain ⟨hprovider, _⟩ := hsnapshots pending hpending rfl
  refine ⟨front, completedAt, outcome, usage, names, config, provider, startedAt, hevents,
    evidence_of_pending h hpending hphase hconfig hprovider, hstart, ?_⟩
  have hcost : expected = recomputed config provider startedAt usage := by
    unfold expectedCost at hexpected
    rw [husage, hat] at hexpected
    cases usage with
    | none => exact (Except.ok.inj hexpected).symm
    | some record => exact (Except.ok.inj hexpected).symm
  rw [← hcost]
  exact FrozenCostEvaluation.matches_iff.mp hmatches

/-- No cost in a Ledger that is replayed is anything but what its own events give, and none is missing. -/
theorem costs_recomputed {ledger : List (List RuntimeEvent)} (h : replay sha256 ledger = .ok state) :
    (∀ {pre turn attempt evaluation post}, ledger.flatten = pre ++ .usageAttemptCostEvaluated turn attempt evaluation :: post →
      ∃ front completedAt outcome usage names config provider startedAt,
        pre = front ++ [.usageAttemptFinished turn attempt completedAt outcome usage names true] ∧
          evidence turn pre = some (config, provider) ∧ latest (start? turn attempt) pre = some startedAt ∧
          evaluation = .fromOutcome (recomputed config provider startedAt usage)) ∧
    ∀ {pre turn attempt completedAt outcome usage names post},
      ledger.flatten = pre ++ .usageAttemptFinished turn attempt completedAt outcome usage names true :: post →
        ∃ evaluation rest, post = .usageAttemptCostEvaluated turn attempt evaluation :: rest := by
  have hrun := applyAll_of_replay h
  constructor
  · intro pre turn attempt evaluation post hsplit
    rw [hsplit] at hrun
    obtain ⟨before, hpre, hrest⟩ := applyAll_append.mp hrun
    obtain ⟨after, happly, _⟩ := applyAll_cons.mp hrest
    exact evaluated hpre (apply_ok.mp happly).2
  · intro pre turn attempt completedAt outcome usage names post hsplit
    rw [hsplit] at hrun
    obtain ⟨before, hpre, hrest⟩ := applyAll_append.mp hrun
    obtain ⟨after, happly, hpost⟩ := applyAll_cons.mp hrest
    have hdue : after.pendingCostEvaluation = some (turn, attempt) := by
      obtain ⟨_, _, _, _, _, _, _, _, _, _, _, _, _, _, _, _, _, rfl⟩ := usageAttemptFinished_ok.mp (apply_ok.mp happly).2
      rfl
    cases post with
    | nil =>
      obtain rfl : after = state := Except.ok.inj hpost
      rw [not_due_of_replay h] at hdue
      cases hdue
    | cons event rest =>
      obtain ⟨_, hevent, _⟩ := applyAll_cons.mp hpost
      have hnext := (apply_ok.mp hevent).1 _ hdue
      unfold isEvaluationOf at hnext
      cases event with
      | usageAttemptCostEvaluated of number evaluation =>
        obtain ⟨rfl, rfl⟩ := of_decide_eq_true hnext
        exact ⟨evaluation, rest, rfl⟩
      | _ => cases hnext

theorem costs_recomputed_hello : ∃ front completedAt outcome usage names config provider startedAt,
    helloLedger.flatten.take 6 = front ++ [.usageAttemptFinished 1 1 completedAt outcome usage names true] ∧
      evidence 1 (helloLedger.flatten.take 6) = some (config, provider) ∧
      latest (start? 1 1) (helloLedger.flatten.take 6) = some startedAt ∧
      .unknown .noMatchingSchedule = FrozenCostEvaluation.fromOutcome (recomputed config provider startedAt usage) := by
  obtain ⟨state, hstate, _⟩ := okAnd_iff.mp (show okAnd (replay zeroHash helloLedger) (fun _ => true) = true by decide +kernel)
  have hsplit : helloLedger.flatten = helloLedger.flatten.take 6 ++
      .usageAttemptCostEvaluated 1 1 (.unknown .noMatchingSchedule) :: helloLedger.flatten.drop 7 := rfl
  exact (costs_recomputed hstate).1 hsplit

/-! ## Usage -/

def charged (attempt : UsageAttempt) : Nat × UsageAttemptOutcome × Option UsageRecord := (attempt.turn, attempt.outcome, attempt.usage)

/-- The books after some attempts more, and with the rollups exact where they were. -/
structure Charges (books next : UsageProjection) (entries : List (Nat × UsageAttemptOutcome × Option UsageRecord)) : Prop where
  log : next.attempts.map charged = books.attempts.map charged ++ entries
  exact : next.attempts.length ≤ maxVecLength → books.Exact → next.Exact

theorem Charges.refl (books : UsageProjection) : Charges books books [] := ⟨(List.append_nil _).symm, fun _ h => h⟩

theorem Charges.length {books next : UsageProjection} {entries : List (Nat × UsageAttemptOutcome × Option UsageRecord)}
    (h : Charges books next entries) : next.attempts.length = books.attempts.length + entries.length := by
  have := congrArg List.length h.log
  simpa using this

theorem Charges.trans {books middle next : UsageProjection} {entries entries' : List (Nat × UsageAttemptOutcome × Option UsageRecord)}
    (h : Charges books middle entries) (h' : Charges middle next entries') : Charges books next (entries ++ entries') := by
  refine ⟨by rw [h'.log, h.log, List.append_assoc], fun hfits hexact => ?_⟩
  have hlength := h'.length
  exact h'.exact hfits (h.exact (by omega) hexact)

theorem isNew_of_usageAttempt {context : UsageContext} {attempt : Nat} {startedAt completedAt : Option UsageTimestamp}
    {outcome : UsageAttemptOutcome} {usage : Option UsageRecord} {windows : List UsageWindow} {created : UsageAttempt}
    (h : usageAttempt context turn attempt startedAt completedAt outcome usage windows = .ok created) : UsageProjection.IsNew created := by
  unfold usageAttempt at h
  simp only [bind_ok, mapError_ok, pure, Except.pure, Except.ok.injEq] at h
  obtain ⟨made, hmade, rfl⟩ := h
  exact ⟨_, _, _, _, _, _, _, _, _, _, _, _, _, _, _, made, hmade, rfl⟩

theorem charges_record {context : UsageContext} {attempt : Nat} {startedAt completedAt : Option UsageTimestamp}
    {outcome : UsageAttemptOutcome} {usage : Option UsageRecord} {windows : List UsageWindow} {created : UsageAttempt}
    {books next : UsageProjection}
    (hcreated : usageAttempt context turn attempt startedAt completedAt outcome usage windows = .ok created)
    (h : books.record created = .ok next) : Charges books next [(turn, outcome, usage)] := by
  obtain ⟨⟨hturn, _⟩, ⟨houtcome, husage⟩, _⟩ := usageAttempt_ok hcreated
  have hattempts := (attempt_record h).2
  refine ⟨?_, fun hfits hexact => ?_⟩
  · rw [hattempts, List.map_append, List.map_singleton, charged, hturn, houtcome, husage]
  · rw [hattempts, List.length_append, List.length_singleton] at hfits
    exact hexact.record (isNew_of_usageAttempt hcreated).cost hfits h

/-- An evaluation changes no more of an attempt than its cost. -/
theorem charges_evaluate {attempt : Nat} {outcome : CostEstimateOutcome} {books next : UsageProjection}
    (h : books.recordCostEvaluation turn attempt outcome = .ok next) : Charges books next [] := by
  refine ⟨?_, fun _ hexact => hexact.evaluate h⟩
  simp only [UsageProjection.recordCostEvaluation, bind_ok, okOr_ok] at h
  obtain ⟨a, hfind, a', hrecord, _, _, _, _, _, _, _, _, _, _, hnext⟩ := h
  cases hnext
  obtain ⟨pre, post, hsplit, hset⟩ := UsageProjection.attempt_split hfind
  have hsame : charged a' = charged a := by
    unfold UsageAttempt.recordCostEvaluation at hrecord
    obtain ⟨_, hrecord⟩ := seq_ok.mp hrecord
    cases outcome with
    | known estimate =>
      obtain rfl := Except.ok.inj hrecord
      rfl
    | unknown reason =>
      obtain rfl := Except.ok.inj hrecord
      rfl
  rw [hset, hsplit, List.append_nil, List.map_append, List.map_append, List.map_cons, List.map_cons, hsame]

/-- The usage of an old output, record by record. -/
theorem charges_legacy {context : UsageContext} {first : Nat} {records : List (UsageRecord × Nat)} : ∀ {books next : UsageProjection},
    records.foldlM (legacyAttempt context turn first) books = .ok next →
      Charges books next (records.map fun record => ((turn : Nat), .succeeded, some record.1)) := by
  induction records with
  | nil =>
    intro books next h
    obtain rfl : books = next := Except.ok.inj h
    exact .refl books
  | cons record records ih =>
    intro books next h
    rw [List.foldlM_cons, bind_ok] at h
    obtain ⟨middle, hfirst, hrest⟩ := h
    unfold legacyAttempt at hfirst
    simp only [bind_ok, okOr_ok, mapError_ok] at hfirst
    obtain ⟨_, _, created, hcreated, hmiddle⟩ := hfirst
    exact (charges_record hcreated hmiddle).trans (ih hrest)

theorem zipIdx_map_first {α β : Type} (f : α → β) (l : List α) : (l.zipIdx.map fun x => f x.1) = l.map f := by
  rw [show (fun x : α × Nat => f x.1) = f ∘ Prod.fst from rfl, ← List.map_map, List.zipIdx_map_fst]

theorem apply_charges {event : RuntimeEvent} (h : state.apply sha256 event = .ok next) : Charges state.usage next.usage event.charges := by
  obtain ⟨_, hperform⟩ := apply_ok.mp h
  have hsame : next.usage = state.usage → Charges state.usage next.usage [] := fun husage => by rw [husage]; exact .refl _
  cases event with
  | contextCheckpointPublished =>
    obtain ⟨_, _, rfl⟩ := contextCheckpointPublished_ok.mp hperform
    exact hsame rfl
  | modelSelectionStaged =>
    obtain ⟨_, _, rfl⟩ := modelSelectionStaged_ok.mp hperform
    exact hsame rfl
  | threadCreated =>
    obtain ⟨_, _, _, rfl⟩ := threadCreated_ok.mp hperform
    exact hsame rfl
  | configFrozen =>
    obtain ⟨_, _, rfl⟩ := configFrozen_ok.mp hperform
    exact hsame rfl
  | providerFrozen =>
    obtain ⟨_, _, rfl⟩ := providerFrozen_ok.mp hperform
    exact hsame rfl
  | turnAdmitted =>
    obtain ⟨_, _, _, rfl⟩ := turnAdmitted_ok.mp hperform
    exact hsame rfl
  | assistantItemStarted =>
    obtain ⟨_, _, _, _, _, _, _, rfl⟩ := assistantItemStarted_ok.mp hperform
    exact hsame rfl
  | assistantTextDelta =>
    obtain ⟨_, _, _, _, _, _, _, rfl⟩ := assistantTextDelta_ok.mp hperform
    exact hsame rfl
  | outputPrepared turn item delivery text usageRecords legacyUsage =>
    obtain ⟨pending, _, books, _, _, rfl, husage, _, _, rfl⟩ := outputPrepared_ok.mp hperform
    unfold OutputUsage at husage
    cases legacyUsage with
    | true =>
      obtain ⟨context, _, hbooks, _⟩ := husage
      have hcharges := charges_legacy hbooks
      rwa [zipIdx_map_first fun record => ((pending.turn : Nat), UsageAttemptOutcome.succeeded, some record)] at hcharges
    | false =>
      obtain ⟨_, rfl, _⟩ := husage
      exact hsame rfl
  | outputAcknowledged =>
    obtain ⟨_, _, _, _, _, _, _, rfl⟩ := outputAcknowledged_ok.mp hperform
    exact hsame rfl
  | turnCompleted =>
    obtain ⟨_, _, _, _, _, _, _, rfl⟩ := turnCompleted_ok.mp hperform
    exact hsame rfl
  | turnBlocked =>
    obtain ⟨_, _, _, _, _, _, rfl⟩ := turnBlocked_ok.mp hperform
    exact hsame rfl
  | turnCancelled =>
    obtain ⟨_, _, _, _, _, _, _, _, rfl⟩ := turnCancelled_ok.mp hperform
    exact hsame rfl
  | turnRetryRequested =>
    obtain ⟨_, _, _, _, _, rfl⟩ := turnRetryRequested_ok.mp hperform
    exact hsame rfl
  | providerFallbackRequested =>
    obtain ⟨_, _, _, _, _, _, _, _, rfl⟩ := providerFallbackRequested_ok.mp hperform
    exact hsame rfl
  | usageAttemptStarted =>
    obtain ⟨_, _, _, _, _, _, _, rfl⟩ := usageAttemptStarted_ok.mp hperform
    exact hsame rfl
  | usageAttemptFinished =>
    obtain ⟨_, _, _, _, _, _, _, _, _, _, _, _, _, _, _, hcreated, hbooks, rfl⟩ := usageAttemptFinished_ok.mp hperform
    exact charges_record hcreated hbooks
  | usageAttemptCostEvaluated =>
    obtain ⟨_, _, _, _, _, _, _, _, _, _, _, _, _, hbooks, rfl⟩ := usageAttemptCostEvaluated_ok.mp hperform
    exact charges_evaluate hbooks

end RuntimeState

end GreenTyper.Runtime
