/-
  GreenTyper.Runtime.LifeCycle — every Ledger that a replay accepts has each of its Turns
  lead the life of `GreenTyper.Runtime.Life`.

  `lifeOf` reads off the state how far a Turn is. An event of a Turn is a step of its life
  and leaves every other Turn where it was (`Moved`), by cases of the event; the rest of the
  events concern no Turn. `Coherent` is what carries the cases: the Turn that is pending is
  the one that has not ended, and what is pending of it fits its phase.
-/

import GreenTyper.Runtime.Life
import GreenTyper.Runtime.Steps

namespace GreenTyper.Runtime

open Lib Config Context Provider Usage
open GreenTyper.Ledger (LedgerHead)
open GreenTyper.Team (AgentId)

/-! ## The view -/

/-- What an event is to the Turn that it names. -/
def RuntimeEvent.turnAct : RuntimeEvent → Option (TurnId × TurnAct)
  | .turnAdmitted _ turn _ _ _ fallbacks _ _ => some (turn, .admitted fallbacks.length)
  | .assistantItemStarted turn item => some (turn, .itemStarted item)
  | .assistantTextDelta turn item delta => some (turn, .textDelta item delta)
  | .outputPrepared turn item delivery text _ _ => some (turn, .outputPrepared item delivery text)
  | .outputAcknowledged turn delivery => some (turn, .outputAcknowledged delivery)
  | .turnCompleted turn => some (turn, .completed)
  | .turnBlocked turn _ origin stage => some (turn, .blocked (origin = .provider) (providerStageIsRetryable stage))
  | .turnCancelled turn => some (turn, .cancelled)
  | .turnRetryRequested turn => some (turn, .retryRequested)
  | .providerFallbackRequested turn index => some (turn, .fallbackRequested index)
  | .usageAttemptStarted turn attempt _ => some (turn, .attemptStarted attempt)
  | .usageAttemptFinished turn attempt _ _ _ _ charged => some (turn, .attemptFinished attempt charged)
  | .usageAttemptCostEvaluated turn attempt _ => some (turn, .attemptEvaluated attempt)
  | _ => none

def RuntimeEvent.actOf (turn : TurnId) (event : RuntimeEvent) : Option TurnAct :=
  event.turnAct.bind fun (of, act) => if of = turn then some act else none

/-- The snapshots that a Turn was admitted with, or that one of its fallbacks has. -/
def TurnRecord.inUse (record : TurnRecord) (index : Nat) : Option (ConfigEpochId × ProviderEpochId) :=
  if index = 0 then some (record.config, record.provider)
  else record.fallbacks[index - 1]?.map fun fallback => (fallback.config, fallback.provider)

def PendingTurn.tries (pending : PendingTurn) (fallbacks : Nat) (due : Bool) : Tries :=
  ⟨fallbacks, pending.fallbackIndex, pending.nextUsageAttempt - 1, pending.openUsageAttempt.isSome, due⟩

def PendingTurn.life (pending : PendingTurn) (fallbacks : Nat) (due : Bool) : Life :=
  match pending.phase with
  | .admitted => .waiting (pending.tries fallbacks due)
  | .streaming => .writing (pending.tries fallbacks due) (pending.assistantItem.getD default) pending.streamedText
  | .prepared =>
    let delivery := (pending.prepared.map (·.delivery)).getD default
    if pending.acknowledged then .acknowledged delivery else .prepared delivery
  | .blocked =>
    .blocked (pending.tries fallbacks due) (pending.blockOrigin = some .provider) (providerStageIsRetryable pending.providerUnavailableStage)

namespace RuntimeState

variable {sha256 : Sha256} {state next : RuntimeState} {turn : TurnId}

/-- How far a Turn is. -/
def lifeOf (state : RuntimeState) (turn : TurnId) : Life :=
  match state.turns.get turn with
  | none => .unborn
  | some record =>
    if record.completed then .completed
    else if record.cancelled then .cancelled
    else
      match state.pending.filter (·.turn = turn) with
      -- No coherent state has a Turn that neither ended nor is pending.
      | none => .unborn
      | some pending => pending.life record.fallbacks.length state.pendingCostEvaluation.isSome

/-! ## Coherence -/

/-- What is pending of a Turn fits its phase. -/
def Shaped (pending : PendingTurn) : Prop :=
  match pending.phase with
  | .admitted =>
    pending.assistantItem = none ∧ pending.streamedText = "" ∧ pending.prepared = none ∧ pending.acknowledged = false
  | .blocked =>
    pending.assistantItem = none ∧ pending.streamedText = "" ∧ pending.prepared = none ∧ pending.acknowledged = false ∧
      pending.openUsageAttempt = none ∧ pending.blockOrigin ≠ none ∧ pending.blockedReason ≠ none
  | .streaming => pending.assistantItem ≠ none ∧ pending.prepared = none ∧ pending.acknowledged = false
  | .prepared => pending.assistantItem ≠ none ∧ pending.prepared ≠ none

/-- While attempts can be made, the open one is the last. -/
def Numbered (pending : PendingTurn) : Prop :=
  1 ≤ pending.nextUsageAttempt ∧ (pending.phase = .admitted →
    ∀ opened, pending.openUsageAttempt = some opened → opened.attempt + 1 = pending.nextUsageAttempt)

/-- The attempt whose evaluation is due is the last one of the Turn that is pending. -/
def Due (pending : PendingTurn) (due : TurnId × Nat) : Prop :=
  due.1 = pending.turn ∧ pending.phase = .admitted ∧ pending.openUsageAttempt = none ∧ due.2 + 1 = pending.nextUsageAttempt

/-- The Turn that is pending has not ended, and its record has what was prepared of it and the snapshots that it uses. -/
structure Recorded (state : RuntimeState) (pending : PendingTurn) (record : TurnRecord) : Prop where
  get : state.turns.get pending.turn = some record
  running : record.completed = false ∧ record.cancelled = false
  inUse : record.inUse pending.fallbackIndex = some (pending.config, pending.provider)
  output : record.assistantItem = pending.prepared.map (·.item) ∧ record.delivery = pending.prepared.map (·.delivery)

structure Coherent (state : RuntimeState) : Prop where
  recorded : ∀ {pending}, state.pending = some pending → ∃ record, state.Recorded pending record
  shaped : ∀ {pending}, state.pending = some pending → Shaped pending ∧ Numbered pending
  ended : ∀ {turn record}, state.turns.get turn = some record → (∃ pending, state.pending = some pending ∧ pending.turn = turn) ∨
    (record.completed = true ∧ record.cancelled = false ∧ record.delivery ≠ none) ∨
    (record.completed = false ∧ record.cancelled = true ∧ record.delivery = none)
  due : ∀ {due}, state.pendingCostEvaluation = some due → ∃ pending, state.pending = some pending ∧ Due pending due

theorem coherent_default : Coherent default := by
  constructor <;> intro _ _ <;> first | contradiction | intro h; cases h

/-- A state that agrees in what the Turns are about. -/
structure Agrees (state next : RuntimeState) : Prop where
  pending : next.pending = state.pending
  turns : next.turns = state.turns
  due : next.pendingCostEvaluation = state.pendingCostEvaluation

theorem Agrees.coherent (h : Agrees state next) (hc : state.Coherent) : next.Coherent := by
  constructor
  · intro pending hpending
    obtain ⟨record, hrecord⟩ := hc.recorded (h.pending ▸ hpending)
    exact ⟨record, h.turns ▸ hrecord.get, hrecord.running, hrecord.inUse, hrecord.output⟩
  · exact fun hpending => hc.shaped (h.pending ▸ hpending)
  · intro turn record hrecord
    rw [h.pending]
    exact hc.ended (h.turns ▸ hrecord)
  · intro due hdue
    rw [h.pending]
    exact hc.due (h.due ▸ hdue)

theorem Agrees.lifeOf (h : Agrees state next) (turn : TurnId) : next.lifeOf turn = state.lifeOf turn := by
  unfold RuntimeState.lifeOf
  rw [h.pending, h.turns, h.due]

/-- A Turn that has not ended is as far as what is pending of it. -/
theorem Recorded.lifeOf {pending : PendingTurn} {record : TurnRecord} (h : state.Recorded pending record)
    (hpending : state.pending = some pending) :
    state.lifeOf pending.turn = pending.life record.fallbacks.length state.pendingCostEvaluation.isSome := by
  have hfilter : state.pending.filter (·.turn = pending.turn) = some pending := by
    rw [hpending, Option.filter_some_pos (by simp)]
  unfold RuntimeState.lifeOf
  rw [h.get, hfilter]
  simp [h.running]

/-- A Turn that is not pending in either state is as far as its record. -/
theorem lifeOf_other (hturns : next.turns.get turn = state.turns.get turn)
    (hpending : ∀ pending, state.pending = some pending → pending.turn ≠ turn)
    (hpending' : ∀ pending, next.pending = some pending → pending.turn ≠ turn) : next.lifeOf turn = state.lifeOf turn := by
  have hnone : ∀ s : RuntimeState, (∀ pending, s.pending = some pending → pending.turn ≠ turn) → s.pending.filter (·.turn = turn) = none := by
    intro s hs
    rw [Option.filter_eq_none_iff]
    intro pending hmem
    simpa using hs pending hmem
  unfold RuntimeState.lifeOf
  rw [hturns, hnone _ hpending, hnone _ hpending']

/-! ## Events -/

/-- A step in the life of one Turn, and of no other. -/
structure Moved (state next : RuntimeState) (turn : TurnId) (act : TurnAct) : Prop where
  coherent : next.Coherent
  step : Runtime.life.Step (state.lifeOf turn) act (next.lifeOf turn)
  others : ∀ other, other ≠ turn → next.lifeOf other = state.lifeOf other

/-- A change of the Turn that is pending and of its record. -/
theorem Coherent.rewrite {pending pending' : PendingTurn} {record record' : TurnRecord} {act : TurnAct} (h : state.Coherent)
    (hpending : state.pending = some pending) (hrecord : state.Recorded pending record) (hnext : next.pending = some pending')
    (hrecord' : next.Recorded pending' record') (hothers : ∀ other, other ≠ pending.turn → next.turns.get other = state.turns.get other)
    (hturn : pending'.turn = pending.turn) (hshaped : Shaped pending') (hnumbered : Numbered pending')
    (hdue : ∀ due, next.pendingCostEvaluation = some due → Due pending' due)
    (hstep : Runtime.life.Step (pending.life record.fallbacks.length state.pendingCostEvaluation.isSome) act
      (pending'.life record'.fallbacks.length next.pendingCostEvaluation.isSome)) : Moved state next pending.turn act := by
  constructor
  case coherent =>
    constructor
    · intro _ h
      obtain rfl := Option.some.inj (hnext.symm.trans h)
      exact ⟨record', hrecord'⟩
    · intro _ h
      obtain rfl := Option.some.inj (hnext.symm.trans h)
      exact ⟨hshaped, hnumbered⟩
    · intro turn other hother
      by_cases hsame : turn = pending.turn
      · exact .inl ⟨pending', hnext, hturn.trans hsame.symm⟩
      · rw [hothers turn hsame] at hother
        rcases h.ended hother with ⟨of, hof, rfl⟩ | hended
        · obtain rfl := Option.some.inj (hpending.symm.trans hof)
          exact absurd rfl hsame
        · exact .inr hended
    · intro due hd
      exact ⟨pending', hnext, hdue due hd⟩
  case step =>
    have hlast := hrecord'.lifeOf hnext
    rw [hturn] at hlast
    rw [hrecord.lifeOf hpending, hlast]
    exact hstep
  case others =>
    intro other hne
    refine lifeOf_other (hothers other hne) ?_ ?_
    · intro of hof
      obtain rfl := Option.some.inj (hpending.symm.trans hof)
      exact hne.symm
    · intro of hof
      obtain rfl := Option.some.inj (hnext.symm.trans hof)
      rw [hturn]
      exact hne.symm

/-- A change of the Turn that is pending, and of nothing else that the Turns are about. -/
theorem Coherent.edit {pending pending' : PendingTurn} {act : TurnAct} (h : state.Coherent) (hpending : state.pending = some pending)
    (hnext : next.pending = some pending') (hturns : next.turns = state.turns) (hturn : pending'.turn = pending.turn)
    (hprepared : pending'.prepared = pending.prepared) (hshaped : Shaped pending') (hnumbered : Numbered pending')
    (hdue : ∀ due, next.pendingCostEvaluation = some due → Due pending' due)
    (hstep : ∀ record, state.Recorded pending record → record.inUse pending'.fallbackIndex = some (pending'.config, pending'.provider) ∧
      Runtime.life.Step (pending.life record.fallbacks.length state.pendingCostEvaluation.isSome) act
        (pending'.life record.fallbacks.length next.pendingCostEvaluation.isSome)) : Moved state next pending.turn act := by
  obtain ⟨record, hrecord⟩ := h.recorded hpending
  obtain ⟨huse, hlife⟩ := hstep record hrecord
  have hrecord' : next.Recorded pending' record :=
    ⟨by rw [hturns, hturn, hrecord.get], hrecord.running, huse, by rw [hprepared]; exact hrecord.output⟩
  exact h.rewrite hpending hrecord hnext hrecord' (fun other _ => by rw [hturns]) hturn hshaped hnumbered hdue hlife

/-- The end of the Turn that is pending. -/
theorem Coherent.finish {pending : PendingTurn} {record record' : TurnRecord} {act : TurnAct} (h : state.Coherent)
    (hpending : state.pending = some pending) (hrecord : state.Recorded pending record) (hnext : next.pending = none)
    (hturns : next.turns = state.turns.insert pending.turn record') (hdue : next.pendingCostEvaluation = none)
    (hended : (record'.completed = true ∧ record'.cancelled = false ∧ record'.delivery ≠ none) ∨
      (record'.completed = false ∧ record'.cancelled = true ∧ record'.delivery = none))
    (hstep : Runtime.life.Step (pending.life record.fallbacks.length state.pendingCostEvaluation.isSome) act
      (if record'.completed then .completed else .cancelled)) : Moved state next pending.turn act := by
  have hget : next.turns.get pending.turn = some record' := by
    rw [hturns, OrdMap.get_insert_self]
  have hothers : ∀ other, other ≠ pending.turn → next.turns.get other = state.turns.get other := by
    intro other hne
    rw [hturns, OrdMap.get_insert_ne _ _ hne.symm]
  constructor
  case coherent =>
    constructor
    · intro _ h
      rw [hnext] at h
      cases h
    · intro _ h
      rw [hnext] at h
      cases h
    · intro turn other hother
      by_cases hsame : turn = pending.turn
      · subst hsame
        obtain rfl := Option.some.inj (hget.symm.trans hother)
        exact .inr hended
      · rw [hothers turn hsame] at hother
        rcases h.ended hother with ⟨of, hof, rfl⟩ | hended
        · obtain rfl := Option.some.inj (hpending.symm.trans hof)
          exact absurd rfl hsame
        · exact .inr hended
    · intro due hd
      rw [hdue] at hd
      cases hd
  case step =>
    rw [hrecord.lifeOf hpending]
    have hlast : next.lifeOf pending.turn = if record'.completed then .completed else .cancelled := by
      unfold RuntimeState.lifeOf
      rw [hget]
      rcases hended with ⟨hcompleted, _⟩ | ⟨hcompleted, hcancelled, _⟩
      · simp [hcompleted]
      · simp [hcompleted, hcancelled]
    rw [hlast]
    exact hstep
  case others =>
    intro other hne
    refine lifeOf_other (hothers other hne) ?_ ?_
    · intro of hof
      obtain rfl := Option.some.inj (hpending.symm.trans hof)
      exact hne.symm
    · intro of hof
      rw [hnext] at hof
      cases hof

/-- A Turn that is not admitted has no evaluation due. -/
theorem Coherent.not_due {pending : PendingTurn} (h : state.Coherent) (hpending : state.pending = some pending)
    (hphase : pending.phase ≠ .admitted) : state.pendingCostEvaluation = none := by
  rw [Option.eq_none_iff_forall_ne_some]
  intro due hdue
  obtain ⟨of, hof, hd⟩ := h.due hdue
  obtain rfl := Option.some.inj (hpending.symm.trans hof)
  exact hphase hd.2.1

/-- The events that leave an evaluation waiting are refused. -/
theorem not_due_of_apply {event : RuntimeEvent} (h : state.apply sha256 event = .ok next) (hevent : ∀ due, isEvaluationOf due event = false) :
    state.pendingCostEvaluation = none := by
  rw [Option.eq_none_iff_forall_ne_some]
  intro due hdue
  have := (apply_ok.mp h).1 due hdue
  rw [hevent due] at this
  cases this

theorem assistantItemStarted_moved {item : ItemId} (hc : state.Coherent) (hnone : state.pendingCostEvaluation = none)
    (h : state.assistantItemStarted turn item = .ok next) : Moved state next turn (.itemStarted item) := by
  obtain ⟨_, _, pending, hpending, rfl, hphase, hitem, rfl⟩ := assistantItemStarted_ok.mp h
  obtain ⟨hshaped, hnumbered⟩ := hc.shaped hpending
  unfold Shaped at hshaped
  rw [hphase] at hshaped
  refine hc.edit hpending rfl rfl rfl rfl ?_ ⟨hnumbered.1, fun h => by cases h⟩ ?_ ?_
  · exact ⟨by simp, hshaped.2.2.1, hshaped.2.2.2⟩
  · intro due hdue
    rw [show state.pendingCostEvaluation = some due from hdue] at hnone
    cases hnone
  · intro record hrecord
    refine ⟨hrecord.inUse, ?_⟩
    unfold PendingTurn.life
    rw [hphase, hnone, show pending.streamedText = "" from hshaped.2.1]
    exact .write rfl

theorem assistantTextDelta_moved {item : ItemId} {delta : String} (hc : state.Coherent)
    (h : state.assistantTextDelta turn item delta = .ok next) : Moved state next turn (.textDelta item delta) := by
  obtain ⟨hne, pending, hpending, rfl, hphase, hitem, _, rfl⟩ := assistantTextDelta_ok.mp h
  obtain ⟨hshaped, hnumbered⟩ := hc.shaped hpending
  have hnone := hc.not_due hpending (by rw [hphase]; decide)
  refine hc.edit hpending rfl rfl rfl rfl ?_ hnumbered ?_ ?_
  · unfold Shaped at hshaped ⊢
    rw [hphase] at hshaped
    simpa [hphase] using hshaped
  · intro due hdue
    rw [show state.pendingCostEvaluation = some due from hdue] at hnone
    cases hnone
  · intro record hrecord
    refine ⟨hrecord.inUse, ?_⟩
    unfold PendingTurn.life
    rw [hphase, hitem]
    exact .delta hne

theorem outputAcknowledged_moved {delivery : DeliveryId} (hc : state.Coherent) (h : state.outputAcknowledged turn delivery = .ok next) :
    Moved state next turn (.outputAcknowledged delivery) := by
  obtain ⟨pending, hpending, rfl, hphase, hack, hprepared, _, rfl⟩ := outputAcknowledged_ok.mp h
  obtain ⟨hshaped, hnumbered⟩ := hc.shaped hpending
  have hnone := hc.not_due hpending (by rw [hphase]; decide)
  refine hc.edit hpending rfl rfl rfl rfl ?_ hnumbered ?_ ?_
  · unfold Shaped at hshaped ⊢
    rw [hphase] at hshaped
    simpa [hphase] using hshaped
  · intro due hdue
    rw [show state.pendingCostEvaluation = some due from hdue] at hnone
    cases hnone
  · intro record hrecord
    refine ⟨hrecord.inUse, ?_⟩
    unfold PendingTurn.life
    rw [hphase, hack, hprepared]
    exact .acknowledge

theorem turnBlocked_moved {reason : String} {origin : TurnBlockOrigin} {stage : Option ProviderUnavailableStage} (hc : state.Coherent)
    (hnone : state.pendingCostEvaluation = none) (h : state.turnBlocked turn reason origin stage = .ok next) :
    Moved state next turn (.blocked (origin = .provider) (providerStageIsRetryable stage)) := by
  obtain ⟨_, pending, hpending, rfl, hphase, hopened, rfl⟩ := turnBlocked_ok.mp h
  obtain ⟨hshaped, hnumbered⟩ := hc.shaped hpending
  unfold Shaped at hshaped
  rw [hphase] at hshaped
  obtain ⟨hitem, htext, hprepared, hack⟩ := hshaped
  refine hc.edit hpending rfl rfl rfl rfl ?_ ⟨hnumbered.1, fun h => by cases h⟩ ?_ ?_
  · exact ⟨hitem, htext, hprepared, hack, hopened, by simp, by simp⟩
  · intro due hdue
    rw [show state.pendingCostEvaluation = some due from hdue] at hnone
    cases hnone
  · intro record hrecord
    refine ⟨hrecord.inUse, ?_⟩
    unfold PendingTurn.life
    rw [hphase, hnone]
    have horigin : decide (some origin = some TurnBlockOrigin.provider) = decide (origin = .provider) := by simp
    show Life.Step _ _ (.blocked _ (decide (some origin = some .provider)) _)
    rw [horigin]
    exact .block (by rw [PendingTurn.tries, hopened]; rfl) rfl

/-- A recoverable Turn is blocked by its Provider. -/
theorem life_recoverable {pending : PendingTurn} {fallbacks : Nat} {due : Bool} (h : pending.Recoverable) :
    pending.life fallbacks due = .blocked (pending.tries fallbacks due) true (providerStageIsRetryable pending.providerUnavailableStage) := by
  unfold PendingTurn.life
  rw [h.1, h.2.1]
  rfl

theorem shaped_unblocked {pending : PendingTurn} (h : pending.Recoverable) : Shaped pending.unblocked :=
  ⟨h.2.2.2.2.1, h.2.2.2.2.2.1, Option.isNone_iff_eq_none.mp h.2.2.2.1, h.2.2.2.2.2.2⟩

theorem numbered_unblocked {pending : PendingTurn} (hnumbered : Numbered pending) (h : pending.Recoverable) : Numbered pending.unblocked := by
  refine ⟨hnumbered.1, fun _ opened hopened => ?_⟩
  rw [show pending.unblocked.openUsageAttempt = none from h.2.2.1] at hopened
  cases hopened

theorem turnRetryRequested_moved (hc : state.Coherent) (h : state.turnRetryRequested turn = .ok next) :
    Moved state next turn .retryRequested := by
  obtain ⟨pending, hpending, rfl, hrecoverable, hretryable, rfl⟩ := turnRetryRequested_ok.mp h
  have hnone := hc.not_due hpending (by rw [hrecoverable.1]; decide)
  refine hc.edit hpending rfl rfl rfl rfl (shaped_unblocked hrecoverable)
    (numbered_unblocked (hc.shaped hpending).2 hrecoverable) ?_ ?_
  · intro due hdue
    rw [show state.pendingCostEvaluation = some due from hdue] at hnone
    cases hnone
  · intro record hrecord
    refine ⟨hrecord.inUse, ?_⟩
    rw [life_recoverable hrecoverable, hretryable]
    exact .retry

theorem providerFallbackRequested_moved {index : Nat} (hc : state.Coherent) (h : state.providerFallbackRequested turn index = .ok next) :
    Moved state next turn (.fallbackRequested index) := by
  obtain ⟨fallback, pending, hfallback, hpending, rfl, hrecoverable, hretryable, ⟨_, rfl⟩, rfl⟩ := providerFallbackRequested_ok.mp h
  have hnone := hc.not_due hpending (by rw [hrecoverable.1]; decide)
  refine hc.edit hpending rfl rfl rfl rfl (@shaped_unblocked pending hrecoverable)
    (@numbered_unblocked pending (hc.shaped hpending).2 hrecoverable) ?_ ?_
  · intro due hdue
    rw [show state.pendingCostEvaluation = some due from hdue] at hnone
    cases hnone
  · intro record hrecord
    obtain ⟨of, hof, _, hget⟩ := frozenFallback_some.mp hfallback
    obtain rfl := Option.some.inj (hrecord.get.symm.trans hof)
    have hlt : pending.fallbackIndex < record.fallbacks.length := (List.getElem?_eq_some_iff.mp hget).1
    refine ⟨?_, ?_⟩
    · show record.inUse (pending.fallbackIndex + 1) = some (fallback.config, fallback.provider)
      rw [TurnRecord.inUse, if_neg (Nat.succ_ne_zero _), hget]
      rfl
    · rw [life_recoverable hrecoverable, hretryable]
      exact .fallback hlt

theorem usageAttemptStarted_moved {attempt : Nat} {startedAt : UsageTimestamp} (hc : state.Coherent)
    (hnone : state.pendingCostEvaluation = none) (h : state.usageAttemptStarted turn attempt startedAt = .ok next) :
    Moved state next turn (.attemptStarted attempt) := by
  obtain ⟨pending, hpending, rfl, hphase, hopened, ⟨rfl, _⟩, _, rfl⟩ := usageAttemptStarted_ok.mp h
  obtain ⟨hshaped, hpos, _⟩ := hc.shaped hpending
  refine hc.edit hpending rfl rfl rfl rfl ?_ ?_ ?_ ?_
  · unfold Shaped at hshaped ⊢
    simpa only [hphase] using hshaped
  · refine ⟨Nat.le_add_left 1 _, fun _ opened hof => ?_⟩
    obtain rfl := Option.some.inj hof
    rfl
  · intro due hdue
    rw [show state.pendingCostEvaluation = some due from hdue] at hnone
    cases hnone
  · intro record hrecord
    refine ⟨hrecord.inUse, ?_⟩
    unfold PendingTurn.life
    rw [hphase, hnone]
    have hstep := @Life.Step.start (pending.tries record.fallbacks.length false) (by rw [PendingTurn.tries, hopened]; rfl) rfl
    have hnumber : pending.nextUsageAttempt - 1 + 1 = pending.nextUsageAttempt := by omega
    unfold PendingTurn.tries at hstep ⊢
    dsimp only at hstep
    rw [hnumber] at hstep
    exact hstep

theorem usageAttemptFinished_moved {attempt : Nat} {completedAt : UsageTimestamp} {outcome : UsageAttemptOutcome}
    {usage : Option UsageRecord} {names : List String} {charged : Bool} (hc : state.Coherent) (hnone : state.pendingCostEvaluation = none)
    (h : state.usageAttemptFinished turn attempt completedAt outcome usage names charged = .ok next) :
    Moved state next turn (.attemptFinished attempt charged) := by
  obtain ⟨_, pending, opened, _, _, _, _, _, hpending, ⟨rfl, hphase⟩, ⟨hopened, rfl⟩, _, _, _, _, _, _, rfl⟩ := usageAttemptFinished_ok.mp h
  obtain ⟨hshaped, hpos, hnumber⟩ := hc.shaped hpending
  have hlast := hnumber hphase opened hopened
  refine hc.edit hpending rfl rfl rfl rfl ?_ ?_ ?_ ?_
  · unfold Shaped at hshaped ⊢
    simpa only [hphase] using hshaped
  · exact ⟨hpos, fun _ opened hof => by cases hof⟩
  · intro due hdue
    by_cases hcharged : charged = true
    · simp only [hcharged, if_true, Option.some.injEq] at hdue
      subst hdue
      exact ⟨rfl, hphase, rfl, hlast⟩
    · simp [hcharged, hnone] at hdue
  · intro record hrecord
    refine ⟨hrecord.inUse, ?_⟩
    unfold PendingTurn.life
    rw [hphase, hnone]
    have hstep := @Life.Step.finish (pending.tries record.fallbacks.length false) charged (by rw [PendingTurn.tries, hopened]; rfl) rfl
    have hcharge : (if charged = true then some (pending.turn, opened.attempt) else none).isSome = charged := by
      cases charged <;> rfl
    unfold PendingTurn.tries at hstep ⊢
    dsimp only at hstep ⊢
    rw [show pending.nextUsageAttempt - 1 = opened.attempt by omega] at hstep ⊢
    rw [hcharge]
    exact hstep

theorem usageAttemptCostEvaluated_moved {attempt : Nat} {evaluation : FrozenCostEvaluation} (hc : state.Coherent)
    (h : state.usageAttemptCostEvaluated turn attempt evaluation = .ok next) : Moved state next turn (.attemptEvaluated attempt) := by
  obtain ⟨hdue, _, pending, _, _, _, _, _, ⟨hpending, rfl⟩, _, _, _, _, _, rfl⟩ := usageAttemptCostEvaluated_ok.mp h
  obtain ⟨hshaped, hnumbered⟩ := hc.shaped hpending
  obtain ⟨of, hof, _, hphase, _, hlast⟩ := hc.due hdue
  obtain rfl := Option.some.inj (hpending.symm.trans hof)
  refine hc.edit hpending hpending rfl rfl rfl hshaped hnumbered ?_ ?_
  · intro due hd
    cases hd
  · intro record hrecord
    refine ⟨hrecord.inUse, ?_⟩
    unfold PendingTurn.life
    rw [hphase, hdue]
    have hstep := @Life.Step.evaluate (pending.tries record.fallbacks.length true) rfl
    unfold PendingTurn.tries at hstep ⊢
    dsimp only at hstep hlast ⊢
    rw [show pending.nextUsageAttempt - 1 = attempt by omega] at hstep ⊢
    exact hstep

theorem outputPrepared_moved {item : ItemId} {delivery : DeliveryId} {text : String} {usageRecords : List UsageRecord} {legacyUsage : Bool}
    (hc : state.Coherent) (h : state.outputPrepared turn item delivery text usageRecords legacyUsage = .ok next) :
    Moved state next turn (.outputPrepared item delivery text) := by
  obtain ⟨pending, record, books, number, hp, rfl, husage, _, _, rfl⟩ := outputPrepared_ok.mp h
  obtain ⟨hphase, hitem, rfl, hnot⟩ := hp.written
  obtain ⟨_, hpos, _⟩ := hc.shaped hp.current
  have hnone := hc.not_due hp.current (by rw [hphase]; decide)
  obtain ⟨of, hof⟩ := hc.recorded hp.current
  obtain rfl := Option.some.inj (hof.get.symm.trans hp.recorded)
  have hnumber : 1 ≤ number := by
    unfold OutputUsage at husage
    by_cases hlegacy : legacyUsage = true
    · rw [if_pos hlegacy] at husage
      obtain ⟨_, _, _, _, rfl⟩ := husage
      omega
    · rw [if_neg hlegacy] at husage
      exact husage.2.2 ▸ hpos
  refine @Coherent.rewrite state _ pending _ of { of with assistantItem := some item, delivery := some delivery } _ hc hp.current hof rfl
    ?_ ?_ rfl ?_ ⟨hnumber, fun h => by cases h⟩ ?_ ?_
  · exact ⟨OrdMap.get_insert_self _ _ _, hof.running, hof.inUse, rfl, rfl⟩
  · exact fun other hne => OrdMap.get_insert_ne _ _ hne.symm
  · exact ⟨by simp [hitem], by simp⟩
  · intro due hdue
    rw [show state.pendingCostEvaluation = some due from hdue] at hnone
    cases hnone
  · unfold PendingTurn.life
    rw [hphase, hitem]
    have hack : pending.acknowledged = false := by
      have := (hc.shaped hp.current).1
      unfold Shaped at this
      rw [hphase] at this
      exact this.2.2
    simp only [hack]
    exact .prepare delivery

theorem turnCompleted_moved (hc : state.Coherent) (h : state.turnCompleted turn = .ok next) : Moved state next turn .completed := by
  obtain ⟨pending, record, hpending, rfl, hphase, hack, hget, rfl⟩ := turnCompleted_ok.mp h
  obtain ⟨of, hrecord⟩ := hc.recorded hpending
  obtain rfl := Option.some.inj (hrecord.get.symm.trans hget)
  have hnone := hc.not_due hpending (by rw [hphase]; decide)
  have hshaped := (hc.shaped hpending).1
  unfold Shaped at hshaped
  rw [hphase] at hshaped
  refine hc.finish hpending hrecord rfl rfl hnone (.inl ⟨rfl, hrecord.running.2, ?_⟩) ?_
  · show of.delivery ≠ none
    rw [hrecord.output.2]
    simpa using hshaped.2
  · unfold PendingTurn.life
    simp only [hphase, hack, if_true]
    exact .complete

theorem turnCancelled_moved (hc : state.Coherent) (h : state.turnCancelled turn = .ok next) : Moved state next turn .cancelled := by
  obtain ⟨pending, record, hpending, rfl, hrecoverable, hget, hcompleted, _, rfl⟩ := turnCancelled_ok.mp h
  obtain ⟨of, hrecord⟩ := hc.recorded hpending
  obtain rfl := Option.some.inj (hrecord.get.symm.trans hget)
  have hnone := hc.not_due hpending (by rw [hrecoverable.1]; decide)
  refine hc.finish hpending hrecord rfl rfl hnone (.inr ⟨hcompleted, rfl, ?_⟩) ?_
  · show of.delivery = none
    rw [hrecord.output.2, Option.isNone_iff_eq_none.mp hrecoverable.2.2.2.1]
    rfl
  · simp only [hcompleted]
    rw [life_recoverable hrecoverable]
    exact .cancel

theorem turnAdmitted_moved {thread : ThreadId} {userItem : ItemId} {config : ConfigEpochId} {provider : ProviderEpochId}
    {fallbacks : List FrozenProviderFallback} {agent : Option AgentId} {input : String} (hc : state.Coherent)
    (h : state.turnAdmitted thread turn userItem config provider fallbacks agent input = .ok next) :
    Moved state next turn (.admitted fallbacks.length) := by
  obtain ⟨hadmissible, item, _, hnext⟩ := turnAdmitted_ok.mp h
  have hpending : next.pending = some (admittedTurn turn config provider agent input) := by
    rw [hnext]
  have hget : next.turns.get turn = some ⟨userItem, config, provider, fallbacks, agent, none, none, false, false⟩ := by
    rw [hnext]
    exact OrdMap.get_insert_self _ _ _
  have hothers : ∀ other, other ≠ turn → next.turns.get other = state.turns.get other := by
    intro other hne
    rw [hnext]
    exact OrdMap.get_insert_ne _ _ hne.symm
  have hnone : state.pendingCostEvaluation = none := by
    rw [Option.eq_none_iff_forall_ne_some]
    intro due hdue
    obtain ⟨of, hof, _⟩ := hc.due hdue
    rw [hadmissible.idle] at hof
    cases hof
  have hnone' : next.pendingCostEvaluation = none := by
    rw [hnext]
    exact hnone
  have hrecorded : next.Recorded (admittedTurn turn config provider agent input) _ := ⟨hget, ⟨rfl, rfl⟩, rfl, rfl, rfl⟩
  constructor
  case coherent =>
    constructor
    · intro _ h
      obtain rfl := Option.some.inj (hpending.symm.trans h)
      exact ⟨_, hrecorded⟩
    · intro _ h
      obtain rfl := Option.some.inj (hpending.symm.trans h)
      exact ⟨⟨rfl, rfl, rfl, rfl⟩, Nat.le_refl 1, fun _ opened hopened => by cases hopened⟩
    · intro other record hother
      by_cases hsame : other = turn
      · exact .inl ⟨_, hpending, hsame.symm⟩
      · rw [hothers other hsame] at hother
        rcases hc.ended hother with ⟨of, hof, _⟩ | hended
        · rw [hadmissible.idle] at hof
          cases hof
        · exact .inr hended
    · intro due hdue
      rw [hnone'] at hdue
      cases hdue
  case step =>
    have hbefore : state.lifeOf turn = .unborn := by
      unfold RuntimeState.lifeOf
      rw [hadmissible.new.1]
    have hafter := hrecorded.lifeOf hpending
    rw [hnone'] at hafter
    rw [hbefore, show next.lifeOf turn = _ from hafter]
    exact .admission fallbacks.length
  case others =>
    intro other hne
    refine lifeOf_other (hothers other hne) ?_ ?_
    · intro of hof
      rw [hadmissible.idle] at hof
      cases hof
    · intro of hof
      obtain rfl := Option.some.inj (hpending.symm.trans hof)
      exact hne.symm

/-! ## Ledgers -/

/-- What an event does to the lives of the Turns. -/
theorem apply_moved {event : RuntimeEvent} (hc : state.Coherent) (h : state.apply sha256 event = .ok next) :
    match event.turnAct with
    | some (turn, act) => Moved state next turn act
    | none => Agrees state next := by
  obtain ⟨hdue, hperform⟩ := apply_ok.mp h
  cases event with
  | contextCheckpointPublished checkpoint =>
    obtain ⟨_, _, rfl⟩ := contextCheckpointPublished_ok.mp hperform
    exact ⟨rfl, rfl, rfl⟩
  | modelSelectionStaged agent selection =>
    obtain ⟨_, _, rfl⟩ := modelSelectionStaged_ok.mp hperform
    exact ⟨rfl, rfl, rfl⟩
  | threadCreated thread =>
    obtain ⟨_, _, _, rfl⟩ := threadCreated_ok.mp hperform
    exact ⟨rfl, rfl, rfl⟩
  | configFrozen epoch =>
    obtain ⟨_, _, rfl⟩ := configFrozen_ok.mp hperform
    exact ⟨rfl, rfl, rfl⟩
  | providerFrozen epoch =>
    obtain ⟨_, _, rfl⟩ := providerFrozen_ok.mp hperform
    exact ⟨rfl, rfl, rfl⟩
  | turnAdmitted => exact turnAdmitted_moved hc hperform
  | assistantItemStarted => exact assistantItemStarted_moved hc (not_due_of_apply h fun _ => rfl) hperform
  | assistantTextDelta => exact assistantTextDelta_moved hc hperform
  | outputPrepared => exact outputPrepared_moved hc hperform
  | outputAcknowledged => exact outputAcknowledged_moved hc hperform
  | turnCompleted => exact turnCompleted_moved hc hperform
  | turnBlocked => exact turnBlocked_moved hc (not_due_of_apply h fun _ => rfl) hperform
  | turnCancelled => exact turnCancelled_moved hc hperform
  | turnRetryRequested => exact turnRetryRequested_moved hc hperform
  | providerFallbackRequested => exact providerFallbackRequested_moved hc hperform
  | usageAttemptStarted => exact usageAttemptStarted_moved hc (not_due_of_apply h fun _ => rfl) hperform
  | usageAttemptFinished => exact usageAttemptFinished_moved hc (not_due_of_apply h fun _ => rfl) hperform
  | usageAttemptCostEvaluated => exact usageAttemptCostEvaluated_moved hc hperform

/-- The kernel's state follows the life of every Turn. -/
theorem tracks (sha256 : Sha256) (turn : TurnId) :
    Tracks Runtime.life (fun state event => RuntimeState.apply sha256 state event) Coherent (RuntimeEvent.actOf turn) (lifeOf · turn) := by
  constructor
  case kept =>
    intro state event next hc h
    have hmoved := apply_moved hc h
    cases hact : event.turnAct with
    | none =>
      rw [hact] at hmoved
      exact hmoved.coherent hc
    | some act =>
      rw [hact] at hmoved
      exact hmoved.coherent
  case shown =>
    intro state event next act hc h hof
    have hmoved := apply_moved hc h
    unfold RuntimeEvent.actOf at hof
    obtain ⟨⟨of, act'⟩, hact, hif⟩ := Option.bind_eq_some_iff.mp hof
    rw [hact] at hmoved
    by_cases hsame : of = turn
    · subst hsame
      simp only [if_true, Option.some.injEq] at hif
      subst hif
      exact hmoved.step
    · simp [hsame] at hif
  case hidden =>
    intro state event next hc h hof
    have hmoved := apply_moved hc h
    unfold RuntimeEvent.actOf at hof
    cases hact : event.turnAct with
    | none =>
      rw [hact] at hmoved
      exact hmoved.lifeOf turn
    | some act =>
      rw [hact] at hmoved hof
      by_cases hsame : act.1 = turn
      · simp [hsame] at hof
      · exact hmoved.others turn (Ne.symm hsame)

theorem coherent_of_applyAll {events : List RuntimeEvent} (hc : state.Coherent) (h : state.applyAll sha256 events = .ok next) :
    next.Coherent := foldlM_inv (tracks sha256 1).kept hc h

/-- Every event list that applies has each Turn lead its life. -/
theorem lives_of_applyAll {events : List RuntimeEvent} (h : default.applyAll sha256 events = .ok state) (turn : TurnId) :
    Runtime.life.Run (events.filterMap (RuntimeEvent.actOf turn)) (state.lifeOf turn) :=
  (tracks sha256 turn).path coherent_default h

/-- A configuration for the built-in Provider. -/
def helloConfig : ConfigEpoch :=
  ⟨1, ⟨⟨"simulator", .builtIn⟩, ⟨"echo", .builtIn⟩, ⟨1024, .builtIn⟩, none, none, none, ⟨.canonical, .builtIn⟩⟩, [], .default, by decide,
    by decide, by decide⟩

/-- A Turn from its admission to its end. -/
def helloLedger : List (List RuntimeEvent) :=
  [[.threadCreated 1, .configFrozen helloConfig, .providerFrozen ⟨1, "simulator", "echo", none, none⟩,
      .turnAdmitted 1 1 1 1 1 [] none "Hello"],
    [.usageAttemptStarted 1 1 ⟨0, by decide⟩],
    [.usageAttemptFinished 1 1 ⟨5, by decide⟩ .succeeded (some .default) [] true,
      .usageAttemptCostEvaluated 1 1 (.unknown .noMatchingSchedule), .assistantItemStarted 1 2, .assistantTextDelta 1 2 "Hi",
      .assistantTextDelta 1 2 " there", .outputPrepared 1 2 1 "Hi there" [.default] false],
    [.outputAcknowledged 1 1, .turnCompleted 1]]

/-- No item of it is hashed. -/
def zeroHash : Sha256 := fun _ => Vector.replicate 32 0

/-- Every Ledger that is replayed has each of its Turns lead its life, as far as the state says, and at most the Turn that is
    pending has not ended. -/
theorem turns_live {ledger : List (List RuntimeEvent)} (h : replay sha256 ledger = .ok state) (turn : TurnId) :
    Runtime.life.Run (ledger.flatten.filterMap (RuntimeEvent.actOf turn)) (state.lifeOf turn) ∧
      (state.lifeOf turn = .unborn ∨ state.lifeOf turn = .completed ∨ state.lifeOf turn = .cancelled ∨
        ∃ pending, state.pending = some pending ∧ pending.turn = turn) := by
  have hrun := applyAll_of_replay h
  refine ⟨lives_of_applyAll hrun turn, ?_⟩
  unfold lifeOf
  cases hget : state.turns.get turn with
  | none => exact .inl rfl
  | some record =>
    rcases (coherent_of_applyAll coherent_default hrun).ended hget with hpending | ⟨hcompleted, _⟩ | ⟨hcompleted, hcancelled, _⟩
    · exact .inr (.inr (.inr hpending))
    · simp [hcompleted]
    · simp [hcompleted, hcancelled]

theorem turns_live_hello : ∃ state, replay zeroHash helloLedger = .ok state ∧ state.acknowledged = {1} ∧
    Runtime.life.Run (helloLedger.flatten.filterMap (RuntimeEvent.actOf 1)) (state.lifeOf 1) := by
  obtain ⟨state, hstate, hack⟩ := okAnd_iff.mp
    (show okAnd (replay zeroHash helloLedger) (fun state => decide (state.acknowledged = {1})) = true by decide +kernel)
  exact ⟨state, hstate, of_decide_eq_true hack, (turns_live hstate 1).1⟩

end RuntimeState

end GreenTyper.Runtime
