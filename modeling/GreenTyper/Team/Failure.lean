/-
  GreenTyper.Team.Failure — what a failed operation leaves of a durable Team (see
  `GreenTyper.Team.Durable`).

  An operation looks at the Runtime and at the Ledger's head, and from these alone either
  ends or comes to one append (`act_eq`). Only the append writes, and only after it are
  the prepared events published: so a failure leaves everything, but for a write that
  failed, after which the Ledger takes no more (`act_failed`). In every Team of a run the
  Ledger's events replay, under the Team's own limit, to the Team (`DurableRunOf.replays`).
-/

import GreenTyper.Team.DurableRuns
import GreenTyper.Team.Recovery

namespace GreenTyper.Team

open GreenTyper.Lib TeamState
open GreenTyper.Ledger (EventData StoredEvent LedgerHead FileLedger ReplayReport WriteOutcome DurabilityReceipt LedgerError
  storedFrom storedFrom_length maxReplayEvents)
open TeamRuntime (number)

/-! ## Replay of the log -/

section Replay

variable {M : Nat}

/-- What one turn of the replay loop moves beside the state. -/
theorem replayTransaction_frame {replay next : Replay} {first : TeamEvent} {rest : List TeamEvent}
    (h : replayTransaction M replay first rest = .ok next) :
    first.eventsInTransaction ≠ 0 ∧ first.eventsInTransaction ≤ (first :: rest).length ∧
      next.eventLog = replay.eventLog ++ (first :: rest).take first.eventsInTransaction ∧
      next.expectedSequence = replay.expectedSequence + first.eventsInTransaction ∧
      next.replayActiveLimit ≤ max replay.replayActiveLimit M := by
  simp only [replayTransaction, bind_ok, require_ok, atEvent_ok, okOr_ok, checkedAdd_some, TeamState.validate] at h
  obtain ⟨_, _, _, _, _, _, _, hne, _, hle, _, _, candidate, _, _, ⟨_, hactive, _⟩, _, _, _, ⟨_, rfl⟩, _, _, h⟩ := h
  cases h
  refine ⟨hne, hle, rfl, rfl, ?_⟩
  simp only
  omega

/-- A turn looks at no event past its transaction. -/
theorem replayTransaction_append {replay next : Replay} {first : TeamEvent} {rest : List TeamEvent} (more : List TeamEvent)
    (h : replayTransaction M replay first rest = .ok next) : replayTransaction M replay first (rest ++ more) = .ok next := by
  have hle := (replayTransaction_frame h).2.1
  have htake : (first :: (rest ++ more)).take first.eventsInTransaction = (first :: rest).take first.eventsInTransaction := by
    rw [← List.cons_append, List.take_append_of_le_length hle]
  simp only [replayTransaction, bind_ok, require_ok] at h ⊢
  obtain ⟨u1, h1, u2, h2, u3, h3, u4, h4, u5, h5, h⟩ := h
  refine ⟨u1, h1, u2, h2, u3, h3, u4, h4, u5, ?_, ?_⟩
  · rw [← List.cons_append, List.length_append]
    omega
  · rw [htake]
    exact h

theorem replayRest_append (fuel : Nat) : ∀ {events : List TeamEvent} {replay mid : Replay} (more : List TeamEvent),
    events.length ≤ fuel → replayRest M events replay = .ok mid → replayRest M (events ++ more) replay = replayRest M more mid := by
  induction fuel with
  | zero =>
    intro events replay mid more hlen h
    obtain rfl : events = [] := List.length_eq_zero_iff.mp (Nat.le_zero.mp hlen)
    cases h
    rfl
  | succ fuel ih =>
    intro events replay mid more hlen h
    cases events with
    | nil =>
      cases h
      rfl
    | cons first rest =>
      cases hturn : replayTransaction M replay first rest with
      | error e =>
        rw [replayRest, List.length_cons, replayAll, hturn] at h
        cases h
      | ok next =>
        obtain ⟨hne, hle, _⟩ := replayTransaction_frame hturn
        rw [replayRest_cons hturn hne] at h
        rw [List.cons_append, replayRest_cons (replayTransaction_append more hturn) hne, ← List.cons_append,
          List.drop_append_of_le_length hle]
        refine ih more ?_ h
        rw [List.length_drop]
        rw [List.length_cons] at hlen ⊢
        omega

/-- From the start, the loop numbers events as they are logged. -/
theorem replayRest_frame (fuel : Nat) : ∀ {events : List TeamEvent} {replay final : Replay}, events.length ≤ fuel →
    replay.expectedSequence = replay.eventLog.length + 1 → replayRest M events replay = .ok final →
      final.expectedSequence = final.eventLog.length + 1 ∧ final.replayActiveLimit ≤ max replay.replayActiveLimit M := by
  induction fuel with
  | zero =>
    intro events replay final hlen hseq h
    obtain rfl : events = [] := List.length_eq_zero_iff.mp (Nat.le_zero.mp hlen)
    cases h
    exact ⟨hseq, Nat.le_max_left _ _⟩
  | succ fuel ih =>
    intro events replay final hlen hseq h
    cases events with
    | nil =>
      cases h
      exact ⟨hseq, Nat.le_max_left _ _⟩
    | cons first rest =>
      cases hturn : replayTransaction M replay first rest with
      | error e =>
        rw [replayRest, List.length_cons, replayAll, hturn] at h
        cases h
      | ok next =>
        obtain ⟨hne, hle, hlog, hnext, hlimit⟩ := replayTransaction_frame hturn
        rw [replayRest_cons hturn hne] at h
        have hseq' : next.expectedSequence = next.eventLog.length + 1 := by
          rw [hnext, hlog, hseq, List.length_append, List.length_take, Nat.min_eq_left hle]
          omega
        have hless : ((first :: rest).drop first.eventsInTransaction).length ≤ fuel := by
          rw [List.length_drop]
          rw [List.length_cons] at hlen ⊢
          omega
        obtain ⟨h1, h2⟩ := ih hless hseq' h
        exact ⟨h1, by omega⟩

end Replay

/-- The log of a Runtime, replayed under its own limit, leads to where the Runtime is. -/
def Replayable (r : TeamRuntime) : Prop :=
  ∃ activeLimit ≤ r.maxActiveAgents, replayRest r.maxActiveAgents r.eventLog ⟨.default, [], 1, 1, 1⟩ = .ok (replayAt r activeLimit)

section Replayable

variable {r r' : TeamRuntime}

theorem act_replayable {action : TeamAction} {outcome : Option CommandOutcome} (hr : Reach r)
    (h : r.eventLog.length + 1 < 2 ^ 64 → Replayable r) (hact : r.act action = .ok (r', outcome))
    (hmem : r'.eventLog.length + 1 < 2 ^ 64) : Replayable r' := by
  obtain ⟨n, hinv⟩ := hr.inv.1
  obtain ⟨n', kinds, candidate, ht, rfl⟩ := act_transaction hinv hact
  have hlen : r.eventLog.length + kinds.length + 1 < 2 ^ 64 := by
    simpa [TeamRuntime.publishEvents, transactionOf, number_length] using hmem
  obtain ⟨activeLimit, hlimit, hreplay⟩ := h (by omega)
  refine ⟨max activeLimit candidate.activeAgentCount, Nat.max_le.mpr ⟨hlimit, ht.active⟩, ?_⟩
  show replayRest r.maxActiveAgents (r.eventLog ++ number r.nextTransaction (r.eventLog.length + 1) kinds.length kinds) _ = _
  rw [replayRest_append _ _ (Nat.le_refl _) hreplay, ← List.append_nil (number _ _ _ _),
    replayRest_transaction ht ht.active hlen hlimit]
  rfl

theorem recover_replayable {limit authority : Nat} (hl : Logged r)
    (h : TeamRuntime.recover limit authority r.eventLog = .ok r') : Replayable r' := by
  obtain ⟨_, hactive, _, _, _, _, _, _, rfl⟩ := recover_ok hl h
  simp only [TeamRuntime.recover, bind_ok, require_ok] at h
  obtain ⟨_, hlimit, final, hall, _⟩ := h
  obtain ⟨hseq, hmax⟩ := replayRest_frame (M := limit) _ (Nat.le_refl _) rfl hall
  have hr := replayAll_ok r.eventLog.length (Nat.le_refl _) ⟨rfl, rfl, rfl, Nat.zero_le limit⟩ hall
  rw [List.nil_append] at hr
  obtain ⟨m, hm⟩ := hl.replays
  have hstate : final.state = r.state := applyAll_agree hr.state hm
  refine ⟨final.replayActiveLimit, ?_, ?_⟩
  · simp only at hmax ⊢
    omega
  · have hlog := hr.eventLog
    have hnext := hr.next
    rw [← hl.next] at hnext
    rw [hlog] at hseq
    show replayRest limit r.eventLog _ = .ok ⟨r.state, r.eventLog, r.eventLog.length + 1, r.nextTransaction, _⟩
    rw [replayRest, hall, ← hstate, ← hnext, ← hseq, ← hlog]

/-- Every Runtime of a run is where its log leads under its own limit. -/
theorem Reach.replayable (h : Reach r) : r.eventLog.length + 1 < 2 ^ 64 → Replayable r := by
  induction h with
  | new h =>
    intro _
    simp only [TeamRuntime.new, bind_ok, require_ok, exists_const] at h
    obtain ⟨hne, h⟩ := h
    cases h
    exact ⟨1, Nat.one_le_iff_ne_zero.mpr hne, rfl⟩
  | @dispatch r r' command outcome hr _ h ih =>
    intro hmem
    have hact : r.act (.dispatch command) = .ok (r', some outcome) := by
      simp only [TeamRuntime.dispatch, bind_ok, Prod.exists] at h
      obtain ⟨prepared, o, hp, h⟩ := h
      cases h
      simp only [TeamRuntime.act, TeamRuntime.prepareAction, hp]
      rfl
    exact act_replayable hr ih hact hmem
  | @operation r operation command prepared outcome hr _ h ih =>
    intro hmem
    have hact : r.act (.operation operation command) = .ok (r.publishEvents prepared, some outcome) := by
      simp only [TeamRuntime.act, TeamRuntime.prepareAction, h]
      rfl
    exact act_replayable hr ih hact hmem
  | @acknowledge r operation prepared hr h ih =>
    intro hmem
    have hact : r.act (.acknowledge operation) = .ok (r.publishEvents prepared, none) := by
      simp only [TeamRuntime.act, TeamRuntime.prepareAction, h]
      rfl
    exact act_replayable hr ih hact hmem
  | recover hr h ih =>
    intro _
    exact recover_replayable (Reach.inv hr).2 h

/-- A recovery under the Runtime's own limit gives the Runtime back, under another authority. -/
theorem Reach.recovers (h : Reach r) (hmem : r.eventLog.length + 1 < 2 ^ 64) (fresh : Nat) :
    TeamRuntime.recover r.maxActiveAgents fresh r.eventLog = .ok { r with runtimeAuthority := fresh } := by
  obtain ⟨n, hr⟩ := h.inv.1
  obtain ⟨activeLimit, _, hreplay⟩ := h.replayable hmem
  exact recover_of_replay hr hr.limit hreplay

end Replayable

/-! ## The Ledger's events -/

/-- The Ledger's events are the Runtime's log, as far as the Ledger knows. -/
structure Agrees (d : DurableTeamRuntime) : Prop where
  decodes : d.ledger.events.mapM decodeStoredEvent = .ok d.runtime.eventLog
  head : d.ledger.head = runtimeHead d.runtime
  fits : d.ledger.events.length ≤ maxReplayEvents

theorem appendAll_events_le (batches : List (List EventData)) : ∀ {ledger L : FileLedger},
    ledger.events.length ≤ maxReplayEvents → ledger.appendAll batches = .ok L → L.events.length ≤ maxReplayEvents := by
  induction batches with
  | nil =>
    intro ledger L hle h
    cases h
    exact hle
  | cons es batches ih =>
    intro ledger L _ h
    rw [FileLedger.appendAll] at h
    split at h
    · rename_i receipt next hnext
      obtain ⟨_, _, hcount, _, _, _, hevents⟩ := FileLedger.append_stored hnext
      refine ih ?_ h
      rw [hevents, List.length_append, storedFrom_length]
      exact hcount
    · cases h

theorem Stores.agrees {d : DurableTeamRuntime} (h : Stores d.ledger d.runtime) : Agrees d := by
  obtain ⟨batches, hb⟩ := h.appended
  exact ⟨h.decodes, h.head, appendAll_events_le batches (Nat.zero_le _) hb⟩


/-! ## What an operation comes to -/

/-- What an operation answers when it succeeds. -/
inductive TeamReply where
  | committed (commit : TeamCommit)
  | operation (commit : TeamOperationCommit)
  | acknowledged (outcome : TeamOperationAcknowledgeOutcome)
  deriving DecidableEq

/-- An operation before its append: ended, or with the transaction it will append. -/
inductive Planned where
  | answered (reply : Except DurableTeamError TeamReply)
  | appends (prepared : PreparedTeamEvents) (encoded : List EventData) (reply : TeamDurabilityReceipt → TeamReply)

namespace DurableTeamRuntime

/-- One operation of the Team. -/
def act (d : DurableTeamRuntime) (action : TeamAction) (write : WriteOutcome) :
    Except DurableTeamError TeamReply × DurableTeamRuntime :=
  match action with
  | .dispatch command => ((d.dispatch command write).1.map .committed, (d.dispatch command write).2)
  | .operation operation command =>
    ((d.dispatchOperation operation command write).1.map .operation, (d.dispatchOperation operation command write).2)
  | .acknowledge operation =>
    ((d.acknowledgeOperation operation write).1.map .acknowledged, (d.acknowledgeOperation operation write).2)

def planCommit (d : DurableTeamRuntime) (prepared : PreparedTeamEvents) (reply : TeamDurabilityReceipt → TeamReply) : Planned :=
  if d.ledger.head = runtimeHead d.runtime then
    match prepared.events.mapM (fun event => encodeEventData event.kind) with
    | .error e => .answered (.error e)
    | .ok encoded => .appends prepared encoded reply
  else .answered (.error (.headMismatch d.ledger.head (runtimeHead d.runtime)))

def planned (d : DurableTeamRuntime) : TeamAction → Planned
  | .dispatch command =>
    match d.runtime.prepare command with
    | .error e => .answered (.error (.team e))
    | .ok (prepared, outcome) => d.planCommit prepared fun receipt => .committed (teamCommit prepared outcome receipt)
  | .operation operation command =>
    match d.runtime.prepareOperation operation command with
    | .error e => .answered (.error (.team e))
    | .ok (prepared, outcome) =>
      d.planCommit prepared fun receipt => .operation ⟨operation, teamCommit prepared outcome receipt⟩
  | .acknowledge operation =>
    match d.operationRecords.find? (fun record => record.operation == operation) with
    | none => .answered (.error (.team (.unknownOperation operation)))
    | some record =>
      if record.status = .acknowledged then .answered (.ok (.acknowledged .alreadyAcknowledged))
      else
        match d.runtime.prepareOperationAcknowledgement operation with
        | .error e => .answered (.error (.team e))
        | .ok prepared => d.planCommit prepared fun receipt => .acknowledged (.durable receipt)

def finish (d : DurableTeamRuntime) (planned : Planned) (write : WriteOutcome) :
    Except DurableTeamError TeamReply × DurableTeamRuntime :=
  match planned with
  | .answered reply => (reply, d)
  | .appends prepared encoded reply =>
    match d.ledger.append d.ledger.head encoded write with
    | (.error e, ledger) => (.error (.ledger e), { d with ledger := ledger })
    | (.ok receipt, ledger) =>
      (.ok (reply (teamReceipt receipt)), { d with ledger := ledger, runtime := d.runtime.publishEvents prepared })

/-- The Team after a write that left `bytes` on the disk and failed. -/
def torn (d : DurableTeamRuntime) (bytes : List Byte) : DurableTeamRuntime :=
  { d with ledger := { d.ledger with file := d.ledger.file ++ bytes, poisoned := true } }

end DurableTeamRuntime

section Act

variable {d d' : DurableTeamRuntime} {action : TeamAction} {write : WriteOutcome}

theorem commitPrepared_finish {α : Type} (prepared : PreparedTeamEvents) (result : TeamDurabilityReceipt → α)
    (f : α → TeamReply) : ((d.commitPrepared prepared write result).1.map f, (d.commitPrepared prepared write result).2) =
      d.finish (d.planCommit prepared fun receipt => f (result receipt)) write := by
  by_cases hhead : d.ledger.head = runtimeHead d.runtime
  · cases hes : prepared.events.mapM (fun event => encodeEventData event.kind) with
    | error e => simp only [DurableTeamRuntime.commitPrepared, DurableTeamRuntime.appendPrepared, DurableTeamRuntime.planCommit,
        DurableTeamRuntime.finish, if_pos hhead, hes, Except.map]
    | ok es =>
      cases happend : d.ledger.append d.ledger.head es write with
      | mk result' L =>
        cases result' with
        | error e =>
          simp only [DurableTeamRuntime.commitPrepared, appendPrepared_error hhead hes happend, DurableTeamRuntime.planCommit,
            DurableTeamRuntime.finish, if_pos hhead, hes, happend, Except.map]
        | ok receipt =>
          simp only [DurableTeamRuntime.commitPrepared, appendPrepared_ok hhead hes happend, DurableTeamRuntime.planCommit,
            DurableTeamRuntime.finish, if_pos hhead, hes, happend, Except.map]
  · simp only [DurableTeamRuntime.commitPrepared, DurableTeamRuntime.appendPrepared, DurableTeamRuntime.planCommit,
      DurableTeamRuntime.finish, if_neg hhead, Except.map]

theorem act_eq : d.act action write = d.finish (d.planned action) write := by
  cases action with
  | dispatch command =>
    cases hp : d.runtime.prepare command with
    | error e => simp only [DurableTeamRuntime.act, DurableTeamRuntime.dispatch, DurableTeamRuntime.planned, hp,
        DurableTeamRuntime.finish, Except.map]
    | ok prepared =>
      simp only [DurableTeamRuntime.act, DurableTeamRuntime.dispatch, DurableTeamRuntime.planned, hp]
      exact commitPrepared_finish _ _ _
  | operation operation command =>
    cases hp : d.runtime.prepareOperation operation command with
    | error e => simp only [DurableTeamRuntime.act, DurableTeamRuntime.dispatchOperation, DurableTeamRuntime.planned, hp,
        DurableTeamRuntime.finish, Except.map]
    | ok prepared =>
      simp only [DurableTeamRuntime.act, DurableTeamRuntime.dispatchOperation, DurableTeamRuntime.planned, hp]
      exact commitPrepared_finish _ _ _
  | acknowledge operation =>
    simp only [DurableTeamRuntime.act, DurableTeamRuntime.acknowledgeOperation, DurableTeamRuntime.planned]
    cases d.operationRecords.find? (fun record => record.operation == operation) with
    | none => rfl
    | some record =>
      by_cases hstatus : record.status = .acknowledged
      · simp only [if_pos hstatus]
        rfl
      · simp only [if_neg hstatus]
        cases d.runtime.prepareOperationAcknowledgement operation with
        | error e => rfl
        | ok prepared => exact commitPrepared_finish _ _ _

/-- An append that fails changes the file alone, and only if its write began. -/
theorem append_failed {ledger L : FileLedger} {expected : LedgerHead} {es : List EventData} {e : LedgerError}
    (h : ledger.append expected es write = (.error e, L)) :
    L = ledger ∨ e = .durabilityAmbiguous ∧ ∃ bytes, L = { ledger with file := ledger.file ++ bytes, poisoned := true } := by
  rw [FileLedger.append] at h
  split at h
  · cases h
    exact .inl rfl
  · split at h
    · cases h
      exact .inr ⟨rfl, _, rfl⟩
    · cases h

theorem act_failed {e : DurableTeamError} (h : d.act action write = (.error e, d')) :
    d' = d ∨ e = .ledger .durabilityAmbiguous ∧ ∃ bytes, d' = d.torn bytes := by
  rw [act_eq] at h
  unfold DurableTeamRuntime.finish at h
  split at h
  · cases h
    exact .inl rfl
  · split at h
    · rename_i happend
      cases h
      rcases append_failed happend with rfl | ⟨rfl, bytes, rfl⟩
      · exact .inl rfl
      · exact .inr ⟨rfl, bytes, rfl⟩
    · cases h

/-- A torn Team plans what the Team before the write planned. -/
theorem planned_torn (bytes : List Byte) : (d.torn bytes).planned action = d.planned action := by
  cases action <;> rfl

end Act

/-! ## A failed operation -/

/-- Writing a prepared transaction leaves what the Ledger knows, or a Ledger that still takes more. -/
theorem commitPrepared_keeps {α : Type} (d : DurableTeamRuntime) (prepared : PreparedTeamEvents) (write : WriteOutcome)
    (result : TeamDurabilityReceipt → α) :
    (d.commitPrepared prepared write result).2 = d ∨ (∃ bytes, (d.commitPrepared prepared write result).2 = d.torn bytes) ∨
      (d.commitPrepared prepared write result).2.ledger.poisoned = false := by
  have herror : ∀ {e : DurableTeamError} {d' : DurableTeamRuntime}, d.appendPrepared prepared write = (.error e, d') →
      (d.commitPrepared prepared write result).2 = d' := by
    intro e d' he
    rw [DurableTeamRuntime.commitPrepared, he]
  by_cases hhead : d.ledger.head = runtimeHead d.runtime
  · cases hes : prepared.events.mapM (fun event => encodeEventData event.kind) with
    | error e => exact .inl (herror (by rw [DurableTeamRuntime.appendPrepared, if_pos hhead, hes]))
    | ok es =>
      cases happend : d.ledger.append d.ledger.head es write with
      | mk answer L =>
        cases answer with
        | error e =>
          have hd' := herror (appendPrepared_error hhead hes happend)
          rcases append_failed happend with rfl | ⟨rfl, bytes, rfl⟩
          · exact .inl hd'
          · exact .inr (.inl ⟨bytes, hd'⟩)
        | ok receipt =>
          rw [DurableTeamRuntime.commitPrepared, appendPrepared_ok hhead hes happend]
          cases write with
          | synced =>
            obtain ⟨_, _, _, _, hpoisoned, _⟩ := FileLedger.append_stored happend
            exact .inr (.inr hpoisoned)
          | failed written =>
            rw [FileLedger.append] at happend
            split at happend <;> cases happend
  · exact .inl (herror (by rw [DurableTeamRuntime.appendPrepared, if_neg hhead]))

theorem DurableRunOf.agrees {guard : TeamRuntime → Prop} {d : DurableTeamRuntime} (h : DurableRunOf guard d) : Agrees d := by
  have hpoisoned : d.ledger.poisoned = true → Agrees d := by
    refine (DurableRunOf.induct (P := fun d => d.ledger.poisoned = true → Agrees d) (fun hstores _ _ => hstores.agrees) ?_
      (fun hstores _ _ => hstores.agrees) h).2
    intro α d n n' applied prepared write result hinv hr hs ih
    have hd : Agrees d := by
      cases hp : d.ledger.poisoned with
      | true => exact ih hp
      | false => exact (hinv.live hp).agrees
    rcases commitPrepared_keeps d prepared write result with hsame | ⟨bytes, htorn⟩ | hlive
    · rw [hsame]
      exact fun _ => hd
    · rw [htorn]
      exact fun _ => ⟨hd.decodes, hd.head, hd.fits⟩
    · intro hp
      rw [hlive] at hp
      cases hp
  cases hp : d.ledger.poisoned with
  | true => exact hpoisoned hp
  | false => exact (h.inv.live hp).agrees

/-- What a failed operation leaves: the Team as it was, or, where its write failed, the
    Team with a Ledger that takes no more. Nothing that is asked later changes the latter,
    and it answers as the Team before the write would, but where that would append. -/
inductive Unchanged (d : DurableTeamRuntime) : DurableTeamError → DurableTeamRuntime → Prop
  | same {e : DurableTeamError} : Unchanged d e d
  | poisoned {bytes : List Byte} :
      (∀ later write, (∃ prepared encoded reply, d.planned later = .appends prepared encoded reply ∧
          (d.torn bytes).act later write = (.error (.ledger .writerPoisoned), d.torn bytes)) ∨
        ∃ reply, d.act later write = (reply, d) ∧ (d.torn bytes).act later write = (reply, d.torn bytes)) →
      Unchanged d (.ledger .durabilityAmbiguous) (d.torn bytes)

theorem torn_act (d : DurableTeamRuntime) (bytes : List Byte) (later : TeamAction) (write : WriteOutcome) :
    (∃ prepared encoded reply, d.planned later = .appends prepared encoded reply ∧
        (d.torn bytes).act later write = (.error (.ledger .writerPoisoned), d.torn bytes)) ∨
      ∃ reply, d.act later write = (reply, d) ∧ (d.torn bytes).act later write = (reply, d.torn bytes) := by
  rw [act_eq, act_eq, planned_torn]
  cases d.planned later with
  | answered reply => exact .inr ⟨reply, rfl, rfl⟩
  | appends prepared encoded reply =>
    refine .inl ⟨prepared, encoded, reply, rfl, ?_⟩
    have happend := @FileLedger.append_poisoned (d.torn bytes).ledger rfl encoded write
    simp only [DurableTeamRuntime.finish, happend]

/-- The head of the Ledger is the Runtime's, the Ledger's events replay to the Runtime,
    and a failed operation leaves both as they were. -/
theorem team_failure_unchanged {d : DurableTeamRuntime} (h : DurableReach d) :
    d.ledger.head = runtimeHead d.runtime ∧
    (∀ tail fresh, recoverTeam ⟨d.ledger.head, d.ledger.events, tail⟩ d.runtime.maxActiveAgents fresh =
      .ok { d.runtime with runtimeAuthority := fresh }) ∧
    ∀ action write e d', d.act action write = (.error e, d') → Unchanged d e d' := by
  have hagrees := h.agrees
  refine ⟨hagrees.head, fun tail fresh => ?_, fun action write e d' hfail => ?_⟩
  · have hlen : d.runtime.eventLog.length + 1 < 2 ^ 64 := by
      have hfits := hagrees.fits
      rw [← mapM_length d.ledger.events hagrees.decodes] at hfits
      simp only [maxReplayEvents] at hfits
      omega
    simp only [recoverTeam, hagrees.decodes, ok_bind, h.inv.reach.recovers hlen fresh, Except.mapError]
    have hhead : runtimeHead { d.runtime with runtimeAuthority := fresh } = d.ledger.head := hagrees.head.symm
    rw [require_bind hhead]
    rfl
  · rcases act_failed hfail with rfl | ⟨rfl, bytes, rfl⟩
    · exact .same
    · exact .poisoned (torn_act d bytes)

/-- A root's admission whose write fails after three bytes. -/
theorem team_failure_unchanged_torn : ∃ d d', DurableTeamRuntime.openFile [] 2 7 = .ok d ∧
    d.act (.operation 1 (.admitRoot ⟨"Root", ∅, []⟩ (resourceBudget 2 0) ∅)) (.failed 3) =
      (.error (.ledger .durabilityAmbiguous), d') ∧ d'.ledger.file ≠ d.ledger.file ∧
    Unchanged d (.ledger .durabilityAmbiguous) d' := by
  have hrun : okAnd (DurableTeamRuntime.openFile [] 2 7) (fun d =>
      let d' := (d.act (.operation 1 (.admitRoot ⟨"Root", ∅, []⟩ (resourceBudget 2 0) ∅)) (.failed 3))
      decide (d'.1 = .error (.ledger .durabilityAmbiguous) ∧ d'.2.ledger.file ≠ d.ledger.file)) = true := by
    decide +kernel
  obtain ⟨d, hd, hcond⟩ := okAnd_iff.mp hrun
  obtain ⟨herror, hfile⟩ := of_decide_eq_true hcond
  refine ⟨d, _, hd, Prod.ext herror rfl, hfile, (team_failure_unchanged (.create hd)).2.2 _ _ _ _ (Prod.ext herror rfl)⟩

end GreenTyper.Team
