/-
  GreenTyper.Team.Acknowledgement — acknowledging a committed operation (see
  `GreenTyper.Team.DurableRuns`).

  An acknowledgement is prepared like any transaction: reconciliation runs on it and may
  add events, and its framing check then refuses it, since it must be alone. As long as
  the limit stays the same there is nothing to add. A reopening under a larger limit
  leaves Ready Tasks that may start, and then no acknowledgement goes through
  (`acknowledgement_refused`), nor does any command of the host, which waits for it.

  `committed_operation_acknowledgeable`: an acknowledgement goes through exactly when no
  Ready Task may start and the Ledger has room for one event; and where every reopening
  left nothing to start, nothing ever may.
-/

import GreenTyper.Team.DurableRuns

namespace GreenTyper.Team

open GreenTyper.Lib TeamState
open GreenTyper.Ledger (EventData LedgerHead FileLedger WriteOutcome DurabilityReceipt maxReplayEvents maxReplayPayloadBytes
  validateEvent payloadSum)
open TeamRuntime (number)

/-- Listed as committed and not acknowledged. -/
def TeamRuntime.Awaiting (r : TeamRuntime) (operation : TeamOperationId) : Prop :=
  ∃ record ∈ r.operationRecords, record.operation = operation ∧ record.status = .committedAwaitingAcknowledgement

/-- The event that acknowledges an operation. -/
def acknowledgement (operation : TeamOperationId) (committed acknowledged : TransactionId) : TeamEventKind :=
  .operationAcknowledged operation committed acknowledged

/-! ## Preparing one -/

section Prepare

variable {n : Nat} {r : TeamRuntime} {operation : TeamOperationId} {committed : TransactionId}

/-- Reconciliation adds nothing to an acknowledgement exactly when nothing may start. -/
theorem acknowledgement_added (hr : RuntimeInv n r) {s' : TeamState}
    (h : r.state.applyOperationAcknowledged operation committed r.nextTransaction = .ok s') :
    ∃ added candidate, Prepared n r [acknowledgement operation committed r.nextTransaction] added s' candidate ∧
      (added = [] ↔ r.Idle) ∧ committed < r.nextTransaction := by
  obtain ⟨hj, hlt, ops, rfl⟩ := acknowledged_ok hr.journal h
  have happ : r.state.applyAll r.maxActiveAgents [acknowledgement operation committed r.nextTransaction] =
      .ok { r.state with operations := ops } := by
    simp only [acknowledgement, applyAll, apply, h, ok_bind, pure, Except.pure]
  obtain ⟨added, candidate, hp⟩ := prepared_of_applied hr happ (applied_of_journal hr rfl hj)
  exact ⟨added, candidate, hp, hp.silent.trans ⟨fun hq => hq.2, fun hidle => ⟨hr.settled, hidle⟩⟩, hlt⟩

theorem acknowledgement_alone (hlt : committed < r.nextTransaction) :
    validateOperationTransaction (number r.nextTransaction (r.eventLog.length + 1) 1
      [acknowledgement operation committed r.nextTransaction]) = .ok () := by
  have hnone : Unmarked [] := nofun
  rw [acknowledgement, acknowledgement_framing hnone hlt, if_pos rfl]

/-- Where nothing may start, the acknowledgement is the whole transaction. -/
theorem acknowledgement_prepares (hr : RuntimeInv n r) (hidle : r.Idle) {entry : OperationRecord}
    (hentry : r.state.operations.get operation = some entry) (hopen : entry.acknowledgementTransaction = none)
    (hnext : r.nextTransaction ≠ 0) (hfit : ¬ Exhausted r 1) :
    ∃ candidate, candidate.operations = r.state.operations.insert operation ⟨entry.transaction, some r.nextTransaction⟩ ∧
      r.prepareOperationAcknowledgement operation = .ok (transactionOf r r.nextTransaction
        [acknowledgement operation entry.transaction r.nextTransaction] n candidate) := by
  have hmax : r.nextTransaction < maxIdentifier := by
    simp only [Exhausted, not_or, Nat.not_le] at hfit
    exact Nat.lt_sub_of_add_lt hfit.2.2
  have happ := acknowledged_applies hr.journal ⟨hnext, hmax⟩ hentry hopen
  obtain ⟨added, candidate, hp, hadded, hlt⟩ := acknowledgement_added hr happ
  obtain rfl := hadded.mpr hidle
  have hcandidate := hp.adds
  simp only [applyAll, pure, Except.pure, Except.ok.injEq] at hcandidate
  refine ⟨candidate, by rw [← hcandidate], ?_⟩
  have hfresh : r.freshTransactionId = .ok r.nextTransaction := by
    rw [TeamRuntime.freshTransactionId, freshIdentifier, validateStoredIdentifier_ok hnext hmax]
    rfl
  simp only [TeamRuntime.prepareOperationAcknowledgement, hentry, okOr_some, ok_bind, hfresh]
  have hframing := @acknowledgement_alone r operation entry.transaction hlt
  have hprepare := prepareEvents_framing hp (List.cons_ne_nil _ _) (by rwa [List.append_nil]) r.nextTransaction
  rw [List.append_nil] at hprepare
  show r.prepareEvents r.nextTransaction [acknowledgement operation entry.transaction r.nextTransaction] = _
  rw [hprepare, List.length_singleton, hframing, ok_bind]

/-- An acknowledgement that is prepared found nothing to start. -/
theorem idle_of_prepared (hr : RuntimeInv n r) {prepared : PreparedTeamEvents}
    (h : r.prepareOperationAcknowledgement operation = .ok prepared) : r.Idle := by
  simp only [TeamRuntime.prepareOperationAcknowledgement, bind_ok, okOr_ok] at h
  obtain ⟨record, hrec, tx, htx, hp⟩ := h
  obtain ⟨rfl, _, _⟩ := freshTransactionId_ok htx
  have happ : ∃ s', r.state.applyOperationAcknowledged operation record.transaction r.nextTransaction = .ok s' := by
    simp only [TeamRuntime.prepareEvents, applyAll, apply, bind_ok] at hp
    obtain ⟨_, ⟨s', hs', _⟩, _⟩ := hp
    exact ⟨s', hs'⟩
  obtain ⟨s', hs'⟩ := happ
  obtain ⟨added, candidate, hprep, hadded, hlt⟩ := acknowledgement_added hr hs'
  obtain ⟨hframe, _⟩ := prepareEvents_ok hprep (List.cons_ne_nil _ _) hp
  rw [acknowledgement, List.singleton_append, acknowledgement_framing hprep.routine.unmarked hlt] at hframe
  by_contra hnot
  rw [if_neg (fun hnil => hnot (hadded.mp hnil))] at hframe
  cases hframe

end Prepare

/-! ## What awaits -/

section Awaiting

variable {r : TeamRuntime} {operation : TeamOperationId}

/-- An operation awaits when its marker is logged and its entry is open. -/
theorem awaiting_iff (h : Reach r) : r.Awaiting operation ↔
    (∃ event ∈ r.eventLog, ∃ tx, event.kind = .operationCommitted operation tx) ∧
      ∃ entry, r.state.operations.get operation = some entry ∧ entry.acknowledgementTransaction = none := by
  constructor
  · rintro ⟨record, hmem, rfl, hstatus⟩
    obtain ⟨entry, hentry, hopen⟩ := operationRecord_status hmem
    refine ⟨?_, entry, hentry, hopen.mp hstatus⟩
    obtain ⟨event, hevent, hrec⟩ := List.mem_filterMap.mp hmem
    obtain ⟨tx, hk⟩ := operationRecord_kind hrec
    exact ⟨event, hevent, tx, hk⟩
  · rintro ⟨⟨event, hevent, tx, hk⟩, entry, hentry, hopen⟩
    obtain ⟨record, hrec⟩ := operationRecord_committed h hevent hk
    have hmem : record ∈ r.operationRecords := List.mem_filterMap.mpr ⟨event, hevent, hrec⟩
    obtain ⟨tx', hk'⟩ := operationRecord_kind hrec
    rw [hk] at hk'
    cases hk'
    obtain ⟨entry', hentry', hstatus⟩ := operationRecord_status hmem
    rw [hentry] at hentry'
    cases hentry'
    exact ⟨record, hmem, rfl, hstatus.mpr hopen⟩

/-- The acknowledged operation is the only one that no longer awaits. -/
theorem awaiting_published {n : Nat} {entry : OperationRecord} {candidate : TeamState} {tx : TransactionId} (h : Reach r)
    (h' : Reach (r.publishEvents (transactionOf r tx [acknowledgement operation entry.transaction tx] n candidate)))
    (hops : candidate.operations = r.state.operations.insert operation ⟨entry.transaction, some tx⟩) (other : TeamOperationId) :
    (r.publishEvents (transactionOf r tx [acknowledgement operation entry.transaction tx] n candidate)).Awaiting other ↔
      r.Awaiting other ∧ other ≠ operation := by
  have hmarker : (∃ event ∈ r.eventLog ++ number tx (r.eventLog.length + 1) 1 [acknowledgement operation entry.transaction tx],
      ∃ t, event.kind = .operationCommitted other t) ↔ ∃ event ∈ r.eventLog, ∃ t, event.kind = .operationCommitted other t := by
    constructor
    · rintro ⟨event, he, t, hk⟩
      rcases List.mem_append.mp he with he | he
      · exact ⟨event, he, t, hk⟩
      · rw [number, List.zipIdx_singleton, List.map_singleton, List.mem_singleton] at he
        subst he
        cases hk
    · rintro ⟨event, he, ht⟩
      exact ⟨event, List.mem_append_left _ he, ht⟩
  have hentry : (∃ e, candidate.operations.get other = some e ∧ e.acknowledgementTransaction = none) ↔
      (∃ e, r.state.operations.get other = some e ∧ e.acknowledgementTransaction = none) ∧ other ≠ operation := by
    rw [hops, OrdMap.get_insert]
    by_cases heq : operation = other
    · simp [heq]
    · simp [heq, Ne.symm heq]
  rw [awaiting_iff h', awaiting_iff h]
  exact (and_congr hmarker hentry).trans and_assoc.symm

end Awaiting

/-! ## Acknowledging -/

/-- Room for one event of the size of an acknowledgement. -/
def DurableTeamRuntime.HasRoom (d : DurableTeamRuntime) : Prop :=
  d.ledger.poisoned = false ∧ d.ledger.events.length + 1 ≤ maxReplayEvents ∧ d.ledger.payloadBytes + 24 ≤ maxReplayPayloadBytes

/-- The operation's acknowledgement is prepared as one event that passes its check, is
    appended and published; the operation no longer awaits, and where no other does, the
    host is ready for the next command. -/
structure Acknowledges (d : DurableTeamRuntime) (operation : TeamOperationId) (prepared : PreparedTeamEvents)
    (receipt : TeamDurabilityReceipt) (d' : DurableTeamRuntime) : Prop where
  prepares : d.runtime.prepareOperationAcknowledgement operation = .ok prepared
  framed : validateOperationTransaction prepared.events = .ok ()
  single : ∃ event, prepared.events = [event] ∧ event.kind.isOperationAcknowledged = true
  appends : d.acknowledgeOperation operation .synced = (.ok (.durable receipt), d')
  applies : d'.runtime = d.runtime.publishEvents prepared
  settles : ¬ d'.runtime.Awaiting operation
  ready : (∀ other, d.runtime.Awaiting other → other = operation) → KernelTeam.requireReady d' = .ok ()

def DurableTeamRuntime.Acknowledgeable (d : DurableTeamRuntime) (operation : TeamOperationId) : Prop :=
  ∃ prepared receipt d', Acknowledges d operation prepared receipt d'

theorem requireReady_ok {d : DurableTeamRuntime} (h : ∀ operation, ¬ d.runtime.Awaiting operation) :
    KernelTeam.requireReady d = .ok () := by
  rw [KernelTeam.requireReady]
  split
  · rename_i record hfind
    have hstatus := List.find?_some hfind
    exact absurd ⟨record, List.mem_of_find?_eq_some hfind, rfl, by simpa using hstatus⟩ (h record.operation)
  · rfl

/-- Acknowledging an operation that awaits is to prepare and commit. -/
theorem acknowledgeOperation_awaiting {d : DurableTeamRuntime} {operation : TeamOperationId} (h : d.runtime.Awaiting operation)
    (write : WriteOutcome) : d.acknowledgeOperation operation write =
      match d.runtime.prepareOperationAcknowledgement operation with
      | .error e => (.error (.team e), d)
      | .ok prepared => d.commitPrepared prepared write .durable := by
  obtain ⟨record, hmem, rfl, hstatus⟩ := h
  obtain ⟨found, hfound⟩ : ∃ found, d.operationRecords.find? (fun r => r.operation == record.operation) = some found := by
    rw [← Option.isSome_iff_exists, List.find?_isSome]
    exact ⟨record, hmem, beq_self_eq_true _⟩
  have hop : found.operation = record.operation := by simpa using List.find?_some hfound
  have hopen : found.status ≠ .acknowledged := by
    obtain ⟨entry, hentry, hiff⟩ := operationRecord_status hmem
    obtain ⟨entry', hentry', hiff'⟩ := operationRecord_status (List.mem_of_find?_eq_some hfound)
    rw [hop, hentry] at hentry'
    cases hentry'
    rw [hiff'.mpr (hiff.mp hstatus)]
    decide
  rw [DurableTeamRuntime.acknowledgeOperation, hfound]
  exact if_neg hopen

/-- What an acknowledgement is stored as. -/
theorem encode_acknowledgement (operation : TeamOperationId) (committed tx : TransactionId) :
    ∃ data, encodeEventData (acknowledgement operation committed tx) = .ok data ∧ data.payload.length = 24 ∧
      validateEvent data = .ok () := by
  refine ⟨_, rfl, by simp [Encoder.identifier], ?_⟩
  simp only [validateEvent]
  have htag : (acknowledgement operation committed tx).tag ≠ 0 := show (19 : UInt16) ≠ 0 by decide
  rw [require_bind (show teamEventSchema ≠ 0 by decide), require_bind htag]
  exact require_ok.mpr (by simp [Encoder.identifier]; decide)

section Acknowledgeable

variable {d : DurableTeamRuntime} {operation : TeamOperationId}

/-- A Ledger with room for one event has numbers left too. -/
theorem HasRoom.numbers (hf : Framed d.runtime) (hstores : Stores d.ledger d.runtime) (h : d.HasRoom) :
    ¬ Exhausted d.runtime 1 ∧ d.ledger.head.transaction + 1 < 2 ^ 64 ∧ d.ledger.head.sequence + 1 < 2 ^ 64 := by
  have hlen := mapM_length _ hstores.decodes
  have hcount := hf.count
  have hroom := h.2.1
  rw [hstores.head, hf.head]
  simp only [Exhausted, not_or, Nat.not_le]
  simp only [maxReplayEvents] at hroom
  omega

theorem acknowledgeable_of_room (h : DurableReach d) (hawait : d.runtime.Awaiting operation) (hidle : d.runtime.Idle)
    (hroom : d.HasRoom) : d.Acknowledgeable operation := by
  have hinv := h.inv
  obtain ⟨n, hr⟩ := hinv.reach.inv.1
  have hf := hinv.reach.framed
  have hstores := hinv.live hroom.1
  obtain ⟨hfit, ht, hs⟩ := HasRoom.numbers hf hstores hroom
  obtain ⟨_, entry, hentry, hopen⟩ := (awaiting_iff hinv.reach).mp hawait
  obtain ⟨candidate, hops, hp⟩ := acknowledgement_prepares hr hidle hentry hopen hf.next hfit
  obtain ⟨data, hdata, hbytes, hvalid⟩ := encode_acknowledgement operation entry.transaction d.runtime.nextTransaction
  obtain ⟨receipt, L, happ⟩ := FileLedger.append_single hroom.1 hvalid hroom.2.1 (by rw [hbytes]; exact hroom.2.2) ht hs
  have hframe : validateOperationTransaction (number d.runtime.nextTransaction (d.runtime.eventLog.length + 1) 1
      [acknowledgement operation entry.transaction d.runtime.nextTransaction]) = .ok () :=
    acknowledgement_alone (hr.journal.operation operation entry hentry).2.2.1
  have hreach : Reach (d.runtime.publishEvents _) := .acknowledge hinv.reach hp
  have hpublished := awaiting_published hinv.reach hreach hops
  have hencode : (number d.runtime.nextTransaction (d.runtime.eventLog.length + 1) 1
      [acknowledgement operation entry.transaction d.runtime.nextTransaction]).mapM
        (fun event => encodeEventData event.kind) = .ok [data] := by
    simp only [number, List.zipIdx_singleton, List.map_singleton, List.mapM_cons, hdata, ok_bind]
    rfl
  have hcommit : d.acknowledgeOperation operation .synced = (.ok (.durable (teamReceipt receipt)),
      { d with ledger := L, runtime := d.runtime.publishEvents (transactionOf d.runtime d.runtime.nextTransaction
        [acknowledgement operation entry.transaction d.runtime.nextTransaction] n candidate) }) := by
    rw [acknowledgeOperation_awaiting hawait, hp]
    simp only [DurableTeamRuntime.commitPrepared, DurableTeamRuntime.appendPrepared, if_pos hstores.head, transactionOf,
      List.length_singleton, hencode]
    rw [← hstores.head, happ]
  refine ⟨_, _, _, hp, hframe, ?_, hcommit, rfl, ?_, fun honly => requireReady_ok fun other hother => ?_⟩
  · exact ⟨_, rfl, rfl⟩
  · exact fun hagain => ((hpublished operation).mp hagain).2 rfl
  · obtain ⟨hother, hne⟩ := (hpublished other).mp hother
    exact hne (honly other hother)

theorem room_of_acknowledgeable (h : DurableReach d) (hawait : d.runtime.Awaiting operation)
    (hack : d.Acknowledgeable operation) : d.runtime.Idle ∧ d.HasRoom := by
  have hinv := h.inv
  obtain ⟨n, hr⟩ := hinv.reach.inv.1
  obtain ⟨prepared, receipt, d', hprepares, _, ⟨event, hsingle, hkind⟩, happends, _⟩ := hack
  refine ⟨idle_of_prepared hr hprepares, ?_⟩
  obtain ⟨data, hdata, hbytes⟩ : ∃ data, encodeEventData event.kind = .ok data ∧ data.payload.length = 24 := by
    cases hk : event.kind with
    | operationAcknowledged o tx tx' =>
      obtain ⟨data, hdata, hbytes, _⟩ := encode_acknowledgement o tx tx'
      exact ⟨data, hdata, hbytes⟩
    | _ =>
      rw [hk] at hkind
      cases hkind
  rw [acknowledgeOperation_awaiting hawait, hprepares] at happends
  simp only [DurableTeamRuntime.commitPrepared, DurableTeamRuntime.appendPrepared, hsingle, List.mapM_cons, List.mapM_nil,
    hdata, ok_bind, pure, Except.pure] at happends
  by_cases hhead : d.ledger.head = runtimeHead d.runtime
  · rw [if_pos hhead, ← hhead] at happends
    cases happ : d.ledger.append d.ledger.head [data] .synced with
    | mk result L =>
      rw [happ] at happends
      cases result with
      | error e => cases happends
      | ok receipt' =>
        obtain ⟨hpoison, _, hcount, hpayload, _⟩ := FileLedger.append_stored happ
        exact ⟨hpoison, hcount, by simpa [hbytes] using hpayload⟩
  · rw [if_neg hhead] at happends
    cases happends

end Acknowledgeable

/-! ## Runs that start nothing on reopening -/

theorem commitPrepared_idle {α : Type} {d : DurableTeamRuntime} {n n' : Nat} {applied : TeamState}
    {prepared : PreparedTeamEvents} (hidle : d.runtime.Idle) (hr : RuntimeInv n d.runtime)
    (hs : StepTo n' d.runtime applied prepared) (write : WriteOutcome) (result : TeamDurabilityReceipt → α) :
    (d.commitPrepared prepared write result).2.runtime.Idle := by
  obtain ⟨kinds, candidate, _, _, _, hq, rfl⟩ := hs.transaction hr
  have hsame := appendPrepared_runtime d (transactionOf d.runtime d.runtime.nextTransaction kinds n' candidate) write
  rw [DurableTeamRuntime.commitPrepared]
  split
  · rename_i e d1 happ
    rw [happ] at hsame
    exact hsame.symm ▸ hidle
  · rename_i receipt d1 happ
    rw [happ] at hsame
    show (d1.runtime.publishEvents _).Idle
    rw [hsame]
    exact hq.2

theorem DurableRunOf.idle {d : DurableTeamRuntime} (h : DurableRunOf TeamRuntime.Idle d) : d.runtime.Idle := by
  refine (DurableRunOf.induct (P := fun d => d.runtime.Idle) (fun _ hstate => ?_)
    (fun write result _ hr hs hidle => commitPrepared_idle hidle hr hs write result) (fun _ hguard => hguard) h).2
  rw [TeamRuntime.Idle, hstate]
  exact fun _ => rfl

/-- In every durable Team of a run, an operation that awaits can be acknowledged exactly
    when no Ready Task may start and the Ledger has room for one event. In a run whose
    reopenings leave no Ready Task that may start, none ever is. -/
theorem committed_operation_acknowledgeable {d : DurableTeamRuntime} (h : DurableReach d) :
    (∀ operation, d.runtime.Awaiting operation → (d.Acknowledgeable operation ↔ d.runtime.Idle ∧ d.HasRoom)) ∧
      (DurableRunOf TeamRuntime.Idle d → d.runtime.Idle) :=
  ⟨fun _ hawait => ⟨room_of_acknowledgeable h hawait, fun hcond => acknowledgeable_of_room h hawait hcond.1 hcond.2⟩,
    DurableRunOf.idle⟩

/-! ## A refused acknowledgement -/

/-- A root, acknowledged, and a child of it, not acknowledged. -/
def delegationRun (limit : Nat) : Except DurableTeamError DurableTeamRuntime := do
  let d ← DurableTeamRuntime.openFile [] limit 7
  let d := (d.dispatchOperation 1 (.admitRoot ⟨"Root", ∅, []⟩ (resourceBudget 2 0) ∅) .synced).2
  let d := (d.acknowledgeOperation 1 .synced).2
  return (d.dispatchOperation 2 (.delegate ⟨1, 7⟩ ⟨"Child", ∅, []⟩ (resourceBudget 1 0) ∅) .synced).2

theorem delegationRun_reach {limit : Nat} {d : DurableTeamRuntime} (h : delegationRun limit = .ok d) : DurableReach d := by
  simp only [delegationRun, bind_ok] at h
  obtain ⟨d0, hopen, h⟩ := h
  cases h
  exact .operation (.acknowledge (.operation (.create hopen)))

instance (r : TeamRuntime) (operation : TeamOperationId) : Decidable (r.Awaiting operation) :=
  inferInstanceAs (Decidable (∃ record ∈ r.operationRecords, _))

instance (r : TeamRuntime) : Decidable r.Idle := inferInstanceAs (Decidable (_ → _))

instance (d : DurableTeamRuntime) : Decidable d.HasRoom := inferInstanceAs (Decidable (_ ∧ _ ∧ _))

/-- Under limit 2 the child of the acknowledged root runs, and its operation can be
    acknowledged. -/
theorem committed_operation_acknowledgeable_delegated :
    ∃ d, delegationRun 2 = .ok d ∧ d.runtime.Awaiting 2 ∧ d.Acknowledgeable 2 := by
  have hrun : okAnd (delegationRun 2) (fun d => decide (d.runtime.Awaiting 2 ∧ d.runtime.Idle ∧ d.HasRoom)) = true := by
    decide +kernel
  obtain ⟨d, hd, hcond⟩ := okAnd_iff.mp hrun
  obtain ⟨hawait, hcond⟩ := of_decide_eq_true hcond
  exact ⟨d, hd, hawait, ((committed_operation_acknowledgeable (delegationRun_reach hd)).1 2 hawait).mpr hcond⟩

/-- Under limit 1 the child waits for room. Reopened under limit 2, the Team refuses the
    acknowledgement of its operation however often it is asked, and the host refuses
    every command until then. -/
theorem acknowledgement_refused : ∃ d d', delegationRun 1 = .ok d ∧
    DurableTeamRuntime.openFile d.ledger.file 2 8 = .ok d' ∧ DurableReach d' ∧ d'.runtime.Awaiting 2 ∧ d'.HasRoom ∧
    (∀ write, d'.acknowledgeOperation 2 write =
      (.error (.team (violation "Team operation acknowledgement must be its own transaction")), d')) ∧
    (∀ command write, KernelTeam.dispatch d' command write = (.error (.teamOperationReconciliationRequired 2), d')) ∧
    ¬ d'.Acknowledgeable 2 := by
  have hrun : okAnd (delegationRun 1) (fun d => okAnd (DurableTeamRuntime.openFile d.ledger.file 2 8) fun d' =>
      decide (d'.runtime.Awaiting 2 ∧ d'.HasRoom ∧
        d'.runtime.prepareOperationAcknowledgement 2 =
          .error (violation "Team operation acknowledgement must be its own transaction") ∧
        KernelTeam.requireReady d' = .error (.teamOperationReconciliationRequired 2))) = true := by
    decide +kernel
  obtain ⟨d, hd, hrun⟩ := okAnd_iff.mp hrun
  obtain ⟨d', hd', hrun⟩ := okAnd_iff.mp hrun
  obtain ⟨hawait, hroom, hprepare, hready⟩ := of_decide_eq_true hrun
  refine ⟨d, d', hd, hd', .reopen (delegationRun_reach hd) hd' trivial, hawait, hroom, fun write => ?_, fun command write => ?_, ?_⟩
  · rw [acknowledgeOperation_awaiting hawait, hprepare]
  · rw [KernelTeam.dispatch, hready]
  · rintro ⟨_, _, _, hack⟩
    have hprepared := hack.prepares
    rw [hprepare] at hprepared
    cases hprepared

end GreenTyper.Team
