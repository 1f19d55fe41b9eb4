/-
  GreenTyper.Team.DurableRuns — the runs of a durable Team: commands, operations and
  acknowledgements whose writes may fail, and a reopening of the file at any point, under
  a limit of its own (see `GreenTyper.Team.Durable`).

  A Ledger stores a Runtime when its events decode to the Runtime's log (`Stores`). Every
  open Team of a run is stored by its Ledger, and what is on the disk stores a Runtime of
  a run also where the last write was torn (`DurableInv`). A committed operation is not
  acknowledged in every such Team: the acknowledgement must be the whole transaction, and
  reconciliation adds to it whatever a larger limit lets start
  (`acknowledgement_refused`). `committed_operation_acknowledgeable` says exactly when it is.
-/

import GreenTyper.Ledger.Recovery
import GreenTyper.Team.EventLog

namespace GreenTyper.Team

open GreenTyper.Lib TeamState
open GreenTyper.Ledger (EventData StoredEvent LedgerHead FileLedger ReplayReport WriteOutcome DurabilityReceipt storedFrom
  maxReplayEvents maxReplayPayloadBytes validateEvents validateEvent)
open TeamRuntime (number)

/-- No Ready Task is waiting while there is room for one more Active Agent. -/
def TeamRuntime.Idle (r : TeamRuntime) : Prop := r.state.activeAgentCount < r.maxActiveAgents → r.state.nextReady = none

/-- The durable Teams of a run whose reopenings meet `guard`. A reopening finds the file
    as the last write left it. -/
inductive DurableRunOf (guard : TeamRuntime → Prop) : DurableTeamRuntime → Prop
  | create {limit authority : Nat} {d : DurableTeamRuntime} :
      DurableTeamRuntime.openFile [] limit authority = .ok d → DurableRunOf guard d
  | dispatch {d : DurableTeamRuntime} {command : TeamCommand} {write : WriteOutcome} :
      DurableRunOf guard d → DurableRunOf guard (d.dispatch command write).2
  | operation {d : DurableTeamRuntime} {operation : TeamOperationId} {command : TeamCommand} {write : WriteOutcome} :
      DurableRunOf guard d → DurableRunOf guard (d.dispatchOperation operation command write).2
  | acknowledge {d : DurableTeamRuntime} {operation : TeamOperationId} {write : WriteOutcome} :
      DurableRunOf guard d → DurableRunOf guard (d.acknowledgeOperation operation write).2
  | reopen {d d' : DurableTeamRuntime} {limit authority : Nat} : DurableRunOf guard d →
      DurableTeamRuntime.openFile d.ledger.file limit authority = .ok d' → guard d'.runtime → DurableRunOf guard d'
  | reopenStrict {d d' : DurableTeamRuntime} {limit authority : Nat} : DurableRunOf guard d →
      DurableTeamRuntime.openExistingStrict d.ledger.file limit authority = .ok d' → guard d'.runtime → DurableRunOf guard d'

/-- The durable Teams of any run. -/
abbrev DurableReach : DurableTeamRuntime → Prop := DurableRunOf fun _ => True

theorem DurableRunOf.reach {guard : TeamRuntime → Prop} {d : DurableTeamRuntime} (h : DurableRunOf guard d) : DurableReach d := by
  induction h with
  | create h => exact .create h
  | dispatch _ ih => exact .dispatch ih
  | operation _ ih => exact .operation ih
  | acknowledge _ ih => exact .acknowledge ih
  | reopen _ h _ ih => exact .reopen ih h trivial
  | reopenStrict _ h _ ih => exact .reopenStrict ih h trivial

/-! ## What a Ledger stores -/

/-- `L` is a Ledger of appends, and its events are those of `r`. -/
structure Stores (L : FileLedger) (r : TeamRuntime) : Prop where
  appended : ∃ batches, FileLedger.fresh.appendAll batches = .ok L
  decodes : L.events.mapM decodeStoredEvent = .ok r.eventLog
  head : L.head = runtimeHead r

/-- A transaction's stored events decode to its events. -/
theorem decode_stored {tx first count : Nat} (htx : ValidId tx) (kinds : List TeamEventKind) :
    ∀ {i : Nat} {es : List EventData}, kinds.mapM encodeEventData = .ok es → (∀ kind ∈ kinds, Codable kind) →
      (∀ e ∈ es, e.payload.length < 2 ^ 64) → first ≠ 0 → first + i + kinds.length ≤ maxIdentifier →
      (storedFrom tx first count i es).mapM decodeStoredEvent =
        .ok ((kinds.zipIdx i).map fun (kind, index) => ⟨first + index, tx, index, count, kind⟩) := by
  induction kinds with
  | nil =>
    intro i es h _ _ _ _
    cases h
    rfl
  | cons kind kinds ih =>
    intro i es h hcod hlen hfirst hfit
    simp only [List.mapM_cons, bind_ok, pure, Except.pure, Except.ok.injEq] at h
    obtain ⟨e, he, es, hes, rfl⟩ := h
    rw [List.length_cons] at hfit
    have hrest := ih (i := i + 1) hes (fun k hk => hcod k (List.mem_cons_of_mem _ hk))
      (fun x hx => hlen x (List.mem_cons_of_mem _ hx)) hfirst (by omega)
    have hseq : decodeIdentifier (first + i) = .ok (first + i) := decodeIdentifier_ok ⟨by omega, by omega⟩
    have hkind := decode_encode he (hlen e List.mem_cons_self) (hcod kind List.mem_cons_self)
    have hone : decodeStoredEvent ⟨first + i, tx, i, count, e⟩ = .ok ⟨first + i, tx, i, count, kind⟩ := by
      simp only [decodeStoredEvent, hseq, decodeIdentifier_ok htx, hkind, ok_bind]
      rfl
    show (⟨first + i, tx, i, count, e⟩ :: storedFrom tx first count (i + 1) es).mapM decodeStoredEvent = _
    rw [List.mapM_cons, hone, ok_bind, hrest]
    rfl

section Append

variable {n n' : Nat} {r : TeamRuntime} {L L' : FileLedger}

/-- Appending a prepared transaction stores the Runtime that publishes it. -/
theorem Stores.append {prepared : PreparedTeamEvents} {applied : TeamState} {es : List EventData} {receipt : DurabilityReceipt}
    (hL : Stores L r) (hr : RuntimeInv n r) (hs : StepTo n' r applied prepared) (hreach : Reach (r.publishEvents prepared))
    (hf : Framed r) (hes : prepared.events.mapM (fun event => encodeEventData event.kind) = .ok es)
    (h : L.append L.head es .synced = (.ok receipt, L')) : Stores L' (r.publishEvents prepared) := by
  obtain ⟨kinds, candidate, hne, _, hfit, _, rfl⟩ := hs.transaction hr
  obtain ⟨_, hv, hcount, _, _, hhead, hevents⟩ := FileLedger.append_stored h
  obtain ⟨batches, hbatches⟩ := hL.appended
  have hes' : kinds.mapM encodeEventData = .ok es := by
    have hk : (number r.nextTransaction (r.eventLog.length + 1) kinds.length kinds).map (·.kind) = kinds := number_kinds
    rw [← hk, List.mapM_map]
    exact hes
  have hlen : es.length = kinds.length := mapM_length kinds hes'
  have hlog : L.events.length = r.eventLog.length := (mapM_length L.events hL.decodes).symm
  have hL' := hL.head.trans hf.head
  have hcodable : ∀ kind ∈ kinds, Codable kind := by
    intro kind hk
    have hk' : kind ∈ (number r.nextTransaction (r.eventLog.length + 1) kinds.length kinds).map (·.kind) := by
      rw [number_kinds]
      exact hk
    obtain ⟨event, hevent, rfl⟩ := List.mem_map.mp hk'
    exact hreach.inv.2.codable (List.mem_append_right _ hevent)
  have hpayload : ∀ e ∈ es, e.payload.length < 2 ^ 64 := by
    intro e he
    simp only [validateEvents, bind_ok, require_ok, exists_const] at hv
    have := forM_ok.mp hv.2.2 e he
    simp only [validateEvent, bind_ok, require_ok, exists_const] at this
    exact Nat.lt_of_le_of_lt this.2.2 (by decide)
  simp only [Exhausted, not_or, Nat.not_le] at hfit
  have hnext : r.nextTransaction - 1 + 1 = r.nextTransaction := Nat.sub_add_cancel (Nat.pos_of_ne_zero hf.next)
  have hmax : maxReplayEvents ≤ maxIdentifier - 1 := by decide
  have hroom : r.eventLog.length + 1 + 0 + kinds.length ≤ maxIdentifier := by
    simp only [maxReplayEvents, maxIdentifier] at hcount hmax ⊢
    omega
  have hdecoded := @decode_stored r.nextTransaction (r.eventLog.length + 1) kinds.length
    ⟨hf.next, Nat.lt_sub_of_add_lt hfit.2.2⟩ kinds 0 es hes' hcodable hpayload (Nat.succ_ne_zero _) hroom
  refine ⟨⟨_, FileLedger.appendAll_concat hbatches h⟩, ?_, ?_⟩
  · rw [hevents, List.mapM_append, hL.decodes, ok_bind, hL', hlen]
    simp only [hnext, hdecoded, ok_bind]
    rfl
  · rw [runtimeHead_publish hne, hhead, hL', hlen]
    have hpos := List.length_pos_iff.mpr hne
    simp only [hnext, LedgerHead.mk.injEq, true_and]
    omega

end Append

/-! ## What is on the disk -/

/-- A Team of a run: its Ledger stores it as long as writes succeed, and its file opens
    to a Ledger that stores a Team of a run. -/
structure DurableInv (d : DurableTeamRuntime) : Prop where
  reach : Reach d.runtime
  live : d.ledger.poisoned = false → Stores d.ledger d.runtime
  disk : ∃ L report r, FileLedger.openFile d.ledger.file = .ok (L, report) ∧ Stores L r ∧ Reach r

theorem Stores.inv {L : FileLedger} {r : TeamRuntime} (h : Stores L r) (hr : Reach r) (tail : Nat) : DurableInv ⟨r, L, tail⟩ := by
  obtain ⟨batches, hb⟩ := h.appended
  exact ⟨hr, fun _ => h, L, _, r, FileLedger.openFile_file hb, h, hr⟩

theorem appendPrepared_runtime (d : DurableTeamRuntime) (prepared : PreparedTeamEvents) (write : WriteOutcome) :
    (d.appendPrepared prepared write).2.runtime = d.runtime := by
  rw [DurableTeamRuntime.appendPrepared]
  split
  · split
    · rfl
    · split <;> rfl
  · rfl

section AppendPrepared

variable {d : DurableTeamRuntime} {prepared : PreparedTeamEvents} {es : List EventData} {write : WriteOutcome} {ledger : FileLedger}

theorem appendPrepared_error {e : Ledger.LedgerError} (hhead : d.ledger.head = runtimeHead d.runtime)
    (hes : prepared.events.mapM (fun event => encodeEventData event.kind) = .ok es)
    (h : d.ledger.append d.ledger.head es write = (.error e, ledger)) :
    d.appendPrepared prepared write = (.error (.ledger e), { d with ledger := ledger }) := by
  rw [hhead] at h
  simp only [DurableTeamRuntime.appendPrepared, if_pos hhead, hes, h]

theorem appendPrepared_ok {receipt : DurabilityReceipt} (hhead : d.ledger.head = runtimeHead d.runtime)
    (hes : prepared.events.mapM (fun event => encodeEventData event.kind) = .ok es)
    (h : d.ledger.append d.ledger.head es write = (.ok receipt, ledger)) :
    d.appendPrepared prepared write = (.ok (teamReceipt receipt), { d with ledger := ledger }) := by
  rw [hhead] at h
  simp only [DurableTeamRuntime.appendPrepared, if_pos hhead, hes, h]

end AppendPrepared

/-- Writing a prepared transaction, however the write ends. -/
theorem commitPrepared_inv {α : Type} {d : DurableTeamRuntime} {n n' : Nat} {applied : TeamState}
    {prepared : PreparedTeamEvents} (h : DurableInv d) (hr : RuntimeInv n d.runtime) (hs : StepTo n' d.runtime applied prepared)
    (hreach : Reach (d.runtime.publishEvents prepared)) (write : WriteOutcome) (result : TeamDurabilityReceipt → α) :
    DurableInv (d.commitPrepared prepared write result).2 := by
  have hsame : ∀ e : DurableTeamError, (d.appendPrepared prepared write) = (.error e, d) →
      DurableInv (d.commitPrepared prepared write result).2 := by
    intro e he
    rw [DurableTeamRuntime.commitPrepared, he]
    exact h
  by_cases hhead : d.ledger.head = runtimeHead d.runtime
  · cases hes : prepared.events.mapM (fun event => encodeEventData event.kind) with
    | error e => exact hsame e (by rw [DurableTeamRuntime.appendPrepared, if_pos hhead, hes])
    | ok es =>
      cases hp : d.ledger.poisoned with
      | true => exact hsame _ (appendPrepared_error hhead hes (FileLedger.append_poisoned hp _ _))
      | false =>
        have hlive := h.live hp
        obtain ⟨batches, hb⟩ := hlive.appended
        rcases FileLedger.append_fate hb es write with ⟨e, he⟩ | ⟨receipt, L, hL, hdone | ⟨torn, report, htorn, hpoison, hopen⟩⟩
        · exact hsame _ (appendPrepared_error hhead hes he)
        · have hstores := hlive.append hr hs hreach h.reach.framed hes hL
          rw [DurableTeamRuntime.commitPrepared, appendPrepared_ok hhead hes hdone]
          exact hstores.inv hreach _
        · -- The Team stays as it was; the file opens to it, or to the Team it was to become.
          have hstores := hlive.append hr hs hreach h.reach.framed hes hL
          rw [DurableTeamRuntime.commitPrepared, appendPrepared_error hhead hes htorn]
          refine ⟨h.reach, fun hp => absurd (hpoison.symm.trans hp) (by decide), ?_⟩
          rcases hopen with hopen | hopen
          · exact ⟨d.ledger, report, d.runtime, hopen, hlive, h.reach⟩
          · exact ⟨L, report, _, hopen, hstores, hreach⟩
  · exact hsame _ (by rw [DurableTeamRuntime.appendPrepared, if_neg hhead])

theorem Reach.dispatched {r : TeamRuntime} (h : Reach r) {command : TeamCommand} {prepared : PreparedTeamEvents}
    {outcome : CommandOutcome} (hp : r.prepare command = .ok (prepared, outcome)) : Reach (r.publishEvents prepared) := by
  have hdispatch : r.dispatch command = .ok (r.publishEvents prepared, outcome) := by
    rw [TeamRuntime.dispatch, hp]
    rfl
  exact .dispatch h trivial hdispatch

/-- A Runtime recovered from what a Ledger stores. -/
theorem recoverTeam_ok {L : FileLedger} {r r' : TeamRuntime} {report : ReplayReport} {limit authority : Nat} (h : Stores L r)
    (hr : Reach r) (hevents : report.events = L.events) (hrec : recoverTeam report limit authority = .ok r') :
    Stores L r' ∧ Reach r' ∧ r'.state = r.state := by
  simp only [recoverTeam, hevents, h.decodes, ok_bind, bind_ok] at hrec
  obtain ⟨r1, hr1, _, _, hrec⟩ := hrec
  cases hrec
  have hr' : TeamRuntime.recover limit authority r.eventLog = .ok r' := by
    cases hx : TeamRuntime.recover limit authority r.eventLog with
    | error e =>
      rw [hx] at hr1
      cases hr1
    | ok x =>
      rw [hx] at hr1
      cases hr1
      rfl
  obtain ⟨_, _, _, _, _, _, _, _, rfl⟩ := recover_ok hr.inv.2 hr'
  exact ⟨⟨h.appended, h.decodes, h.head⟩, .recover hr hr', rfl⟩

theorem openFile_stores {d d' : DurableTeamRuntime} {limit authority : Nat} (h : DurableInv d)
    (hopen : DurableTeamRuntime.openFile d.ledger.file limit authority = .ok d') :
    Stores d'.ledger d'.runtime ∧ DurableInv d' := by
  obtain ⟨L, report, r, hL, hstores, hr⟩ := h.disk
  simp only [DurableTeamRuntime.openFile, DurableTeamRuntime.fromOpenedLedger, bind_ok, mapError_ok] at hopen
  obtain ⟨_, _, opened, hopened, r', hr', hopen⟩ := hopen
  rw [hL] at hopened
  cases hopened
  cases hopen
  obtain ⟨hstores', hreach', _⟩ := recoverTeam_ok hstores hr (FileLedger.openWithPolicy_report hL).2.1 hr'
  exact ⟨hstores', hstores'.inv hreach' _⟩

theorem openFile_of_existing {file : List Lib.Byte} {d : DurableTeamRuntime} {limit authority : Nat}
    (h : DurableTeamRuntime.openExistingStrict file limit authority = .ok d) :
    DurableTeamRuntime.openFile file limit authority = .ok d := by
  simp only [DurableTeamRuntime.openFile, DurableTeamRuntime.openExistingStrict, bind_ok, mapError_ok] at h ⊢
  obtain ⟨u, hu, opened, hopened, h⟩ := h
  exact ⟨u, hu, opened, FileLedger.openFile_of_strict hopened, h⟩

theorem create_stores {d : DurableTeamRuntime} {limit authority : Nat}
    (h : DurableTeamRuntime.openFile [] limit authority = .ok d) :
    Stores d.ledger d.runtime ∧ DurableInv d ∧ d.runtime.state = .default := by
  simp only [DurableTeamRuntime.openFile, DurableTeamRuntime.fromOpenedLedger, validateActiveLimit, bind_ok, mapError_ok,
    require_ok, exists_const] at h
  obtain ⟨hlimit, opened, hopened, r, hr, h⟩ := h
  rw [FileLedger.openFile_nil] at hopened
  cases hopened
  cases h
  have hnew : TeamRuntime.new limit authority = .ok ⟨limit, authority, .default, [], 1, 1, 1, 1⟩ := by
    rw [TeamRuntime.new, require_bind hlimit]
    rfl
  obtain ⟨hstores, hreach, hstate⟩ := recoverTeam_ok (L := .fresh) (r := ⟨limit, authority, .default, [], 1, 1, 1, 1⟩)
    ⟨⟨[], rfl⟩, rfl, rfl⟩ (.new hnew) rfl hr
  exact ⟨hstores, hstores.inv hreach _, hstate⟩

/-- Every durable Team of a run has the invariant, and so has what creation gives, what
    writing keeps, and what the guard of reopenings implies. -/
theorem DurableRunOf.induct {guard : TeamRuntime → Prop} {P : DurableTeamRuntime → Prop}
    (create : ∀ {d : DurableTeamRuntime}, Stores d.ledger d.runtime → d.runtime.state = .default → P d)
    (commit : ∀ {α : Type} {d : DurableTeamRuntime} {n n' : Nat} {applied : TeamState} {prepared : PreparedTeamEvents}
      (write : WriteOutcome) (result : TeamDurabilityReceipt → α), DurableInv d → RuntimeInv n d.runtime →
      StepTo n' d.runtime applied prepared → P d → P (d.commitPrepared prepared write result).2)
    (reopen : ∀ {d : DurableTeamRuntime}, Stores d.ledger d.runtime → guard d.runtime → P d)
    {d : DurableTeamRuntime} (h : DurableRunOf guard d) : DurableInv d ∧ P d := by
  induction h with
  | create h =>
    obtain ⟨hstores, hinv, hstate⟩ := create_stores h
    exact ⟨hinv, create hstores hstate⟩
  | @dispatch d command write _ ih =>
    obtain ⟨n, hr⟩ := ih.1.reach.inv.1
    rw [DurableTeamRuntime.dispatch]
    split
    · exact ih
    · rename_i prepared outcome hp
      obtain ⟨_, _, hs, _⟩ := prepare_step hr hp
      exact ⟨commitPrepared_inv ih.1 hr hs (ih.1.reach.dispatched hp) write _, commit write _ ih.1 hr hs ih.2⟩
  | @operation d operation command write _ ih =>
    obtain ⟨n, hr⟩ := ih.1.reach.inv.1
    rw [DurableTeamRuntime.dispatchOperation]
    split
    · exact ih
    · rename_i prepared outcome hp
      obtain ⟨_, _, hs, _⟩ := prepareOperation_step hr hp
      exact ⟨commitPrepared_inv ih.1 hr hs (.operation ih.1.reach trivial hp) write _, commit write _ ih.1 hr hs ih.2⟩
  | @acknowledge d operation write _ ih =>
    obtain ⟨n, hr⟩ := ih.1.reach.inv.1
    rw [DurableTeamRuntime.acknowledgeOperation]
    split
    · exact ih
    · split
      · exact ih
      · split
        · exact ih
        · rename_i prepared hp
          obtain ⟨_, hs⟩ := acknowledgement_step hr hp
          exact ⟨commitPrepared_inv ih.1 hr hs (.acknowledge ih.1.reach hp) write _, commit write _ ih.1 hr hs ih.2⟩
  | reopen _ h hguard ih =>
    obtain ⟨hstores, hinv⟩ := openFile_stores ih.1 h
    exact ⟨hinv, reopen hstores hguard⟩
  | reopenStrict _ h hguard ih =>
    obtain ⟨hstores, hinv⟩ := openFile_stores ih.1 (openFile_of_existing h)
    exact ⟨hinv, reopen hstores hguard⟩

theorem DurableRunOf.inv {guard : TeamRuntime → Prop} {d : DurableTeamRuntime} (h : DurableRunOf guard d) : DurableInv d :=
  (DurableRunOf.induct (P := fun _ => True) (fun _ _ => trivial) (fun _ _ _ _ _ _ => trivial) (fun _ _ => trivial) h).1

end GreenTyper.Team
