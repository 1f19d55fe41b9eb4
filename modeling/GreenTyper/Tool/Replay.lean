/-
  GreenTyper.Tool.Replay — the Tool Ledger replays to the live state (see
  `GreenTyper.Tool.Runs`).

  A live runtime's Ledger holds the events of every append that was acknowledged, also
  once a write has failed; replaying them gives its state, identifiers and all
  (`Replays`). What is in the file is that log, or, once a write has failed, possibly
  the one transaction more that was being written (`Serves`). Logs only grow, over
  operations, crashes and reopenings, so a record that an event has settled stays as it
  is (`applyAll_settled`), in every later process of the run.
-/

import GreenTyper.Tool.Runs

namespace GreenTyper.Tool

open GreenTyper.Lib ToolState
open GreenTyper.Ledger (StoredEvent FileLedger WriteOutcome LedgerHead EventData LedgerError)

/-! ## Settled records -/

/-- Statuses that no event moves. -/
def ToolCallStatus.settled : ToolCallStatus → Bool
  | .denied | .succeeded | .failed => true
  | .awaitingApproval | .reconciliationRequired => false

namespace ToolState

variable {s s' : ToolState} {call : ToolCallId} {record : ToolCallRecord}

theorem apply_settled {event : ToolEvent} (happ : s.apply event = .ok s') (hget : s.calls.get call = some record)
    (hsettled : record.status.settled = true) : s'.calls.get call = some record := by
  rcases apply_cases happ with ⟨new, hreq⟩ | ⟨before, after, rfl, hbefore, hmoves, _⟩
  · rw [hreq.state, OrdMap.get_insert_ne]
    · exact hget
    · intro heq
      rw [← heq, hreq.unknown] at hget
      cases hget
  · by_cases hcall : event.call = call
    · rw [hcall, hget] at hbefore
      cases hbefore
      generalize record.status = status, after.status = status' at hmoves hsettled
      cases hmoves <;> cases hsettled
    · rw [setCall, OrdMap.get_insert_ne _ _ hcall]
      exact hget

theorem applyAll_settled {events : List ToolEvent} : ∀ {s : ToolState}, s.applyAll events = .ok s' →
    s.calls.get call = some record → record.status.settled = true → s'.calls.get call = some record := by
  induction events with
  | nil =>
    intro s happ hget _
    cases happ
    exact hget
  | cons event events ih =>
    intro s happ hget hsettled
    obtain ⟨s1, h1, happ⟩ := bind_ok.mp happ
    exact ih happ (apply_settled h1 hget hsettled) hsettled

end ToolState

/-! ## One append -/

section Append

variable {json : PayloadReader} {d : DurableToolRuntime} {events : List ToolEvent} {write : WriteOutcome}

/-- A failed append leaves the acknowledged events as they are. -/
theorem append_error_events {ledger L : FileLedger} {expected : LedgerHead} {es : List EventData} {e : LedgerError}
    (h : ledger.append expected es write = (.error e, L)) : L.events = ledger.events := by
  unfold FileLedger.append at h
  split at h
  · cases h
    rfl
  · split at h <;> cases h
    rfl

theorem appendEvents_error_same {d' : DurableToolRuntime} {e : ToolRuntimeError} (h : d.appendEvents events write = (.error e, d')) :
    d'.ledger.events = d.ledger.events ∧ d'.state = d.state := by
  unfold DurableToolRuntime.appendEvents at h
  split at h
  · cases h
    exact ⟨rfl, rfl⟩
  · split at h
    · rename_i hledger
      cases h
      exact ⟨append_error_events hledger, rfl⟩
    · cases h

/-- A live runtime: its acknowledged events are `log` and build its state; and its file
    opens, to that log, or where a write has failed to one with more events of its state. -/
structure Serves (json : PayloadReader) (d : DurableToolRuntime) (log : List ToolEvent) : Prop where
  live : Live json d
  replays : Replays json d.ledger.events d.state log
  file : ∃ L report s log', FileLedger.openFile d.ledger.file = .ok (L, report) ∧ Stored json L s log' ∧
    (log' = log ∨ d.ledger.poisoned = true ∧ ∃ events, log' = log ++ events)

theorem Stored.serves {L : FileLedger} {s : ToolState} {log : List ToolEvent} (h : Stored json L s log) (tail : Nat) :
    Serves json ⟨L, s, tail⟩ log :=
  ⟨fun _ => ⟨log, h⟩, h.log, ⟨_, _, _, _, h.opens, h, Or.inl rfl⟩⟩

theorem Serves.append (hjson : json.ReadsBack) {log : List ToolEvent} (h : Serves json d log)
    (hagent : ∀ event ∈ events, event.AgentStored) : ∃ more, Serves json (d.appendEvents events write).2 (log ++ more) := by
  rcases appendEvents_fate hjson h.live hagent write with ⟨e, he⟩ | ⟨receipt, d', log1, hd, hdone⟩ | ⟨e, d', log1, he, htorn⟩
  · rw [he]
    exact ⟨[], by rwa [List.append_nil]⟩
  · have hlog : log1 = log := by
      have := h.replays.decodes.symm.trans hdone.before.decodes
      exact (Except.ok.inj this).symm
    subst hlog
    rw [hd]
    exact ⟨events, hdone.after.serves d'.recoveredTailBytes⟩
  · obtain ⟨hevents, hstate⟩ := appendEvents_error_same he
    have hlog : log1 = log := by
      have := h.replays.decodes.symm.trans htorn.before.decodes
      exact (Except.ok.inj this).symm
    subst hlog
    obtain ⟨L, report, s, log', hopen, hstored, hcases⟩ := htorn.disk
    rw [he]
    refine ⟨[], ⟨fun hp => absurd (htorn.poisoned.symm.trans hp) (by decide), ?_, L, report, s, log', hopen, hstored, ?_⟩⟩
    · rw [List.append_nil]
      show Replays json d'.ledger.events d'.state log1
      rw [hevents, hstate]
      exact h.replays
    · rw [List.append_nil]
      rcases hcases with rfl | rfl
      · exact Or.inl rfl
      · exact Or.inr ⟨htorn.poisoned, events, rfl⟩

theorem Commits.serves (hjson : json.ReadsBack) {d' : DurableToolRuntime} (h : Commits d d') {log : List ToolEvent}
    (hd : Serves json d log) : ∃ more, Serves json d' (log ++ more) := by
  cases h with
  | same => exact ⟨[], by rwa [List.append_nil]⟩
  | append hagent => exact hd.append hjson hagent

end Append

/-! ## Every run -/

section Runs

variable {sha256 : List Byte → Digest} {json : PayloadReader} {base : List ToolEvent} {w w' : World}

/-- The logs of the world begin with `base`. -/
structure Keeps (json : PayloadReader) (base : List ToolEvent) (w : World) : Prop where
  live : ∀ {d phase}, w.process = .up d phase → ∃ log, Serves json d log ∧ base <+: log
  disk : DiskHolds json w.process.file (base <+: ·)

theorem Keeps.commits (hjson : json.ReadsBack) {d d' : DurableToolRuntime} {phase phase' : Phase} {invoked invoked' : List ToolCallId}
    (h : Keeps json base ⟨.up d phase, invoked⟩) (hd : Commits d d') : Keeps json base ⟨.up d' phase', invoked'⟩ := by
  obtain ⟨log, hserves, hbase⟩ := h.live rfl
  have hserves' := hd.serves hjson hserves
  refine ⟨?_, ?_⟩
  · rintro _ _ ⟨⟩
    obtain ⟨more, hmore⟩ := hserves'
    exact ⟨_, hmore, hbase.trans (List.prefix_append log more)⟩
  · cases hd with
    | same => exact h.disk
    | append hagent =>
      exact (appendEvents_holds hjson hserves.live (fun more hlog => hlog.trans (List.prefix_append _ more)) h.disk hagent).2

theorem Keeps.opened {file : List Byte} {d : DurableToolRuntime} {invoked : List ToolCallId}
    (h : Keeps json base ⟨.down file, invoked⟩) (hopen : DurableToolRuntime.openFile json file = .ok d) :
    Keeps json base ⟨.up d .idle, invoked⟩ := by
  simp only [DurableToolRuntime.openFile, DurableToolRuntime.fromOpenedLedger, bind_ok, mapError_ok] at hopen
  obtain ⟨⟨L, report⟩, hopen, s, hs, hd⟩ := hopen
  cases hd
  obtain ⟨s', log, hstored, hbase⟩ := h.disk.stored hopen
  rw [(FileLedger.openWithPolicy_report hopen).2.1, hstored.replays] at hs
  cases hs
  refine ⟨?_, ⟨fun {L' report'} hopen' => ?_, fun _ => ⟨_, _, hstored.opens⟩⟩⟩
  · rintro _ _ ⟨⟩
    exact ⟨log, hstored.serves _, hbase⟩
  · rw [show Process.file (.up ⟨L, s, report.truncatedTailBytes⟩ .idle) = L.file from rfl, hstored.opens] at hopen'
    cases hopen'
    exact ⟨s, log, hstored, hbase⟩

theorem Step.keeps (hjson : json.ReadsBack) (h : Keeps json base w) (hstep : Step sha256 json w w') : Keeps json base w' := by
  cases hstep with
  | opens hopen => exact h.opened hopen
  | opensStrict hopen => exact h.opened (openFile_of_existing hopen)
  | @crashNew written invoked =>
    obtain ⟨s, log, hstored, hbase⟩ := h.disk.stored FileLedger.openFile_nil
    obtain ⟨rfl, rfl⟩ := hstored.unique (@stored_fresh json)
    refine ⟨by rintro _ _ ⟨⟩, ⟨fun {L report} hopen => ?_, fun hno => absurd hbase hno⟩⟩
    obtain rfl : L = .fresh := FileLedger.openFile_headerPart hopen
    exact ⟨_, _, hstored, hbase⟩
  | @request d invoked principal intent write => exact h.commits hjson (request_commits d principal intent write)
  | @authorize d invoked principal request decision now write =>
    exact h.commits hjson (authorize_commits d principal request decision now write)
  | execute execution => exact h.commits hjson .same
  | @record d request execution invoked write => exact h.commits hjson (recordExecution_commits d request execution write)
  | @reconcile d invoked principal call decision write =>
    exact h.commits hjson (reconcile_commits d principal call decision write)
  | crash => exact ⟨by rintro _ _ ⟨⟩, h.disk⟩

theorem Run.keeps (hjson : json.ReadsBack) (h : Keeps json base w) (hrun : Run sha256 json w w') : Keeps json base w' := by
  induction hrun with
  | refl => exact h
  | tail _ hstep ih => exact hstep.keeps hjson ih

theorem Reach.keeps (hjson : json.ReadsBack) (h : Reach sha256 json w) : Keeps json [] w := by
  refine Run.keeps hjson ⟨by rintro _ _ ⟨⟩, ⟨fun {L report} hopen => ?_, fun hno => absurd List.nil_prefix hno⟩⟩ h
  rw [show Process.file (.down []) = [] from rfl, FileLedger.openFile_nil] at hopen
  cases hopen
  exact ⟨_, [], stored_fresh, List.nil_prefix⟩

/-! ## The records of a world -/

/-- The record of a call in the live state, or, where no process runs, in the state that a
    reopening gives. -/
def Known (json : PayloadReader) (w : World) (call : ToolCallId) (record : ToolCallRecord) : Prop :=
  match w.process with
  | .up d _ => d.state.calls.get call = some record
  | .down file => ∃ d, DurableToolRuntime.openFile json file = .ok d ∧ d.state.calls.get call = some record

/-- What the log of `base` settled is known in every world that keeps it. -/
theorem Keeps.known {s : ToolState} {call : ToolCallId} {record : ToolCallRecord} (h : Keeps json base w)
    (hbase : ToolState.default.applyAll base = .ok s) (hget : s.calls.get call = some record)
    (hsettled : record.status.settled = true) : Known json w call record := by
  have hlater : ∀ {log : List ToolEvent} {s' : ToolState}, base <+: log → ToolState.default.applyAll log = .ok s' →
      s'.calls.get call = some record := by
    rintro _ s' ⟨more, rfl⟩ hlog
    rw [applyAll_append, hbase, ok_bind] at hlog
    exact applyAll_settled hlog hget hsettled
  obtain ⟨process, invoked⟩ := w
  cases process with
  | up d phase =>
    obtain ⟨log, hserves, hbegins⟩ := h.live rfl
    exact hlater hbegins hserves.replays.builds
  | down file =>
    have hne : ¬ base <+: [] := by
      intro hnil
      rw [List.prefix_nil.mp hnil] at hbase
      cases hbase
      cases hget
    obtain ⟨L, report, hopen⟩ := h.disk.opens hne
    obtain ⟨s', log, hstored, hbegins⟩ := h.disk.stored hopen
    refine ⟨⟨L, s', report.truncatedTailBytes⟩, ?_, hlater hbegins hstored.builds⟩
    simp only [DurableToolRuntime.openFile, DurableToolRuntime.fromOpenedLedger, bind_ok, mapError_ok]
    refine ⟨_, hopen, s', ?_, rfl⟩
    rw [(FileLedger.openWithPolicy_report hopen).2.1]
    exact hstored.replays

/-- Each world keeps a log that builds the state its records are known from. -/
theorem Known.log {call : ToolCallId} {record : ToolCallRecord} (h : Keeps json [] w) (hknown : Known json w call record) :
    ∃ base s, Keeps json base w ∧ ToolState.default.applyAll base = .ok s ∧ s.calls.get call = some record := by
  obtain ⟨process, invoked⟩ := w
  cases process with
  | up d phase =>
    obtain ⟨log, hserves, _⟩ := h.live rfl
    obtain ⟨L, report, s, log', hopen, hstored, hlog⟩ := hserves.file
    have hbegins : log <+: log' := by
      rcases hlog with rfl | ⟨_, events, rfl⟩
      · exact List.prefix_rfl
      · exact List.prefix_append _ _
    refine ⟨log, d.state, ⟨?_, ⟨fun {L' report'} hopen' => ?_, fun _ => ⟨L, report, hopen⟩⟩⟩, hserves.replays.builds, hknown⟩
    · rintro _ _ ⟨⟩
      exact ⟨log, hserves, List.prefix_rfl⟩
    · rw [show Process.file (.up d phase) = d.ledger.file from rfl, hopen] at hopen'
      cases hopen'
      exact ⟨s, log', hstored, hbegins⟩
  | down file =>
    obtain ⟨d, hd, hget⟩ := hknown
    simp only [DurableToolRuntime.openFile, DurableToolRuntime.fromOpenedLedger, bind_ok, mapError_ok] at hd
    obtain ⟨⟨L, report⟩, hopen, s, hs, hd⟩ := hd
    cases hd
    obtain ⟨s', log, hstored, _⟩ := h.disk.stored hopen
    rw [(FileLedger.openWithPolicy_report hopen).2.1, hstored.replays] at hs
    cases hs
    refine ⟨log, s, ⟨by rintro _ _ ⟨⟩, ⟨fun {L' report'} hopen' => ?_, fun _ => ⟨L, report, hopen⟩⟩⟩, hstored.builds, hget⟩
    rw [show Process.file (.down file) = file from rfl, hopen] at hopen'
    cases hopen'
    exact ⟨s, log, hstored, List.prefix_rfl⟩

/-! ## The Ledger replays to the live state -/

/-- What `reconcile` answers for a settled call. -/
theorem reconcile_settled {d : DurableToolRuntime} {principal : ToolPrincipal} {call : ToolCallId}
    {decision : ToolReconciliationDecision} {write : WriteOutcome} {record : ToolCallRecord}
    (hget : d.state.calls.get call = some record) (hsettled : record.status.settled = true) :
    (d.reconcile principal call decision write).2 = d ∧
      (record.status ≠ .denied → principal.agent = record.agent →
        validateRecordAuthority principal.capabilities record = .ok () →
          (d.reconcile principal call decision write).1 = .ok record) := by
  have hrecord : d.record call = .ok record := okOr_ok.mpr hget
  have hnot : record.status ≠ .reconciliationRequired := by
    intro hstatus
    rw [hstatus] at hsettled
    cases hsettled
  constructor
  · unfold DurableToolRuntime.reconcile
    split
    · rfl
    · rfl
    · rename_i event hevent
      simp only [DurableToolRuntime.prepareReconcile, hrecord, ok_bind, bind_ok, require_ok, exists_const] at hevent
      obtain ⟨_, _, _, hevent⟩ := hevent
      split at hevent
      · cases hevent
      · obtain ⟨_, hstatus, _⟩ := bind_ok.mp hevent
        exact absurd (require_ok.mp hstatus) hnot
  · intro hdenied hagent hauthority
    have hdone : record.status = .succeeded ∨ record.status = .failed := by
      generalize record.status = status at *
      cases status <;> simp_all [ToolCallStatus.settled]
    have hprepare : d.prepareReconcile principal call decision = .ok (.inl record) := by
      simp only [DurableToolRuntime.prepareReconcile, hrecord, ok_bind, hauthority, if_pos hdone]
      rw [require_bind hagent.symm]
      rfl
    rw [DurableToolRuntime.reconcile, hprepare]

/-- In every world of a run. A live runtime: replaying its Ledger's events gives its state,
    calls, identities and next identifier; its file reopens to that state, unless a write
    has failed, which leaves at most further events of it; a prepared effect without an
    outcome requires reconciliation; every event the state takes is read back from its
    encoding; reconciling a settled call changes nothing and gives its record. And what is
    settled is never changed, in whatever world the run comes to. -/
theorem tool_ledger_replays (hjson : json.ReadsBack) {w : World} (h : Reach sha256 json w) :
    (∀ d phase, w.process = .up d phase → ∃ log, Replays json d.ledger.events d.state log ∧
      (∃ d', DurableToolRuntime.openFile json d.ledger.file = .ok d' ∧
        (d'.state = d.state ∨ d.ledger.poisoned = true ∧ ∃ events, d.state.applyAll events = .ok d'.state)) ∧
      (∀ call, Prepared log call → ¬ HasOutcome log call →
        ∃ record, d.state.calls.get call = some record ∧ record.status = .reconciliationRequired) ∧
      (∀ (events : List ToolEvent) (s' : ToolState), (∀ event ∈ events, event.AgentStored) →
        d.state.applyTransaction events = .ok s' → ∀ event ∈ events, ∀ stored : StoredEvent, stored.data = encodeEvent event →
          decodeEvent json stored = .ok event) ∧
      ∀ (principal : ToolPrincipal) (call : ToolCallId) (decision : ToolReconciliationDecision) (write : WriteOutcome)
        (record : ToolCallRecord), d.state.calls.get call = some record → record.status.settled = true →
          (d.reconcile principal call decision write).2 = d ∧
            (record.status ≠ .denied → principal.agent = record.agent →
              validateRecordAuthority principal.capabilities record = .ok () →
                (d.reconcile principal call decision write).1 = .ok record)) ∧
    ∀ w', Run sha256 json w w' → ∀ call record, Known json w call record → record.status.settled = true →
      Known json w' call record := by
  have hkeeps := h.keeps hjson
  constructor
  · intro d phase hw
    obtain ⟨log, hserves, _⟩ := hkeeps.live hw
    obtain ⟨L, report, s, log', hopen, hstored, hlog⟩ := hserves.file
    refine ⟨log, hserves.replays, ⟨⟨L, s, report.truncatedTailBytes⟩, ?_, ?_⟩, ?_, ?_, ?_⟩
    · simp only [DurableToolRuntime.openFile, DurableToolRuntime.fromOpenedLedger, bind_ok, mapError_ok]
      refine ⟨_, hopen, s, ?_, rfl⟩
      rw [(FileLedger.openWithPolicy_report hopen).2.1]
      exact hstored.replays
    · rcases hlog with rfl | ⟨hpoisoned, events, rfl⟩
      · exact Or.inl (Except.ok.inj (hstored.builds.symm.trans hserves.replays.builds))
      · refine Or.inr ⟨hpoisoned, events, ?_⟩
        have := hstored.builds
        rwa [applyAll_append, hserves.replays.builds, ok_bind] at this
    · intro call hprepared hnone
      obtain ⟨record, hget, _, _, hstatus⟩ := prepared_status hserves.replays.builds call hprepared
      exact ⟨record, hget, hstatus hnone⟩
    · intro events s' hagent happ event hmem stored hdata
      obtain ⟨_, happ'⟩ := applyTransaction_ok.mp happ
      exact decodeEvent_encodeEvent hjson ((applyAll_inv hserves.replays.inv hagent happ').2 event hmem) hdata
    · intro principal call decision write record hget hsettled
      exact reconcile_settled hget hsettled
  · intro w' hrun call record hknown hsettled
    obtain ⟨base, s, hbase, hs, hget⟩ := hknown.log hkeeps
    exact (hrun.keeps hjson hbase).known hs hget hsettled

end Runs

/-- A call denied by one process is denied after a crash and a reopening. -/
theorem tool_ledger_replays_denied :
    ∃ w d phase record, Reach Sample.sha256 .compact w ∧ w.process = .up d phase ∧ d.state.calls.get 1 = some record ∧
      record.status = .denied ∧
      (∃ log, Replays .compact d.ledger.events d.state log) ∧
      ∀ w', Run Sample.sha256 .compact w w' → Known .compact w' 1 record := by
  have h : okAnd (DurableToolRuntime.openFile .compact []) (fun d =>
      (((Sample.requested d).authorize Sample.sha256 Sample.principal Sample.request (.deny "no") (.ok 1) .synced).2.state.calls.get
        1).any (·.status == .denied)) = true := by decide +kernel
  obtain ⟨d, hopen, h⟩ := okAnd_iff.mp h
  obtain ⟨record, hget, hstatus⟩ := (Option.any_eq_true _ _).mp h
  have h1 : Step Sample.sha256 .compact ⟨.down [], []⟩ ⟨.up d .idle, []⟩ := .opens hopen
  have h2 : Step Sample.sha256 .compact ⟨.up d .idle, []⟩ ⟨.up (Sample.requested d) .idle, []⟩ := .request ..
  have h3 := @Step.authorize Sample.sha256 .compact (Sample.requested d) [] Sample.principal Sample.request (.deny "no") (.ok 1)
    .synced
  have hreach : Reach Sample.sha256 .compact ⟨.up _ _, []⟩ := ((Relation.ReflTransGen.single h1).tail h2).tail h3
  have hdenied : record.status = .denied := beq_iff_eq.mp hstatus
  obtain ⟨hlive, hkept⟩ := tool_ledger_replays PayloadReader.compact_readsBack hreach
  obtain ⟨log, hlog, _⟩ := hlive _ _ rfl
  exact ⟨_, _, _, record, hreach, rfl, hget, hdenied, ⟨log, hlog⟩, fun w' hrun => hkept w' hrun 1 record hget (by rw [hdenied]; rfl)⟩

end GreenTyper.Tool
