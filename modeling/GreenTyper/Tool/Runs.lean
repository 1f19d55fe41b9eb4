/-
  GreenTyper.Tool.Runs — the runs of a Tool runtime over its Ledger file: requests,
  approvals, reconciliations, crashes and reopenings, with every call of the executor.

  A process that resolves an approval is `authorized` once the effect is prepared and
  `executed` once the executor has returned, and may crash in either. A write that fails
  leaves any part of its frame in the file; a crash while writing is such a write and then
  a crash. A crash while a new Ledger is made leaves part of its header.

  What carries the proof is `Inv`: a live runtime's Ledger stores its state, the calls
  invoked and the one authorized are different, and all of them are prepared in the file.
  A prepared call never awaits approval again (`prepared_status`), so none is authorized
  twice.
-/

import GreenTyper.Tool.Stored
import Mathlib.Logic.Relation

namespace GreenTyper.Tool

open GreenTyper.Lib ToolState
open GreenTyper.Ledger (FileLedger ReplayReport WriteOutcome ledgerHeader)

/-- Where a process is in `resolve`. -/
inductive Phase where
  | idle
  | authorized (request : ToolApprovalRequest) (call : AuthorizedToolCall)
  | executed (request : ToolApprovalRequest) (execution : ToolExecution)

inductive Process where
  | down (file : List Byte)
  | up (runtime : DurableToolRuntime) (phase : Phase)

namespace Process

def file : Process → List Byte
  | .down file => file
  | .up d _ => d.ledger.file

/-- The call that the executor is to be called for. -/
def authorized : Process → List ToolCallId
  | .up _ (.authorized _ call) => [call.record.call]
  | _ => []

end Process

/-- A process, and the calls that the executor has been called for. -/
structure World where
  process : Process
  invoked : List ToolCallId

def phaseAfter (request : ToolApprovalRequest) :
    Except ToolRuntimeError DurableToolRuntime.Authorization → Phase
  | .ok (.authorized call) => .authorized request call
  | _ => .idle

section Runs

variable (sha256 : List Byte → Digest) (json : PayloadReader)

inductive Step : World → World → Prop
  | opens {file : List Byte} {d : DurableToolRuntime} {invoked : List ToolCallId} :
      DurableToolRuntime.openFile json file = .ok d → Step ⟨.down file, invoked⟩ ⟨.up d .idle, invoked⟩
  | opensStrict {file : List Byte} {d : DurableToolRuntime} {invoked : List ToolCallId} :
      DurableToolRuntime.openExistingStrict json file = .ok d → Step ⟨.down file, invoked⟩ ⟨.up d .idle, invoked⟩
  | crashNew {written : Nat} {invoked : List ToolCallId} :
      Step ⟨.down [], invoked⟩ ⟨.down (ledgerHeader.take written), invoked⟩
  | request {d : DurableToolRuntime} {invoked : List ToolCallId} (principal : ToolPrincipal) (intent : ToolIntent)
      (write : WriteOutcome) :
      Step ⟨.up d .idle, invoked⟩ ⟨.up (d.request sha256 principal intent write).2 .idle, invoked⟩
  | authorize {d : DurableToolRuntime} {invoked : List ToolCallId} (principal : ToolPrincipal) (request : ToolApprovalRequest)
      (decision : ApprovalDecision) (now : Except ToolRuntimeError UInt64) (write : WriteOutcome) :
      Step ⟨.up d .idle, invoked⟩
        ⟨.up (d.authorize sha256 principal request decision now write).2
          (phaseAfter request (d.authorize sha256 principal request decision now write).1), invoked⟩
  | execute {d : DurableToolRuntime} {request : ToolApprovalRequest} {call : AuthorizedToolCall} {invoked : List ToolCallId}
      (execution : ToolExecution) :
      Step ⟨.up d (.authorized request call), invoked⟩ ⟨.up d (.executed request execution), invoked ++ [call.record.call]⟩
  | record {d : DurableToolRuntime} {request : ToolApprovalRequest} {execution : ToolExecution} {invoked : List ToolCallId}
      (write : WriteOutcome) :
      Step ⟨.up d (.executed request execution), invoked⟩
        ⟨.up (d.recordExecution sha256 request execution write).2 .idle, invoked⟩
  | reconcile {d : DurableToolRuntime} {invoked : List ToolCallId} (principal : ToolPrincipal) (call : ToolCallId)
      (decision : ToolReconciliationDecision) (write : WriteOutcome) :
      Step ⟨.up d .idle, invoked⟩ ⟨.up (d.reconcile principal call decision write).2 .idle, invoked⟩
  | crash {d : DurableToolRuntime} {phase : Phase} {invoked : List ToolCallId} :
      Step ⟨.up d phase, invoked⟩ ⟨.down d.ledger.file, invoked⟩

/-- Any sequence of steps. -/
abbrev Run : World → World → Prop := Relation.ReflTransGen (Step sha256 json)

/-- The worlds of a run that begins without a Ledger. -/
abbrev Reach (w : World) : Prop := Run sha256 json ⟨.down [], []⟩ w

end Runs

section Inv

variable {sha256 : List Byte → Digest} {json : PayloadReader}

/-! ## What is on the disk -/

/-- The file, when it opens, stores a log in which the effects of `calls` are prepared;
    and it opens if there are any. -/
structure DiskInv (json : PayloadReader) (file : List Byte) (calls : List ToolCallId) : Prop where
  stored : ∀ {L report}, FileLedger.openFile file = .ok (L, report) →
    ∃ s log, Stored json L s log ∧ ∀ call ∈ calls, Prepared log call
  opens : calls ≠ [] → ∃ L report, FileLedger.openFile file = .ok (L, report)

theorem DiskInv.mono {file : List Byte} {calls calls' : List ToolCallId} (h : DiskInv json file calls)
    (hsub : calls' ⊆ calls) : DiskInv json file calls' where
  stored hopen := by
    obtain ⟨s, log, hstored, hcalls⟩ := h.stored hopen
    exact ⟨s, log, hstored, fun call hc => hcalls call (hsub hc)⟩
  opens hne := h.opens fun hnil => hne (List.subset_nil.mp (hnil ▸ hsub))

/-- The file, when it opens, stores a log of which `P` holds; and it opens unless `P` holds
    of the empty log. -/
structure DiskHolds (json : PayloadReader) (file : List Byte) (P : List ToolEvent → Prop) : Prop where
  stored : ∀ {L report}, FileLedger.openFile file = .ok (L, report) → ∃ s log, Stored json L s log ∧ P log
  opens : ¬ P [] → ∃ L report, FileLedger.openFile file = .ok (L, report)

/-- The effects of `calls` are prepared in the log. -/
def AllPrepared (calls : List ToolCallId) (log : List ToolEvent) : Prop := ∀ call ∈ calls, Prepared log call

theorem AllPrepared.append {calls : List ToolCallId} {log : List ToolEvent} (h : AllPrepared calls log)
    (more : List ToolEvent) : AllPrepared calls (log ++ more) := fun call hc => (h call hc).append more

theorem diskInv_iff {file : List Byte} {calls : List ToolCallId} :
    DiskInv json file calls ↔ DiskHolds json file (AllPrepared calls) := by
  constructor
  · rintro ⟨hstored, hopens⟩
    refine ⟨hstored, fun hnot => hopens ?_⟩
    rintro rfl
    exact hnot (by simp [AllPrepared])
  · rintro ⟨hstored, hopens⟩
    refine ⟨hstored, fun hne => hopens fun hall => ?_⟩
    obtain ⟨call, rest, rfl⟩ := List.exists_cons_of_ne_nil hne
    obtain ⟨argumentsHash, hmem⟩ := hall call List.mem_cons_self
    cases hmem

theorem Stored.opens {L : FileLedger} {s : ToolState} {log : List ToolEvent} (h : Stored json L s log) :
    FileLedger.openFile L.file = .ok (L, ⟨L.head, L.events, 0⟩) := by
  obtain ⟨batches, hb⟩ := h.appended
  exact FileLedger.openFile_file hb

theorem Stored.disk {L : FileLedger} {s : ToolState} {log : List ToolEvent} {calls : List ToolCallId} (h : Stored json L s log)
    (hcalls : ∀ call ∈ calls, Prepared log call) : DiskInv json L.file calls where
  stored hopen := by
    rw [h.opens] at hopen
    cases hopen
    exact ⟨s, log, h, hcalls⟩
  opens _ := ⟨_, _, h.opens⟩

/-- One Ledger stores one state and one log. -/
theorem Stored.unique {L : FileLedger} {s s' : ToolState} {log log' : List ToolEvent} (h : Stored json L s log)
    (h' : Stored json L s' log') : s = s' ∧ log = log' := by
  have hs := h.replays.symm.trans h'.replays
  have hlog := h.decodes.symm.trans h'.decodes
  exact ⟨Except.ok.inj hs, Except.ok.inj hlog⟩

theorem Stored.prepared {L : FileLedger} {s : ToolState} {log : List ToolEvent} {calls : List ToolCallId}
    (h : Stored json L s log) (hdisk : DiskInv json L.file calls) : ∀ call ∈ calls, Prepared log call := by
  obtain ⟨s', log', h', hcalls⟩ := hdisk.stored h.opens
  rwa [(h.unique h').2]

theorem openFile_stored {file : List Byte} {d : DurableToolRuntime} {calls : List ToolCallId} (hdisk : DiskInv json file calls)
    (h : DurableToolRuntime.openFile json file = .ok d) :
    ∃ log, Stored json d.ledger d.state log ∧ ∀ call ∈ calls, Prepared log call := by
  simp only [DurableToolRuntime.openFile, DurableToolRuntime.fromOpenedLedger, bind_ok, mapError_ok] at h
  obtain ⟨⟨L, report⟩, hopen, s, hs, h⟩ := h
  cases h
  obtain ⟨s', log, hstored, hcalls⟩ := hdisk.stored hopen
  rw [(FileLedger.openWithPolicy_report hopen).2.1, hstored.replays] at hs
  cases hs
  exact ⟨log, hstored, hcalls⟩

theorem openFile_of_existing {file : List Byte} {d : DurableToolRuntime}
    (h : DurableToolRuntime.openExistingStrict json file = .ok d) : DurableToolRuntime.openFile json file = .ok d := by
  simp only [DurableToolRuntime.openFile, DurableToolRuntime.openExistingStrict, bind_ok, mapError_ok] at h ⊢
  obtain ⟨opened, hopened, h⟩ := h
  exact ⟨opened, FileLedger.openFile_of_strict hopened, h⟩

/-! ## One operation -/

section Commit

variable {d : DurableToolRuntime} {events : List ToolEvent} {write : WriteOutcome} {calls : List ToolCallId}

theorem commit_runtime {α : Type} (result : DurableToolRuntime → Except ToolRuntimeError α) :
    (d.commit events write result).2 = (d.appendEvents events write).2 := by
  rw [DurableToolRuntime.commit]
  split <;> rename_i h <;> rw [h]

/-- However an append ends, what no further event takes back stays true of the log on the disk. -/
theorem appendEvents_holds (hjson : json.ReadsBack) (hlive : Live json d) {P : List ToolEvent → Prop}
    (hP : ∀ {log} more, P log → P (log ++ more)) (hdisk : DiskHolds json d.ledger.file P)
    (hagent : ∀ event ∈ events, event.AgentStored) :
    Live json (d.appendEvents events write).2 ∧ DiskHolds json (d.appendEvents events write).2.ledger.file P := by
  have hold : ∀ {log}, Stored json d.ledger d.state log → P log := by
    intro log hstored
    obtain ⟨s', log', h', hlog⟩ := hdisk.stored hstored.opens
    rwa [(hstored.unique h').2]
  rcases appendEvents_fate hjson hlive hagent write with ⟨e, h⟩ | ⟨receipt, d', log, h, hdone⟩ | ⟨e, d', log, h, htorn⟩
  · rw [h]
    exact ⟨hlive, hdisk⟩
  · rw [h]
    refine ⟨fun _ => ⟨_, hdone.after⟩, ⟨fun {L report} hopen => ?_, fun _ => ⟨_, _, hdone.after.opens⟩⟩⟩
    rw [hdone.after.opens] at hopen
    cases hopen
    exact ⟨_, _, hdone.after, hP events (hold hdone.before)⟩
  · rw [h]
    have hlog := hold htorn.before
    obtain ⟨L, report, s, log', hopen, hstored, hcases⟩ := htorn.disk
    refine ⟨fun hp => absurd (htorn.poisoned.symm.trans hp) (by decide), ⟨?_, fun _ => ⟨L, report, hopen⟩⟩⟩
    intro L' report' hopen'
    rw [hopen] at hopen'
    cases hopen'
    refine ⟨s, log', hstored, ?_⟩
    rcases hcases with rfl | rfl
    · exact hlog
    · exact hP events hlog

/-- However an append ends, what was prepared stays prepared. -/
theorem appendEvents_disk (hjson : json.ReadsBack) (hlive : Live json d) (hdisk : DiskInv json d.ledger.file calls)
    (hagent : ∀ event ∈ events, event.AgentStored) :
    Live json (d.appendEvents events write).2 ∧ DiskInv json (d.appendEvents events write).2.ledger.file calls := by
  rw [diskInv_iff] at hdisk ⊢
  exact appendEvents_holds hjson hlive (fun more h => h.append more) hdisk hagent

theorem commit_disk {α : Type} {result : DurableToolRuntime → Except ToolRuntimeError α} (hjson : json.ReadsBack)
    (hlive : Live json d) (hdisk : DiskInv json d.ledger.file calls) (hagent : ∀ event ∈ events, event.AgentStored) :
    Live json (d.commit events write result).2 ∧ DiskInv json (d.commit events write result).2.ledger.file calls := by
  rw [commit_runtime]
  exact appendEvents_disk hjson hlive hdisk hagent

theorem commit_done {α : Type} {result : DurableToolRuntime → Except ToolRuntimeError α} {a : α} (hjson : json.ReadsBack)
    (hlive : Live json d) (hagent : ∀ event ∈ events, event.AgentStored) (h : (d.commit events write result).1 = .ok a) :
    ∃ log, Done json d events (d.commit events write result).2 log ∧ result (d.commit events write result).2 = .ok a := by
  rw [DurableToolRuntime.commit] at h ⊢
  rcases appendEvents_fate hjson hlive hagent write with ⟨e, he⟩ | ⟨receipt, d', log, hd, hdone⟩ | ⟨e, d', log, he, _⟩
  · rw [he] at h
    cases h
  · rw [hd] at h ⊢
    exact ⟨log, hdone, h⟩
  · rw [he] at h
    cases h

end Commit

/-- An operation leaves the runtime as it was, or appends one transaction of events that
    may be stored. -/
inductive Commits (d : DurableToolRuntime) : DurableToolRuntime → Prop
  | same : Commits d d
  | append {events : List ToolEvent} {write : WriteOutcome} : (∀ event ∈ events, event.AgentStored) →
      Commits d (d.appendEvents events write).2

theorem Commits.of_commit {d : DurableToolRuntime} {events : List ToolEvent} {write : WriteOutcome} {α : Type}
    {result : DurableToolRuntime → Except ToolRuntimeError α} (hagent : ∀ event ∈ events, event.AgentStored) :
    Commits d (d.commit events write result).2 := by
  rw [commit_runtime]
  exact .append hagent

theorem Commits.disk (hjson : json.ReadsBack) {d d' : DurableToolRuntime} {calls : List ToolCallId} (h : Commits d d')
    (hlive : Live json d) (hdisk : DiskInv json d.ledger.file calls) :
    Live json d' ∧ DiskInv json d'.ledger.file calls := by
  cases h with
  | same => exact ⟨hlive, hdisk⟩
  | append hagent => exact appendEvents_disk hjson hlive hdisk hagent

section Operations

variable {sha256 : List Byte → Digest} (d : DurableToolRuntime)

theorem request_commits (principal : ToolPrincipal) (intent : ToolIntent) (write : WriteOutcome) :
    Commits d (d.request sha256 principal intent write).2 := by
  rw [DurableToolRuntime.request]
  split
  · exact .same
  split
  · exact .same
  split
  · exact .same
  · exact .of_commit (by simpa [ToolEvent.AgentStored] using principal.stored)

theorem recordExecution_commits (request : ToolApprovalRequest) (execution : ToolExecution) (write : WriteOutcome) :
    Commits d (d.recordExecution sha256 request execution write).2 := by
  cases execution with
  | succeeded output =>
    rw [DurableToolRuntime.recordExecution]
    split <;> exact .of_commit (by simp [ToolEvent.AgentStored])
  | failed | ambiguous => exact .of_commit (by simp [ToolEvent.AgentStored])

theorem reconciliationEvent_stored {call : ToolCallId} {decision : ToolReconciliationDecision} {event : ToolEvent}
    (h : DurableToolRuntime.reconciliationEvent call decision = .ok event) : event.AgentStored := by
  cases decision with
  | observedSucceeded =>
    cases h
    trivial
  | observedFailed =>
    obtain ⟨_, _, h⟩ := bind_ok.mp h
    cases h
    trivial

theorem reconcile_commits (principal : ToolPrincipal) (call : ToolCallId) (decision : ToolReconciliationDecision)
    (write : WriteOutcome) : Commits d (d.reconcile principal call decision write).2 := by
  rw [DurableToolRuntime.reconcile]
  split
  · exact .same
  · exact .same
  · rename_i event hevent
    refine .of_commit ?_
    rw [List.forall_mem_singleton]
    simp only [DurableToolRuntime.prepareReconcile, bind_ok] at hevent
    obtain ⟨_, _, _, _, _, _, hevent⟩ := hevent
    split at hevent
    · cases hevent
    · simp only [bind_ok] at hevent
      obtain ⟨_, _, event', he, hevent⟩ := hevent
      cases hevent
      exact reconciliationEvent_stored he

end Operations

/-! ## The invariant -/

/-- `marked` are calls known to be prepared and not about to be invoked. -/
structure Inv (json : PayloadReader) (marked : List ToolCallId) (w : World) : Prop where
  live : ∀ {d phase}, w.process = .up d phase → Live json d
  disk : DiskInv json w.process.file (marked ++ (w.invoked ++ w.process.authorized))
  once : (w.invoked ++ w.process.authorized).Nodup
  apart : ∀ call ∈ marked, call ∉ w.process.authorized

section Step

variable {marked : List ToolCallId} {d : DurableToolRuntime} {invoked : List ToolCallId}

/-- Opening, without repair or with. -/
theorem Inv.opened {file : List Byte} (h : Inv json marked ⟨.down file, invoked⟩)
    (hopen : DurableToolRuntime.openFile json file = .ok d) : Inv json marked ⟨.up d .idle, invoked⟩ := by
  obtain ⟨log, hstored, hcalls⟩ := openFile_stored h.disk hopen
  exact ⟨fun h => by cases h; exact fun _ => ⟨log, hstored⟩, hstored.disk hcalls, h.once, h.apart⟩

/-- An operation that leaves the process idle, or in a phase that calls nothing. -/
theorem Inv.operation {d' : DurableToolRuntime} {phase phase' : Phase} (h : Inv json marked ⟨.up d phase, invoked⟩)
    (hphase : (Process.up d phase).authorized = []) (hphase' : (Process.up d' phase').authorized = [])
    (hd : ∀ calls, Live json d → DiskInv json d.ledger.file calls → Live json d' ∧ DiskInv json d'.ledger.file calls) :
    Inv json marked ⟨.up d' phase', invoked⟩ := by
  obtain ⟨hlive, hdisk⟩ := hd _ (h.live rfl) h.disk
  have honce := h.once
  rw [hphase] at hdisk honce
  refine ⟨fun h => by cases h; exact hlive, ?_, ?_, ?_⟩ <;> rw [hphase']
  · exact hdisk
  · exact honce
  · exact fun _ _ => List.not_mem_nil

theorem validateRequest_ok {principal : ToolPrincipal} {request : ToolApprovalRequest}
    (h : d.validateRequest sha256 principal request = .ok ()) :
    ∃ record, d.state.calls.get request.call = some record ∧ record.status = .awaitingApproval ∧
      recordMatches sha256 record principal.agent request.intent request.argumentsHash := by
  simp only [DurableToolRuntime.validateRequest, DurableToolRuntime.record, bind_ok, require_ok, okOr_ok] at h
  obtain ⟨_, _, _, _, _, _, _, _, record, hget, hstatus, hmatches⟩ := h
  exact ⟨record, hget, hstatus, hmatches⟩

/-- `authorize` is refused, or commits to the answer to a call that awaits approval. -/
theorem authorize_cases (d : DurableToolRuntime) (principal : ToolPrincipal) (request : ToolApprovalRequest)
    (decision : ApprovalDecision) (now : Except ToolRuntimeError UInt64) (write : WriteOutcome) :
    (∃ e, d.authorize sha256 principal request decision now write = (.error e, d)) ∨
      (∃ record, d.state.calls.get request.call = some record ∧ record.status = .awaitingApproval) ∧
        (d.authorize sha256 principal request decision now write =
            d.commit [.approvalDenied request.call approvalDeniedReason] write (DurableToolRuntime.denied request) ∨
          ∃ expires, d.authorize sha256 principal request decision now write =
            d.commit (DurableToolRuntime.grantEvents sha256 principal request expires) write
              (DurableToolRuntime.authorized request)) := by
  cases hvalid : d.validateRequest sha256 principal request with
  | error e => exact Or.inl ⟨e, by simp only [DurableToolRuntime.authorize, hvalid]⟩
  | ok =>
    obtain ⟨record, hget, hstatus, _⟩ := validateRequest_ok hvalid
    cases decision with
    | deny reason =>
      cases hreason : validateBoundedText reason maxReasonBytes "denial reason" with
      | error e => exact Or.inl ⟨e, by simp only [DurableToolRuntime.authorize, hvalid, hreason]⟩
      | ok =>
        refine Or.inr ⟨⟨record, hget, hstatus⟩, Or.inl ?_⟩
        simp only [DurableToolRuntime.authorize, hvalid, hreason]
    | grant expires =>
      cases hexpiry : DurableToolRuntime.checkExpiry expires now with
      | error e => exact Or.inl ⟨e, by simp only [DurableToolRuntime.authorize, hvalid, hexpiry]⟩
      | ok =>
        refine Or.inr ⟨⟨record, hget, hstatus⟩, Or.inr ⟨expires, ?_⟩⟩
        simp only [DurableToolRuntime.authorize, hvalid, hexpiry]

theorem authorize_commits (d : DurableToolRuntime) (principal : ToolPrincipal) (request : ToolApprovalRequest)
    (decision : ApprovalDecision) (now : Except ToolRuntimeError UInt64) (write : WriteOutcome) :
    Commits d (d.authorize sha256 principal request decision now write).2 := by
  rcases @authorize_cases sha256 d principal request decision now write with ⟨e, h⟩ | ⟨_, h | ⟨expires, h⟩⟩ <;> rw [h]
  · exact .same
  · exact .of_commit (by simp [ToolEvent.AgentStored])
  · exact .of_commit (by simp [DurableToolRuntime.grantEvents, ToolEvent.AgentStored])

/-- Whatever `authorize` does, what was prepared stays prepared; and a call that it
    authorizes is prepared, and was not before. -/
theorem authorize_disk (hjson : json.ReadsBack) (principal : ToolPrincipal) (request : ToolApprovalRequest)
    (decision : ApprovalDecision) (now : Except ToolRuntimeError UInt64) (write : WriteOutcome) {calls : List ToolCallId}
    (hlive : Live json d) (hdisk : DiskInv json d.ledger.file calls) :
    let r := d.authorize sha256 principal request decision now write
    Live json r.2 ∧ DiskInv json r.2.ledger.file calls ∧
      ∀ call, r.1 = .ok (.authorized call) →
        DiskInv json r.2.ledger.file (call.record.call :: calls) ∧ call.record.call ∉ calls := by
  intro r
  rcases @authorize_cases sha256 d principal request decision now write with
    ⟨e, h⟩ | ⟨⟨record, hget, hstatus⟩, h | ⟨expires, h⟩⟩
  · rw [show r = _ from h]
    exact ⟨hlive, hdisk, fun _ h => nomatch h⟩
  · rw [show r = _ from h]
    have hagent : ∀ event ∈ [ToolEvent.approvalDenied request.call approvalDeniedReason], event.AgentStored := by
      simp [ToolEvent.AgentStored]
    obtain ⟨hlive', hdisk'⟩ := commit_disk hjson hlive hdisk hagent
    refine ⟨hlive', hdisk', fun call hcall => ?_⟩
    obtain ⟨_, _, hresult⟩ := commit_done hjson hlive hagent hcall
    obtain ⟨_, _, hresult⟩ := bind_ok.mp hresult
    cases hresult
  · rw [show r = _ from h]
    have hagent : ∀ event ∈ DurableToolRuntime.grantEvents sha256 principal request expires, event.AgentStored := by
      simp [DurableToolRuntime.grantEvents, ToolEvent.AgentStored]
    obtain ⟨hlive', hdisk'⟩ := commit_disk hjson hlive hdisk hagent
    refine ⟨hlive', hdisk', fun call hcall => ?_⟩
    obtain ⟨log, hdone, hresult⟩ := commit_done hjson hlive hagent hcall
    simp only [DurableToolRuntime.authorized, DurableToolRuntime.record, bind_ok, okOr_ok] at hresult
    obtain ⟨after, hafter, hresult⟩ := hresult
    cases hresult
    have hold := hdone.before.prepared hdisk
    -- A call that awaits approval is not prepared.
    have hnot : ¬ Prepared log request.call := by
      intro hprep
      obtain ⟨r0, hr0, hne, _⟩ := prepared_status hdone.before.builds _ hprep
      rw [hget] at hr0
      cases hr0
      exact hne hstatus
    rw [show after.call = request.call from (hdone.after.inv.call hafter).2.2]
    refine ⟨hdone.after.disk (List.forall_mem_cons.mpr ⟨⟨request.argumentsHash, ?_⟩, ?_⟩), fun hmem => hnot (hold _ hmem)⟩
    · exact List.mem_append_right _ (by simp [DurableToolRuntime.grantEvents])
    · exact fun call hc => (hold call hc).append _

theorem Step.inv (hjson : json.ReadsBack) {w w' : World} (h : Inv json marked w) (hstep : Step sha256 json w w') :
    Inv json marked w' := by
  cases hstep with
  | opens hopen => exact h.opened hopen
  | opensStrict hopen => exact h.opened (openFile_of_existing hopen)
  | @crashNew written invoked =>
    have hstored : Stored json .fresh .default [] := stored_fresh
    have hcalls : marked ++ (invoked ++ []) = [] := by
      obtain ⟨s, log, h', hcalls⟩ := h.disk.stored FileLedger.openFile_nil
      obtain ⟨rfl, rfl⟩ := hstored.unique h'
      refine List.eq_nil_iff_forall_not_mem.mpr fun call hc => ?_
      obtain ⟨_, hmem⟩ := hcalls call hc
      exact nomatch hmem
    refine ⟨(nomatch ·), ?_, h.once, h.apart⟩
    show DiskInv json _ (marked ++ (invoked ++ []))
    rw [hcalls]
    refine ⟨fun {L report} hopen => ?_, fun hne => absurd rfl hne⟩
    obtain rfl : L = .fresh := FileLedger.openFile_headerPart hopen
    exact ⟨_, [], hstored, by simp⟩
  | @request d invoked principal intent write => exact h.operation rfl rfl fun _ => (request_commits d principal intent write).disk hjson
  | @authorize d invoked principal request decision now write =>
    obtain ⟨hlive, hdisk, hauth⟩ := @authorize_disk sha256 json d hjson principal request decision now write _
      (h.live rfl) h.disk
    generalize hr : d.authorize sha256 principal request decision now write = r at *
    rcases r with ⟨result, d'⟩
    have hidle : (phaseAfter request result = .idle) → Inv json marked ⟨.up d' (phaseAfter request result), invoked⟩ := by
      intro hphase
      rw [hphase]
      exact ⟨fun h => by cases h; exact hlive, hdisk, h.once, h.apart⟩
    rcases result with e | outcome | call
    · exact hidle rfl
    · exact hidle rfl
    · obtain ⟨hdisk', hnot⟩ := hauth call rfl
      have hmem : call.record.call ∉ marked ∧ call.record.call ∉ invoked := by
        simpa [Process.authorized] using hnot
      have honce := h.once
      rw [show (Process.up d Phase.idle).authorized = [] from rfl, List.append_nil] at honce
      refine ⟨fun h => by cases h; exact hlive, hdisk'.mono ?_,
        List.nodup_append.mpr ⟨honce, by simp [Process.authorized, phaseAfter], ?_⟩, ?_⟩
      · intro c hc
        simp only [Process.authorized, phaseAfter, List.mem_append, List.mem_cons, List.not_mem_nil, or_false] at hc ⊢
        tauto
      · intro a ha b hb
        rw [List.mem_singleton.mp hb]
        rintro rfl
        exact hmem.2 ha
      · intro c hc hb
        rw [List.mem_singleton.mp hb] at hc
        exact hmem.1 hc
  | @execute d request call invoked execution =>
    have hsame : invoked ++ [call.record.call] ++ (Process.up d (.executed request execution)).authorized =
        invoked ++ (Process.up d (.authorized request call)).authorized := List.append_nil _
    refine ⟨fun h' => by cases h'; exact h.live rfl, ?_, ?_, fun _ _ => List.not_mem_nil⟩
    · rw [hsame]
      exact h.disk
    · rw [hsame]
      exact h.once
  | @record d request execution invoked write => exact h.operation rfl rfl fun _ => (recordExecution_commits d request execution write).disk hjson
  | @reconcile d invoked principal call decision write => exact h.operation rfl rfl fun _ => (reconcile_commits d principal call decision write).disk hjson
  | crash =>
    refine ⟨(nomatch ·), h.disk.mono ?_, h.once.sublist ?_, fun _ _ => List.not_mem_nil⟩
    · intro c hc
      simp only [Process.authorized, List.append_nil, List.mem_append] at hc ⊢
      tauto
    · exact List.Sublist.append_left (List.nil_sublist _) _

theorem Step.count {w w' : World} (h : Inv json marked w) (hstep : Step sha256 json w w') {call : ToolCallId}
    (hcall : call ∈ marked) : w'.invoked.count call = w.invoked.count call := by
  cases hstep with
  | @execute d request authorized invoked execution =>
    have hne : authorized.record.call ≠ call := fun heq => h.apart call hcall (heq ▸ List.mem_cons_self)
    rw [List.count_append, List.count_singleton, if_neg (by simpa using hne), Nat.add_zero]
  | _ => rfl

theorem Run.inv (hjson : json.ReadsBack) {w w' : World} (h : Inv json marked w) (hrun : Run sha256 json w w') :
    Inv json marked w' ∧ ∀ call ∈ marked, w'.invoked.count call = w.invoked.count call := by
  induction hrun with
  | refl => exact ⟨h, fun _ _ => rfl⟩
  | tail _ hstep ih => exact ⟨hstep.inv hjson ih.1, fun call hc => (hstep.count ih.1 hc).trans (ih.2 call hc)⟩

end Step

theorem start_inv : Inv json [] ⟨.down [], []⟩ where
  live h := nomatch h
  disk := by
    refine ⟨fun {L report} hopen => ?_, fun hne => absurd rfl hne⟩
    rw [show Process.file (.down []) = [] from rfl, FileLedger.openFile_nil] at hopen
    cases hopen
    exact ⟨_, [], stored_fresh, fun _ h => nomatch h⟩
  once := List.nodup_nil
  apart _ h := nomatch h

theorem Reach.inv (hjson : json.ReadsBack) {w : World} (h : Reach sha256 json w) : Inv json [] w :=
  (Run.inv hjson start_inv h).1

/-! ## Effects run at most once -/

/-- The file opens, and its events are `log`. -/
def DurableLog (json : PayloadReader) (file : List Byte) (log : List ToolEvent) : Prop :=
  ∃ L report, FileLedger.openFile file = .ok (L, report) ∧ report.events.mapM (decodeEvent json) = .ok log

theorem DurableLog.stored {file : List Byte} {log : List ToolEvent} {calls : List ToolCallId} (h : DurableLog json file log)
    (hdisk : DiskInv json file calls) :
    ∃ L report s, FileLedger.openFile file = .ok (L, report) ∧ Stored json L s log ∧ ∀ call ∈ calls, Prepared log call := by
  obtain ⟨L, report, hopen, hlog⟩ := h
  obtain ⟨s, log', hstored, hcalls⟩ := hdisk.stored hopen
  rw [(FileLedger.openWithPolicy_report hopen).2.1, hstored.decodes] at hlog
  cases hlog
  exact ⟨L, report, s, hopen, hstored, hcalls⟩

/-- In every world of a run: no call was invoked twice; the executor is called only for a
    call whose effect is prepared in the file; and where the file has an effect without an
    outcome, a reopened runtime wants the call reconciled, and unless it is being resolved
    right now the executor is never called for it from then on. -/
theorem effects_at_most_once (hjson : json.ReadsBack) {w : World} (h : Reach sha256 json w) :
    w.invoked.Nodup ∧
      (∀ w', Step sha256 json w w' → w'.invoked = w.invoked ∨
        ∃ call log, w'.invoked = w.invoked ++ [call] ∧ DurableLog json w.process.file log ∧ Prepared log call) ∧
      ∀ log call, DurableLog json w.process.file log → Prepared log call → ¬ HasOutcome log call →
        (∃ d, DurableToolRuntime.openFile json w.process.file = .ok d) ∧
          (∀ d, DurableToolRuntime.openFile json w.process.file = .ok d ∨
              DurableToolRuntime.openExistingStrict json w.process.file = .ok d →
            ∃ record, d.state.calls.get call = some record ∧ record.status = .reconciliationRequired) ∧
          (call ∉ w.process.authorized → ∀ w', Run sha256 json w w' → w'.invoked.count call = w.invoked.count call) := by
  have hinv := h.inv hjson
  refine ⟨(List.nodup_append.mp hinv.once).1, ?_, ?_⟩
  · intro w' hstep
    cases hstep with
    | @execute d request call invoked execution =>
      obtain ⟨L, report, hopen⟩ := hinv.disk.opens (by simp [Process.authorized])
      obtain ⟨s, log, hstored, hcalls⟩ := hinv.disk.stored hopen
      refine Or.inr ⟨call.record.call, log, rfl, ⟨L, report, hopen, ?_⟩, hcalls _ (by simp [Process.authorized])⟩
      rw [(FileLedger.openWithPolicy_report hopen).2.1]
      exact hstored.decodes
    | _ => exact Or.inl rfl
  · intro log call hlog hprepared hopenEffect
    obtain ⟨L, report, s, hopen, hstored, hcalls⟩ := hlog.stored hinv.disk
    have hreplay : replayState json report.events = .ok s := by
      rw [(FileLedger.openWithPolicy_report hopen).2.1]
      exact hstored.replays
    have hreopen : DurableToolRuntime.openFile json w.process.file = .ok ⟨L, s, report.truncatedTailBytes⟩ := by
      simp only [DurableToolRuntime.openFile, DurableToolRuntime.fromOpenedLedger, bind_ok, mapError_ok]
      exact ⟨_, hopen, s, hreplay, rfl⟩
    obtain ⟨record, hget, _, _, hstatus⟩ := prepared_status hstored.builds call hprepared
    refine ⟨⟨_, hreopen⟩, fun d hd => ?_, fun hidle w' hrun => ?_⟩
    · have hd' : DurableToolRuntime.openFile json w.process.file = .ok d := hd.elim id openFile_of_existing
      rw [hreopen] at hd'
      cases hd'
      exact ⟨record, hget, hstatus hopenEffect⟩
    · have hmarked : Inv json [call] w := by
        refine ⟨hinv.live, ⟨fun {L' report'} hopen' => ?_, fun _ => ⟨L, report, hopen⟩⟩, hinv.once, ?_⟩
        · rw [hopen] at hopen'
          cases hopen'
          exact ⟨s, log, hstored, List.forall_mem_cons.mpr ⟨hprepared, hcalls⟩⟩
        · rw [List.forall_mem_singleton]
          exact hidle
      exact (Run.inv hjson hmarked hrun).2 call List.mem_cons_self

end Inv

/-! ### A crash after the effect -/

namespace Sample

/-- SHA-256 at the two texts hashed here. -/
def sha256 (text : List Byte) : Digest :=
  if text = utf8 "\x7b\x7d" then
    ⟨[0x44, 0x13, 0x6f, 0xa3, 0x55, 0xb3, 0x67, 0x8a, 0x11, 0x46, 0xad, 0x16, 0xf7, 0xe8, 0x64, 0x9e, 0x94, 0xfb, 0x4f, 0xc2,
    0x1f, 0xe7, 0x7e, 0x83, 0x10, 0xc0, 0x60, 0xf6, 0x1c, 0xaa, 0xff, 0x8a], rfl⟩
  else
    ⟨[0x64, 0x99, 0xb9, 0x9f, 0x03, 0xca, 0xee, 0x5b, 0x1f, 0x23, 0xf2, 0xbb, 0x62, 0x73, 0xa3, 0x45, 0xa9, 0xb3, 0xb6, 0x02,
    0x50, 0x8c, 0x26, 0x7d, 0xde, 0x2f, 0x65, 0x4c, 0xad, 0x8d, 0x2f, 0x2f], rfl⟩

def intent : ToolIntent := ⟨"call-1", "write_file", ⟨"\x7b\x7d"⟩, ⟨∅, ∅, none, ∅⟩⟩

def principal : ToolPrincipal := ⟨⟨1, 7⟩, 1, {.tool "write_file"}, ⟨by decide, by decide⟩⟩

def request : ToolApprovalRequest := ⟨1, ⟨1, 7⟩, intent, intent.arguments.hash sha256⟩

def requested (d : DurableToolRuntime) : DurableToolRuntime := (d.request sha256 principal intent .synced).2

def granted (d : DurableToolRuntime) : Except ToolRuntimeError DurableToolRuntime.Authorization × DurableToolRuntime :=
  (requested d).authorize sha256 principal request (.grant 2) (.ok 1) .synced

/-- The file has the effect of the granted call prepared, and no outcome. -/
def prepared (d : DurableToolRuntime) : Bool :=
  match granted d with
  | (.ok (.authorized call), d) => decide (call.record.call = 1) &&
    okAnd (FileLedger.openFile d.ledger.file) fun opened =>
      okAnd (opened.2.events.mapM (decodeEvent .compact)) fun log =>
        decide (.effectPrepared 1 request.argumentsHash ∈ log) && log.all fun event => event.isOutcome == false
  | _ => false

end Sample

/-- The process crashed after the effect of its only call, before its outcome. -/
theorem effects_at_most_once_crashed :
    ∃ w log, Reach Sample.sha256 .compact w ∧ w.invoked = [1] ∧ DurableLog .compact w.process.file log ∧ Prepared log 1 ∧
      (∀ d, DurableToolRuntime.openFile .compact w.process.file = .ok d ∨
          DurableToolRuntime.openExistingStrict .compact w.process.file = .ok d →
        ∃ record, d.state.calls.get 1 = some record ∧ record.status = .reconciliationRequired) ∧
      ∀ w', Run Sample.sha256 .compact w w' → w'.invoked.count 1 = w.invoked.count 1 := by
  have h : okAnd (DurableToolRuntime.openFile .compact []) Sample.prepared = true := by decide +kernel
  obtain ⟨d, hopen, h⟩ := okAnd_iff.mp h
  unfold Sample.prepared at h
  split at h
  · rename_i call d' hgranted
    obtain ⟨hcall, h⟩ := Bool.and_eq_true_iff.mp h
    obtain ⟨⟨L, report⟩, hdisk, h⟩ := okAnd_iff.mp h
    obtain ⟨log, hlog, h⟩ := okAnd_iff.mp h
    obtain ⟨hprepared, hnone⟩ := Bool.and_eq_true_iff.mp h
    have hdurable : DurableLog .compact d'.ledger.file log := ⟨L, report, hdisk, hlog⟩
    have hprep : Prepared log 1 := ⟨_, of_decide_eq_true hprepared⟩
    have hno : ¬ HasOutcome log 1 := by
      rintro ⟨event, hmem, _, houtcome⟩
      rw [beq_iff_eq.mp (List.all_eq_true.mp hnone event hmem)] at houtcome
      cases houtcome
    have hreach : Reach Sample.sha256 .compact ⟨.down d'.ledger.file, [1]⟩ := by
      have h1 : Step Sample.sha256 .compact ⟨.down [], []⟩ ⟨.up d .idle, []⟩ := .opens hopen
      have h2 : Step Sample.sha256 .compact ⟨.up d .idle, []⟩ ⟨.up (Sample.requested d) .idle, []⟩ := .request ..
      have h3 := @Step.authorize Sample.sha256 .compact (Sample.requested d) [] Sample.principal Sample.request (.grant 2) (.ok 1)
        .synced
      rw [show DurableToolRuntime.authorize .. = _ from hgranted] at h3
      have h4 := @Step.execute Sample.sha256 .compact d' Sample.request call [] (.succeeded [])
      rw [of_decide_eq_true hcall] at h4
      exact ((((Relation.ReflTransGen.single h1).tail h2).tail h3).tail h4).tail .crash
    obtain ⟨_, _, hfinal⟩ := effects_at_most_once PayloadReader.compact_readsBack hreach
    obtain ⟨_, hreopened, hnever⟩ := hfinal log 1 hdurable hprep hno
    exact ⟨_, log, hreach, rfl, hdurable, hprep, hreopened, hnever List.not_mem_nil⟩
  · cases h

end GreenTyper.Tool
