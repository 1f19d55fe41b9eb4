/-
  GreenTyper.Team.EventLog — what the event log of a Runtime holds (see
  `GreenTyper.Team.Runs`).

  An event that applies is in the codec's bounds, since the state checks its texts and
  has its identifiers (`apply_storable`), so every logged event decodes to itself
  (`logged_codable`). The log is the transactions one after another, each framed as it
  was prepared (`Framed`), so every operation marker in it has its record
  (`operationRecord_committed`).
-/

import GreenTyper.Team.CodecExact
import GreenTyper.Team.Durable
import GreenTyper.Team.Runs
import Mathlib.Algebra.Order.BigOperators.Group.List

namespace GreenTyper.Team

open GreenTyper.Lib TeamState
open GreenTyper.Ledger (LedgerHead)
open TeamRuntime (number)

/-! ## Fields in bounds -/

theorem validateStoredIdentifier_valid {v : Nat} {kind : String} (h : validateStoredIdentifier v kind = .ok ()) : ValidId v :=
  (require_ok (c := v ≠ 0 ∧ v < maxIdentifier)).mp h

theorem foldlM_checkedAdd_sum {α : Type} (g : α → Nat) (l : List α) :
    ∀ {total sum : Nat}, l.foldlM (fun total x => checkedAdd 64 total (g x)) total = some sum → sum = total + (l.map g).sum := by
  induction l with
  | nil =>
    intro total sum h
    cases h
    rfl
  | cons x l ih =>
    intro total sum h
    simp only [List.foldlM_cons, Option.bind_eq_bind, Option.bind_eq_some_iff, checkedAdd_some] at h
    obtain ⟨_, ⟨_, rfl⟩, h⟩ := h
    rw [ih h, List.map_cons, List.sum_cons, Nat.add_assoc]

theorem approximateBytes_eq {capsule : CompletionCapsule} {n : Nat} (h : capsule.approximateBytes = some n) :
    n = byteLen capsule.outcome + (capsule.lists.map (fun values => (values.map byteLen).sum)).sum := by
  have hfold : ∀ (l : List (List String)) {total sum : Nat},
      l.foldlM (fun total values => values.foldlM (fun total value => checkedAdd 64 total (byteLen value)) total) total = some sum →
        sum = total + (l.map (fun values => (values.map byteLen).sum)).sum := by
    intro l
    induction l with
    | nil =>
      intro total sum h
      cases h
      rfl
    | cons values l ih =>
      intro total sum h
      simp only [List.foldlM_cons, Option.bind_eq_bind, Option.bind_eq_some_iff] at h
      obtain ⟨t, ht, h⟩ := h
      rw [ih h, foldlM_checkedAdd_sum byteLen values ht, List.map_cons, List.sum_cons, Nat.add_assoc]
  exact hfold capsule.lists h

theorem le_sum_map {α : Type} (g : α → Nat) {l : List α} {x : α} (hx : x ∈ l) : g x ≤ (l.map g).sum :=
  List.le_sum_of_mem (List.mem_map_of_mem hx)

theorem validateCapsule_codable {capsule : CompletionCapsule} (h : validateCapsule capsule = .ok ()) : CodableCapsule capsule := by
  simp only [validateCapsule, bind_ok, require_ok, exists_const, Option.any_eq_true, decide_eq_true_eq] at h
  obtain ⟨_, ⟨bytes, hbytes, hmax⟩, entries, hentries, hcount⟩ := h
  have hb := approximateBytes_eq hbytes
  have he := foldlM_checkedAdd_sum List.length capsule.lists hentries
  refine ⟨by omega, by omega, fun values hvalues v hv => ?_⟩
  have hvsum := le_sum_map byteLen hv
  have hsum := le_sum_map (fun values : List String => (values.map byteLen).sum) hvalues
  omega

theorem validateCapabilities_codable {snapshot : CapabilitySnapshot} (h : validateCapabilities snapshot = .ok ()) :
    CodableCapabilities snapshot := by
  simp only [validateCapabilities, bind_ok, require_ok, exists_const] at h
  obtain ⟨hcard, _, hname⟩ := h
  exact ⟨hcard, fun name hmem => by simpa [Capability.named] using hname _ hmem⟩

/-! ## Applied events -/

namespace TeamState

/-- The state's identifiers may be stored. -/
structure Storable (s : TeamState) : Prop where
  task : ∀ k t, s.tasks.get k = some t → ValidId k
  agent : ∀ k a, s.agents.get k = some a → ValidId k
  blocker : ∀ k t b, s.tasks.get k = some t → t.status = .blocked b → ValidId b

variable {s s' : TeamState} {m : Nat}

theorem storable_default : Storable .default := ⟨nofun, nofun, nofun⟩

theorem Storable.setTask (h : Storable s) {k : TaskId} {t : TaskRecord} (hk : ValidId k)
    (hb : ∀ b, t.status = .blocked b → ValidId b) : Storable (s.setTask k t) := by
  refine ⟨fun k' t' ht => ?_, h.agent, fun k' t' b ht hst => ?_⟩
  · rcases OrdMap.mem_keys_insert.mp (OrdMap.mem_keys.mpr ⟨t', ht⟩) with rfl | hmem
    · exact hk
    · obtain ⟨t'', ht''⟩ := OrdMap.mem_keys.mp hmem
      exact h.task k' t'' ht''
  · have ht' : (s.tasks.insert k t).get k' = some t' := ht
    rw [OrdMap.get_insert] at ht'
    split at ht'
    · cases ht'
      exact hb b hst
    · exact h.blocker k' t' b ht' hst

theorem Storable.setAgent (h : Storable s) {k : AgentId} (hk : ValidId k) (a : AgentRecord) : Storable (s.setAgent k a) := by
  refine ⟨h.task, fun k' a' ha => ?_, h.blocker⟩
  rcases OrdMap.mem_keys_insert.mp (OrdMap.mem_keys.mpr ⟨a', ha⟩) with rfl | hmem
  · exact hk
  · obtain ⟨a'', ha''⟩ := OrdMap.mem_keys.mp hmem
    exact h.agent k' a'' ha''

theorem applyTaskCreated_storable (hs : Storable s) {k : TaskId} {spec : TaskSpec} (h : s.applyTaskCreated k spec = .ok s') :
    Codable (.taskCreated k spec) ∧ Storable s' := by
  simp only [applyTaskCreated, validateStoredTaskSpec, validateScope, bind_ok, require_ok, exists_const, pure,
    Except.pure, Except.ok.injEq] at h
  obtain ⟨_, hk, _, _, _, _, _, ⟨_, htitle, ⟨hcard, _, hlabel⟩, hdeps, _⟩, _, hknown, rfl⟩ := h
  refine ⟨⟨validateStoredIdentifier_valid hk, htitle, hcard, hlabel, hdeps, fun d hd => ?_⟩,
    hs.setTask (validateStoredIdentifier_valid hk) (by simp)⟩
  obtain ⟨t, ht⟩ := OrdMap.contains_iff.mp (require_ok.mp (forM_ok.mp hknown d hd))
  exact hs.task d t ht

theorem applyAgentCreated_storable (hs : Storable s) {k : AgentId} {t : TaskId} {parent : Option AgentId}
    {budget : ResourceBudget} {capabilities : CapabilitySnapshot} {preset : Option InheritedModelPreset}
    (h : s.applyAgentCreated k t parent budget capabilities preset = .ok s') :
    Codable (.agentCreated k t parent budget capabilities preset) ∧ Storable s' := by
  simp only [applyAgentCreated, bind_ok, require_ok, exists_const, pure, Except.pure, Except.ok.injEq] at h
  obtain ⟨_, hk, _, _, _, _, record, hrecord, _, _, _, _, hcaps, _, hpreset, root, hroot, rfl⟩ := h
  have hparent : ∀ p, parent = some p → ValidId p := by
    rintro p rfl
    simp only [admitAgent, checkParent, bind_ok] at hroot
    obtain ⟨_, ⟨pa, hpa, _⟩, _⟩ := hroot
    exact hs.agent p pa (agent_get hpa)
  refine ⟨⟨validateStoredIdentifier_valid hk, hs.task t record (task_get hrecord), hparent, validateCapabilities_codable hcaps,
    hpreset⟩, ?_⟩
  have := hs.setAgent (validateStoredIdentifier_valid hk) ⟨k, parent, t, .dormant, budget, .default, capabilities, preset⟩
  exact ⟨this.task, this.agent, this.blocker⟩

/-- An event that applies is in the codec's bounds. -/
theorem apply_storable (hs : Storable s) {e : TeamEventKind} (h : s.apply e m = .ok s') : Codable e ∧ Storable s' := by
  cases e with
  | taskCreated k spec => exact applyTaskCreated_storable hs h
  | agentCreated k t parent budget capabilities preset => exact applyAgentCreated_storable hs h
  | taskOwnerAssigned t k =>
    simp only [apply, applyTaskOwnerAssigned, agent, task, bind_ok, okOr_ok, require_ok, exists_const, pure, Except.pure,
      Except.ok.injEq] at h
    obtain ⟨a, ha, _, record, ht, _, rfl⟩ := h
    exact ⟨⟨hs.task t record ht, hs.agent k a ha⟩, hs.setTask (hs.task t record ht) fun b => hs.blocker t record b ht⟩
  | delegationGranted p c =>
    simp only [apply, applyDelegationGranted, agent, bind_ok, okOr_ok, require_ok, exists_const, pure, Except.pure,
      Except.ok.injEq] at h
    obtain ⟨ca, hc, _, pa, hp, _, _, _, _, rfl⟩ := h
    exact ⟨⟨hs.agent p pa hp, hs.agent c ca hc⟩, hs.setAgent (hs.agent p pa hp) _⟩
  | taskReady t =>
    simp only [apply, applyTaskReady, task, bind_ok, okOr_ok, require_ok, exists_const, pure, Except.pure, Except.ok.injEq] at h
    obtain ⟨_, _, record, ht, _, rfl⟩ := h
    exact ⟨hs.task t record ht, hs.setTask (hs.task t record ht) (by simp)⟩
  | taskBlocked t b =>
    simp only [apply, applyTaskBlocked, task, bind_ok, okOr_ok, require_ok, exists_const, pure, Except.pure, Except.ok.injEq] at h
    obtain ⟨blocker, hb, _, record, ht, _, rfl⟩ := h
    refine ⟨⟨hs.task t record ht, hs.task b blocker hb⟩, hs.setTask (hs.task t record ht) fun b' hst => ?_⟩
    cases hst
    exact hs.task b blocker hb
  | taskStarted t =>
    simp only [apply, applyTaskStarted, task, bind_ok, okOr_ok, require_ok, exists_const, pure, Except.pure, Except.ok.injEq] at h
    obtain ⟨record, ht, _, _, _, _, _, _, rfl⟩ := h
    exact ⟨hs.task t record ht, hs.setTask (hs.task t record ht) (by simp)⟩
  | taskSucceeded t | taskRetryRequested t =>
    simp only [apply, applyTaskSucceeded, applyTaskRetryRequested, task, bind_ok, okOr_ok, require_ok, exists_const, pure,
      Except.pure, Except.ok.injEq] at h
    obtain ⟨record, ht, _, rfl⟩ := h
    exact ⟨hs.task t record ht, hs.setTask (hs.task t record ht) (by simp)⟩
  | taskFailed t reason | taskCancelled t reason =>
    simp only [apply, applyTaskFailed, applyTaskCancelled, validateReason, task, bind_ok, okOr_ok, require_ok, exists_const,
      pure, Except.pure, Except.ok.injEq] at h
    obtain ⟨⟨_, hreason⟩, record, ht, _, rfl⟩ := h
    exact ⟨⟨hs.task t record ht, hreason⟩, hs.setTask (hs.task t record ht) (by simp)⟩
  | completionCapsuleSubmitted t k capsule =>
    simp only [apply, applyCompletionCapsuleSubmitted, agent, task, bind_ok, okOr_ok, require_ok, exists_const, pure,
      Except.pure, Except.ok.injEq] at h
    obtain ⟨_, hcapsule, record, ht, ⟨hrun, _⟩, a, ha, _, rfl⟩ := h
    exact ⟨⟨hs.task t record ht, hs.agent k a ha, validateCapsule_codable hcapsule⟩,
      hs.setTask (hs.task t record ht) fun b hst => absurd (hrun.symm.trans hst) (by simp)⟩
  | agentActivated k =>
    simp only [apply, applyAgentActivated, agent, bind_ok, okOr_ok, require_ok, exists_const, pure, Except.pure,
      Except.ok.injEq] at h
    obtain ⟨_, a, ha, _, _, _, _, rfl⟩ := h
    exact ⟨hs.agent k a ha, hs.setAgent (hs.agent k a ha) _⟩
  | agentSucceeded k | agentFailed k | agentCancelled k =>
    simp only [apply, applyAgentSucceeded, applyAgentFailed, applyAgentCancelled, agent, bind_ok, okOr_ok, require_ok,
      exists_const, pure, Except.pure, Except.ok.injEq] at h
    obtain ⟨a, ha, _, _, _, _, rfl⟩ := h
    exact ⟨hs.agent k a ha, hs.setAgent (hs.agent k a ha) _⟩
  | agentBlocked k b =>
    simp only [apply, applyAgentBlocked, agent, task, bind_ok, okOr_ok, require_ok, exists_const, pure, Except.pure,
      Except.ok.injEq] at h
    obtain ⟨a, ha, _, record, ht, hst, rfl⟩ := h
    exact ⟨⟨hs.agent k a ha, hs.blocker a.task record b ht hst⟩, hs.setAgent (hs.agent k a ha) _⟩
  | agentRetryRequested q k =>
    simp only [apply, applyAgentRetryRequested, agent, bind_ok, okOr_ok, require_ok, exists_const, pure, Except.pure,
      Except.ok.injEq] at h
    obtain ⟨qa, hq, _, a, ha, _, rfl⟩ := h
    exact ⟨⟨hs.agent q qa hq, hs.agent k a ha⟩, hs.setAgent (hs.agent k a ha) _⟩
  | messageSent id sender recipient body =>
    simp only [apply, applyMessageSent, agent, bind_ok, okOr_ok, require_ok, exists_const, pure, Except.pure,
      Except.ok.injEq] at h
    obtain ⟨_, hid, _, _, _, sa, hsa, _, hbody, _, _, hrec, rfl⟩ := h
    refine ⟨⟨validateStoredIdentifier_valid hid, hs.agent sender sa hsa, ?_, hbody.2⟩, ⟨hs.task, hs.agent, hs.blocker⟩⟩
    rintro k rfl
    simp only [checkRecipient, agent, bind_ok, okOr_ok] at hrec
    obtain ⟨ta, hta, _⟩ := hrec
    exact hs.agent k ta hta
  | operationCommitted o tx =>
    simp only [apply, applyOperationCommitted, bind_ok, pure, Except.pure, Except.ok.injEq] at h
    obtain ⟨_, ho, _, htx, _, _, _, _, _, _, rfl⟩ := h
    exact ⟨⟨validateStoredIdentifier_valid ho, validateStoredIdentifier_valid htx⟩, ⟨hs.task, hs.agent, hs.blocker⟩⟩
  | operationAcknowledged o tx tx' =>
    simp only [apply, applyOperationAcknowledged, bind_ok, pure, Except.pure, Except.ok.injEq] at h
    obtain ⟨_, ho, _, htx, _, htx', _, _, _, _, _, _, rfl⟩ := h
    exact ⟨⟨validateStoredIdentifier_valid ho, validateStoredIdentifier_valid htx, validateStoredIdentifier_valid htx'⟩,
      ⟨hs.task, hs.agent, hs.blocker⟩⟩

theorem applyAll_storable (events : List TeamEventKind) :
    ∀ {s s' : TeamState}, Storable s → s.applyAll m events = .ok s' → (∀ e ∈ events, Codable e) ∧ Storable s' := by
  induction events with
  | nil =>
    intro s s' hs h
    cases h
    exact ⟨nofun, hs⟩
  | cons e events ih =>
    intro s s' hs h
    simp only [applyAll, bind_ok] at h
    obtain ⟨s1, h1, h⟩ := h
    obtain ⟨hc, hs1⟩ := apply_storable hs h1
    obtain ⟨hall, hs'⟩ := ih hs1 h
    exact ⟨List.forall_mem_cons.mpr ⟨hc, hall⟩, hs'⟩

end TeamState

/-- Every logged event is in the codec's bounds. -/
theorem Logged.codable {r : TeamRuntime} (hl : Logged r) {event : TeamEvent} (h : event ∈ r.eventLog) : Codable event.kind := by
  obtain ⟨m, hm⟩ := hl.replays
  exact (applyAll_storable _ storable_default hm).1 _ (List.mem_map_of_mem h)

/-! ## Transactions of the log -/

section Log

variable {r : TeamRuntime}

theorem mem_number {tx first count : Nat} {kinds : List TeamEventKind} {event : TeamEvent}
    (h : event ∈ number tx first count kinds) : event.transaction = tx ∧ event.eventsInTransaction = count ∧
      event.sequence = first + event.indexInTransaction ∧ event.indexInTransaction < kinds.length := by
  simp only [number, List.mem_map, Prod.exists] at h
  obtain ⟨kind, index, hmem, rfl⟩ := h
  exact ⟨rfl, rfl, rfl, by simpa using (List.mem_zipIdx hmem).2.1⟩

/-- The log is framed: it ends with the transaction before the next, and each event is in
    a transaction that passed its check. -/
structure Framed (r : TeamRuntime) : Prop where
  head : runtimeHead r = ⟨r.nextTransaction - 1, r.eventLog.length⟩
  next : r.nextTransaction ≠ 0
  count : r.nextTransaction ≤ r.eventLog.length + 1
  fits : r.eventLog.length < 2 ^ 64
  before : ∀ event ∈ r.eventLog, event.transaction < r.nextTransaction
  last : ∀ event ∈ r.eventLog, event.sequence + (event.eventsInTransaction - 1) < 2 ^ 64 + event.indexInTransaction
  valid : ∀ event ∈ r.eventLog,
    validateOperationTransaction (r.eventLog.filter (fun c => c.transaction == event.transaction)) = .ok ()

theorem runtimeHead_publish {kinds : List TeamEventKind} {candidate : TeamState} {n' : Nat} (hne : kinds ≠ []) :
    runtimeHead (r.publishEvents (transactionOf r r.nextTransaction kinds n' candidate)) =
      ⟨r.nextTransaction, r.eventLog.length + kinds.length⟩ := by
  have hlast : (number r.nextTransaction (r.eventLog.length + 1) kinds.length kinds).getLast? =
      some ⟨r.eventLog.length + kinds.length, r.nextTransaction, kinds.length - 1, kinds.length, kinds.getLast hne⟩ := by
    have hpos := List.length_pos_iff.mpr hne
    rw [List.getLast?_eq_getElem?, number_length, number, List.getElem?_map, List.getElem?_zipIdx, ← List.getLast?_eq_getElem?,
      List.getLast?_eq_some_getLast hne]
    have hsum : r.eventLog.length + 1 + (kinds.length - 1) = r.eventLog.length + kinds.length := by omega
    simp only [Option.map_some, Nat.zero_add, hsum]
  have hnn : number r.nextTransaction (r.eventLog.length + 1) kinds.length kinds ≠ [] := by
    rw [← List.length_pos_iff, number_length]
    exact List.length_pos_iff.mpr hne
  simp only [runtimeHead, TeamRuntime.publishEvents, transactionOf, List.getLast?_append_of_ne_nil _ hnn, hlast]

theorem publish_framed {kinds : List TeamEventKind} {candidate : TeamState} {n' : Nat} (hf : Framed r) (hne : kinds ≠ [])
    (hvalid : validateOperationTransaction (number r.nextTransaction (r.eventLog.length + 1) kinds.length kinds) = .ok ())
    (hfit : ¬ Exhausted r kinds.length) :
    Framed (r.publishEvents (transactionOf r r.nextTransaction kinds n' candidate)) := by
  have hlen : (number r.nextTransaction (r.eventLog.length + 1) kinds.length kinds).length = kinds.length := number_length
  have hpos := List.length_pos_iff.mpr hne
  simp only [Exhausted, not_or, Nat.not_le] at hfit
  have hcount := hf.count
  refine ⟨?_, Nat.succ_ne_zero _, ?_, ?_, fun event he => ?_, fun event he => ?_, fun event he => ?_⟩
  · rw [runtimeHead_publish hne]
    simp [TeamRuntime.publishEvents, transactionOf, hlen]
  · simp only [TeamRuntime.publishEvents, transactionOf, List.length_append, hlen]
    omega
  · simp only [TeamRuntime.publishEvents, transactionOf, List.length_append, hlen]
    exact hfit.2.1
  · rcases List.mem_append.mp he with he | he
    · exact Nat.lt_succ_of_lt (hf.before event he)
    · exact Nat.lt_of_le_of_lt (Nat.le_of_eq (mem_number he).1) (Nat.lt_succ_self r.nextTransaction)
  · rcases List.mem_append.mp he with he | he
    · exact hf.last event he
    · obtain ⟨_, hc, hs, hi⟩ := mem_number he
      have hlast : r.eventLog.length + 1 + event.indexInTransaction + (kinds.length - 1) < 2 ^ 64 + event.indexInTransaction := by
        omega
      rw [hc, hs]
      exact hlast
  · -- An old transaction keeps its events, and the new one has the new events.
    simp only [TeamRuntime.publishEvents, transactionOf, List.filter_append]
    rcases List.mem_append.mp he with he | he
    · have hnone : (number r.nextTransaction (r.eventLog.length + 1) kinds.length kinds).filter
          (fun c => c.transaction == event.transaction) = [] := by
        refine List.filter_eq_nil_iff.mpr fun c hc => ?_
        rw [(mem_number hc).1, beq_iff_eq]
        exact Nat.ne_of_gt (hf.before event he)
      rw [hnone, List.append_nil]
      exact hf.valid event he
    · obtain ⟨htx, _⟩ := mem_number he
      have hnone : r.eventLog.filter (fun c => c.transaction == event.transaction) = [] := by
        refine List.filter_eq_nil_iff.mpr fun c hc => ?_
        rw [htx, beq_iff_eq]
        exact Nat.ne_of_lt (hf.before c hc)
      have hall : (number r.nextTransaction (r.eventLog.length + 1) kinds.length kinds).filter
          (fun c => c.transaction == event.transaction) = number r.nextTransaction (r.eventLog.length + 1) kinds.length kinds := by
        refine List.filter_eq_self.mpr fun c hc => ?_
        rw [(mem_number hc).1, htx, beq_self_eq_true]
      rw [hnone, hall, List.nil_append]
      exact hvalid

theorem Reach.framed (h : Reach r) : Framed r := by
  refine Reach.induct (P := Framed) (fun {limit authority r} h => ?_) (fun {n n' r applied prepared} hr hf hs => ?_)
    (fun {limit authority r r'} hl h hf => ?_) h
  · simp only [TeamRuntime.new, bind_ok, require_ok, exists_const] at h
    obtain ⟨_, h⟩ := h
    cases h
    exact ⟨rfl, Nat.one_ne_zero, Nat.le_refl 1, show 0 < 2 ^ 64 by decide, by rintro _ ⟨⟩, by rintro _ ⟨⟩, by rintro _ ⟨⟩⟩
  · obtain ⟨kinds, candidate, hne, hvalid, hfit, _, rfl⟩ := hs.transaction hr
    exact publish_framed hf hne hvalid hfit
  · obtain ⟨_, _, _, _, _, _, _, _, rfl⟩ := recover_ok hl h
    exact ⟨hf.head, hf.next, hf.count, hf.fits, hf.before, hf.last, hf.valid⟩

end Log

/-! ## Operation records -/

namespace TeamState

variable {s s' : TeamState} {m : Nat} {o : TeamOperationId}

/-- Operations are added by their markers and never removed. -/
theorem apply_operations {e : TeamEventKind} (h : s.apply e m = .ok s')
    (ho : s.operations.contains o = true ∨ ∃ tx, e = .operationCommitted o tx) : s'.operations.contains o = true := by
  have hinsert : ∀ (k : Nat) (record : OperationRecord), s.operations.contains o = true ∨ k = o →
      (s.operations.insert k record).contains o = true := by
    intro k record hk
    rw [OrdMap.contains, OrdMap.get_insert]
    rcases hk with hk | rfl
    · split
      · rfl
      · exact hk
    · rw [if_pos rfl]
      rfl
  cases e with
  | operationCommitted o' tx =>
    simp only [apply, applyOperationCommitted, bind_ok, pure, Except.pure, Except.ok.injEq] at h
    obtain ⟨_, _, _, _, _, _, _, _, _, _, rfl⟩ := h
    refine hinsert o' _ (ho.imp_right ?_)
    rintro ⟨_, heq⟩
    cases heq
    rfl
  | operationAcknowledged o' tx tx' =>
    simp only [apply, applyOperationAcknowledged, bind_ok, pure, Except.pure, Except.ok.injEq] at h
    obtain ⟨_, _, _, _, _, _, _, _, _, _, _, _, rfl⟩ := h
    refine hinsert o' _ (ho.imp_right ?_)
    rintro ⟨_, heq⟩
    cases heq
  | _ =>
    have hold : s.operations.contains o = true := ho.resolve_right (by simp)
    simp only [apply, applyTaskCreated, applyAgentCreated, applyTaskOwnerAssigned, applyDelegationGranted, applyTaskReady,
      applyAgentActivated, applyTaskStarted, applyTaskBlocked, applyAgentBlocked, applyMessageSent,
      applyCompletionCapsuleSubmitted, applyTaskSucceeded, applyAgentSucceeded, applyTaskFailed, applyAgentFailed,
      applyTaskCancelled, applyAgentCancelled, applyTaskRetryRequested, applyAgentRetryRequested, bind_ok, pure, Except.pure,
      Except.ok.injEq] at h
    repeat obtain ⟨_, _, h⟩ := h
    exact hold

theorem applyAll_operations (events : List TeamEventKind) :
    ∀ {s s' : TeamState}, s.applyAll m events = .ok s' →
      (s.operations.contains o = true ∨ ∃ tx, .operationCommitted o tx ∈ events) → s'.operations.contains o = true := by
  induction events with
  | nil =>
    intro s s' h ho
    cases h
    exact ho.resolve_right (by simp)
  | cons e events ih =>
    intro s s' h ho
    simp only [applyAll, bind_ok] at h
    obtain ⟨s1, h1, h⟩ := h
    refine ih h ?_
    rcases ho with ho | ⟨tx, ho⟩
    · exact Or.inl (apply_operations h1 (Or.inl ho))
    · rcases List.mem_cons.mp ho with rfl | ho
      · exact Or.inl (apply_operations h1 (Or.inr ⟨tx, rfl⟩))
      · exact Or.inr ⟨tx, ho⟩

end TeamState

section Records

variable {r : TeamRuntime} {event : TeamEvent} {record : TeamOperationRecord}

theorem mem_head_filter {α : Type} {p : α → Bool} {l : List α} {a : α} (ha : a ∈ l) (hp : p a = true)
    (hlen : (l.filter p).length = 1) : (l.filter p).head? = some a := by
  obtain ⟨b, hb⟩ := List.length_eq_one_iff.mp hlen
  have := List.mem_filter.mpr ⟨ha, hp⟩
  rw [hb, List.mem_singleton] at this
  rw [hb, this]
  rfl

/-- What the framing check says of an operation's marker. -/
theorem committed_frame {events : List TeamEvent} {operation : TeamOperationId} {transaction : TransactionId}
    (hmem : event ∈ events) (hk : event.kind = .operationCommitted operation transaction)
    (h : validateOperationTransaction events = .ok ()) :
    event.indexInTransaction = 0 ∧ transaction = event.transaction ∧ (classifyOperationTransaction events).isSome = true := by
  have hp : event.kind.isOperationCommitted = true := by rw [hk]; rfl
  rw [validateOperationTransaction] at h
  cases hhead : (events.filter (fun event => event.kind.isOperationCommitted)).head? with
  | none =>
    rw [List.head?_eq_none_iff, List.filter_eq_nil_iff] at hhead
    exact absurd hp (hhead event hmem)
  | some first =>
    simp only [hhead, bind_ok, require_ok, exists_const] at h
    obtain ⟨⟨hlen, _, hindex⟩, _, hcheck, hclass⟩ := h
    have hfirst := mem_head_filter hmem hp hlen
    rw [hhead, Option.some.injEq] at hfirst
    subst hfirst
    rw [checkCommitted, hk] at hcheck
    exact ⟨hindex, require_ok.mp hcheck, hclass⟩

/-- Every marker in the log has its record. -/
theorem operationRecord_committed (h : Reach r) {operation : TeamOperationId} {transaction : TransactionId}
    (hmem : event ∈ r.eventLog) (hk : event.kind = .operationCommitted operation transaction) :
    ∃ record, r.operationRecord event = some record := by
  have hf := h.framed
  have hcommitted : event ∈ r.eventLog.filter (fun c => c.transaction == event.transaction) :=
    List.mem_filter.mpr ⟨hmem, beq_self_eq_true _⟩
  obtain ⟨hindex, rfl, hclass⟩ := committed_frame hcommitted hk (hf.valid event hmem)
  obtain ⟨m, hm⟩ := h.inv.2.replays
  have hop : r.state.operations.contains operation = true :=
    applyAll_operations _ hm (Or.inr ⟨event.transaction, hk ▸ List.mem_map_of_mem hmem⟩)
  obtain ⟨record, hrecord⟩ := OrdMap.contains_iff.mp hop
  obtain ⟨kind, hkind⟩ := Option.isSome_iff_exists.mp hclass
  have hlast := hf.last event hmem
  rw [hindex, Nat.add_zero] at hlast
  have hadd : checkedAdd 64 event.sequence (event.eventsInTransaction - 1) =
      some (event.sequence + (event.eventsInTransaction - 1)) := checkedAdd_some.mpr ⟨hlast, rfl⟩
  simp only [TeamRuntime.operationRecord, hk, hrecord, hadd, hkind, Option.bind_eq_bind, Option.bind_some]
  exact ⟨_, rfl⟩

theorem operationRecord_kind (h : r.operationRecord event = some record) :
    ∃ transaction, event.kind = .operationCommitted record.operation transaction := by
  rw [TeamRuntime.operationRecord] at h
  split at h
  · rename_i operation transaction hk
    simp only [Option.bind_eq_bind, Option.bind_eq_some_iff, pure, Option.some.injEq] at h
    obtain ⟨_, _, _, _, _, _, rfl⟩ := h
    exact ⟨transaction, hk⟩
  · cases h

/-- A record tells whether its operation is acknowledged. -/
theorem operationRecord_status (h : record ∈ r.operationRecords) : ∃ entry, r.state.operations.get record.operation = some entry ∧
    (record.status = .committedAwaitingAcknowledgement ↔ entry.acknowledgementTransaction = none) := by
  obtain ⟨event, _, h⟩ := List.mem_filterMap.mp h
  rw [TeamRuntime.operationRecord] at h
  split at h
  · simp only [Option.bind_eq_bind, Option.bind_eq_some_iff, pure, Option.some.injEq] at h
    obtain ⟨entry, hentry, _, _, _, _, rfl⟩ := h
    refine ⟨entry, hentry, ?_⟩
    cases entry.acknowledgementTransaction <;> simp
  · cases h

end Records

end GreenTyper.Team
