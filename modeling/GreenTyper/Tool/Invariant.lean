/-
  GreenTyper.Tool.Invariant — what an event does to a Tool state, and what a log of
  events says of the state it builds.

  An event requests the next call or moves the call it names (`apply_cases`); the moves
  are `Moves`. From them:
  - `apply_inv`: calls are numbered and named one to one, and every event taken may be
    stored.
  - `prepared_status`: a call whose effect was prepared requires reconciliation until an
    outcome of it is recorded, and never awaits approval again.
-/

import GreenTyper.Tool.CodecExact

namespace GreenTyper.Tool

open GreenTyper.Lib
open GreenTyper.Team (AgentId ValidId maxIdentifier)

/-- The life of a call. -/
inductive Moves : ToolCallStatus → ToolEvent → ToolCallStatus → Prop where
  | granted {call agent argumentsHash resourceBinding expires} :
      Moves .awaitingApproval (.approvalGranted call agent argumentsHash resourceBinding expires) .awaitingApproval
  | prepared {call argumentsHash} : Moves .awaitingApproval (.effectPrepared call argumentsHash) .reconciliationRequired
  | denied {call reason} : Moves .awaitingApproval (.approvalDenied call reason) .denied
  | succeeded {call resultDigest} : Moves .reconciliationRequired (.effectSucceeded call resultDigest) .succeeded
  | failed {call reason} : Moves .reconciliationRequired (.effectFailed call reason) .failed
  | ambiguous {call reason} : Moves .reconciliationRequired (.effectAmbiguous call reason) .reconciliationRequired
  | reconciledSucceeded {call resultDigest} :
      Moves .reconciliationRequired (.effectReconciledSucceeded call resultDigest) .succeeded
  | reconciledFailed {call reason} : Moves .reconciliationRequired (.effectReconciledFailed call reason) .failed

/-- What a move leaves alone. -/
structure SameCall (record record' : ToolCallRecord) : Prop where
  call : record'.call = record.call
  identity : record'.identity = record.identity
  agent : record'.agent = record.agent
  tool : record'.tool = record.tool
  argumentsHash : record'.argumentsHash = record.argumentsHash
  resourceBinding : record'.resourceBinding = record.resourceBinding

/-- Events that end an effect. An ambiguous one leaves it open. -/
def ToolEvent.isOutcome : ToolEvent → Bool
  | .effectSucceeded .. | .effectFailed .. | .effectReconciledSucceeded .. | .effectReconciledFailed .. => true
  | _ => false

/-- The Agent of a requested call may be stored. -/
def ToolEvent.AgentStored : ToolEvent → Prop
  | .callRequested _ _ agent _ _ _ => ValidId agent
  | _ => True

namespace ToolState

section Apply

variable {s s' : ToolState} {event : ToolEvent}

theorem recordIn_ok {status : ToolCallStatus} {text : String} {call : ToolCallId} {record : ToolCallRecord} :
    s.recordIn status text call = .ok record ↔ s.calls.get call = some record ∧ record.status = status := by
  simp only [recordIn, bind_ok, okOr_ok, require_ok, exists_const, pure, Except.pure, Except.ok.injEq]
  constructor
  · rintro ⟨_, hget, hstatus, rfl⟩
    exact ⟨hget, hstatus⟩
  · rintro ⟨hget, hstatus⟩
    exact ⟨record, hget, hstatus, rfl⟩

/-- The next call, as it is requested. -/
structure Requested (s : ToolState) (event : ToolEvent) (s' : ToolState) (record : ToolCallRecord) : Prop where
  event : event = .callRequested s.nextCall record.identity record.agent record.tool record.argumentsHash record.resourceBinding
  status : record.status = .awaitingApproval
  call : record.call = s.nextCall
  unnamed : s.identities.lookup record.identity = none
  unknown : s.calls.get s.nextCall = none
  binding : record.resourceBinding.validate = .ok ()
  room : s.nextCall + 1 < 2 ^ 64
  state : s' = ⟨s.calls.insert s.nextCall record, (record.identity, s.nextCall) :: s.identities, s.nextCall + 1⟩

/-- A call that moves. -/
structure Moved (s : ToolState) (event : ToolEvent) (s' : ToolState) (record record' : ToolCallRecord) : Prop where
  state : s' = s.setCall event.call record'
  before : s.calls.get event.call = some record
  moves : Moves record.status event record'.status
  same : SameCall record record'

theorem applyCallRequested_ok {call : ToolCallId} {identity : String} {agent : AgentId} {tool : String}
    {argumentsHash : ToolArgumentsHash} {resourceBinding : ToolResourceBinding}
    (h : s.applyCallRequested call identity agent tool argumentsHash resourceBinding = .ok s') :
    ∃ record, Requested s (.callRequested call identity agent tool argumentsHash resourceBinding) s' record := by
  simp only [applyCallRequested, bind_ok, require_ok, okOr_ok, checkedAdd_some, exists_const, pure, Except.pure,
    Except.ok.injEq] at h
  obtain ⟨rfl, _, _, _, _, _, hbinding, ⟨hunnamed, hunknown⟩, _, ⟨hroom, rfl⟩, rfl⟩ := h
  refine ⟨⟨s.nextCall, identity, agent, tool, argumentsHash, resourceBinding, .awaitingApproval, none, none, none⟩,
    rfl, rfl, rfl, ?_, ?_, hbinding, hroom, rfl⟩
  · simpa using hunnamed
  · simpa [OrdMap.contains] using hunknown

/-- An event requests the next call or moves the call it names. -/
theorem apply_cases (h : s.apply event = .ok s') :
    (∃ record, Requested s event s' record) ∨ ∃ record record', Moved s event s' record record' := by
  cases event with
  | callRequested call identity agent tool argumentsHash resourceBinding => exact Or.inl (applyCallRequested_ok h)
  | approvalGranted call agent argumentsHash resourceBinding expires =>
    simp only [apply, applyApprovalGranted, awaitingApproval, bind_ok, recordIn_ok, require_ok, exists_const, pure, Except.pure,
      Except.ok.injEq] at h
    obtain ⟨record, ⟨hget, hstatus⟩, _, rfl⟩ := h
    exact Or.inr ⟨record, _, rfl, hget, hstatus ▸ .granted, rfl, rfl, rfl, rfl, rfl, rfl⟩
  | effectPrepared call argumentsHash =>
    simp only [apply, applyEffectPrepared, awaitingApproval, bind_ok, recordIn_ok, require_ok, exists_const, pure, Except.pure,
      Except.ok.injEq] at h
    obtain ⟨record, ⟨hget, hstatus⟩, _, rfl⟩ := h
    exact Or.inr ⟨record, _, rfl, hget, hstatus ▸ .prepared, rfl, rfl, rfl, rfl, rfl, rfl⟩
  | approvalDenied call reason =>
    simp only [apply, applyApprovalDenied, awaitingApproval, bind_ok, recordIn_ok, pure, Except.pure, Except.ok.injEq] at h
    obtain ⟨_, _, record, ⟨hget, hstatus⟩, rfl⟩ := h
    exact Or.inr ⟨record, _, rfl, hget, hstatus ▸ .denied, rfl, rfl, rfl, rfl, rfl, rfl⟩
  | effectSucceeded call resultDigest =>
    simp only [apply, applySucceeded, reconciliationRequired, bind_ok, recordIn_ok, pure, Except.pure, Except.ok.injEq] at h
    obtain ⟨record, ⟨hget, hstatus⟩, rfl⟩ := h
    exact Or.inr ⟨record, _, rfl, hget, hstatus ▸ .succeeded, rfl, rfl, rfl, rfl, rfl, rfl⟩
  | effectReconciledSucceeded call resultDigest =>
    simp only [apply, applySucceeded, reconciliationRequired, bind_ok, recordIn_ok, pure, Except.pure, Except.ok.injEq] at h
    obtain ⟨record, ⟨hget, hstatus⟩, rfl⟩ := h
    exact Or.inr ⟨record, _, rfl, hget, hstatus ▸ .reconciledSucceeded, rfl, rfl, rfl, rfl, rfl, rfl⟩
  | effectFailed call reason =>
    simp only [apply, applyFailed, reconciliationRequired, bind_ok, recordIn_ok, pure, Except.pure, Except.ok.injEq] at h
    obtain ⟨_, _, record, ⟨hget, hstatus⟩, rfl⟩ := h
    exact Or.inr ⟨record, _, rfl, hget, hstatus ▸ .failed, rfl, rfl, rfl, rfl, rfl, rfl⟩
  | effectReconciledFailed call reason =>
    simp only [apply, applyFailed, reconciliationRequired, bind_ok, recordIn_ok, pure, Except.pure, Except.ok.injEq] at h
    obtain ⟨_, _, record, ⟨hget, hstatus⟩, rfl⟩ := h
    exact Or.inr ⟨record, _, rfl, hget, hstatus ▸ .reconciledFailed, rfl, rfl, rfl, rfl, rfl, rfl⟩
  | effectAmbiguous call reason =>
    simp only [apply, applyEffectAmbiguous, reconciliationRequired, bind_ok, recordIn_ok, pure, Except.pure,
      Except.ok.injEq] at h
    obtain ⟨_, _, record, ⟨hget, hstatus⟩, rfl⟩ := h
    exact Or.inr ⟨record, _, rfl, hget, hstatus ▸ .ambiguous, rfl, rfl, rfl, rfl, rfl, rfl⟩

end Apply

/-! ## Every state that events build -/

/-- Calls are numbered from one on and named one to one, and their fields may be stored. -/
structure StateInv (s : ToolState) : Prop where
  next : s.nextCall ≠ 0
  bound : s.nextCall < 2 ^ 64
  call : ∀ {c r}, s.calls.get c = some r → c ≠ 0 ∧ c < s.nextCall ∧ r.call = c
  agent : ∀ {c r}, s.calls.get c = some r → ValidId r.agent
  binding : ∀ {c r}, s.calls.get c = some r → r.resourceBinding.validate = .ok ()
  named : ∀ {i c}, s.identities.lookup i = some c ↔ ∃ r, s.calls.get c = some r ∧ r.identity = i

theorem default_inv : StateInv .default where
  next := by decide
  bound := by decide
  call h := nomatch h
  agent h := nomatch h
  binding h := nomatch h
  named := ⟨fun h => (nomatch h), fun ⟨_, h, _⟩ => (nomatch h)⟩

section Step

variable {s s' : ToolState} {event : ToolEvent}

theorem StateInv.validId (hs : StateInv s) {c : ToolCallId} {r : ToolCallRecord} (h : s.calls.get c = some r) : ValidId c := by
  obtain ⟨hne, hlt, _⟩ := hs.call h
  exact ⟨hne, Nat.lt_of_lt_of_le hlt (Nat.le_pred_of_lt hs.bound)⟩

theorem Requested.inv {record : ToolCallRecord} (hs : StateInv s) (h : Requested s event s' record)
    (hagent : ValidId record.agent) : StateInv s' := by
  obtain ⟨_, _, hcall, hunnamed, hunknown, hbinding, hroom, rfl⟩ := h
  refine ⟨Nat.succ_ne_zero _, hroom, ?_, ?_, ?_, ?_⟩
  · intro c r hget
    rw [OrdMap.get_insert] at hget
    split at hget
    · rename_i heq
      cases hget
      exact ⟨heq ▸ hs.next, heq ▸ Nat.lt_succ_self _, hcall.trans heq⟩
    · obtain ⟨hne, hlt, hr⟩ := hs.call hget
      exact ⟨hne, Nat.lt_succ_of_lt hlt, hr⟩
  · intro c r hget
    rw [OrdMap.get_insert] at hget
    split at hget
    · cases hget
      exact hagent
    · exact hs.agent hget
  · intro c r hget
    rw [OrdMap.get_insert] at hget
    split at hget
    · cases hget
      exact hbinding
    · exact hs.binding hget
  · intro i c
    rw [List.lookup_cons, OrdMap.get_insert]
    split
    · rename_i hi
      obtain rfl := beq_iff_eq.mp hi
      constructor
      · intro h
        cases h
        exact ⟨record, if_pos rfl, rfl⟩
      · rintro ⟨r, hr, hident⟩
        split at hr
        · rename_i heq
          rw [heq]
        · rw [hs.named.mpr ⟨r, hr, hident⟩] at hunnamed
          cases hunnamed
    · rename_i hi
      constructor
      · intro h
        obtain ⟨r, hr, hident⟩ := hs.named.mp h
        refine ⟨r, ?_, hident⟩
        rw [if_neg]
        · exact hr
        · rintro rfl
          rw [hunknown] at hr
          cases hr
      · rintro ⟨r, hr, hident⟩
        split at hr
        · cases hr
          exact absurd hident.symm (by simpa using hi)
        · exact hs.named.mpr ⟨r, hr, hident⟩

theorem Moved.inv {record record' : ToolCallRecord} (hs : StateInv s) (h : Moved s event s' record record') : StateInv s' := by
  obtain ⟨rfl, hget, _, hsame⟩ := h
  -- A record of the new state has an old one of which it keeps all but the status.
  have hold : ∀ {c r}, (s.setCall event.call record').calls.get c = some r → ∃ r0, s.calls.get c = some r0 ∧ SameCall r0 r := by
    intro c r hr
    rw [setCall, OrdMap.get_insert] at hr
    split at hr
    · rename_i heq
      cases hr
      exact ⟨record, heq ▸ hget, hsame⟩
    · exact ⟨r, hr, rfl, rfl, rfl, rfl, rfl, rfl⟩
  refine ⟨hs.next, hs.bound, ?_, ?_, ?_, ?_⟩
  · intro c r hr
    obtain ⟨r0, hr0, hsame⟩ := hold hr
    rw [hsame.call]
    exact hs.call hr0
  · intro c r hr
    obtain ⟨r0, hr0, hsame⟩ := hold hr
    rw [hsame.agent]
    exact hs.agent hr0
  · intro c r hr
    obtain ⟨r0, hr0, hsame⟩ := hold hr
    rw [hsame.resourceBinding]
    exact hs.binding hr0
  · intro i c
    refine hs.named.trans ⟨?_, ?_⟩
    · rintro ⟨r, hr, rfl⟩
      rw [setCall, OrdMap.get_insert]
      split
      · rename_i heq
        subst heq
        rw [hget] at hr
        cases hr
        exact ⟨record', rfl, hsame.identity⟩
      · exact ⟨r, hr, rfl⟩
    · rintro ⟨r, hr, rfl⟩
      obtain ⟨r0, hr0, hsame⟩ := hold hr
      exact ⟨r0, hr0, hsame.identity.symm⟩

theorem apply_inv (hs : StateInv s) (hagent : event.AgentStored) (h : s.apply event = .ok s') : StateInv s' := by
  rcases apply_cases h with ⟨record, hreq⟩ | ⟨record, record', hmoved⟩
  · refine hreq.inv hs ?_
    have := hreq.event ▸ hagent
    exact this
  · exact hmoved.inv hs

/-- What the state takes may be stored. -/
theorem apply_storable (hs : StateInv s) (hagent : event.AgentStored) (h : s.apply event = .ok s') : event.Storable := by
  have hmoved : ∀ {record record'}, Moved s event s' record record' → ValidId event.call := fun h => hs.validId h.before
  cases event with
  | callRequested call identity agent tool argumentsHash resourceBinding =>
    obtain ⟨record, hreq⟩ := applyCallRequested_ok h
    have hevent := hreq.event
    have hnext := hs.next
    have hroom := hreq.room
    cases hevent
    refine ⟨⟨hnext, ?_⟩, hagent, hreq.binding⟩
    show s.nextCall < 2 ^ 64 - 1
    omega
  | approvalGranted call agent argumentsHash resourceBinding expires =>
    simp only [apply, applyApprovalGranted, awaitingApproval, bind_ok, recordIn_ok, require_ok, exists_const] at h
    obtain ⟨record, ⟨hget, _⟩, ⟨rfl, _, rfl, _⟩, _⟩ := h
    exact ⟨hs.validId hget, hs.agent hget, hs.binding hget⟩
  | effectPrepared | approvalDenied | effectSucceeded | effectFailed | effectAmbiguous | effectReconciledSucceeded
  | effectReconciledFailed =>
    rcases apply_cases h with ⟨_, hreq⟩ | ⟨_, _, hmove⟩
    · cases hreq.event
    · exact hmoved hmove

end Step

theorem applyAll_append (xs ys : List ToolEvent) : ∀ s : ToolState, s.applyAll (xs ++ ys) = (s.applyAll xs >>= fun s => s.applyAll ys) := by
  induction xs with
  | nil => intro s; rfl
  | cons x xs ih =>
    intro s
    simp only [List.cons_append, applyAll]
    cases h : s.apply x with
    | error e => rfl
    | ok s => exact ih s

theorem applyAll_inv {events : List ToolEvent} : ∀ {s s' : ToolState}, StateInv s → (∀ event ∈ events, event.AgentStored) →
    s.applyAll events = .ok s' → StateInv s' ∧ ∀ event ∈ events, event.Storable := by
  induction events with
  | nil =>
    intro s s' hs _ h
    cases h
    exact ⟨hs, by simp⟩
  | cons event events ih =>
    intro s s' hs hagent h
    obtain ⟨hevent, hevents⟩ := List.forall_mem_cons.mp hagent
    simp only [applyAll, bind_ok] at h
    obtain ⟨s1, h1, h⟩ := h
    obtain ⟨hs', hstorable⟩ := ih (apply_inv hs hevent h1) hevents h
    exact ⟨hs', List.forall_mem_cons.mpr ⟨apply_storable hs hevent h1, hstorable⟩⟩

/-! ## What a log says of a call -/

def Prepared (events : List ToolEvent) (call : ToolCallId) : Prop := ∃ argumentsHash, .effectPrepared call argumentsHash ∈ events

def HasOutcome (events : List ToolEvent) (call : ToolCallId) : Prop :=
  ∃ event ∈ events, event.call = call ∧ event.isOutcome = true

theorem Prepared.append {events : List ToolEvent} {call : ToolCallId} (h : Prepared events call) (more : List ToolEvent) :
    Prepared (events ++ more) call := h.imp fun _ h => List.mem_append_left more h

/-- A prepared call is past its approval, and settled only by an outcome. -/
def Settles (events : List ToolEvent) (s : ToolState) : Prop :=
  ∀ call, Prepared events call → ∃ record, s.calls.get call = some record ∧ record.status ≠ .awaitingApproval ∧
    record.status ≠ .denied ∧ (¬ HasOutcome events call → record.status = .reconciliationRequired)

theorem Settles.step {events : List ToolEvent} {s s' : ToolState} {event : ToolEvent} (h : Settles events s)
    (happ : s.apply event = .ok s') : Settles (events ++ [event]) s' := by
  intro call hprep
  have hfewer : ¬ HasOutcome (events ++ [event]) call → ¬ HasOutcome events call := by
    rintro hno ⟨e, he, hcall⟩
    exact hno ⟨e, List.mem_append_left _ he, hcall⟩
  rcases apply_cases happ with ⟨record, hreq⟩ | ⟨record, record', rfl, hget, hmoves, _⟩
  · obtain ⟨argumentsHash, hmem⟩ := hprep
    have hold : Prepared events call := by
      rcases List.mem_append.mp hmem with hmem | hmem
      · exact ⟨argumentsHash, hmem⟩
      · have hevent := hreq.event
        rw [← List.mem_singleton.mp hmem] at hevent
        exact nomatch hevent
    obtain ⟨r, hr, h1, h2, h3⟩ := h call hold
    refine ⟨r, ?_, h1, h2, fun hno => h3 (hfewer hno)⟩
    rw [hreq.state, OrdMap.get_insert_ne]
    · exact hr
    · rintro rfl
      rw [hreq.unknown] at hr
      cases hr
  · by_cases hcall : event.call = call
    · subst hcall
      refine ⟨record', OrdMap.get_insert_self .., ?_⟩
      -- The call's own move: out of approval it was not prepared before, out of
      -- reconciliation it stays there or is settled by this event.
      have hnot : record.status = .awaitingApproval → ¬ Prepared events event.call := by
        intro hstatus hold
        obtain ⟨r, hr, hne, _⟩ := h _ hold
        rw [hget] at hr
        cases hr
        exact hne hstatus
      have hlast : (∀ argumentsHash, event ≠ .effectPrepared event.call argumentsHash) → Prepared events event.call := by
        intro hne
        obtain ⟨argumentsHash, hmem⟩ := hprep
        rcases List.mem_append.mp hmem with hmem | hmem
        · exact ⟨argumentsHash, hmem⟩
        · exact absurd (List.mem_singleton.mp hmem).symm (hne argumentsHash)
      have houtcome : event.isOutcome = true → HasOutcome (events ++ [event]) event.call := fun ho =>
        ⟨event, List.mem_append_right _ List.mem_cons_self, rfl, ho⟩
      generalize hst : record.status = status, hst' : record'.status = status' at hmoves
      cases hmoves with
      | granted => exact absurd (hlast fun _ => by simp) (hnot hst)
      | denied => exact absurd (hlast fun _ => by simp) (hnot hst)
      | prepared | ambiguous => exact ⟨by simp, by simp, fun _ => rfl⟩
      | succeeded | failed | reconciledSucceeded | reconciledFailed =>
        exact ⟨by simp, by simp, fun hno => absurd (houtcome rfl) hno⟩
    · have hold : Prepared events call := by
        obtain ⟨argumentsHash, hmem⟩ := hprep
        rcases List.mem_append.mp hmem with hmem | hmem
        · exact ⟨argumentsHash, hmem⟩
        · exact absurd (congrArg ToolEvent.call (List.mem_singleton.mp hmem)).symm hcall
      obtain ⟨r, hr, h1, h2, h3⟩ := h call hold
      exact ⟨r, by rw [setCall, OrdMap.get_insert_ne _ _ hcall]; exact hr, h1, h2, fun hno => h3 (hfewer hno)⟩

theorem Settles.applyAll {more : List ToolEvent} : ∀ {events : List ToolEvent} {s s' : ToolState}, Settles events s →
    s.applyAll more = .ok s' → Settles (events ++ more) s' := by
  induction more with
  | nil =>
    intro events s s' h happ
    cases happ
    rwa [List.append_nil]
  | cons event more ih =>
    intro events s s' h happ
    simp only [ToolState.applyAll, bind_ok] at happ
    obtain ⟨s1, h1, happ⟩ := happ
    have := ih (h.step h1) happ
    rwa [List.append_assoc] at this

theorem prepared_status {events : List ToolEvent} {s : ToolState} (h : ToolState.default.applyAll events = .ok s) :
    Settles events s := by
  have hnil : Settles [] .default := fun _ ⟨_, hmem⟩ => nomatch hmem
  have := hnil.applyAll h
  rwa [List.nil_append] at this

end ToolState

end GreenTyper.Tool
