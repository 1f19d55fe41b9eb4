/-
  GreenTyper.Team.Transactions — what `prepareEvents` makes of base events that apply
  (see `GreenTyper.Team.Runtime`).

  The framing of a transaction is checked on its numbered events: a command's, an
  operation's marker in front of a command's, and an acknowledgement alone pass
  (`command_framing`, `operation_framing`, `acknowledgement_framing`). With base events
  that apply, `prepareEvents` runs out of numbers or gives the complete transaction, as
  far as its framing passes (`prepareEvents_ok`).
-/

import GreenTyper.Team.Commands

namespace GreenTyper.Team

open GreenTyper.Lib TeamState
open TeamRuntime (number)

/-! ## Framing -/

section Framing

variable {tx first count : Nat} {kinds : List TeamEventKind}

theorem number_kinds : (number tx first count kinds).map (·.kind) = kinds := by
  rw [number, List.map_map]
  exact List.zipIdx_map_fst 0 kinds

theorem number_length : (number tx first count kinds).length = kinds.length := by
  rw [number, List.length_map, List.length_zipIdx]

theorem number_cons (tx first count : Nat) (kinds : List TeamEventKind) (kind : TeamEventKind) : ∃ rest, rest.map (·.kind) = kinds ∧
    number tx first count (kind :: kinds) = ⟨first, tx, 0, count, kind⟩ :: rest := by
  refine ⟨_, ?_, rfl⟩
  rw [List.map_map]
  exact List.zipIdx_map_fst 1 kinds

/-- Events of which none has a marker. -/
def Unmarked (kinds : List TeamEventKind) : Prop :=
  ∀ e ∈ kinds, e.isOperationCommitted = false ∧ e.isOperationAcknowledged = false

theorem Unmarked.append {es fs : List TeamEventKind} (he : Unmarked es) (hf : Unmarked fs) : Unmarked (es ++ fs) := by
  intro e hm
  rcases List.mem_append.mp hm with hm | hm
  · exact he e hm
  · exact hf e hm

theorem TeamState.Routine.unmarked (h : Routine kinds) : Unmarked kinds := fun e he => (h e he).2

theorem Unmarked.filters {events : List TeamEvent} (h : Unmarked kinds) (hk : events.map (·.kind) = kinds) :
    events.filter (fun event => event.kind.isOperationCommitted) = [] ∧
      events.filter (fun event => event.kind.isOperationAcknowledged) = [] := by
  have hmem : ∀ event ∈ events, event.kind ∈ kinds := fun event he => hk ▸ List.mem_map_of_mem he
  constructor
  · exact List.filter_eq_nil_iff.mpr fun event he => by rw [(h _ (hmem event he)).1]; exact Bool.false_ne_true
  · exact List.filter_eq_nil_iff.mpr fun event he => by rw [(h _ (hmem event he)).2]; exact Bool.false_ne_true

theorem command_framing (h : Unmarked kinds) : validateOperationTransaction (number tx first count kinds) = .ok () := by
  obtain ⟨hc, ha⟩ := h.filters number_kinds
  rw [validateOperationTransaction, hc, ha]
  rfl

theorem classify_number {kind : TeamOperationKind} {events : List TeamEvent}
    (h : (events.map (·.kind)).filterMap (·.operationKind) = [kind]) : classifyOperationTransaction events = some kind := by
  rw [List.filterMap_map] at h
  rw [classifyOperationTransaction]
  have hkinds : events.filterMap (fun event => event.kind.operationKind) = [kind] := h
  rw [hkinds]

theorem operation_framing {operation : TeamOperationId} {k : TeamOperationKind} (h : Unmarked kinds)
    (hone : kinds.filterMap (·.operationKind) = [k]) :
    validateOperationTransaction (number tx first count (.operationCommitted operation tx :: kinds)) = .ok () := by
  obtain ⟨rest, hrest, hnum⟩ := number_cons tx first count kinds
    (.operationCommitted operation tx)
  obtain ⟨hc, ha⟩ := h.filters hrest
  have hclass : classifyOperationTransaction (number tx first count (.operationCommitted operation tx :: kinds)) = some k :=
    classify_number (by rw [number_kinds]; exact hone)
  rw [hnum] at hclass ⊢
  have hc' : (⟨first, tx, 0, count, .operationCommitted operation tx⟩ :: rest).filter
      (fun event => event.kind.isOperationCommitted) = [⟨first, tx, 0, count, .operationCommitted operation tx⟩] := by
    rw [List.filter_cons_of_pos rfl, hc]
  have ha' : (⟨first, tx, 0, count, .operationCommitted operation tx⟩ :: rest).filter
      (fun event => event.kind.isOperationAcknowledged) = [] := by
    rw [List.filter_cons_of_neg Bool.false_ne_true, ha]
  simp only [validateOperationTransaction, hc', ha', List.head?_cons, hclass, checkCommitted]
  rw [require_bind ⟨rfl, trivial, trivial⟩, require_bind trivial]
  rfl

/-- An acknowledgement passes when nothing is added to it. -/
theorem acknowledgement_framing {operation : TeamOperationId} {committed : TransactionId} (h : Unmarked kinds)
    (hlt : committed < tx) :
    validateOperationTransaction (number tx first count (.operationAcknowledged operation committed tx :: kinds)) =
      if kinds = [] then .ok () else .error (violation "Team operation acknowledgement must be its own transaction") := by
  obtain ⟨rest, hrest, hnum⟩ := number_cons tx first count kinds
    (.operationAcknowledged operation committed tx)
  obtain ⟨hc, ha⟩ := h.filters hrest
  have hlen : rest.length = kinds.length := by rw [← hrest, List.length_map]
  have hc' : (⟨first, tx, 0, count, .operationAcknowledged operation committed tx⟩ :: rest).filter
      (fun event => event.kind.isOperationCommitted) = [] := by
    rw [List.filter_cons_of_neg Bool.false_ne_true, hc]
  have ha' : (⟨first, tx, 0, count, .operationAcknowledged operation committed tx⟩ :: rest).filter
      (fun event => event.kind.isOperationAcknowledged) =
        [⟨first, tx, 0, count, .operationAcknowledged operation committed tx⟩] := by
    rw [List.filter_cons_of_pos rfl, ha]
  rw [hnum]
  simp only [validateOperationTransaction, hc', ha', List.head?_cons, List.head?_nil, checkAcknowledged,
    List.length_cons, hlen]
  cases kinds with
  | nil =>
    rw [require_bind ⟨rfl, rfl⟩, if_pos rfl]
    exact require_ok.mpr ⟨trivial, hlt⟩
  | cons e es => rw [require_bind_neg (fun hl => absurd hl.2 (by simp)), if_neg (List.cons_ne_nil e es)]

end Framing

/-! ## Applying a list of events -/

namespace TeamState

variable {s s' : TeamState} {m : Nat}

theorem applyAll_append {es fs : List TeamEventKind} :
    s.applyAll m (es ++ fs) = s.applyAll m es >>= fun s' => s'.applyAll m fs := by
  induction es generalizing s with
  | nil => rfl
  | cons e es ih =>
    show (s.apply e m >>= fun s' => s'.applyAll m (es ++ fs)) = (s.apply e m >>= fun s' => s'.applyAll m es) >>= _
    cases s.apply e m with
    | error => rfl
    | ok s' => exact ih

theorem settlePending_applies {k : TaskId} {evs : List TeamEventKind} (h : s.settlePending k m = .ok (s', evs)) :
    s.applyAll m evs = .ok s' := by
  simp only [settlePending, bind_ok] at h
  obtain ⟨o, _, h⟩ := h
  cases o with
  | some d =>
    simp only [bind_ok] at h
    obtain ⟨s1, h1, a, _, s2, h2, h⟩ := h
    cases h
    simp only [applyAll, h1, h2, ok_bind, pure, Except.pure]
  | none =>
    simp only [bind_ok] at h
    obtain ⟨b, _, h⟩ := h
    cases b with
    | true =>
      simp only [if_true, bind_ok] at h
      obtain ⟨s1, h1, h⟩ := h
      cases h
      simp only [applyAll, h1, ok_bind, pure, Except.pure]
    | false =>
      cases h
      rfl

theorem settleAll_applies (pending : List TaskId) :
    ∀ {s s' : TeamState} {evs : List TeamEventKind}, settleAll m pending s = .ok (s', evs) → s.applyAll m evs = .ok s' := by
  induction pending with
  | nil =>
    intro s s' evs h
    cases h
    rfl
  | cons k pending ih =>
    intro s s' evs h
    simp only [settleAll, bind_ok, Prod.exists] at h
    obtain ⟨s1, evs1, h1, s2, evs2, h2, h⟩ := h
    cases h
    rw [applyAll_append, settlePending_applies h1, ok_bind]
    exact ih h2

theorem activateReady_applies (fuel : Nat) :
    ∀ {s s' : TeamState} {evs : List TeamEventKind}, activateReady m fuel s = .ok (s', evs) → s.applyAll m evs = .ok s' := by
  induction fuel with
  | zero =>
    intro s s' evs h
    cases h
    rfl
  | succ fuel ih =>
    intro s s' evs h
    rw [activateReady] at h
    split at h
    · split at h
      · cases h
        rfl
      · simp only [startReady, bind_ok, Prod.exists] at h
        obtain ⟨s1, evs1, ⟨a, _, t1, h1, t2, h2, h3⟩, s2, evs2, h4, h⟩ := h
        cases h3
        cases h
        rw [applyAll_append]
        simp only [applyAll, h1, h2, ok_bind, pure, Except.pure]
        exact ih h4
    · cases h
      rfl

/-- The events that reconciliation adds are events that apply, and lead where it went. -/
theorem reconcile_applies {evs : List TeamEventKind} (h : s.reconcile m = .ok (s', evs)) : s.applyAll m evs = .ok s' := by
  simp only [reconcile, bind_ok, Prod.exists] at h
  obtain ⟨s1, evs1, h1, s2, evs2, h2, h⟩ := h
  cases h
  rw [applyAll_append, settleAll_applies _ h1, ok_bind]
  exact activateReady_applies _ h2

/-- The limit matters to activation only, and there a larger one allows more. -/
theorem apply_mono {m' : Nat} {e : TeamEventKind} (hle : m ≤ m') (h : s.apply e m = .ok s') : s.apply e m' = .ok s' := by
  cases e with
  | agentActivated k =>
    simp only [apply, applyAgentActivated, bind_ok, require_ok] at h ⊢
    obtain ⟨u, hlt, h⟩ := h
    exact ⟨u, Nat.lt_of_lt_of_le hlt hle, h⟩
  | _ => exact h

theorem applyAll_mono {m' : Nat} (hle : m ≤ m') {es : List TeamEventKind} (h : s.applyAll m es = .ok s') :
    s.applyAll m' es = .ok s' := by
  induction es generalizing s with
  | nil => exact h
  | cons e es ih =>
    simp only [applyAll, bind_ok] at h ⊢
    obtain ⟨s1, h1, h⟩ := h
    exact ⟨s1, apply_mono hle h1, ih h⟩

/-- Under two limits that both let the events pass, they lead to the same state. -/
theorem applyAll_agree {m' : Nat} {s'' : TeamState} {es : List TeamEventKind} (h : s.applyAll m es = .ok s')
    (h' : s.applyAll m' es = .ok s'') : s' = s'' := by
  have h1 := applyAll_mono (Nat.le_max_left m m') h
  have h2 := applyAll_mono (Nat.le_max_right m m') h'
  rw [h1] at h2
  cases h2
  rfl

end TeamState

/-! ## Preparing events -/

/-- Numbers that run out: the event count of a transaction, the sequence numbers, or the
    transaction ids. -/
def Exhausted (r : TeamRuntime) (count : Nat) : Prop :=
  2 ^ 32 ≤ count ∨ 2 ^ 64 ≤ r.eventLog.length + count ∨ 2 ^ 64 ≤ r.nextTransaction + 1

/-- What became of the base events: reconciliation ended, and its events are `added`. -/
structure Prepared (n' : Nat) (r : TeamRuntime) (base added : List TeamEventKind) (applied candidate : TeamState) : Prop where
  applies : r.state.applyAll r.maxActiveAgents base = .ok applied
  reconciled : applied.reconcile r.maxActiveAgents = .ok (candidate, added)
  adds : applied.applyAll r.maxActiveAgents added = .ok candidate
  routine : Routine added
  silent : added = [] ↔ Quiescent applied r.maxActiveAgents
  inv : Inv n' candidate
  journal : Journal (r.nextTransaction + 1) candidate
  quiescent : Quiescent candidate r.maxActiveAgents
  active : candidate.activeAgentCount ≤ r.maxActiveAgents
  tasksFit : n' + 1 < 2 ^ 64
  messagesFit : candidate.messages.length + 1 < 2 ^ 64
  validate : candidate.validate r.maxActiveAgents = .ok ()
  validateQuiescent : candidate.validateQuiescent r.maxActiveAgents = .ok ()

section Prepare

variable {n n' : Nat} {r : TeamRuntime} {base added : List TeamEventKind} {applied candidate : TeamState}

theorem prepared_of_applied (hr : RuntimeInv n r) (hbase : r.state.applyAll r.maxActiveAgents base = .ok applied)
    (ha : Applied n' (r.nextTransaction + 1) r.state applied) : ∃ added candidate, Prepared n' r base added applied candidate := by
  have hle : applied.activeAgentCount ≤ r.maxActiveAgents := Nat.le_trans ha.active hr.active
  obtain ⟨s', evs, hrec, hinv, hq, hle', hframe, hroutine, _, hiff⟩ := reconcile_ok ha.inv hle
  have hj := ha.journal.congr hframe.operations hframe.messages
  exact ⟨evs, s', hbase, hrec, reconcile_applies hrec, hroutine, hiff, hinv, hj, hq, hle', ha.tasksFit,
    by rw [hframe.messages]; exact ha.messagesFit, hinv.validate hj hle', (validateQuiescent_ok hinv).mpr hq⟩

/-- The complete transaction of `kinds`. -/
def transactionOf (r : TeamRuntime) (transaction : TransactionId) (kinds : List TeamEventKind) (n' : Nat)
    (candidate : TeamState) : PreparedTeamEvents :=
  ⟨candidate, transaction, r.eventLog.length + kinds.length, number transaction (r.eventLog.length + 1) kinds.length kinds,
    r.nextTransaction + 1, n' + 1, n' + 1, candidate.messages.length + 1⟩

/-- With base events that apply, only the numbers and the framing are left to fail. -/
theorem prepareEvents_eq (h : Prepared n' r base added applied candidate) (tx : TransactionId) :
    r.prepareEvents tx base = (do
      require ((base ++ added).length < 2 ^ 32) .identifierExhausted
      let firstSequence ← okOr (checkedAdd 64 r.eventLog.length 1) .identifierExhausted
      let lastSequence ← okOr (checkedAdd 64 firstSequence ((base ++ added).length - 1)) .identifierExhausted
      validateOperationTransaction (number tx firstSequence (base ++ added).length (base ++ added))
      let nextTransaction ← okOr (checkedAdd 64 r.nextTransaction 1) .identifierExhausted
      return ⟨candidate, tx, lastSequence, number tx firstSequence (base ++ added).length (base ++ added), nextTransaction,
        n' + 1, n' + 1, candidate.messages.length + 1⟩) := by
  obtain ⟨c, hc⟩ := h.journal.messages
  have hclen : c = candidate.messages.length := by
    have := congrArg List.length hc
    rw [List.length_map, List.length_range'] at this
    exact this.symm
  have hmsg : nextIdentifier (candidate.messages.map (·.id)) = .ok (candidate.messages.length + 1) := by
    rw [hc, hclen]
    exact nextIdentifier_range h.messagesFit
  simp only [TeamRuntime.prepareEvents, h.applies, h.reconciled, h.validate, h.validateQuiescent, ok_bind,
    nextIdentifier_tasks h.inv h.tasksFit, nextIdentifier_agents h.inv h.tasksFit, hmsg]

/-- With numbers left, the framing decides. -/
theorem prepareEvents_framing (h : Prepared n' r base added applied candidate) (hne : base ≠ [])
    (hfit : ¬ Exhausted r (base ++ added).length) (tx : TransactionId) :
    r.prepareEvents tx base =
      validateOperationTransaction (number tx (r.eventLog.length + 1) (base ++ added).length (base ++ added)) >>=
        fun _ => .ok (transactionOf r tx (base ++ added) n' candidate) := by
  have hpos : 1 ≤ (base ++ added).length := by
    have := List.length_pos_iff.mpr hne
    rw [List.length_append]
    omega
  rw [prepareEvents_eq h]
  rw [transactionOf]
  generalize base ++ added = kinds at *
  simp only [Exhausted, not_or, Nat.not_le] at hfit
  obtain ⟨hcount, hlog, htx⟩ := hfit
  have h1 : checkedAdd 64 r.eventLog.length 1 = some (r.eventLog.length + 1) := checkedAdd_some.mpr ⟨by omega, rfl⟩
  have h2 : checkedAdd 64 (r.eventLog.length + 1) (kinds.length - 1) = some (r.eventLog.length + kinds.length) :=
    checkedAdd_some.mpr ⟨by omega, by omega⟩
  have h3 : checkedAdd 64 r.nextTransaction 1 = some (r.nextTransaction + 1) := checkedAdd_some.mpr ⟨htx, rfl⟩
  rw [require_bind hcount]
  simp only [h1, h2, h3, okOr_some, ok_bind]
  rfl

/-- Without numbers left, a transaction of good framing fails for the lack of them. -/
theorem prepareEvents_exhausted (h : Prepared n' r base added applied candidate) (hne : base ≠ [])
    (hexh : Exhausted r (base ++ added).length) {tx : TransactionId}
    (hframe : validateOperationTransaction
      (number tx (r.eventLog.length + 1) (base ++ added).length (base ++ added)) = .ok ()) :
    r.prepareEvents tx base = .error .identifierExhausted := by
  have hpos : 1 ≤ (base ++ added).length := by
    have := List.length_pos_iff.mpr hne
    rw [List.length_append]
    omega
  rw [prepareEvents_eq h]
  generalize base ++ added = kinds at *
  rw [Exhausted] at hexh
  by_cases hcount : kinds.length < 2 ^ 32
  · rw [require_bind hcount]
    by_cases h0 : r.eventLog.length + 1 < 2 ^ 64
    · have h1 : checkedAdd 64 r.eventLog.length 1 = some (r.eventLog.length + 1) := checkedAdd_some.mpr ⟨h0, rfl⟩
      by_cases hlog : r.eventLog.length + 1 + (kinds.length - 1) < 2 ^ 64
      · have h2 : checkedAdd 64 (r.eventLog.length + 1) (kinds.length - 1) =
            some (r.eventLog.length + 1 + (kinds.length - 1)) := checkedAdd_some.mpr ⟨hlog, rfl⟩
        have h3 : checkedAdd 64 r.nextTransaction 1 = none := if_neg (by omega)
        simp only [h1, h2, h3, okOr_some, ok_bind, hframe]
        rfl
      · have h2 : checkedAdd 64 (r.eventLog.length + 1) (kinds.length - 1) = none := if_neg hlog
        simp only [h1, h2, okOr_some, ok_bind]
        rfl
    · have h1 : checkedAdd 64 r.eventLog.length 1 = none := if_neg h0
      simp only [h1]
      rfl
  · rw [require_bind_neg hcount]

theorem prepareEvents_ok (h : Prepared n' r base added applied candidate) (hne : base ≠ []) {tx : TransactionId}
    {prepared : PreparedTeamEvents} (hp : r.prepareEvents tx base = .ok prepared) :
    validateOperationTransaction (number tx (r.eventLog.length + 1) (base ++ added).length (base ++ added)) = .ok () ∧
      ¬ Exhausted r (base ++ added).length ∧ prepared = transactionOf r tx (base ++ added) n' candidate := by
  have hframe : validateOperationTransaction
      (number tx (r.eventLog.length + 1) (base ++ added).length (base ++ added)) = .ok () := by
    have h' := hp
    rw [prepareEvents_eq h] at h'
    simp only [bind_ok, okOr_ok, checkedAdd_some] at h'
    obtain ⟨_, _, first, ⟨_, rfl⟩, _, _, _, hframe, _⟩ := h'
    exact hframe
  have hfit : ¬ Exhausted r (base ++ added).length := by
    intro hexh
    rw [prepareEvents_exhausted h hne hexh hframe] at hp
    cases hp
  rw [prepareEvents_framing h hne hfit, hframe] at hp
  cases hp
  exact ⟨hframe, hfit, rfl⟩

end Prepare

end GreenTyper.Team
