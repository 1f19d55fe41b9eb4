/-
  GreenTyper.Team.Recovery — what a recovery gives back of a run under one limit: the
  Team that logged the events.

  Live, a transaction is a command's events and then reconciliation's; a recovery applies
  them all, with checks of its own. Only activations depend on the limit, only
  reconciliation activates, and each activation leaves one Active Agent more. So the
  events pass under any limit that the count after the transaction is within
  (`transaction_applies`), and a recovery meets in turn the states of the run
  (`replayRest_run`). A transaction that is cut off is refused (`replayRest_torn`).

  A recovered Runtime has an authority of its own, so old Sessions are not its Sessions.
  Commands whose Sessions are renamed with the authority get the same answers
  (`runActions_rename`).
-/

import GreenTyper.Team.Runs

namespace GreenTyper.Team

open GreenTyper.Lib TeamState
open TeamRuntime (number)

/-! ## Runs under one limit -/

/-- What a caller can ask of a Runtime. -/
inductive TeamAction where
  | dispatch (command : TeamCommand)
  | operation (operation : TeamOperationId) (command : TeamCommand)
  | acknowledge (operation : TeamOperationId)

namespace TeamRuntime

def prepareAction (r : TeamRuntime) : TeamAction → Except TeamError (PreparedTeamEvents × Option CommandOutcome)
  | .dispatch command => do
    let (prepared, outcome) ← r.prepare command
    return (prepared, some outcome)
  | .operation operation command => do
    let (prepared, outcome) ← r.prepareOperation operation command
    return (prepared, some outcome)
  | .acknowledge operation => do
    let prepared ← r.prepareOperationAcknowledgement operation
    return (prepared, none)

def act (r : TeamRuntime) (action : TeamAction) : Except TeamError (TeamRuntime × Option CommandOutcome) := do
  let (prepared, outcome) ← r.prepareAction action
  return (r.publishEvents prepared, outcome)

/-- Actions one after another, with what they gave. -/
def runActions (r : TeamRuntime) : List TeamAction → Except TeamError (TeamRuntime × List (Option CommandOutcome))
  | [] => return (r, [])
  | action :: actions => do
    let (r, outcome) ← r.act action
    let (r, outcomes) ← r.runActions actions
    return (r, outcome :: outcomes)

end TeamRuntime

/-! ## Events and the limit -/

/-- No event activates an Agent. -/
def Passive (events : List TeamEventKind) : Prop := ∀ event ∈ events, ∀ agent, event ≠ .agentActivated agent

section Limits

variable {s s' : TeamState} {m : Nat}

theorem apply_passive {event : TeamEventKind} (h : ∀ agent, event ≠ .agentActivated agent) (m M : Nat) :
    s.apply event m = s.apply event M := by
  cases event with
  | agentActivated agent => exact absurd rfl (h agent)
  | _ => rfl

theorem applyAll_passive {events : List TeamEventKind} (h : Passive events) (m M : Nat) :
    ∀ {s : TeamState}, s.applyAll m events = s.applyAll M events := by
  induction events with
  | nil => intro s; rfl
  | cons event events ih =>
    intro s
    obtain ⟨hevent, hevents⟩ := List.forall_mem_cons.mp h
    simp only [applyAll, apply_passive hevent m M]
    exact congrArg _ (funext fun s => ih hevents)

/-- The last step of a computation decides what holds of its result. -/
theorem yields_bind {ε α β : Type} {P : β → Prop} {x : Except ε α} {f : α → Except ε β} (h : ∀ a b, f a = .ok b → P b) :
    ∀ b, x >>= f = .ok b → P b := by
  intro b hb
  obtain ⟨a, _, hb⟩ := bind_ok.mp hb
  exact h a b hb

theorem yields_pure {ε α : Type} {P : α → Prop} {a : α} (h : P a) : ∀ b, (pure a : Except ε α) = .ok b → P b := by
  intro b hb
  cases hb
  exact h

theorem plan_passive (r : TeamRuntime) (command : TeamCommand) :
    ∀ x, r.plan command = .ok x → Passive x.1 := by
  have hleaf : ∀ {es : List TeamEventKind} {o : CommandOutcome}, Passive es →
      ∀ x, (pure (es, o) : Except TeamError (List TeamEventKind × CommandOutcome)) = .ok x → Passive x.1 :=
    fun h => yields_pure h
  cases command <;>
    simp only [TeamRuntime.plan, TeamRuntime.planRoot, TeamRuntime.planDelegation, TeamRuntime.planMessage,
      TeamRuntime.planCompletion, TeamRuntime.planFailure, TeamRuntime.planCancellation, TeamRuntime.planRetry] <;>
    (repeat refine yields_bind fun _ => ?_) <;>
    exact hleaf (by simp [Passive])

theorem settlePending_passive {k : TaskId} : ∀ x, s.settlePending k m = .ok x → Passive x.2 := by
  rw [settlePending]
  refine yields_bind fun o => ?_
  cases o with
  | some d => exact yields_bind fun _ => yields_bind fun _ => yields_bind fun _ => yields_pure (by simp [Passive])
  | none =>
    refine yields_bind fun b => ?_
    cases b with
    | true => exact yields_bind fun _ => yields_pure (by simp [Passive])
    | false => exact yields_pure (by simp [Passive])

theorem settleAll_passive (pending : List TaskId) :
    ∀ {s : TeamState} x, settleAll m pending s = .ok x → Passive x.2 := by
  induction pending with
  | nil =>
    intro s x h
    cases h
    simp [Passive]
  | cons k pending ih =>
    intro s x h
    simp only [settleAll, bind_ok, Prod.exists] at h
    obtain ⟨s1, evs1, h1, s2, evs2, h2, h⟩ := h
    cases h
    intro e he
    rcases List.mem_append.mp he with he | he
    · exact settlePending_passive _ h1 e he
    · exact ih _ h2 e he

/-- An activation passes exactly below the limit, and leaves one Active Agent more. -/
theorem activated_ok {agent : AgentId} (h : s.apply (.agentActivated agent) m = .ok s') :
    s'.activeAgentCount = s.activeAgentCount + 1 ∧
      ∀ M, s.activeAgentCount < M → s.apply (.agentActivated agent) M = .ok s' := by
  refine ⟨?_, fun M hM => ?_⟩
  · simp only [apply, applyAgentActivated, TeamState.agent, bind_ok, okOr_ok, require_ok, exists_const, pure, Except.pure,
      Except.ok.injEq] at h
    obtain ⟨_, record, hrecord, hdormant, _, _, _, rfl⟩ := h
    have := OrdMap.countP_insert hrecord (fun agent : AgentRecord => agent.status == .active) { record with status := .active }
    simpa [hdormant, activeAgentCount, setAgent] using this
  · simp only [apply, applyAgentActivated, bind_ok, require_ok] at h ⊢
    obtain ⟨u, _, h⟩ := h
    exact ⟨u, hM, h⟩

theorem started_active {task : TaskId} (h : s.apply (.taskStarted task) m = .ok s') :
    s'.activeAgentCount = s.activeAgentCount := by
  simp only [apply, applyTaskStarted, bind_ok, okOr_ok, require_ok, exists_const, pure, Except.pure, Except.ok.injEq] at h
  obtain ⟨_, _, _, _, _, _, _, _, rfl⟩ := h
  rfl

/-- The second loop's events pass under every limit that the count after them is within. -/
theorem activateReady_limit (fuel : Nat) : ∀ {s s' : TeamState} {evs : List TeamEventKind},
    activateReady m fuel s = .ok (s', evs) → s.activeAgentCount ≤ s'.activeAgentCount ∧
      ∀ M, s'.activeAgentCount ≤ M → s.applyAll M evs = .ok s' := by
  induction fuel with
  | zero =>
    intro s s' evs h
    cases h
    exact ⟨Nat.le_refl _, fun _ _ => rfl⟩
  | succ fuel ih =>
    intro s s' evs h
    rw [activateReady] at h
    split at h
    · split at h
      · cases h
        exact ⟨Nat.le_refl _, fun _ _ => rfl⟩
      · rename_i task _
        simp only [startReady, bind_ok, Prod.exists] at h
        obtain ⟨s1, evs1, ⟨a, _, t1, h1, t2, h2, h3⟩, s2, evs2, h4, h⟩ := h
        cases h3
        cases h
        obtain ⟨hcount, hact⟩ := activated_ok h1
        have hsame := started_active h2
        obtain ⟨hle, happ⟩ := ih h4
        refine ⟨by omega, fun M hM => ?_⟩
        have h1' := hact M (by omega)
        have h2' : t1.apply (.taskStarted task.id) M = .ok s1 := by rw [← apply_passive (fun _ => by simp) m M]; exact h2
        rw [applyAll_append]
        simp only [applyAll, h1', h2', ok_bind, pure, Except.pure]
        exact happ M hM
    · cases h
      exact ⟨Nat.le_refl _, fun _ _ => rfl⟩

theorem reconcile_limit {evs : List TeamEventKind} (h : s.reconcile m = .ok (s', evs)) {M : Nat}
    (hM : s'.activeAgentCount ≤ M) : s.applyAll M evs = .ok s' := by
  simp only [reconcile, bind_ok, Prod.exists] at h
  obtain ⟨s1, evs1, h1, s2, evs2, h2, h⟩ := h
  cases h
  rw [applyAll_append, ← applyAll_passive (settleAll_passive _ _ h1) m M, settleAll_applies _ h1, ok_bind]
  exact (activateReady_limit _ h2).2 M hM

end Limits

/-! ## One transaction -/

section Transaction

variable {n : Nat} {r r' : TeamRuntime} {action : TeamAction} {outcome : Option CommandOutcome}

/-- What a successful action adds to the log, and the state after it. -/
structure Transaction (n' : Nat) (r : TeamRuntime) (kinds : List TeamEventKind) (candidate : TeamState) : Prop where
  nonempty : kinds ≠ []
  applies : ∀ M, candidate.activeAgentCount ≤ M → r.state.applyAll M kinds = .ok candidate
  framing : validateOperationTransaction (number r.nextTransaction (r.eventLog.length + 1) kinds.length kinds) = .ok ()
  fits : ¬ Exhausted r kinds.length
  inv : Inv n' candidate
  journal : Journal (r.nextTransaction + 1) candidate
  quiescent : Quiescent candidate r.maxActiveAgents
  active : candidate.activeAgentCount ≤ r.maxActiveAgents

theorem transaction_of_base (hr : RuntimeInv n r) {n' : Nat} {base : List TeamEventKind} {applied : TeamState}
    {prepared : PreparedTeamEvents} (hne : base ≠ []) (hpassive : Passive base)
    (happ : r.state.applyAll r.maxActiveAgents base = .ok applied)
    (ha : Applied n' (r.nextTransaction + 1) r.state applied) (hp : r.prepareEvents r.nextTransaction base = .ok prepared) :
    ∃ kinds candidate, Transaction n' r kinds candidate ∧
      prepared = transactionOf r r.nextTransaction kinds n' candidate := by
  obtain ⟨added, candidate, h⟩ := prepared_of_applied hr happ ha
  obtain ⟨hframe, hfit, rfl⟩ := prepareEvents_ok h hne hp
  refine ⟨base ++ added, candidate, ⟨List.append_ne_nil_of_left_ne_nil hne added, fun M hM => ?_, hframe, hfit, h.inv,
    h.journal, h.quiescent, h.active⟩, rfl⟩
  rw [applyAll_append, applyAll_passive hpassive M r.maxActiveAgents, happ, ok_bind]
  exact reconcile_limit h.reconciled hM

theorem act_transaction (hr : RuntimeInv n r) (h : r.act action = .ok (r', outcome)) :
    ∃ n' kinds candidate, Transaction n' r kinds candidate ∧
      r' = r.publishEvents (transactionOf r r.nextTransaction kinds n' candidate) := by
  simp only [TeamRuntime.act, bind_ok, Prod.exists] at h
  obtain ⟨prepared, outcome', hprep, h⟩ := h
  cases h
  cases action with
  | dispatch command =>
    simp only [TeamRuntime.prepareAction, TeamRuntime.prepare, bind_ok, Prod.exists] at hprep
    obtain ⟨p, o, ⟨events, o', hplan, tx, htx, p', hp, h1⟩, h2⟩ := hprep
    cases h1
    cases h2
    obtain ⟨rfl, _, _⟩ := freshTransactionId_ok htx
    obtain ⟨n', applied, happ, ha, _⟩ := command_applied hr hplan
    obtain ⟨kinds, candidate, ht, rfl⟩ :=
      transaction_of_base hr (plan_nonempty hr hplan) (plan_passive r command _ hplan) happ ha hp
    exact ⟨n', kinds, candidate, ht, rfl⟩
  | operation operation command =>
    simp only [TeamRuntime.prepareAction, TeamRuntime.prepareOperation, bind_ok, Prod.exists] at hprep
    obtain ⟨p, o, ⟨tx, htx, events, o', hplan, p', hp, h1⟩, h2⟩ := hprep
    cases h1
    cases h2
    obtain ⟨rfl, _, _⟩ := freshTransactionId_ok htx
    have hmark : ∃ s', r.state.applyOperationCommitted operation r.nextTransaction = .ok s' := by
      simp only [TeamRuntime.prepareEvents, applyAll, apply, bind_ok] at hp
      obtain ⟨_, ⟨s', hs', _⟩, _⟩ := hp
      exact ⟨s', hs'⟩
    obtain ⟨s', hs'⟩ := hmark
    obtain ⟨n', applied, happ, ha, _⟩ := operation_applied hr hplan hs'
    have hpassive : Passive (.operationCommitted operation r.nextTransaction :: events) :=
      List.forall_mem_cons.mpr ⟨fun _ => by simp, plan_passive r command _ hplan⟩
    obtain ⟨kinds, candidate, ht, rfl⟩ := transaction_of_base hr (List.cons_ne_nil _ _) hpassive happ ha hp
    exact ⟨n', kinds, candidate, ht, rfl⟩
  | acknowledge operation =>
    simp only [TeamRuntime.prepareAction, TeamRuntime.prepareOperationAcknowledgement, bind_ok, okOr_ok] at hprep
    obtain ⟨p, ⟨record, hrec, tx, htx, hp⟩, h1⟩ := hprep
    cases h1
    obtain ⟨rfl, _, _⟩ := freshTransactionId_ok htx
    obtain ⟨s', hs'⟩ : ∃ s', r.state.applyOperationAcknowledged operation record.transaction r.nextTransaction = .ok s' := by
      simp only [TeamRuntime.prepareEvents, applyAll, apply, bind_ok] at hp
      obtain ⟨_, ⟨s', hs', _⟩, _⟩ := hp
      exact ⟨s', hs'⟩
    obtain ⟨hj, _, ops, rfl⟩ := acknowledged_ok hr.journal hs'
    have happ : r.state.applyAll r.maxActiveAgents
        [.operationAcknowledged operation record.transaction r.nextTransaction] = .ok { r.state with operations := ops } := by
      simp only [applyAll, apply, hs', ok_bind, pure, Except.pure]
    obtain ⟨kinds, candidate, ht, rfl⟩ := transaction_of_base hr (List.cons_ne_nil _ _)
      (List.forall_mem_singleton.mpr fun _ => by simp) happ (applied_of_journal hr rfl hj) hp
    exact ⟨n, kinds, candidate, ht, rfl⟩

end Transaction

/-! ## Replay -/

/-- What the replay loop carries where the run was at `r`. -/
def replayAt (r : TeamRuntime) (activeLimit : Nat) : Replay :=
  ⟨r.state, r.eventLog, r.eventLog.length + 1, r.nextTransaction, activeLimit⟩

/-- The replay loop with the turns it needs. -/
def replayRest (M : Nat) (events : List TeamEvent) (replay : Replay) : Except RecoveryError Replay :=
  replayAll M events.length events replay

section Replay

variable {M : Nat}

/-- More turns than events change nothing. -/
theorem replayAll_fuel (fuel : Nat) : ∀ {events : List TeamEvent} {replay : Replay}, events.length ≤ fuel →
    replayAll M fuel events replay = replayRest M events replay := by
  induction fuel using Nat.strong_induction_on with
  | _ fuel ih =>
  intro events replay hlen
  rw [replayRest]
  cases events with
  | nil => cases fuel <;> rfl
  | cons first rest =>
    obtain ⟨fuel, rfl⟩ : ∃ k, fuel = k + 1 := ⟨fuel - 1, by rw [List.length_cons] at hlen; omega⟩
    rw [List.length_cons] at hlen ⊢
    simp only [replayAll]
    cases hturn : replayTransaction M replay first rest with
    | error e => rfl
    | ok next =>
      have hne : first.eventsInTransaction ≠ 0 := by
        simp only [replayTransaction, bind_ok, require_ok] at hturn
        obtain ⟨_, _, _, _, _, _, _, hne, _⟩ := hturn
        exact hne
      have hdrop : ((first :: rest).drop first.eventsInTransaction).length ≤ rest.length := by
        rw [List.length_drop, List.length_cons]
        omega
      simp only [ok_bind]
      rw [ih fuel (Nat.lt_succ_self _) (Nat.le_trans hdrop (by omega))]
      by_cases heq : rest.length = fuel
      · rw [heq, ih fuel (Nat.lt_succ_self _) (by omega)]
      · rw [ih rest.length (by omega) hdrop]

theorem replayRest_cons {first : TeamEvent} {rest : List TeamEvent} {replay next : Replay}
    (h : replayTransaction M replay first rest = .ok next) (hne : first.eventsInTransaction ≠ 0) :
    replayRest M (first :: rest) replay = replayRest M ((first :: rest).drop first.eventsInTransaction) next := by
  have hdrop : ((first :: rest).drop first.eventsInTransaction).length ≤ rest.length := by
    rw [List.length_drop, List.length_cons]
    omega
  rw [replayRest, List.length_cons]
  simp only [replayAll, h, ok_bind]
  exact replayAll_fuel _ hdrop

/-- The inner loop on the events of one transaction. -/
theorem replayEvents_number {tx first count : Nat} {firstEvent : TeamEvent} (htx : firstEvent.transaction = tx)
    (hcount : firstEvent.eventsInTransaction = count) (kinds : List TeamEventKind) :
    ∀ {offset : Nat} {s s' : TeamState}, first + offset + kinds.length ≤ 2 ^ 64 → s.applyAll M kinds = .ok s' →
      replayEvents firstEvent first M offset
        ((kinds.zipIdx offset).map fun (kind, index) => ⟨first + index, tx, index, count, kind⟩) s = .ok s' := by
  induction kinds with
  | nil =>
    intro offset s s' _ h
    cases h
    rfl
  | cons kind kinds ih =>
    intro offset s s' hfit h
    rw [List.length_cons] at hfit
    simp only [applyAll, bind_ok] at h
    obtain ⟨s1, h1, h⟩ := h
    have hadd : checkedAdd 64 first offset = some (first + offset) := checkedAdd_some.mpr ⟨by omega, rfl⟩
    simp only [List.zipIdx_cons, List.map_cons, replayEvents, hadd, okOr_some, ok_bind, htx, hcount]
    rw [require_bind trivial, require_bind trivial, require_bind trivial, require_bind trivial, h1]
    exact ih (by omega) h

variable {n n' : Nat} {r : TeamRuntime} {kinds : List TeamEventKind} {candidate : TeamState}

/-- One turn of the replay loop takes a transaction of the run. -/
theorem replayTransaction_number (ht : Transaction n' r kinds candidate) (hM : candidate.activeAgentCount ≤ M)
    (hmem : r.eventLog.length + kinds.length + 1 < 2 ^ 64) {activeLimit : Nat} (hlimit : activeLimit ≤ r.maxActiveAgents)
    {first : TeamEvent} {rest : List TeamEvent}
    (hevents : number r.nextTransaction (r.eventLog.length + 1) kinds.length kinds = first :: rest) (more : List TeamEvent) :
    first.eventsInTransaction = kinds.length ∧
      replayTransaction M (replayAt r activeLimit) first (rest ++ more) =
        .ok (replayAt (r.publishEvents (transactionOf r r.nextTransaction kinds n' candidate))
          (max activeLimit candidate.activeAgentCount)) := by
  obtain ⟨kind, kinds', hkinds⟩ := List.exists_cons_of_ne_nil ht.nonempty
  have hcount : first.eventsInTransaction = kinds.length ∧ first.sequence = r.eventLog.length + 1 ∧
      first.transaction = r.nextTransaction ∧ first.indexInTransaction = 0 := by
    obtain ⟨_, _, hcons⟩ := number_cons r.nextTransaction (r.eventLog.length + 1) kinds.length kinds' kind
    rw [← hkinds, hevents] at hcons
    obtain ⟨rfl, _⟩ := List.cons.inj hcons
    exact ⟨rfl, rfl, rfl, rfl⟩
  obtain ⟨hcount, hseq, htx, hindex⟩ := hcount
  refine ⟨hcount, ?_⟩
  have hlen : (first :: rest).length = kinds.length := by rw [← hevents, number_length]
  have htake : (first :: (rest ++ more)).take kinds.length = first :: rest := by
    rw [← List.cons_append, List.take_append_of_le_length (Nat.le_of_eq hlen.symm), List.take_of_length_le (Nat.le_of_eq hlen)]
  have hreplay := @replayEvents_number M r.nextTransaction (r.eventLog.length + 1) kinds.length first htx hcount kinds 0 r.state
    candidate (by omega) (ht.applies M hM)
  rw [← number, hevents] at hreplay
  have hquiet : candidate.validateQuiescent (max activeLimit candidate.activeAgentCount) = .ok () :=
    (validateQuiescent_ok ht.inv).mpr ⟨ht.quiescent.1, fun hlt =>
      ht.quiescent.2 (Nat.lt_of_lt_of_le hlt (Nat.max_le.mpr ⟨hlimit, ht.active⟩))⟩
  have hfit := ht.fits
  simp only [Exhausted, not_or, Nat.not_le] at hfit
  have hnext : checkedAdd 64 (r.eventLog.length + 1) kinds.length = some (r.eventLog.length + 1 + kinds.length) :=
    checkedAdd_some.mpr ⟨by omega, rfl⟩
  have hnextTx : checkedAdd 64 r.nextTransaction 1 = some (r.nextTransaction + 1) := checkedAdd_some.mpr ⟨hfit.2.2, rfl⟩
  have hframing := ht.framing
  rw [hevents] at hframing
  have hpos : first.eventsInTransaction ≠ 0 := by
    rw [hcount, hkinds]
    exact Nat.succ_ne_zero _
  have havailable : first.eventsInTransaction ≤ (first :: (rest ++ more)).length := by
    rw [hcount, ← hlen, ← List.cons_append, List.length_append]
    exact Nat.le_add_right _ _
  rw [replayTransaction, require_bind (show first.sequence = (replayAt r activeLimit).expectedSequence from hseq),
    require_bind (show first.transaction = (replayAt r activeLimit).expectedTransaction from htx), require_bind hindex,
    require_bind hpos]
  dsimp only
  rw [require_bind havailable]
  simp only [hcount, htake, hframing, replayAt, hreplay, ht.inv.validate ht.journal hM, hquiet, hnext, hnextTx, atEvent,
    okOr_some, ok_bind]
  simp only [TeamRuntime.publishEvents, transactionOf, hevents, List.length_append, hlen, pure, Except.pure, Except.ok.injEq,
    Replay.mk.injEq, true_and, and_true]
  omega

/-- A recovery takes a transaction of the run, and is then where the run was after it. -/
theorem replayRest_transaction (ht : Transaction n' r kinds candidate) (hM : candidate.activeAgentCount ≤ M)
    (hmem : r.eventLog.length + kinds.length + 1 < 2 ^ 64) {activeLimit : Nat} (hlimit : activeLimit ≤ r.maxActiveAgents)
    (more : List TeamEvent) :
    replayRest M (number r.nextTransaction (r.eventLog.length + 1) kinds.length kinds ++ more) (replayAt r activeLimit) =
      replayRest M more (replayAt (r.publishEvents (transactionOf r r.nextTransaction kinds n' candidate))
        (max activeLimit candidate.activeAgentCount)) := by
  have hpos := List.length_pos_iff.mpr ht.nonempty
  have hne : number r.nextTransaction (r.eventLog.length + 1) kinds.length kinds ≠ [] := by
    rwa [← List.length_pos_iff, number_length]
  obtain ⟨first, rest, hevents⟩ := List.exists_cons_of_ne_nil hne
  obtain ⟨hcount, hturn⟩ := replayTransaction_number ht hM hmem hlimit hevents more
  have hlen : (first :: rest).length = kinds.length := by rw [← hevents, number_length]
  rw [hevents, List.cons_append, replayRest_cons hturn (by rw [hcount]; exact hpos.ne'), hcount, ← List.cons_append,
    List.drop_left' hlen]

/-- A transaction that is cut off is refused. -/
theorem replayRest_torn (ht : Transaction n' r kinds candidate) {j : Nat} (hj : 0 < j) (hlt : j < kinds.length)
    (activeLimit : Nat) :
    replayRest M ((number r.nextTransaction (r.eventLog.length + 1) kinds.length kinds).take j) (replayAt r activeLimit) =
      .error (.incompleteTransaction r.nextTransaction kinds.length j) := by
  obtain ⟨kind, kinds', hkinds⟩ := List.exists_cons_of_ne_nil ht.nonempty
  obtain ⟨rest, hrest, hcons⟩ := number_cons r.nextTransaction (r.eventLog.length + 1) kinds.length kinds' kind
  rw [← hkinds] at hcons
  obtain ⟨j, rfl⟩ : ∃ k, j = k + 1 := ⟨j - 1, by omega⟩
  have hlen : (rest.take j).length = j := by
    have := congrArg List.length hrest
    rw [List.length_map] at this
    rw [hkinds, List.length_cons] at hlt
    rw [List.length_take]
    omega
  rw [hcons, List.take_succ_cons, replayRest, List.length_cons]
  simp only [replayAll, replayTransaction, replayAt]
  rw [require_bind trivial, require_bind trivial, require_bind trivial, require_bind (by omega),
    require_bind_neg (by rw [List.length_cons, hlen]; omega)]
  rw [List.length_cons, hlen]
  rfl

end Replay

/-! ## Runs -/

section Run

variable {r r' : TeamRuntime} {action : TeamAction} {outcome : Option CommandOutcome}

theorem Reach.act (hr : Reach r) (h : r.act action = .ok (r', outcome)) : Reach r' := by
  simp only [TeamRuntime.act, bind_ok, Prod.exists] at h
  obtain ⟨prepared, outcome', hprep, h⟩ := h
  cases h
  cases action with
  | dispatch command =>
    simp only [TeamRuntime.prepareAction, bind_ok, Prod.exists] at hprep
    obtain ⟨p, o, hp, hprep⟩ := hprep
    cases hprep
    have hdispatch : r.dispatch command = .ok (r.publishEvents prepared, o) := by
      rw [TeamRuntime.dispatch, hp]
      rfl
    exact .dispatch hr trivial hdispatch
  | operation operation command =>
    simp only [TeamRuntime.prepareAction, bind_ok, Prod.exists] at hprep
    obtain ⟨p, o, hp, hprep⟩ := hprep
    cases hprep
    exact .operation hr trivial hp
  | acknowledge operation =>
    simp only [TeamRuntime.prepareAction, bind_ok] at hprep
    obtain ⟨p, hp, hprep⟩ := hprep
    cases hprep
    exact .acknowledge hr hp

/-- In every state of the run, at most `limit` Agents are active at once. -/
def PeakWithin (r : TeamRuntime) (actions : List TeamAction) (limit : Nat) : Prop :=
  ∀ before after r' outcomes, actions = before ++ after → r.runActions before = .ok (r', outcomes) →
    r'.state.activeAgentCount ≤ limit

theorem PeakWithin.start {actions : List TeamAction} {limit : Nat} (h : PeakWithin r actions limit) :
    r.state.activeAgentCount ≤ limit := h [] actions r [] rfl rfl

theorem PeakWithin.tail {actions : List TeamAction} {limit : Nat} (h : PeakWithin r (action :: actions) limit)
    (hact : r.act action = .ok (r', outcome)) : PeakWithin r' actions limit := by
  intro before after r'' outcomes heq hrun
  refine h (action :: before) after r'' (outcome :: outcomes) (by rw [heq, List.cons_append]) ?_
  simp only [TeamRuntime.runActions, hact, ok_bind, hrun]
  rfl

theorem PeakWithin.before {before after : List TeamAction} {limit : Nat} (h : PeakWithin r (before ++ after) limit) :
    PeakWithin r before limit := by
  intro first second r' outcomes heq hrun
  exact h first (second ++ after) r' outcomes (by rw [heq, List.append_assoc]) hrun

theorem runActions_split (before after : List TeamAction) : ∀ {r r' : TeamRuntime} {outcomes : List (Option CommandOutcome)},
    r.runActions (before ++ after) = .ok (r', outcomes) → ∃ rk os os', r.runActions before = .ok (rk, os) ∧
      rk.runActions after = .ok (r', os') := by
  induction before with
  | nil =>
    intro r r' outcomes h
    exact ⟨r, [], outcomes, rfl, h⟩
  | cons action before ih =>
    intro r r' outcomes h
    simp only [List.cons_append, TeamRuntime.runActions, bind_ok, Prod.exists] at h
    obtain ⟨r1, o, h1, r2, os, h2, h⟩ := h
    cases h
    obtain ⟨rk, os, os', hbefore, hafter⟩ := ih h2
    exact ⟨rk, o :: os, os', by simp only [TeamRuntime.runActions, h1, ok_bind, hbefore]; rfl, hafter⟩

/-- What a run leaves, and that a recovery meets it in turn. -/
structure RunsTo (M : Nat) (r r' : TeamRuntime) (tail : List TeamEvent) : Prop where
  reach : Reach r'
  limit : r'.maxActiveAgents = r.maxActiveAgents
  authority : r'.runtimeAuthority = r.runtimeAuthority
  eventLog : r'.eventLog = r.eventLog ++ tail
  replays : ∀ activeLimit ≤ r.maxActiveAgents, ∃ activeLimit' ≤ r.maxActiveAgents, ∀ more,
    replayRest M (tail ++ more) (replayAt r activeLimit) = replayRest M more (replayAt r' activeLimit')

/-- The log only grows. -/
theorem runActions_log (actions : List TeamAction) : ∀ {r r' : TeamRuntime} {outcomes : List (Option CommandOutcome)},
    r.runActions actions = .ok (r', outcomes) → r.eventLog <+: r'.eventLog := by
  induction actions with
  | nil =>
    intro r r' outcomes h
    cases h
    exact List.prefix_rfl
  | cons action actions ih =>
    intro r r' outcomes h
    simp only [TeamRuntime.runActions, TeamRuntime.act, bind_ok, Prod.exists] at h
    obtain ⟨r1, o, ⟨prepared, o', _, h1⟩, r2, os, h2, h⟩ := h
    cases h1
    cases h
    exact (List.prefix_append _ _).trans (ih h2)

theorem act_limit (hr : Reach r) (h : r.act action = .ok (r', outcome)) : r'.maxActiveAgents = r.maxActiveAgents := by
  obtain ⟨n, hinv⟩ := hr.inv.1
  obtain ⟨n', kinds, candidate, _, rfl⟩ := act_transaction hinv h
  rfl

/-- Within its own limit a run always stays. -/
theorem peakWithin_own (actions : List TeamAction) : ∀ {r : TeamRuntime}, Reach r →
    PeakWithin r actions r.maxActiveAgents := by
  intro r hr before after r' outcomes heq hrun
  clear heq
  induction before generalizing r outcomes with
  | nil =>
    cases hrun
    obtain ⟨n, hinv⟩ := hr.inv.1
    exact hinv.active
  | cons action before ih =>
    simp only [TeamRuntime.runActions, bind_ok, Prod.exists] at hrun
    obtain ⟨r1, o, h1, r2, os, h2, h⟩ := hrun
    cases h
    exact act_limit hr h1 ▸ ih (hr.act h1) os h2

theorem runActions_replays {M : Nat} (actions : List TeamAction) :
    ∀ {r r' : TeamRuntime} {outcomes : List (Option CommandOutcome)}, Reach r → r.runActions actions = .ok (r', outcomes) →
      PeakWithin r actions M → r'.eventLog.length + 1 < 2 ^ 64 → ∃ tail, RunsTo M r r' tail := by
  induction actions with
  | nil =>
    intro r r' outcomes hr h _ _
    cases h
    exact ⟨[], hr, rfl, rfl, by rw [List.append_nil], fun activeLimit hle => ⟨activeLimit, hle, fun _ => rfl⟩⟩
  | cons action actions ih =>
    intro r r' outcomes hr h hpeak hmem
    simp only [TeamRuntime.runActions, bind_ok, Prod.exists] at h
    obtain ⟨r1, o, h1, r2, os, h2, h⟩ := h
    cases h
    obtain ⟨n, hinv⟩ := hr.inv.1
    have hr1 := hr.act h1
    obtain ⟨n', kinds, candidate, ht, rfl⟩ := act_transaction hinv h1
    obtain ⟨tail, hrest⟩ := ih hr1 h2 (hpeak.tail h1) hmem
    have hlog : (r.publishEvents (transactionOf r r.nextTransaction kinds n' candidate)).eventLog =
        r.eventLog ++ number r.nextTransaction (r.eventLog.length + 1) kinds.length kinds := rfl
    have hlen : r.eventLog.length + kinds.length + 1 < 2 ^ 64 := by
      have hle := (runActions_log _ h2).length_le
      rw [hlog, List.length_append, number_length] at hle
      omega
    refine ⟨number r.nextTransaction (r.eventLog.length + 1) kinds.length kinds ++ tail, hrest.reach, hrest.limit,
      hrest.authority, by rw [hrest.eventLog, hlog, List.append_assoc], fun activeLimit hle => ?_⟩
    obtain ⟨limit', hle', hmore⟩ := hrest.replays (max activeLimit candidate.activeAgentCount)
      (Nat.max_le.mpr ⟨hle, ht.active⟩)
    refine ⟨limit', hle', fun more => ?_⟩
    rw [List.append_assoc, replayRest_transaction ht (hpeak.tail h1).start hlen hle, hmore]

end Run

/-! ## Sessions of another authority -/

def AgentSession.rename (ρ : Nat → Nat) (session : AgentSession) : AgentSession :=
  ⟨session.agent, ρ session.runtimeAuthority⟩

def TeamCommand.rename (ρ : Nat → Nat) : TeamCommand → TeamCommand
  | .admitRoot task budget capabilities => .admitRoot task budget capabilities
  | .delegate parent task budget capabilities => .delegate (parent.rename ρ) task budget capabilities
  | .delegateWithModelPreset parent task budget capabilities preset =>
    .delegateWithModelPreset (parent.rename ρ) task budget capabilities preset
  | .sendMessage sender recipient body => .sendMessage (sender.rename ρ) recipient body
  | .complete agent capsule => .complete (agent.rename ρ) capsule
  | .fail agent reason => .fail (agent.rename ρ) reason
  | .cancel agent reason => .cancel (agent.rename ρ) reason
  | .retry requester agent => .retry (requester.rename ρ) agent

def CommandOutcome.rename (ρ : Nat → Nat) : CommandOutcome → CommandOutcome
  | .rootAdmitted task agent session => .rootAdmitted task agent (session.rename ρ)
  | .delegated task agent session => .delegated task agent (session.rename ρ)
  | outcome => outcome

def TeamAction.rename (ρ : Nat → Nat) : TeamAction → TeamAction
  | .dispatch command => .dispatch (command.rename ρ)
  | .operation id command => .operation id (command.rename ρ)
  | .acknowledge id => .acknowledge id

/-- The Runtime with its authority renamed, and nothing else changed. -/
def TeamRuntime.rename (ρ : Nat → Nat) (r : TeamRuntime) : TeamRuntime :=
  { r with runtimeAuthority := ρ r.runtimeAuthority }

section Rename

variable {ρ : Nat → Nat} {r : TeamRuntime}

/-- Two computations that start the same agree up to `k` if they do from there on. -/
theorem bind_map {ε α β γ : Type} {x : Except ε α} {f : α → Except ε γ} {g : α → Except ε β} {k : β → γ}
    (h : ∀ a, f a = (g a).map k) : (x >>= f) = (x >>= g).map k := by
  cases x with
  | error e => rfl
  | ok a => exact h a

theorem authenticate_rename (hρ : Function.Injective ρ) (session : AgentSession) :
    (r.rename ρ).authenticate (session.rename ρ) = r.authenticate session := by
  by_cases h : session.runtimeAuthority = r.runtimeAuthority
  · rw [TeamRuntime.authenticate, TeamRuntime.authenticate, require_bind h,
      require_bind (show (session.rename ρ).runtimeAuthority = (r.rename ρ).runtimeAuthority from congrArg ρ h)]
    rfl
  · rw [TeamRuntime.authenticate, TeamRuntime.authenticate, require_bind_neg h,
      require_bind_neg (show ¬ (session.rename ρ).runtimeAuthority = (r.rename ρ).runtimeAuthority from fun h' => h (hρ h'))]
    rfl

/-- A plan's events and outcome, with the Sessions renamed. -/
def renamePlan (ρ : Nat → Nat) (plan : List TeamEventKind × CommandOutcome) : List TeamEventKind × CommandOutcome :=
  (plan.1, plan.2.rename ρ)

theorem planDelegation_rename (parent : AgentId) (task : TaskSpec) (budget : ResourceBudget) (capabilities : CapabilitySnapshot)
    (preset : Option InheritedModelPreset) :
    (r.rename ρ).planDelegation parent task budget capabilities preset =
      (r.planDelegation parent task budget capabilities preset).map (renamePlan ρ) := by
  simp only [TeamRuntime.planDelegation]
  repeat refine bind_map fun _ => ?_
  rfl

theorem plan_rename (hρ : Function.Injective ρ) (command : TeamCommand) :
    (r.rename ρ).plan (command.rename ρ) = (r.plan command).map (renamePlan ρ) := by
  cases command with
  | admitRoot task budget capabilities =>
    simp only [TeamCommand.rename, TeamRuntime.plan, TeamRuntime.planRoot]
    repeat refine bind_map fun _ => ?_
    rfl
  | delegate parent task budget capabilities =>
    simp only [TeamCommand.rename, TeamRuntime.plan, authenticate_rename hρ]
    exact bind_map fun _ => planDelegation_rename ..
  | delegateWithModelPreset parent task budget capabilities preset =>
    simp only [TeamCommand.rename, TeamRuntime.plan, authenticate_rename hρ]
    exact bind_map fun _ => planDelegation_rename ..
  | sendMessage | complete | fail | cancel | retry =>
    simp only [TeamCommand.rename, TeamRuntime.plan, authenticate_rename hρ]
    refine bind_map fun _ => ?_
    simp only [TeamRuntime.planMessage, TeamRuntime.planCompletion, TeamRuntime.planFailure, TeamRuntime.planCancellation,
      TeamRuntime.planRetry]
    repeat refine bind_map fun _ => ?_
    rfl

theorem prepare_rename (hρ : Function.Injective ρ) (command : TeamCommand) :
    (r.rename ρ).prepare (command.rename ρ) = (r.prepare command).map fun x => (x.1, x.2.rename ρ) := by
  simp only [TeamRuntime.prepare, plan_rename hρ]
  cases r.plan command with
  | error e => rfl
  | ok plan => exact bind_map (x := r.freshTransactionId) fun _ => bind_map fun _ => rfl

theorem prepareOperation_rename (hρ : Function.Injective ρ) (operation : TeamOperationId) (command : TeamCommand) :
    (r.rename ρ).prepareOperation operation (command.rename ρ) =
      (r.prepareOperation operation command).map fun x => (x.1, x.2.rename ρ) := by
  simp only [TeamRuntime.prepareOperation, plan_rename hρ]
  refine bind_map (x := r.freshTransactionId) fun _ => ?_
  cases r.plan command with
  | error e => rfl
  | ok plan =>
    obtain ⟨kinds, outcome⟩ := plan
    exact bind_map (x := r.prepareEvents _ _) fun _ => rfl

theorem prepareAction_rename (hρ : Function.Injective ρ) (action : TeamAction) :
    (r.rename ρ).prepareAction (action.rename ρ) = (r.prepareAction action).map fun x => (x.1, x.2.map (·.rename ρ)) := by
  cases action with
  | dispatch command =>
    simp only [TeamAction.rename, TeamRuntime.prepareAction, prepare_rename hρ]
    cases r.prepare command <;> rfl
  | operation operation command =>
    simp only [TeamAction.rename, TeamRuntime.prepareAction, prepareOperation_rename hρ]
    cases r.prepareOperation operation command <;> rfl
  | acknowledge operation => exact bind_map (x := r.prepareOperationAcknowledgement operation) fun _ => rfl

theorem act_rename (hρ : Function.Injective ρ) (action : TeamAction) :
    (r.rename ρ).act (action.rename ρ) = (r.act action).map fun x => (x.1.rename ρ, x.2.map (·.rename ρ)) := by
  simp only [TeamRuntime.act, prepareAction_rename hρ]
  cases r.prepareAction action <;> rfl

/-- Renamed, a run gives the same events and answers. -/
theorem runActions_rename (hρ : Function.Injective ρ) (actions : List TeamAction) : ∀ {r : TeamRuntime},
    (r.rename ρ).runActions (actions.map (·.rename ρ)) =
      (r.runActions actions).map fun x => (x.1.rename ρ, x.2.map (·.map (·.rename ρ))) := by
  induction actions with
  | nil => intro r; rfl
  | cons action actions ih =>
    intro r
    simp only [List.map_cons, TeamRuntime.runActions, act_rename hρ]
    cases r.act action with
    | error e => rfl
    | ok x =>
      show ((x.1.rename ρ).runActions _ >>= _) = (x.1.runActions actions >>= _).map _
      rw [ih]
      cases x.1.runActions actions <;> rfl

end Rename

/-! ## Recovery gives the run back -/

/-- All that a caller sees of a Runtime but its limit and authority. -/
structure SameTeam (r r' : TeamRuntime) : Prop where
  snapshot : r'.snapshot = r.snapshot
  eventLog : r'.eventLog = r.eventLog
  operationRecords : r'.operationRecords = r.operationRecords
  nextTask : r'.nextTask = r.nextTask
  nextAgent : r'.nextAgent = r.nextAgent
  nextMessage : r'.nextMessage = r.nextMessage
  nextTransaction : r'.nextTransaction = r.nextTransaction
  nextOperationId : r'.nextOperationId = r.nextOperationId

section Refines

variable {m limit authority fresh : Nat} {r0 r : TeamRuntime} {actions : List TeamAction}
  {outcomes : List (Option CommandOutcome)}

/-- From the start of a run, the replay loop comes to where the run is. -/
theorem replayRest_run (hnew : TeamRuntime.new m authority = .ok r0) (hrun : r0.runActions actions = .ok (r, outcomes))
    (hmem : r.eventLog.length + 1 < 2 ^ 64) (hpeak : PeakWithin r0 actions limit) :
    Reach r ∧ r.maxActiveAgents = m ∧ r.runtimeAuthority = authority ∧
      ∃ activeLimit, ∀ more, replayRest limit (r.eventLog ++ more) ⟨.default, [], 1, 1, 1⟩ =
        replayRest limit more (replayAt r activeLimit) := by
  have hreach : Reach r0 := .new hnew
  obtain ⟨tail, hruns⟩ := runActions_replays actions hreach hrun hpeak hmem
  simp only [TeamRuntime.new, bind_ok, require_ok, exists_const] at hnew
  obtain ⟨hne, hnew⟩ := hnew
  cases hnew
  obtain ⟨activeLimit, _, hreplays⟩ := hruns.replays 1 (Nat.one_le_iff_ne_zero.mpr hne)
  refine ⟨hruns.reach, hruns.limit, hruns.authority, activeLimit, fun more => ?_⟩
  rw [hruns.eventLog]
  exact hreplays more

/-- A replay loop that comes to a Runtime gives it back. -/
theorem recover_of_replay {n activeLimit : Nat} (hr : RuntimeInv n r) (hlimit : limit ≠ 0)
    (hloop : replayRest limit r.eventLog ⟨.default, [], 1, 1, 1⟩ = .ok (replayAt r activeLimit)) :
    TeamRuntime.recover limit fresh r.eventLog = .ok { r with maxActiveAgents := limit, runtimeAuthority := fresh } := by
  obtain ⟨c, hc⟩ := hr.journal.messages
  have hclen : c = r.state.messages.length := by
    have := congrArg List.length hc
    rw [List.length_map, List.length_range'] at this
    exact this.symm
  have hmessages : nextIdentifier (r.state.messages.map (·.id)) = .ok (r.state.messages.length + 1) := by
    rw [hc, hclen]
    exact nextIdentifier_range hr.messagesFit
  rw [replayRest] at hloop
  rw [TeamRuntime.recover, require_bind hlimit, hloop]
  simp only [ok_bind, replayAt, nextIdentifier_tasks hr.state hr.tasksFit, nextIdentifier_agents hr.state hr.tasksFit,
    hmessages, atEvent, ← hr.nextTask, ← hr.nextMessage]
  rw [hr.nextTask, ← hr.nextAgent]
  rfl

theorem recover_run (hnew : TeamRuntime.new m authority = .ok r0) (hrun : r0.runActions actions = .ok (r, outcomes))
    (hmem : r.eventLog.length + 1 < 2 ^ 64) (hlimit : limit ≠ 0) (hpeak : PeakWithin r0 actions limit) :
    TeamRuntime.recover limit fresh r.eventLog = .ok { r with maxActiveAgents := limit, runtimeAuthority := fresh } := by
  obtain ⟨hreach, _, _, activeLimit, hreplay⟩ := replayRest_run hnew hrun hmem hpeak
  have hall := hreplay []
  rw [List.append_nil] at hall
  obtain ⟨n, hr⟩ := hreach.inv.1
  exact recover_of_replay hr hlimit hall

/-- A recovery whose last transaction is cut off. -/
theorem recover_torn (hnew : TeamRuntime.new m authority = .ok r0) (hrun : r0.runActions actions = .ok (r, outcomes))
    (hmem : r.eventLog.length + 1 < 2 ^ 64) (hlimit : limit ≠ 0) (hpeak : PeakWithin r0 actions limit) {action : TeamAction}
    {r' : TeamRuntime} {outcome : Option CommandOutcome} (hact : r.act action = .ok (r', outcome)) :
    ∃ events, r'.eventLog = r.eventLog ++ events ∧ ∀ j, 0 < j → j < events.length →
      TeamRuntime.recover limit fresh (r.eventLog ++ events.take j) =
        .error (.incompleteTransaction r.nextTransaction events.length j) := by
  obtain ⟨hreach, _, _, activeLimit, hreplay⟩ := replayRest_run hnew hrun hmem hpeak
  obtain ⟨n, hr⟩ := hreach.inv.1
  obtain ⟨n', kinds, candidate, ht, rfl⟩ := act_transaction hr hact
  refine ⟨number r.nextTransaction (r.eventLog.length + 1) kinds.length kinds, rfl, fun j hj hlt => ?_⟩
  rw [number_length] at hlt ⊢
  have htorn := (hreplay _).trans (replayRest_torn (M := limit) ht hj hlt activeLimit)
  rw [replayRest] at htorn
  rw [TeamRuntime.recover, require_bind hlimit, htorn]
  rfl

/-- What recovery owes to a state of a run, wherever the log is then cut: the Team as it was, under another authority
its future too, and a refusal of the next transaction in part. -/
structure RecoversTo (limit m fresh : Nat) (r rr : TeamRuntime) : Prop where
  recovered : TeamRuntime.recover limit fresh r.eventLog = .ok rr
  same : SameTeam r rr
  future : limit = m → ∀ ρ : Nat → Nat, Function.Injective ρ → ρ r.runtimeAuthority = fresh → ∀ later,
    rr.runActions (later.map (·.rename ρ)) =
      (r.runActions later).map fun x => (x.1.rename ρ, x.2.map (·.map (·.rename ρ)))
  torn : ∀ action r' outcome, r.act action = .ok (r', outcome) → ∃ events, r'.eventLog = r.eventLog ++ events ∧
    ∀ j, 0 < j → j < events.length → TeamRuntime.recover limit fresh (r.eventLog ++ events.take j) =
      .error (.incompleteTransaction r.nextTransaction events.length j)

end Refines

/-- A `Vec` holds fewer than 2^63 events, which is all `hmem` asks for. -/
theorem recovery_refines {m limit authority fresh : Nat} {r0 r : TeamRuntime} {actions : List TeamAction}
    {outcomes : List (Option CommandOutcome)} (hnew : TeamRuntime.new m authority = .ok r0)
    (hrun : r0.runActions actions = .ok (r, outcomes)) (hmem : r.eventLog.length < 2 ^ 63) (hlimit : limit ≠ 0)
    (hpeak : PeakWithin r0 actions limit) :
    ∀ before after, actions = before ++ after → ∃ rk os, r0.runActions before = .ok (rk, os) ∧
      rk.eventLog <+: r.eventLog ∧ ∃ rr, RecoversTo limit m fresh rk rr := by
  rintro before after rfl
  obtain ⟨rk, os, os', hbefore, hafter⟩ := runActions_split before after hrun
  have hlog := runActions_log after hafter
  have hmem' : rk.eventLog.length + 1 < 2 ^ 64 := by
    have := hlog.length_le
    omega
  obtain ⟨_, hm, _, _⟩ := replayRest_run hnew hbefore hmem' hpeak.before
  refine ⟨rk, os, hbefore, hlog, _, recover_run hnew hbefore hmem' hlimit hpeak.before, ⟨rfl, rfl, rfl, rfl, rfl, rfl, rfl, rfl⟩,
    ?_, fun action r' outcome hact => recover_torn hnew hbefore hmem' hlimit hpeak.before hact⟩
  rintro rfl ρ hρ rfl later
  have hsame : { rk with maxActiveAgents := limit, runtimeAuthority := ρ rk.runtimeAuthority } = rk.rename ρ := by
    rw [← hm]
    rfl
  rw [hsame]
  exact runActions_rename hρ later

/-- A root and a child of it, both running, recovered under the limit of the run. -/
theorem recovery_refines_delegated : ∃ r0 actions r outcomes, TeamRuntime.new 2 7 = .ok r0 ∧ actions.length = 2 ∧
    r0.runActions actions = .ok (r, outcomes) ∧ r.eventLog.length = 14 ∧
    ∀ before after, actions = before ++ after → ∃ rk os, r0.runActions before = .ok (rk, os) ∧
      rk.eventLog <+: r.eventLog ∧ ∃ rr, RecoversTo 2 2 8 rk rr := by
  obtain ⟨⟨r, outcomes⟩, hrun, hlength⟩ := okAnd_iff.mp (show okAnd (TeamRuntime.runActions ⟨2, 7, .default, [], 1, 1, 1, 1⟩
    [.dispatch (.admitRoot ⟨"Plan", {"src", "docs"}, []⟩ ⟨10, 2, by decide, by decide⟩ {.network}),
      .operation 1 (.delegate ⟨1, 7⟩ ⟨"Part", {"src"}, []⟩ ⟨4, 1, by decide, by decide⟩ ∅)])
    (fun x => x.1.eventLog.length == 14) = true by decide +kernel)
  have hlen : r.eventLog.length = 14 := by simpa using hlength
  exact ⟨_, _, r, outcomes, rfl, rfl, hrun, hlen, recovery_refines rfl hrun (by rw [hlen]; decide) (by decide)
    (peakWithin_own _ (@RunOf.new _ 2 7 _ rfl))⟩

end GreenTyper.Team
