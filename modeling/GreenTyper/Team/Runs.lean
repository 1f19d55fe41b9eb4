/-
  GreenTyper.Team.Runs — the runs of a Team: commands, operations and their
  acknowledgements, and recoveries from the event log, each under a limit of its own.

  A recovery applies the logged events again. What an event does depends on the limit
  only in that a smaller one may refuse it (`TeamState.applyAll_agree`), so a recovery
  that succeeds gives back the state that was logged (`recover_ok`). With that, every
  Runtime of a run has the invariant of `GreenTyper.Team.Commands` (`Reach.inv`).
-/

import GreenTyper.Team.Transactions

namespace GreenTyper.Team

open GreenTyper.Lib TeamState
open TeamRuntime (number)

/-- The Runtimes of a run of commands that meet `guard` where they are given. A new
    Runtime has its own authority and limit; a recovered one reads the log of the
    Runtime before it. -/
inductive RunOf (guard : TeamRuntime → TeamCommand → Prop) : TeamRuntime → Prop
  | new {limit authority : Nat} {r : TeamRuntime} : TeamRuntime.new limit authority = .ok r → RunOf guard r
  | dispatch {r r' : TeamRuntime} {command : TeamCommand} {outcome : CommandOutcome} :
      RunOf guard r → guard r command → r.dispatch command = .ok (r', outcome) → RunOf guard r'
  | operation {r : TeamRuntime} {operation : TeamOperationId} {command : TeamCommand} {prepared : PreparedTeamEvents}
      {outcome : CommandOutcome} : RunOf guard r → guard r command →
      r.prepareOperation operation command = .ok (prepared, outcome) → RunOf guard (r.publishEvents prepared)
  | acknowledge {r : TeamRuntime} {operation : TeamOperationId} {prepared : PreparedTeamEvents} :
      RunOf guard r → r.prepareOperationAcknowledgement operation = .ok prepared → RunOf guard (r.publishEvents prepared)
  | recover {r r' : TeamRuntime} {limit authority : Nat} :
      RunOf guard r → TeamRuntime.recover limit authority r.eventLog = .ok r' → RunOf guard r'

/-- The Runtimes of any run. -/
abbrev Reach : TeamRuntime → Prop := RunOf fun _ _ => True

theorem RunOf.reach {guard : TeamRuntime → TeamCommand → Prop} {r : TeamRuntime} (h : RunOf guard r) : Reach r := by
  induction h with
  | new h => exact .new h
  | dispatch _ _ h ih => exact .dispatch ih trivial h
  | operation _ _ h ih => exact .operation ih trivial h
  | acknowledge _ h ih => exact .acknowledge ih h
  | recover _ h ih => exact .recover ih h

/-- Commands one after another. -/
def TeamRuntime.dispatchAll (r : TeamRuntime) : List TeamCommand → Except TeamError TeamRuntime
  | [] => return r
  | command :: commands => do
    let (r, _) ← r.dispatch command
    r.dispatchAll commands

/-- Each command meets `guard` where it is given. -/
def TeamRuntime.Guarded (guard : TeamRuntime → TeamCommand → Prop) (r : TeamRuntime) : List TeamCommand → Prop
  | [] => True
  | command :: commands =>
    guard r command ∧ ∀ r' outcome, r.dispatch command = .ok (r', outcome) → r'.Guarded guard commands

theorem RunOf.dispatchAll {guard : TeamRuntime → TeamCommand → Prop} {commands : List TeamCommand} :
    ∀ {r r' : TeamRuntime}, RunOf guard r → r.Guarded guard commands → r.dispatchAll commands = .ok r' → RunOf guard r' := by
  induction commands with
  | nil =>
    intro r r' hr _ h
    cases h
    exact hr
  | cons command commands ih =>
    intro r r' hr hg h
    simp only [TeamRuntime.dispatchAll, bind_ok, Prod.exists] at h
    obtain ⟨r1, outcome, h1, h⟩ := h
    exact ih (.dispatch hr hg.1 h1) (hg.2 r1 outcome h1) h

theorem guarded_true (commands : List TeamCommand) : ∀ r : TeamRuntime, r.Guarded (fun _ _ => True) commands := by
  induction commands with
  | nil => intro _; exact trivial
  | cons command commands ih => intro r; exact ⟨trivial, fun r' _ _ => ih r'⟩

theorem Reach.dispatchAll {r r' : TeamRuntime} {commands : List TeamCommand} (hr : Reach r)
    (h : r.dispatchAll commands = .ok r') : Reach r' := RunOf.dispatchAll hr (guarded_true commands r) h

/-- The log leads to the state, and its last transaction is the one before the next. -/
structure Logged (r : TeamRuntime) : Prop where
  replays : ∃ m, TeamState.default.applyAll m (r.eventLog.map (·.kind)) = .ok r.state
  next : r.nextTransaction = (r.eventLog.getLast?.map (·.transaction)).getD 0 + 1

/-! ## The journal's own events -/

section JournalEvents

variable {next : Nat} {s s' : TeamState} {operation : TeamOperationId}

theorem TeamState.Journal.next_operation (hj : Journal next s) : ∃ c, s.operations.keys = List.range' 1 c ∧
    (c + 1 < 2 ^ 64 → nextIdentifier s.operations.keys = .ok (c + 1)) ∧
    ∀ o, nextIdentifier s.operations.keys = .ok o → o = c + 1 := by
  obtain ⟨c, hc⟩ := hj.operations
  refine ⟨c, hc, fun h => by rw [hc]; exact nextIdentifier_range h, fun o ho => ?_⟩
  by_cases hfit : c + 1 < 2 ^ 64
  · rw [hc, nextIdentifier_range hfit] at ho
    cases ho
    rfl
  · have hmax : (List.range' 1 c).foldl max 0 = c := by
      refine foldl_max (fun k hk => ?_) ?_
      · have := List.mem_range'_1.mp hk
        omega
      · rcases Nat.eq_zero_or_pos c with h | h
        · exact Or.inl h
        · exact Or.inr (List.mem_range'_1.mpr (by omega))
    have hnone : checkedAdd 64 c 1 = none := if_neg hfit
    rw [hc, nextIdentifier, hmax, hnone] at ho
    cases ho

/-- A new operation's record. -/
theorem TeamState.Journal.commit (hj : Journal next s) {c : Nat} (hc : s.operations.keys = List.range' 1 c)
    (hlt : c + 1 < maxIdentifier) (hne : next ≠ 0) (hs : s'.operations = s.operations.insert (c + 1) ⟨next, none⟩)
    (hm : s'.messages = s.messages) : Journal (next + 1) s' := by
  refine ⟨⟨c + 1, ?_⟩, fun o record ho => ?_, by rw [hm]; exact hj.messages⟩
  · rw [hs, OrdMap.keys_insert_last, hc, List.range'_concat, Nat.one_mul, Nat.add_comm 1 c]
    intro k hk
    rw [hc] at hk
    have := List.mem_range'_1.mp hk
    omega
  · rw [hs, OrdMap.get_insert] at ho
    split at ho
    · rename_i heq
      cases ho
      exact ⟨heq ▸ hlt, hne, Nat.lt_succ_self next, nofun⟩
    · obtain ⟨h1, h2, h3, h4⟩ := hj.operation o record ho
      exact ⟨h1, h2, Nat.lt_succ_of_lt h3, h4⟩

/-- The marker's check that the operation is the next one. -/
theorem committed_ok (hj : Journal next s) (h : s.applyOperationCommitted operation next = .ok s') :
    Journal (next + 1) s' ∧ s' = { s with operations := s.operations.insert operation ⟨next, none⟩ } := by
  obtain ⟨c, hc, _, hnext⟩ := hj.next_operation
  simp only [applyOperationCommitted, validateStoredIdentifier, bind_ok, require_ok, exists_const, pure, Except.pure,
    Except.ok.injEq] at h
  obtain ⟨⟨_, hlt⟩, ⟨hne, _⟩, o, ho, rfl, _, rfl⟩ := h
  obtain rfl := hnext _ ho
  exact ⟨hj.commit hc hlt hne rfl rfl, rfl⟩

theorem committed_applies (hj : Journal next s) (hnext : next ≠ 0 ∧ next < maxIdentifier)
    (h : nextIdentifier s.operations.keys = .ok operation) (hlt : operation < maxIdentifier) :
    s.applyOperationCommitted operation next =
      .ok { s with operations := s.operations.insert operation ⟨next, none⟩ } := by
  obtain ⟨c, hc, _, huniq⟩ := hj.next_operation
  obtain rfl := huniq _ h
  have hfree : s.operations.contains (c + 1) = false := by
    rw [Bool.eq_false_iff]
    intro hcon
    have hk := OrdMap.mem_keys.mpr (OrdMap.contains_iff.mp hcon)
    rw [hc] at hk
    have := List.mem_range'_1.mp hk
    omega
  simp only [applyOperationCommitted, validateStoredIdentifier_ok (Nat.succ_ne_zero c) hlt,
    validateStoredIdentifier_ok hnext.1 hnext.2, h, hfree, ok_bind]
  rw [require_bind trivial, require_bind trivial]
  rfl

/-- An acknowledgement's record. -/
theorem acknowledged_ok (hj : Journal next s) {committed : TransactionId}
    (h : s.applyOperationAcknowledged operation committed next = .ok s') :
    Journal (next + 1) s' ∧ committed < next ∧ ∃ ops, s' = { s with operations := ops } := by
  simp only [applyOperationAcknowledged, validateStoredIdentifier, bind_ok, require_ok, okOr_ok, exists_const, pure,
    Except.pure, Except.ok.injEq] at h
  obtain ⟨_, _, _, record, hrec, rfl, _, rfl⟩ := h
  obtain ⟨hlt, hne, hbefore, _⟩ := hj.operation operation record hrec
  refine ⟨⟨?_, fun o record' ho => ?_, hj.messages⟩, hbefore, _, rfl⟩
  · obtain ⟨c, hc⟩ := hj.operations
    exact ⟨c, by rw [OrdMap.keys_insert_some hrec]; exact hc⟩
  · rw [OrdMap.get_insert] at ho
    split at ho
    · rename_i heq
      cases ho
      exact ⟨heq ▸ hlt, hne, Nat.lt_succ_of_lt hbefore, fun t ht => by cases ht; exact hbefore⟩
    · obtain ⟨h1, h2, h3, h4⟩ := hj.operation o record' ho
      exact ⟨h1, h2, Nat.lt_succ_of_lt h3, h4⟩

theorem acknowledged_applies (hj : Journal next s) (hnext : next ≠ 0 ∧ next < maxIdentifier) {record : OperationRecord}
    (h : s.operations.get operation = some record) (hopen : record.acknowledgementTransaction = none) :
    s.applyOperationAcknowledged operation record.transaction next =
      .ok { s with operations := s.operations.insert operation ⟨record.transaction, some next⟩ } := by
  obtain ⟨hlt, hne, hbefore, _⟩ := hj.operation operation record h
  have hone : operation ≠ 0 := by
    obtain ⟨c, hc⟩ := hj.operations
    have hk := OrdMap.mem_keys.mpr ⟨record, h⟩
    rw [hc] at hk
    have := (List.mem_range'_1.mp hk).1
    exact Nat.one_le_iff_ne_zero.mp this
  simp only [applyOperationAcknowledged, validateStoredIdentifier_ok hone hlt,
    validateStoredIdentifier_ok hne (Nat.lt_trans hbefore hnext.2), validateStoredIdentifier_ok hnext.1 hnext.2, h,
    okOr_some, ok_bind]
  rw [require_bind trivial, require_bind hopen]
  rfl

end JournalEvents

/-! ## One step -/

section Step

variable {n : Nat} {r : TeamRuntime}

theorem applied_of_journal (hr : RuntimeInv n r) {s' : TeamState} {ops : OrdMap Nat OperationRecord}
    (hs : s' = { r.state with operations := ops }) (hj : Journal (r.nextTransaction + 1) s') :
    Applied n (r.nextTransaction + 1) r.state s' := by
  subst hs
  exact ⟨hr.state.congr rfl rfl rfl, hj, Nat.le_refl _, hr.tasksFit, hr.messagesFit⟩

/-- The base events of an accepted operation apply, its marker first. -/
theorem operation_applied (hr : RuntimeInv n r) {command : TeamCommand} {events : List TeamEventKind}
    {outcome : CommandOutcome} (h : r.plan command = .ok (events, outcome)) {operation : TeamOperationId} {s' : TeamState}
    (hmark : r.state.applyOperationCommitted operation r.nextTransaction = .ok s') :
    ∃ n' applied, r.state.applyAll r.maxActiveAgents (.operationCommitted operation r.nextTransaction :: events) =
      .ok applied ∧ Applied n' (r.nextTransaction + 1) r.state applied ∧ ∃ ops, Change n { r.state with operations := ops } command applied := by
  obtain ⟨hj, rfl⟩ := committed_ok hr.journal hmark
  obtain ⟨_, n', applied, happ, ha, hc⟩ := plan_applies hr h r.maxActiveAgents _ hj
  refine ⟨n', applied, ?_, ⟨ha.inv, ha.journal, ha.active, ha.tasksFit, ha.messagesFit⟩, _, hc⟩
  show (r.state.applyOperationCommitted operation r.nextTransaction >>= fun s => s.applyAll r.maxActiveAgents events) = _
  rw [hmark, ok_bind]
  exact happ

/-- The base events of an accepted command apply. -/
theorem command_applied (hr : RuntimeInv n r) {command : TeamCommand} {events : List TeamEventKind}
    {outcome : CommandOutcome} (h : r.plan command = .ok (events, outcome)) :
    ∃ n' applied, r.state.applyAll r.maxActiveAgents events = .ok applied ∧
      Applied n' (r.nextTransaction + 1) r.state applied ∧ ∃ ops, Change n { r.state with operations := ops } command applied := by
  obtain ⟨_, n', applied, happ, ha, hc⟩ := plan_applies hr h r.maxActiveAgents r.state.operations
    (hr.journal.mono (Nat.le_succ r.nextTransaction))
  exact ⟨n', applied, happ, ha, _, hc⟩

theorem plan_nonempty (hr : RuntimeInv n r) {command : TeamCommand} {events : List TeamEventKind}
    {outcome : CommandOutcome} (h : r.plan command = .ok (events, outcome)) : events ≠ [] := by
  rintro rfl
  obtain ⟨⟨⟨kind, hk⟩, _⟩, _⟩ := plan_applies hr h r.maxActiveAgents r.state.operations hr.journal
  cases hk

theorem freshTransactionId_ok {tx : TransactionId} (h : r.freshTransactionId = .ok tx) :
    tx = r.nextTransaction ∧ r.nextTransaction ≠ 0 ∧ r.nextTransaction < maxIdentifier := freshIdentifier_ok h

/-- `prepared` is a transaction of base events that led to `applied`. -/
structure StepTo (n' : Nat) (r : TeamRuntime) (applied : TeamState) (prepared : PreparedTeamEvents) : Prop where
  prepares : ∃ base, base ≠ [] ∧ r.state.applyAll r.maxActiveAgents base = .ok applied ∧
    r.prepareEvents r.nextTransaction base = .ok prepared
  applied : Applied n' (r.nextTransaction + 1) r.state applied

theorem prepare_step (hr : RuntimeInv n r) {command : TeamCommand} {prepared : PreparedTeamEvents}
    {outcome : CommandOutcome} (h : r.prepare command = .ok (prepared, outcome)) :
    ∃ n' applied, StepTo n' r applied prepared ∧ ∃ ops, Change n { r.state with operations := ops } command applied := by
  simp only [TeamRuntime.prepare, bind_ok, Prod.exists] at h
  obtain ⟨events, outcome, hplan, tx, htx, p, hp, h⟩ := h
  cases h
  obtain ⟨rfl, _, _⟩ := freshTransactionId_ok htx
  obtain ⟨n', applied, happ, ha, hc⟩ := command_applied hr hplan
  exact ⟨n', applied, ⟨⟨events, plan_nonempty hr hplan, happ, hp⟩, ha⟩, hc⟩

theorem prepareOperation_step (hr : RuntimeInv n r) {operation : TeamOperationId} {command : TeamCommand}
    {prepared : PreparedTeamEvents} {outcome : CommandOutcome}
    (h : r.prepareOperation operation command = .ok (prepared, outcome)) :
    ∃ n' applied, StepTo n' r applied prepared ∧ ∃ ops, Change n { r.state with operations := ops } command applied := by
  simp only [TeamRuntime.prepareOperation, bind_ok, Prod.exists] at h
  obtain ⟨tx, htx, events, outcome, hplan, p, hp, h⟩ := h
  cases h
  obtain ⟨rfl, _, _⟩ := freshTransactionId_ok htx
  have hmark : ∃ s', r.state.applyOperationCommitted operation r.nextTransaction = .ok s' := by
    simp only [TeamRuntime.prepareEvents, applyAll, apply, bind_ok] at hp
    obtain ⟨_, ⟨s', hs', _⟩, _⟩ := hp
    exact ⟨s', hs'⟩
  obtain ⟨s', hs'⟩ := hmark
  obtain ⟨n', applied, happ, ha, hc⟩ := operation_applied hr hplan hs'
  exact ⟨n', applied, ⟨⟨_, List.cons_ne_nil _ _, happ, hp⟩, ha⟩, hc⟩

theorem acknowledgement_step (hr : RuntimeInv n r) {operation : TeamOperationId} {prepared : PreparedTeamEvents}
    (h : r.prepareOperationAcknowledgement operation = .ok prepared) :
    ∃ ops, StepTo n r { r.state with operations := ops } prepared := by
  simp only [TeamRuntime.prepareOperationAcknowledgement, bind_ok, okOr_ok] at h
  obtain ⟨record, hrec, tx, htx, hp⟩ := h
  obtain ⟨rfl, _, _⟩ := freshTransactionId_ok htx
  have happ : ∃ s', r.state.applyOperationAcknowledged operation record.transaction r.nextTransaction = .ok s' := by
    simp only [TeamRuntime.prepareEvents, applyAll, apply, bind_ok] at hp
    obtain ⟨_, ⟨s', hs', _⟩, _⟩ := hp
    exact ⟨s', hs'⟩
  obtain ⟨s', hs'⟩ := happ
  obtain ⟨hj, _, ops, rfl⟩ := acknowledged_ok hr.journal hs'
  refine ⟨ops, ⟨⟨_, List.cons_ne_nil _ _, ?_, hp⟩, applied_of_journal hr rfl hj⟩⟩
  simp only [applyAll, apply, hs', ok_bind, pure, Except.pure]

/-- Publishing keeps the invariant and the log. -/
theorem publish_inv (hr : RuntimeInv n r) (hl : Logged r) {n' : Nat} {applied : TeamState} {prepared : PreparedTeamEvents}
    (hs : StepTo n' r applied prepared) : RuntimeInv n' (r.publishEvents prepared) ∧ Logged (r.publishEvents prepared) := by
  obtain ⟨⟨base, hne, happ, hp⟩, ha⟩ := hs
  obtain ⟨added, candidate, h⟩ := prepared_of_applied hr happ ha
  obtain ⟨_, _, rfl⟩ := prepareEvents_ok h hne hp
  refine ⟨⟨hr.limit, h.inv, h.quiescent.1, h.journal, h.active, rfl, rfl, rfl, h.tasksFit, h.messagesFit⟩, ?_, ?_⟩
  · obtain ⟨m, hm⟩ := hl.replays
    refine ⟨max m r.maxActiveAgents, ?_⟩
    show TeamState.default.applyAll _ ((r.eventLog ++ number _ _ _ _).map (·.kind)) = .ok candidate
    rw [List.map_append, number_kinds, applyAll_append, applyAll_mono (Nat.le_max_left _ _) hm, ok_bind, applyAll_append,
      applyAll_mono (Nat.le_max_right _ _) h.applies, ok_bind]
    exact applyAll_mono (Nat.le_max_right _ _) h.adds
  · show r.nextTransaction + 1 = (((r.eventLog ++ number _ _ _ _).getLast?).map (·.transaction)).getD 0 + 1
    obtain ⟨k, ks, hk⟩ := List.exists_cons_of_ne_nil (List.append_ne_nil_of_left_ne_nil hne added)
    have hlast : ∀ e ∈ number r.nextTransaction (r.eventLog.length + 1) (base ++ added).length (base ++ added),
        e.transaction = r.nextTransaction := by
      intro e he
      simp only [number, List.mem_map, Prod.exists] at he
      obtain ⟨_, _, _, rfl⟩ := he
      rfl
    have hnn : number r.nextTransaction (r.eventLog.length + 1) (base ++ added).length (base ++ added) ≠ [] := by
      rw [← List.length_pos_iff, number_length, hk]
      exact Nat.succ_pos _
    rw [List.getLast?_append_of_ne_nil _ hnn, List.getLast?_eq_some_getLast hnn, Option.map_some, Option.getD_some,
      hlast _ (List.getLast_mem hnn)]

end Step

/-! ## Recovery -/

theorem atEvent_ok {α : Type} {sequence : EventSeq} {x : Except TeamError α} {a : α} :
    atEvent sequence x = .ok a ↔ x = .ok a := by
  cases x <;> simp [atEvent]

section Recover

variable {m : Nat} {replay next : Replay} {first : TeamEvent} {rest : List TeamEvent}

theorem replayEvents_ok {sequence : Nat} (events : List TeamEvent) :
    ∀ {offset : Nat} {s s' : TeamState}, replayEvents first sequence m offset events s = .ok s' →
      s.applyAll m (events.map (·.kind)) = .ok s' ∧ ∀ e ∈ events, e.transaction = first.transaction := by
  induction events with
  | nil =>
    intro offset s s' h
    cases h
    exact ⟨rfl, nofun⟩
  | cons e events ih =>
    intro offset s s' h
    simp only [replayEvents, bind_ok, require_ok, atEvent_ok] at h
    obtain ⟨_, _, _, _, _, htx, _, _, _, _, s1, h1, h⟩ := h
    obtain ⟨happ, hall⟩ := ih h
    refine ⟨?_, List.forall_mem_cons.mpr ⟨htx, hall⟩⟩
    show (s.apply e.kind m >>= fun s => s.applyAll m (events.map (·.kind))) = _
    rw [h1, ok_bind]
    exact happ

/-- What the replay loop carries after the events of `done`. -/
structure Replayed (m : Nat) (done : List TeamEvent) (replay : Replay) : Prop where
  state : TeamState.default.applyAll m (done.map (·.kind)) = .ok replay.state
  eventLog : replay.eventLog = done
  next : replay.expectedTransaction = (done.getLast?.map (·.transaction)).getD 0 + 1
  active : replay.state.activeAgentCount ≤ m

/-- One transaction more. -/
theorem replayTransaction_ok {done : List TeamEvent} (hr : Replayed m done replay)
    (h : replayTransaction m replay first rest = .ok next) :
    first.eventsInTransaction ≠ 0 ∧ Replayed m (done ++ (first :: rest).take first.eventsInTransaction) next := by
  simp only [replayTransaction, bind_ok, require_ok, atEvent_ok, okOr_ok, checkedAdd_some, TeamState.validate] at h
  obtain ⟨_, _, _, htx, _, _, _, hne, _, hle, _, _, candidate, hevents, _, ⟨_, hactive, _⟩, _, _, _, _, _, ⟨_, rfl⟩, h⟩ := h
  cases h
  obtain ⟨happ, hall⟩ := replayEvents_ok _ hevents
  refine ⟨hne, ⟨?_, by rw [hr.eventLog], ?_, hactive⟩⟩
  · rw [List.map_append, applyAll_append, hr.state, ok_bind]
    exact happ
  · have hnn : (first :: rest).take first.eventsInTransaction ≠ [] := by
      rw [← List.length_pos_iff, List.length_take]
      exact Nat.lt_min.mpr ⟨Nat.pos_of_ne_zero hne, Nat.succ_pos _⟩
    rw [List.getLast?_append_of_ne_nil _ hnn, List.getLast?_eq_some_getLast hnn, Option.map_some, Option.getD_some,
      hall _ (List.getLast_mem hnn), htx]

theorem replayAll_ok (fuel : Nat) :
    ∀ {done events : List TeamEvent} {replay final : Replay}, events.length ≤ fuel → Replayed m done replay →
      replayAll m fuel events replay = .ok final → Replayed m (done ++ events) final := by
  induction fuel with
  | zero =>
    intro done events replay final hlen hr h
    cases h
    rw [List.length_eq_zero_iff.mp (Nat.le_zero.mp hlen), List.append_nil]
    exact hr
  | succ fuel ih =>
    intro done events replay final hlen hr h
    cases events with
    | nil =>
      cases h
      rw [List.append_nil]
      exact hr
    | cons first rest =>
      simp only [replayAll, bind_ok] at h
      obtain ⟨next, h1, h⟩ := h
      obtain ⟨hne, hr'⟩ := replayTransaction_ok hr h1
      have hlen' : ((first :: rest).drop first.eventsInTransaction).length ≤ fuel := by
        rw [List.length_drop]
        have := Nat.pos_of_ne_zero hne
        omega
      have := ih hlen' hr' h
      rwa [List.append_assoc, List.take_append_drop] at this

/-- A recovery that succeeds gives the logged state back, under the new limit. -/
theorem recover_ok {r r' : TeamRuntime} {limit authority : Nat} (hl : Logged r)
    (h : TeamRuntime.recover limit authority r.eventLog = .ok r') :
    limit ≠ 0 ∧ r.state.activeAgentCount ≤ limit ∧ ∃ nextTask nextAgent nextMessage,
      nextIdentifier r.state.tasks.keys = .ok nextTask ∧ nextIdentifier r.state.agents.keys = .ok nextAgent ∧
      nextIdentifier (r.state.messages.map (·.id)) = .ok nextMessage ∧
      r' = ⟨limit, authority, r.state, r.eventLog, nextTask, nextAgent, nextMessage, r.nextTransaction⟩ := by
  simp only [TeamRuntime.recover, bind_ok, require_ok, atEvent_ok] at h
  obtain ⟨_, hlimit, final, hall, nt, hnt, na, hna, nm, hnm, h⟩ := h
  have hr := replayAll_ok r.eventLog.length (Nat.le_refl _) ⟨rfl, rfl, rfl, Nat.zero_le limit⟩ hall
  rw [List.nil_append] at hr
  obtain ⟨m, hm⟩ := hl.replays
  have hstate : final.state = r.state := applyAll_agree hr.state hm
  rw [hstate] at hnt hna hnm h
  refine ⟨hlimit, hstate ▸ hr.active, nt, na, nm, hnt, hna, hnm, ?_⟩
  rw [hr.eventLog, hr.next, ← hl.next] at h
  cases h
  rfl

theorem recover_inv {n : Nat} {r r' : TeamRuntime} {limit authority : Nat} (hr : RuntimeInv n r) (hl : Logged r)
    (h : TeamRuntime.recover limit authority r.eventLog = .ok r') : RuntimeInv n r' ∧ Logged r' := by
  obtain ⟨hlimit, hactive, nt, na, nm, hnt, hna, hnm, rfl⟩ := recover_ok hl h
  rw [nextIdentifier_tasks hr.state hr.tasksFit] at hnt
  rw [nextIdentifier_agents hr.state hr.tasksFit] at hna
  obtain ⟨c, hc⟩ := hr.journal.messages
  have hclen : c = r.state.messages.length := by
    have := congrArg List.length hc
    rw [List.length_map, List.length_range'] at this
    exact this.symm
  rw [hc, hclen, nextIdentifier_range hr.messagesFit] at hnm
  cases hnt
  cases hna
  cases hnm
  exact ⟨⟨hlimit, hr.state, hr.settled, hr.journal, hactive, rfl, rfl, rfl, hr.tasksFit, hr.messagesFit⟩, hl.replays, hl.next⟩

end Recover

/-! ## Every Runtime of a run -/

theorem new_inv {limit authority : Nat} {r : TeamRuntime} (h : TeamRuntime.new limit authority = .ok r) :
    RuntimeInv 0 r ∧ Logged r := by
  simp only [TeamRuntime.new, bind_ok, require_ok, exists_const] at h
  obtain ⟨hlimit, h⟩ := h
  cases h
  exact ⟨⟨hlimit, inv_default, nofun, journal_default 1, Nat.zero_le _, rfl, rfl, rfl, by decide,
    show 0 + 1 < 2 ^ 64 by decide⟩, ⟨0, rfl⟩, rfl⟩

theorem Reach.inv {r : TeamRuntime} (h : Reach r) : (∃ n, RuntimeInv n r) ∧ Logged r := by
  induction h with
  | new h => exact ⟨⟨0, (new_inv h).1⟩, (new_inv h).2⟩
  | dispatch _ _ h ih =>
    obtain ⟨⟨n, hr⟩, hl⟩ := ih
    simp only [TeamRuntime.dispatch, bind_ok, Prod.exists] at h
    obtain ⟨prepared, outcome, hp, h⟩ := h
    cases h
    obtain ⟨n', applied, hs, _⟩ := prepare_step hr hp
    exact ⟨⟨n', (publish_inv hr hl hs).1⟩, (publish_inv hr hl hs).2⟩
  | operation _ _ h ih =>
    obtain ⟨⟨n, hr⟩, hl⟩ := ih
    obtain ⟨n', applied, hs, _⟩ := prepareOperation_step hr h
    exact ⟨⟨n', (publish_inv hr hl hs).1⟩, (publish_inv hr hl hs).2⟩
  | acknowledge _ h ih =>
    obtain ⟨⟨n, hr⟩, hl⟩ := ih
    obtain ⟨ops, hs⟩ := acknowledgement_step hr h
    exact ⟨⟨n, (publish_inv hr hl hs).1⟩, (publish_inv hr hl hs).2⟩
  | recover _ h ih =>
    obtain ⟨⟨n, hr⟩, hl⟩ := ih
    exact ⟨⟨n, (recover_inv hr hl h).1⟩, (recover_inv hr hl h).2⟩

/-- What a new Runtime has, publishing keeps and a recovery keeps, every Runtime of a run
    has. -/
theorem Reach.induct {P : TeamRuntime → Prop}
    (new : ∀ {limit authority : Nat} {r : TeamRuntime}, TeamRuntime.new limit authority = .ok r → P r)
    (publish : ∀ {n n' : Nat} {r : TeamRuntime} {applied : TeamState} {prepared : PreparedTeamEvents}, RuntimeInv n r →
      P r → StepTo n' r applied prepared → P (r.publishEvents prepared))
    (recover : ∀ {limit authority : Nat} {r r' : TeamRuntime}, Logged r →
      TeamRuntime.recover limit authority r.eventLog = .ok r' → P r → P r')
    {r : TeamRuntime} (h : Reach r) : P r := by
  induction h with
  | new h => exact new h
  | dispatch hr _ h ih =>
    obtain ⟨n, hinv⟩ := (Reach.inv hr).1
    simp only [TeamRuntime.dispatch, bind_ok, Prod.exists] at h
    obtain ⟨prepared, outcome, hp, h⟩ := h
    cases h
    obtain ⟨_, _, hs, _⟩ := prepare_step hinv hp
    exact publish hinv ih hs
  | operation hr _ h ih =>
    obtain ⟨n, hinv⟩ := (Reach.inv hr).1
    obtain ⟨_, _, hs, _⟩ := prepareOperation_step hinv h
    exact publish hinv ih hs
  | acknowledge hr h ih =>
    obtain ⟨n, hinv⟩ := (Reach.inv hr).1
    obtain ⟨_, hs⟩ := acknowledgement_step hinv h
    exact publish hinv ih hs
  | recover hr h ih => exact recover (Reach.inv hr).2 h ih

/-- A step's transaction: its events, under the next id. -/
theorem StepTo.transaction {n n' : Nat} {r : TeamRuntime} {applied : TeamState} {prepared : PreparedTeamEvents}
    (hr : RuntimeInv n r) (hs : StepTo n' r applied prepared) : ∃ kinds candidate, kinds ≠ [] ∧
      validateOperationTransaction (number r.nextTransaction (r.eventLog.length + 1) kinds.length kinds) = .ok () ∧
      ¬ Exhausted r kinds.length ∧ Quiescent candidate r.maxActiveAgents ∧
      prepared = transactionOf r r.nextTransaction kinds n' candidate := by
  obtain ⟨⟨base, hne, happ, hp⟩, ha⟩ := hs
  obtain ⟨added, candidate, h⟩ := prepared_of_applied hr happ ha
  obtain ⟨hframe, hfit, rfl⟩ := prepareEvents_ok h hne hp
  exact ⟨base ++ added, candidate, List.append_ne_nil_of_left_ne_nil hne added, hframe, hfit, h.quiescent, rfl⟩

end GreenTyper.Team
