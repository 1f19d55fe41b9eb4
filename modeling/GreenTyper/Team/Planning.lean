/-
  GreenTyper.Team.Planning — planning and application agree: whatever command a Runtime
  of a run plans, its transaction is prepared, unless identifiers run out.

  The planner checks a command against the state; the events it plans are checked again
  as they are applied, reconciliation adds events of its own, and two validators look at
  the result. None of these refuses what the planner accepted.
-/

import GreenTyper.Team.Runs

namespace GreenTyper.Team

open GreenTyper.Lib TeamState
open TeamRuntime (number)

/-- An accepted command is carried out: its events `base` apply, reconciliation ends with
    the events `added`, which apply too, both validators pass, and `prepare` gives the
    complete transaction unless identifiers run out. -/
structure CarriedOut (r : TeamRuntime) (base added : List TeamEventKind) (applied candidate : TeamState)
    (tx : TransactionId) : Prop where
  applies : r.state.applyAll r.maxActiveAgents base = .ok applied
  reconciles : applied.reconcile r.maxActiveAgents = .ok (candidate, added)
  adds : applied.applyAll r.maxActiveAgents added = .ok candidate
  settled : candidate.activeAgentCount < r.maxActiveAgents → candidate.nextReady = none
  validate : candidate.validate r.maxActiveAgents = .ok ()
  validateQuiescent : candidate.validateQuiescent r.maxActiveAgents = .ok ()
  prepares : ¬ Exhausted r (base ++ added).length → ∃ prepared, r.prepareEvents tx base = .ok prepared ∧
    prepared.candidate = candidate ∧ prepared.transaction = tx ∧
    prepared.events = number tx (r.eventLog.length + 1) (base ++ added).length (base ++ added)
  exhausts : Exhausted r (base ++ added).length → r.prepareEvents tx base = .error .identifierExhausted

theorem carriedOut {n' : Nat} {r : TeamRuntime} {base added : List TeamEventKind} {applied candidate : TeamState}
    {tx : TransactionId} (h : Prepared n' r base added applied candidate) (hne : base ≠ [])
    (hframe : validateOperationTransaction (number tx (r.eventLog.length + 1) (base ++ added).length (base ++ added)) = .ok ()) :
    CarriedOut r base added applied candidate tx := by
  refine ⟨h.applies, h.reconciled, h.adds, h.quiescent.2, h.validate, h.validateQuiescent, fun hfit => ?_, fun hexh => ?_⟩
  · refine ⟨transactionOf r tx (base ++ added) n' candidate, ?_, rfl, rfl, rfl⟩
    rw [prepareEvents_framing h hne hfit, hframe, ok_bind]
  · exact prepareEvents_exhausted h hne hexh hframe

/-- Whatever is planned is carried out: as a command, in the transaction that is next, and
    as the next operation, behind its marker. -/
theorem accepted_command_prepares {r : TeamRuntime} (hr : Reach r) {command : TeamCommand} {events : List TeamEventKind}
    {outcome : CommandOutcome} (h : r.plan command = .ok (events, outcome)) :
    (∃ added applied candidate, ∀ tx, CarriedOut r events added applied candidate tx) ∧
    (∀ tx operation, r.freshTransactionId = .ok tx → r.nextOperationId = .ok operation →
      ∃ added applied candidate, CarriedOut r (.operationCommitted operation tx :: events) added applied candidate tx) := by
  obtain ⟨⟨n, hinv⟩, _⟩ := hr.inv
  obtain ⟨⟨⟨kind, hkind⟩, hunmarked⟩, _⟩ := plan_applies hinv h r.maxActiveAgents r.state.operations hinv.journal
  constructor
  · obtain ⟨n', applied, happ, ha, _⟩ := command_applied hinv h
    obtain ⟨added, candidate, hprep⟩ := prepared_of_applied hinv happ ha
    exact ⟨added, applied, candidate, fun tx => carriedOut hprep (plan_nonempty hinv h)
      (command_framing (Unmarked.append hunmarked hprep.routine.unmarked))⟩
  · intro tx operation htx hop
    obtain ⟨rfl, hnext⟩ := freshTransactionId_ok htx
    simp only [TeamRuntime.nextOperationId, bind_ok] at hop
    obtain ⟨next, hnextOp, hfresh⟩ := hop
    obtain ⟨rfl, _, hlt⟩ := freshIdentifier_ok hfresh
    obtain ⟨n', applied, happ, ha, _⟩ := operation_applied hinv h (committed_applies hinv.journal hnext hnextOp hlt)
    obtain ⟨added, candidate, hprep⟩ := prepared_of_applied hinv happ ha
    refine ⟨added, applied, candidate, carriedOut hprep (List.cons_ne_nil _ _) ?_⟩
    refine operation_framing (k := kind) (Unmarked.append hunmarked hprep.routine.unmarked) ?_
    show (events ++ added).filterMap (·.operationKind) = [kind]
    rw [List.filterMap_append, hkind, List.filterMap_eq_nil_iff.mpr fun e he => (hprep.routine e he).1]
    rfl

/-- A root with a scope, on a new Runtime. -/
theorem accepted_command_prepares_root :
    (∃ added applied candidate, ∀ tx, CarriedOut ⟨2, 7, .default, [], 1, 1, 1, 1⟩
      [.taskCreated 1 ⟨"Plan", {"src"}, []⟩, .agentCreated 1 1 none ⟨10, 2, by decide, by decide⟩ ∅ none,
        .taskOwnerAssigned 1 1] added applied candidate tx) ∧
    (∀ tx operation, TeamRuntime.freshTransactionId ⟨2, 7, .default, [], 1, 1, 1, 1⟩ = .ok tx →
      TeamRuntime.nextOperationId ⟨2, 7, .default, [], 1, 1, 1, 1⟩ = .ok operation →
      ∃ added applied candidate, CarriedOut ⟨2, 7, .default, [], 1, 1, 1, 1⟩
        (.operationCommitted operation tx :: [.taskCreated 1 ⟨"Plan", {"src"}, []⟩,
          .agentCreated 1 1 none ⟨10, 2, by decide, by decide⟩ ∅ none, .taskOwnerAssigned 1 1]) added applied candidate tx) :=
  @accepted_command_prepares ⟨2, 7, .default, [], 1, 1, 1, 1⟩ (@RunOf.new _ 2 7 _ rfl)
    (.admitRoot ⟨" Plan ", {"src"}, []⟩ ⟨10, 2, by decide, by decide⟩ ∅) _ (.rootAdmitted 1 1 ⟨1, 7⟩) (by decide +kernel)

end GreenTyper.Team
