/-
  GreenTyper.Team.Reconcile — what reconciliation does to a Team state with the
  invariant of `GreenTyper.Team.Invariant`.

  The first loop meets the Pending Tasks in the order of their ids, and dependencies
  have smaller ids: a Task is settled when its dependencies no longer change, so one
  pass settles all (`settleAll_ok`). The second loop starts the first Ready Task while
  there is room; each turn leaves one Ready Task less, so its bound is never what ends
  it (`activateReady_ok`). Neither loop fails, and neither changes what is terminal
  (`reconcile_ok`).
-/

import GreenTyper.Team.Runtime
import GreenTyper.Team.Invariant

namespace GreenTyper.Team

open GreenTyper.Lib

namespace TeamState

/-! ## Dependencies -/

/-- A dependency of the Task that ended badly, or all of them succeeded. -/
def Failing (s : TeamState) (t : TaskRecord) : Prop :=
  ∃ d, d ∈ t.spec.dependencies ∧ ∃ td, s.tasks.get d = some td ∧ td.status.blocksDependents = true

def Succeeding (s : TeamState) (t : TaskRecord) : Prop :=
  ∀ d, d ∈ t.spec.dependencies → ∀ td, s.tasks.get d = some td → td.status = .succeeded

/-- No Pending Task has its dependencies resolved. -/
def Settled (s : TeamState) : Prop :=
  ∀ k t, s.tasks.get k = some t → t.status = .pending → ¬ s.Failing t ∧ ¬ s.Succeeding t

section Dependencies

variable {n : Nat} {s : TeamState} {k : Nat} {t : TaskRecord}

theorem dependenciesSucceeded_ok (h : Inv n s) (ht : s.tasks.get k = some t) :
    ∃ b, s.dependenciesSucceeded k = .ok b ∧ (b = true ↔ s.Succeeding t) := by
  have hfold : ∀ (ds : List TaskId), (∀ d ∈ ds, ∃ td, s.tasks.get d = some td) → ∀ all : Bool,
      ∃ b, ds.foldlM (fun all dependency => do
          let dependencyRecord ← s.task dependency
          return all && dependencyRecord.status == .succeeded) all = Except.ok b ∧
        (b = true ↔ all = true ∧ ∀ d ∈ ds, ∀ td, s.tasks.get d = some td → td.status = .succeeded) := by
    intro ds
    induction ds with
    | nil => intro _ all; exact ⟨all, rfl, by simp⟩
    | cons d ds ih =>
      intro hds all
      obtain ⟨td, htd⟩ := hds d List.mem_cons_self
      obtain ⟨b, hb, hiff⟩ := ih (fun x hx => hds x (List.mem_cons_of_mem d hx)) (all && td.status == .succeeded)
      refine ⟨b, ?_, ?_⟩
      · rw [List.foldlM_cons, task_ok htd]
        exact hb
      · rw [hiff, Bool.and_eq_true, beq_iff_eq, List.forall_mem_cons, htd]
        simp only [Option.some.injEq, forall_eq', and_assoc]
  obtain ⟨b, hb, hiff⟩ := hfold t.spec.dependencies (fun d hd => h.dependency ht hd) true
  refine ⟨b, ?_, hiff.trans ⟨fun hb => hb.2, fun hb => ⟨rfl, hb⟩⟩⟩
  rw [dependenciesSucceeded, task_ok ht]
  exact hb

theorem firstFailedDependency_ok (h : Inv n s) (ht : s.tasks.get k = some t) :
    ∃ o, s.firstFailedDependency k = .ok o ∧ (o = none ↔ ¬ s.Failing t) ∧
      ∀ d, o = some d → d ∈ t.spec.dependencies ∧ ∃ td, s.tasks.get d = some td ∧ td.status.blocksDependents = true := by
  have hwalk : ∀ (ds : List TaskId), (∀ d ∈ ds, ∃ td, s.tasks.get d = some td) →
      ∃ o, s.firstFailedOf ds = .ok o ∧
        (o = none ↔ ¬ ∃ d, d ∈ ds ∧ ∃ td, s.tasks.get d = some td ∧ td.status.blocksDependents = true) ∧
        ∀ d, o = some d → d ∈ ds ∧ ∃ td, s.tasks.get d = some td ∧ td.status.blocksDependents = true := by
    intro ds
    induction ds with
    | nil => intro _; exact ⟨none, rfl, by simp, nofun⟩
    | cons d ds ih =>
      intro hds
      obtain ⟨td, htd⟩ := hds d List.mem_cons_self
      rw [firstFailedOf, task_ok htd, ok_bind]
      split
      · rename_i hb
        refine ⟨some d, rfl, ?_, ?_⟩
        · simp only [reduceCtorEq, false_iff, Decidable.not_not]
          exact ⟨d, List.mem_cons_self, td, htd, hb⟩
        · rintro _ ⟨⟩
          exact ⟨List.mem_cons_self, td, htd, hb⟩
      · rename_i hb
        obtain ⟨o, ho, hnone, hsome⟩ := ih (fun x hx => hds x (List.mem_cons_of_mem d hx))
        refine ⟨o, ho, hnone.trans (not_congr ⟨?_, ?_⟩), ?_⟩
        · rintro ⟨x, hx, hbad⟩
          exact ⟨x, List.mem_cons_of_mem d hx, hbad⟩
        · rintro ⟨x, hx, tx, htx, hbx⟩
          rcases List.mem_cons.mp hx with rfl | hx
          · rw [htd] at htx
            cases htx
            exact absurd hbx hb
          · exact ⟨x, hx, tx, htx, hbx⟩
        · intro x hx
          obtain ⟨hm, hbad⟩ := hsome x hx
          exact ⟨List.mem_cons_of_mem d hm, hbad⟩
  obtain ⟨o, ho, hnone, hsome⟩ := hwalk t.spec.dependencies (fun d hd => h.dependency ht hd)
  refine ⟨o, ?_, hnone, hsome⟩
  rw [firstFailedDependency, task_ok ht]
  exact ho

/-- Resolution looks at the dependencies only. -/
theorem failing_congr {s' : TeamState} (hdeps : ∀ d ∈ t.spec.dependencies, s'.tasks.get d = s.tasks.get d) :
    s'.Failing t ↔ s.Failing t := by
  constructor
  · rintro ⟨d, hd, td, htd, hb⟩; exact ⟨d, hd, td, hdeps d hd ▸ htd, hb⟩
  · rintro ⟨d, hd, td, htd, hb⟩; exact ⟨d, hd, td, (hdeps d hd).symm ▸ htd, hb⟩

theorem succeeding_congr {s' : TeamState} (hdeps : ∀ d ∈ t.spec.dependencies, s'.tasks.get d = s.tasks.get d) :
    s'.Succeeding t ↔ s.Succeeding t := by
  constructor
  · intro h d hd td htd; exact h d hd td ((hdeps d hd).symm ▸ htd)
  · intro h d hd td htd; exact h d hd td (hdeps d hd ▸ htd)

end Dependencies

/-! ## What stays -/

/-- `s'` has the Tasks and Agents of `s`, of the same specifications and parents, and
    terminal where they were; the messages and the journal are the same. -/
structure Frame (s s' : TeamState) : Prop where
  task : ∀ k t', s'.tasks.get k = some t' →
    ∃ t, s.tasks.get k = some t ∧ t'.spec = t.spec ∧ t'.status.isTerminal = t.status.isTerminal
  agent : ∀ k a', s'.agents.get k = some a' →
    ∃ a, s.agents.get k = some a ∧ a'.parent = a.parent ∧ a'.status.isTerminal = a.status.isTerminal
  messages : s'.messages = s.messages
  operations : s'.operations = s.operations

theorem Frame.rfl {s : TeamState} : Frame s s :=
  ⟨fun _ t h => ⟨t, h, by trivial, by trivial⟩, fun _ a h => ⟨a, h, by trivial, by trivial⟩, by trivial, by trivial⟩

theorem Frame.trans {s s' s'' : TeamState} (h : Frame s s') (h' : Frame s' s'') : Frame s s'' where
  task k t'' ht := by
    obtain ⟨t', ht', hs', hst'⟩ := h'.task k t'' ht
    obtain ⟨t, ht, hs, hst⟩ := h.task k t' ht'
    exact ⟨t, ht, hs'.trans hs, hst'.trans hst⟩
  agent k a'' ha := by
    obtain ⟨a', ha', hp', hst'⟩ := h'.agent k a'' ha
    obtain ⟨a, ha, hp, hst⟩ := h.agent k a' ha'
    exact ⟨a, ha, hp'.trans hp, hst'.trans hst⟩
  messages := h'.messages.trans h.messages
  operations := h'.operations.trans h.operations

theorem setStatus_frame {s : TeamState} {k : Nat} {t : TaskRecord} {a : AgentRecord} {st : TaskStatus}
    {c : Option CompletionCapsule} {as : AgentStatus} (ht : s.tasks.get k = some t) (ha : s.agents.get k = some a)
    (hst : st.isTerminal = t.status.isTerminal) (has : as.isTerminal = a.status.isTerminal) :
    Frame s (s.setStatus k t a st c as) where
  task k' t' h := by
    obtain ⟨t0, ht0, ⟨rfl, rfl⟩ | ⟨_, rfl⟩⟩ := setStatus_task_back ht h
    · rw [ht] at ht0
      cases ht0
      exact ⟨t, ht, rfl, hst⟩
    · exact ⟨t', ht0, rfl, rfl⟩
  agent k' a' h := by
    obtain ⟨a0, ha0, ⟨rfl, rfl⟩ | ⟨_, rfl⟩⟩ := setStatus_agent_back ha h
    · rw [ha] at ha0
      cases ha0
      exact ⟨a, ha, rfl, has⟩
    · exact ⟨a', ha0, rfl, rfl⟩
  messages := rfl
  operations := rfl

/-- The events of reconciliation: none of a command or of the journal. -/
def Routine (events : List TeamEventKind) : Prop :=
  ∀ e ∈ events, e.operationKind = none ∧ e.isOperationCommitted = false ∧ e.isOperationAcknowledged = false

theorem Routine.append {es fs : List TeamEventKind} (he : Routine es) (hf : Routine fs) : Routine (es ++ fs) := by
  intro e hm
  rcases List.mem_append.mp hm with hm | hm
  · exact he e hm
  · exact hf e hm

theorem routine_nil : Routine [] := nofun

/-! ## Settling one Task -/

section Settle

variable {n m : Nat} {s : TeamState} {k : Nat} {t : TaskRecord} {a : AgentRecord}

theorem paired_pending {as : AgentStatus} (h : paired .pending as = true) : as = .dormant := by
  cases as <;> first | rfl | cases h

theorem paired_ready {as : AgentStatus} (h : paired .ready as = true) : as = .dormant := by
  cases as <;> first | rfl | cases h

/-- Setting a Task's status alone, when its Agent keeps its own. -/
theorem setTask_eq_setStatus (ha : s.agents.get k = some a) (st : TaskStatus) :
    s.setTask k { t with status := st } = s.setStatus k t a st t.completion a.status := by
  have hagents : s.agents.insert k { a with status := a.status } = s.agents := by
    apply OrdMap.ext_get
    intro k'
    rw [OrdMap.get_insert]
    split
    · rename_i hk
      exact (hk ▸ ha).symm
    · rfl
  simp only [setTask, setStatus, hagents]

theorem settle_failed (h : Inv n s) (ht : s.tasks.get k = some t) (ha : s.agents.get k = some a)
    (hp : t.status = .pending) {b : TaskId} {tb : TaskRecord} (hb : b ∈ t.spec.dependencies)
    (htb : s.tasks.get b = some tb) (hbad : tb.status.blocksDependents = true)
    (hfirst : s.firstFailedDependency k = .ok (some b)) :
    s.settlePending k m = .ok (s.setStatus k t a (.blocked b) t.completion .blocked, [.taskBlocked k b, .agentBlocked k b]) := by
  have hdormant : a.status = .dormant := paired_pending (hp ▸ h.paired k t a ht ha)
  have hstep1 : s.apply (.taskBlocked k b) m = .ok (s.setTask k { t with status := .blocked b }) := by
    simp only [apply, applyTaskBlocked, task_ok htb, task_ok ht, ok_bind]
    rw [require_bind hbad, require_bind ⟨Or.inl hp, hb⟩]
    rfl
  have hget : (s.setTask k { t with status := .blocked b }).tasks.get k = some { t with status := .blocked b } :=
    OrdMap.get_insert_self _ _ _
  have howner : (s.setTask k { t with status := .blocked b }).ownerOf k = .ok k := by
    rw [ownerOf, hget]
    simp only [Option.bind_some, (h.task k t ht).owner, okOr_some]
  have hstep2 : (s.setTask k { t with status := .blocked b }).apply (.agentBlocked k b) m =
      .ok (s.setStatus k t a (.blocked b) t.completion .blocked) := by
    have ha' : (s.setTask k { t with status := .blocked b }).agent k = .ok a := agent_ok ha
    have ht' : (s.setTask k { t with status := .blocked b }).task a.task = .ok { t with status := .blocked b } := by
      rw [(h.agent k a ha).task]
      exact task_ok hget
    simp only [apply, applyAgentBlocked, ha', ht', ok_bind]
    rw [require_bind hdormant, require_bind trivial]
    rfl
  simp only [settlePending, hfirst, hstep1, howner, hstep2, ok_bind, pure, Except.pure]

theorem settle_succeeded (h : Inv n s) (ht : s.tasks.get k = some t) (ha : s.agents.get k = some a)
    (hp : t.status = .pending) (hfirst : s.firstFailedDependency k = .ok none)
    (hall : s.dependenciesSucceeded k = .ok true) :
    s.settlePending k m = .ok (s.setStatus k t a .ready t.completion .dormant, [.taskReady k]) := by
  have hdormant : a.status = .dormant := paired_pending (hp ▸ h.paired k t a ht ha)
  have hstep : s.apply (.taskReady k) m = .ok (s.setStatus k t a .ready t.completion .dormant) := by
    simp only [apply, applyTaskReady, hall, task_ok ht, ok_bind]
    rw [require_bind ⟨hp, trivial⟩, ← hdormant, ← setTask_eq_setStatus ha]
    rfl
  simp only [settlePending, hfirst, hall, hstep, ok_bind, pure, Except.pure, if_true]

/-- One turn of the first loop: only the pair `k` changes, and it is settled. -/
theorem settlePending_ok (h : Inv n s) (ht : s.tasks.get k = some t) (hp : t.status = .pending) :
    ∃ s' evs, s.settlePending k m = .ok (s', evs) ∧ Inv n s' ∧ Frame s s' ∧ Routine evs ∧
      s'.activeAgentCount = s.activeAgentCount ∧ (∀ k', k' ≠ k → s'.tasks.get k' = s.tasks.get k') ∧
      (∀ t', s'.tasks.get k = some t' → t'.status = .pending → ¬ s'.Failing t' ∧ ¬ s'.Succeeding t') ∧
      (evs = [] → s' = s) ∧ (¬ s.Failing t → ¬ s.Succeeding t → evs = []) := by
  obtain ⟨a, ha⟩ := h.agent_of_task ht
  have hdormant : a.status = .dormant := paired_pending (hp ▸ h.paired k t a ht ha)
  have htk := h.task k t ht
  have hopen : ∀ (p : Nat) pa, a.parent = some p → s.agents.get p = some pa → pa.status.isTerminal = false := by
    intro p pa hpar hpa
    cases hterm : pa.status.isTerminal with
    | false => rfl
    | true =>
      have := (h.agent k a ha).closed p pa hpar hpa hterm
      rw [hdormant] at this
      cases this
  have hcomp : t.completion = none := htk.completion (by rw [hp]; nofun)
  have hother : ∀ (st : TaskStatus) (as : AgentStatus) (k' : Nat), k' ≠ k →
      (s.setStatus k t a st t.completion as).tasks.get k' = s.tasks.get k' := by
    intro st as k' hk'
    rw [setStatus_task, if_neg (Ne.symm hk')]
  obtain ⟨o, hfirst, hnone, hsome⟩ := firstFailedDependency_ok h ht
  obtain ⟨b, hall, hiff⟩ := dependenciesSucceeded_ok h ht
  cases o with
  | some d =>
    obtain ⟨hd, td, htd, hbad⟩ := hsome d rfl
    refine ⟨_, _, settle_failed h ht ha hp hd htd hbad hfirst, ?_, ?_, ?_, ?_, hother _ _, ?_, nofun,
      fun hnf => absurd (hnone.mpr hnf) nofun⟩
    · exact h.setStatus ht ha rfl (fun _ => hcomp) nofun (by rw [hp]; nofun) nofun (fun _ => hopen)
    · exact setStatus_frame ht ha (by rw [hp]; rfl) (by rw [hdormant]; rfl)
    · intro e he
      rcases List.mem_cons.mp he with rfl | he
      · exact ⟨rfl, rfl, rfl⟩
      · obtain rfl := List.mem_singleton.mp he
        exact ⟨rfl, rfl, rfl⟩
    · have := setStatus_activeAgentCount ha t (.blocked d) t.completion .blocked
      rw [hdormant] at this
      simpa using this
    · intro t' ht' hp'
      rw [setStatus_task, if_pos rfl] at ht'
      cases ht'
      cases hp'
  | none =>
    have hnf := hnone.mp rfl
    cases b with
    | true =>
      refine ⟨_, _, settle_succeeded h ht ha hp hfirst hall, ?_, ?_, ?_, ?_, hother _ _, ?_, nofun,
        fun _ hns => absurd (hiff.mp rfl) hns⟩
      · refine h.setStatus ht ha rfl (fun _ => hcomp) (fun _ => hiff.mp rfl) (by rw [hp]; nofun) nofun (fun _ => hopen)
      · exact setStatus_frame ht ha (by rw [hp]; rfl) (by rw [hdormant])
      · intro e he
        obtain rfl := List.mem_singleton.mp he
        exact ⟨rfl, rfl, rfl⟩
      · have := setStatus_activeAgentCount ha t .ready t.completion .dormant
        rw [hdormant] at this
        simpa using this
      · intro t' ht' hp'
        rw [setStatus_task, if_pos rfl] at ht'
        cases ht'
        cases hp'
    | false =>
      refine ⟨s, [], ?_, h, .rfl, routine_nil, rfl, fun _ _ => rfl, ?_, fun _ => rfl, fun _ _ => rfl⟩
      · simp only [settlePending, hfirst, hall, ok_bind, pure, Except.pure, Bool.false_eq_true, if_false]
      · intro t' ht' _
        rw [ht] at ht'
        cases ht'
        exact ⟨hnf, fun hs => absurd (hiff.mpr hs) nofun⟩

end Settle

/-! ## The first loop -/

theorem pendingTasks_eq {n : Nat} {s : TeamState} (h : Inv n s) :
    s.pendingTasks = (s.tasks.entries.filter (fun e => e.2.status == .pending)).map (·.1) := by
  have hids : ∀ e ∈ s.tasks.entries, e.2.id = e.1 := fun e he => (h.task e.1 e.2 (OrdMap.mem_entries.mp he)).id
  rw [pendingTasks, OrdMap.values, List.filter_map, List.map_map]
  refine List.map_congr_left fun e he => ?_
  exact hids e (List.mem_of_mem_filter he)

theorem pendingTasks_sorted {n : Nat} {s : TeamState} (h : Inv n s) : s.pendingTasks.Pairwise (· < ·) := by
  rw [pendingTasks_eq h]
  exact List.pairwise_map.mpr (s.tasks.sorted.sublist List.filter_sublist)

theorem mem_pendingTasks {n : Nat} {s : TeamState} (h : Inv n s) {k : Nat} :
    k ∈ s.pendingTasks ↔ ∃ t, s.tasks.get k = some t ∧ t.status = .pending := by
  rw [pendingTasks_eq h]
  simp only [List.mem_map, List.mem_filter, beq_iff_eq, Prod.exists, OrdMap.mem_entries]
  exact ⟨fun ⟨_, t, ht, rfl⟩ => ⟨t, ht⟩, fun ⟨t, ht⟩ => ⟨k, t, ht, rfl⟩⟩

/-- The first loop from some point on: the Tasks still to come are Pending, and the
    Pending ones already met are settled and come before them. -/
theorem settleAll_ok {n m : Nat} (pending : List TaskId) :
    ∀ {s : TeamState}, Inv n s → pending.Pairwise (· < ·) →
      (∀ k ∈ pending, ∃ t, s.tasks.get k = some t ∧ t.status = .pending) →
      (∀ k t, s.tasks.get k = some t → t.status = .pending → k ∉ pending →
        (∀ x ∈ pending, k < x) ∧ ¬ s.Failing t ∧ ¬ s.Succeeding t) →
      ∃ s' evs, settleAll m pending s = .ok (s', evs) ∧ Inv n s' ∧ Frame s s' ∧ Routine evs ∧
        s'.activeAgentCount = s.activeAgentCount ∧ Settled s' ∧ (evs = [] → s' = s) ∧ (Settled s → evs = []) := by
  induction pending with
  | nil =>
    intro s h _ _ hmet
    refine ⟨s, [], rfl, h, .rfl, routine_nil, rfl, ?_, fun _ => rfl, fun _ => rfl⟩
    intro k t ht hp
    exact (hmet k t ht hp (by simp)).2
  | cons k pending ih =>
    intro s h hsorted hpend hmet
    obtain ⟨hfirst, hsorted'⟩ := List.pairwise_cons.mp hsorted
    obtain ⟨t, ht, hp⟩ := hpend k List.mem_cons_self
    obtain ⟨s1, evs1, hstep, h1, hframe1, hr1, hcount1, hother, hset, hnil1, hno1⟩ := settlePending_ok (m := m) h ht hp
    have hpend1 : ∀ x ∈ pending, ∃ tx, s1.tasks.get x = some tx ∧ tx.status = .pending := by
      intro x hx
      rw [hother x (Nat.ne_of_gt (hfirst x hx))]
      exact hpend x (List.mem_cons_of_mem k hx)
    have hmet1 : ∀ j tj, s1.tasks.get j = some tj → tj.status = .pending → j ∉ pending →
        (∀ x ∈ pending, j < x) ∧ ¬ s1.Failing tj ∧ ¬ s1.Succeeding tj := by
      intro j tj hj hpj hnot
      by_cases hjk : j = k
      · subst hjk
        exact ⟨hfirst, hset tj hj hpj⟩
      · -- An earlier Task's dependencies are not the Task just met.
        rw [hother j hjk] at hj
        obtain ⟨hlt, hnf, hns⟩ := hmet j tj hj hpj (by simp [hjk, hnot])
        have hdeps : ∀ d ∈ tj.spec.dependencies, s1.tasks.get d = s.tasks.get d := by
          intro d hd
          have hdj := ((h.task j tj hj).dependencies d hd).2
          exact hother d (Nat.ne_of_lt (Nat.lt_trans hdj (hlt k List.mem_cons_self)))
        exact ⟨fun x hx => hlt x (List.mem_cons_of_mem k hx), fun hf => hnf ((failing_congr hdeps).mp hf),
          fun hs => hns ((succeeding_congr hdeps).mp hs)⟩
    obtain ⟨s2, evs2, hrest, h2, hframe2, hr2, hcount2, hsettled, hnil2, hno2⟩ := ih h1 hsorted' hpend1 hmet1
    refine ⟨s2, evs1 ++ evs2, ?_, h2, hframe1.trans hframe2, hr1.append hr2, hcount2.trans hcount1, hsettled, ?_, ?_⟩
    · simp only [settleAll, hstep, hrest, ok_bind, pure, Except.pure]
    · intro hnil
      obtain ⟨he1, he2⟩ := List.append_eq_nil_iff.mp hnil
      rw [hnil2 he2, hnil1 he1]
    · intro hs
      obtain ⟨hnf, hns⟩ := hs k t ht hp
      have he1 := hno1 hnf hns
      rw [he1, hno2 (hnil1 he1 ▸ hs)]
      rfl

/-! ## The second loop -/

def readyCount (s : TeamState) : Nat := s.tasks.values.countP (fun task => task.status == .ready)

theorem nextReady_some {s : TeamState} {t : TaskRecord} (h : s.nextReady = some t) :
    (∃ k, s.tasks.get k = some t) ∧ t.status = .ready := by
  have hr := List.find?_some h
  exact ⟨OrdMap.mem_values.mp (List.mem_of_find?_eq_some h), by simpa using hr⟩

theorem nextReady_none {s : TeamState} (h : s.nextReady = none) {k : Nat} {t : TaskRecord} (ht : s.tasks.get k = some t) :
    t.status ≠ .ready := by
  have := List.find?_eq_none.mp h t (OrdMap.mem_values.mpr ⟨k, ht⟩)
  simpa using this

theorem nextReady_eq_none {s : TeamState} (h : s.readyCount = 0) : s.nextReady = none := by
  rw [nextReady, List.find?_eq_none]
  exact List.countP_eq_zero.mp h

section Activate

variable {n m : Nat} {s : TeamState}

/-- One turn of the second loop: a Ready Task and its Agent start. -/
theorem startReady_ok (h : Inv n s) (hlt : s.activeAgentCount < m) {k : Nat} {t : TaskRecord}
    (ht : s.tasks.get k = some t) (hready : t.status = .ready) :
    ∃ a, s.agents.get k = some a ∧ a.status = .dormant ∧
      s.startReady k m = .ok (s.setStatus k t a .running t.completion .active, [.agentActivated k, .taskStarted k]) := by
  obtain ⟨a, ha⟩ := h.agent_of_task ht
  have hdormant : a.status = .dormant := paired_ready (hready ▸ h.paired k t a ht ha)
  have htk := h.task k t ht
  refine ⟨a, ha, hdormant, ?_⟩
  have howner : s.ownerOf k = .ok k := by
    rw [ownerOf, ht]
    simp only [Option.bind_some, htk.owner, okOr_some]
  have htask : s.task a.task = .ok t := by rw [(h.agent k a ha).task]; exact task_ok ht
  have hstep1 : s.apply (.agentActivated k) m = .ok (s.setAgent k { a with status := .active }) := by
    simp only [apply, applyAgentActivated, agent_ok ha, htask, ok_bind]
    rw [require_bind hlt, require_bind hdormant, require_bind ⟨hready, htk.owner⟩]
    rfl
  have ht' : (s.setAgent k { a with status := .active }).task k = .ok t := task_ok ht
  have ha' : (s.setAgent k { a with status := .active }).agent k = .ok { a with status := .active } :=
    agent_ok (OrdMap.get_insert_self _ _ _)
  have hstep2 : (s.setAgent k { a with status := .active }).apply (.taskStarted k) m =
      .ok (s.setStatus k t a .running t.completion .active) := by
    have hown : ∀ e : TeamError, okOr t.owner e = .ok k := fun e => by rw [htk.owner]; rfl
    simp only [apply, applyTaskStarted, ht', hown, ha', ok_bind]
    rw [require_bind hready, require_bind trivial]
    rfl
  simp only [startReady, howner, hstep1, hstep2, ok_bind, pure, Except.pure]

theorem startReady_inv (h : Inv n s) {k : Nat} {t : TaskRecord} {a : AgentRecord} (ht : s.tasks.get k = some t)
    (hready : t.status = .ready) (ha : s.agents.get k = some a) (hdormant : a.status = .dormant) :
    Inv n (s.setStatus k t a .running t.completion .active) := by
  have htk := h.task k t ht
  refine h.setStatus ht ha rfl (fun _ => htk.completion (by rw [hready]; nofun))
    (fun _ => htk.started (by rw [hready]; rfl)) (by rw [hready]; nofun) nofun ?_
  intro _ p pa hpar hpa
  cases hterm : pa.status.isTerminal with
  | false => rfl
  | true =>
    have := (h.agent k a ha).closed p pa hpar hpa hterm
    rw [hdormant] at this
    cases this

/-- Starting a Ready Task resolves nobody's dependencies. -/
theorem startReady_settled (hs : Settled s) {k : Nat} {t : TaskRecord} (a : AgentRecord) (ht : s.tasks.get k = some t) : Settled (s.setStatus k t a .running t.completion .active) := by
  intro j tj hj hpj
  obtain ⟨t0, ht0, ⟨rfl, rfl⟩ | ⟨hne, rfl⟩⟩ := setStatus_task_back ht hj
  · cases hpj
  · obtain ⟨hnf, hns⟩ := hs j tj ht0 hpj
    refine ⟨fun ⟨d, hd, td, htd, hbad⟩ => hnf ?_, fun hall => hns fun d hd td htd => ?_⟩
    · obtain ⟨td0, htd0, ⟨rfl, rfl⟩ | ⟨_, rfl⟩⟩ := setStatus_task_back ht htd
      · cases hbad
      · exact ⟨d, hd, td, htd0, hbad⟩
    · by_cases hdk : k = d
      · subst hdk
        have := hall k hd _ (by rw [setStatus_task, if_pos rfl])
        cases this
      · exact hall d hd td (by rw [setStatus_task, if_neg hdk]; exact htd)

theorem activateReady_ok (fuel : Nat) :
    ∀ {s : TeamState}, Inv n s → Settled s → s.activeAgentCount ≤ m → s.readyCount ≤ fuel →
      ∃ s' evs, activateReady m fuel s = .ok (s', evs) ∧ Inv n s' ∧ Settled s' ∧ Frame s s' ∧ Routine evs ∧
        s'.activeAgentCount ≤ m ∧ (s'.activeAgentCount < m → s'.nextReady = none) ∧ (evs = [] → s' = s) ∧
        ((s.activeAgentCount < m → s.nextReady = none) → evs = []) := by
  induction fuel with
  | zero =>
    intro s h hs hle hcount
    exact ⟨s, [], rfl, h, hs, .rfl, routine_nil, hle, fun _ => nextReady_eq_none (Nat.le_zero.mp hcount), fun _ => rfl,
      fun _ => rfl⟩
  | succ fuel ih =>
    intro s h hs hle hcount
    rw [activateReady]
    by_cases hlt : s.activeAgentCount < m
    · rw [if_pos hlt]
      cases hnext : s.nextReady with
      | none => exact ⟨s, [], rfl, h, hs, .rfl, routine_nil, hle, fun _ => hnext, fun _ => rfl, fun _ => rfl⟩
      | some t =>
        obtain ⟨⟨k, ht⟩, hready⟩ := nextReady_some hnext
        obtain ⟨a, ha, hdormant, hstart⟩ := startReady_ok h hlt ht hready
        have hcnt := OrdMap.countP_insert ht (fun task => task.status == .ready)
          { t with status := .running, completion := t.completion }
        have hact := setStatus_activeAgentCount ha t .running t.completion .active
        rw [hdormant] at hact
        simp only [hready] at hcnt
        have hcount' : (s.setStatus k t a .running t.completion .active).readyCount ≤ fuel := by
          have hc : (s.setStatus k t a .running t.completion .active).readyCount + 1 = s.readyCount := by
            simpa [readyCount, setStatus] using hcnt
          omega
        have hact' : (s.setStatus k t a .running t.completion .active).activeAgentCount ≤ m := by
          simp at hact
          omega
        obtain ⟨s', evs, hrest, h', hs', hframe, hr, hle', hexit, _, _⟩ :=
          ih (startReady_inv h ht hready ha hdormant) (startReady_settled hs a ht) hact' hcount'
        have hframe1 := setStatus_frame (c := t.completion) ht ha
          (show TaskStatus.running.isTerminal = t.status.isTerminal by rw [hready]; rfl)
          (show AgentStatus.active.isTerminal = a.status.isTerminal by rw [hdormant]; rfl)
        have hr1 : Routine [.agentActivated k, .taskStarted k] := by
          intro e he
          rcases List.mem_cons.mp he with rfl | he
          · exact ⟨rfl, rfl, rfl⟩
          · obtain rfl := List.mem_singleton.mp he
            exact ⟨rfl, rfl, rfl⟩
        refine ⟨s', [.agentActivated k, .taskStarted k] ++ evs, ?_, h', hs', hframe1.trans hframe, hr1.append hr, hle',
          hexit, (by simp), fun hno => absurd (hno hlt) (by simp)⟩
        have hid : t.id = k := (h.task k t ht).id
        simp only [hid, hstart, hrest, ok_bind, pure, Except.pure]
    · rw [if_neg hlt]
      exact ⟨s, [], rfl, h, hs, .rfl, routine_nil, hle, fun hc => absurd hc hlt, fun _ => rfl, fun _ => rfl⟩

/-- Nothing is left to reconcile. -/
def Quiescent (s : TeamState) (m : Nat) : Prop := Settled s ∧ (s.activeAgentCount < m → s.nextReady = none)

/-- Reconciliation never fails: it keeps the invariant and what is terminal, leaves
    nothing to reconcile, and adds events exactly when something was. -/
theorem reconcile_ok (h : Inv n s) (hle : s.activeAgentCount ≤ m) :
    ∃ s' evs, s.reconcile m = .ok (s', evs) ∧ Inv n s' ∧ Quiescent s' m ∧ s'.activeAgentCount ≤ m ∧ Frame s s' ∧
      Routine evs ∧ (evs = [] → s' = s) ∧ (evs = [] ↔ Quiescent s m) := by
  obtain ⟨s1, evs1, hsettle, h1, hframe1, hr1, hcount1, hsettled, hnil1, hno1⟩ :=
    settleAll_ok (m := m) s.pendingTasks h (pendingTasks_sorted h) (fun k hk => (mem_pendingTasks h).mp hk)
      (fun k t ht hp hnot => absurd ((mem_pendingTasks h).mpr ⟨t, ht, hp⟩) hnot)
  have hfuel : s1.readyCount ≤ s1.tasks.size := by
    have := List.countP_le_length (p := fun task : TaskRecord => task.status == .ready) (l := s1.tasks.values)
    simpa [readyCount, OrdMap.size, OrdMap.values] using this
  obtain ⟨s2, evs2, hactivate, h2, hsettled2, hframe2, hr2, hle2, hexit, hnil2, hno2⟩ :=
    activateReady_ok s1.tasks.size h1 hsettled (hcount1 ▸ hle) hfuel
  have hback : evs1 ++ evs2 = [] → s2 = s := by
    intro hnil
    obtain ⟨he1, he2⟩ := List.append_eq_nil_iff.mp hnil
    rw [hnil2 he2, hnil1 he1]
  refine ⟨s2, evs1 ++ evs2, ?_, h2, ⟨hsettled2, hexit⟩, hle2, hframe1.trans hframe2, hr1.append hr2, hback, ?_, ?_⟩
  · simp only [reconcile, hsettle, hactivate, ok_bind, pure, Except.pure]
  · intro hnil
    rw [← hback hnil]
    exact ⟨hsettled2, hexit⟩
  · rintro ⟨hs, hexit'⟩
    have he1 := hno1 hs
    rw [he1, hno2 (by rw [hnil1 he1]; exact hexit')]
    rfl

/-- A state with nothing left to reconcile passes the second validator, and no other
    state with the invariant does. -/
theorem validateQuiescent_ok (h : Inv n s) : s.validateQuiescent m = .ok () ↔ Quiescent s m := by
  have hpending : (s.tasks.values.filter (fun task => task.status == .pending)).forM s.validatePending = .ok () ↔
      Settled s := by
    rw [forM_ok]
    constructor
    · intro hall k t ht hp
      have hv := hall t (List.mem_filter.mpr ⟨OrdMap.mem_values.mpr ⟨k, ht⟩, by simp [hp]⟩)
      obtain ⟨o, hfirst, hnone, _⟩ := firstFailedDependency_ok h ht
      obtain ⟨b, hdone, hiff⟩ := dependenciesSucceeded_ok h ht
      simp only [validatePending, (h.task k t ht).id, hfirst, ok_bind] at hv
      cases o with
      | some d => simp [require, pure, Except.pure] at hv
      | none =>
        simp only [Option.isSome_none, Bool.false_eq_true, if_false, hdone, ok_bind, require_ok] at hv
        exact ⟨hnone.mp rfl, fun hs => by rw [hiff.mpr hs] at hv; cases hv⟩
    · intro hs t ht
      obtain ⟨hv, hp⟩ := List.mem_filter.mp ht
      obtain ⟨k, ht⟩ := OrdMap.mem_values.mp hv
      obtain ⟨hnf, hns⟩ := hs k t ht (by simpa using hp)
      obtain ⟨o, hfirst, hnone, _⟩ := firstFailedDependency_ok h ht
      obtain ⟨b, hdone, hiff⟩ := dependenciesSucceeded_ok h ht
      obtain rfl := hnone.mpr hnf
      obtain rfl : b = false := by
        cases b with
        | false => rfl
        | true => exact absurd (hiff.mp rfl) hns
      simp only [validatePending, (h.task k t ht).id, hfirst, hdone, ok_bind, Option.isSome_none, Bool.false_eq_true,
        if_false]
      exact require_ok.mpr trivial
  have hready : (decide (s.activeAgentCount < m) && s.tasks.values.any (fun task => task.status == .ready)) = false ↔
      (s.activeAgentCount < m → s.nextReady = none) := by
    rw [Bool.and_eq_false_imp, decide_eq_true_eq, nextReady, List.find?_eq_none, List.any_eq_false]
  simp only [validateQuiescent, bind_ok, require_ok, hready]
  exact ⟨fun h => ⟨hpending.mp h.choose_spec.1, h.choose_spec.2⟩, fun h => ⟨(), hpending.mpr h.1, h.2⟩⟩

end Activate

end TeamState

end GreenTyper.Team
