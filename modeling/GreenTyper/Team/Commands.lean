/-
  GreenTyper.Team.Commands — what a planned command is and what its events do (see
  `GreenTyper.Team.Runtime`).

  The planner and the event applier check the same things separately. Each `plan…_ok`
  says what an accepted plan checked and which events it made; each `…_applies` says
  that these checks are enough for the events to be applied, and what the state is then.
  Together: from a state with the invariant the events of an accepted command are
  applied one by one, and the invariant holds after them (`plan_applies`).
-/

import GreenTyper.Team.Reconcile

namespace GreenTyper.Team

open GreenTyper.Lib

/-! ## Identifiers -/

theorem foldl_max {l : List Nat} {n : Nat} (hle : ∀ k ∈ l, k ≤ n) (hmem : n = 0 ∨ n ∈ l) : l.foldl max 0 = n := by
  have hge : ∀ (l : List Nat) (a : Nat), a ≤ l.foldl max a ∧ ∀ k ∈ l, k ≤ l.foldl max a := by
    intro l
    induction l with
    | nil => intro a; exact ⟨Nat.le_refl a, by simp⟩
    | cons x l ih =>
      intro a
      obtain ⟨h1, h2⟩ := ih (max a x)
      refine ⟨Nat.le_trans (Nat.le_max_left a x) h1, fun k hk => ?_⟩
      rcases List.mem_cons.mp hk with rfl | hk
      · exact Nat.le_trans (Nat.le_max_right a k) h1
      · exact h2 k hk
  have hub : ∀ (l : List Nat) (a : Nat), a ≤ n → (∀ k ∈ l, k ≤ n) → l.foldl max a ≤ n := by
    intro l
    induction l with
    | nil => intro a ha _; exact ha
    | cons x l ih =>
      intro a ha hl
      exact ih (max a x) (Nat.max_le.mpr ⟨ha, hl x List.mem_cons_self⟩) fun k hk => hl k (List.mem_cons_of_mem x hk)
  apply Nat.le_antisymm (hub l 0 (Nat.zero_le n) hle)
  rcases hmem with rfl | hmem
  · exact Nat.zero_le _
  · exact (hge l 0).2 n hmem

theorem nextIdentifier_ok {l : List Nat} {n : Nat} (hle : ∀ k ∈ l, k ≤ n) (hmem : n = 0 ∨ n ∈ l) (hn : n + 1 < 2 ^ 64) :
    nextIdentifier l = .ok (n + 1) := by
  have hadd : checkedAdd 64 n 1 = some (n + 1) := checkedAdd_some.mpr ⟨hn, rfl⟩
  rw [nextIdentifier, foldl_max hle hmem, hadd]
  rfl

theorem nextIdentifier_range {m : Nat} (hm : m + 1 < 2 ^ 64) : nextIdentifier (List.range' 1 m) = .ok (m + 1) := by
  refine nextIdentifier_ok (fun k hk => ?_) ?_ hm
  · have := List.mem_range'_1.mp hk
    omega
  · rcases Nat.eq_zero_or_pos m with h | h
    · exact Or.inl h
    · exact Or.inr (List.mem_range'_1.mpr (by omega))

theorem freshIdentifier_ok {v k : Nat} (h : freshIdentifier v = .ok k) : k = v ∧ v ≠ 0 ∧ v < maxIdentifier := by
  simp only [freshIdentifier, validateStoredIdentifier, bind_ok, require_ok, exists_const, pure, Except.pure,
    Except.ok.injEq] at h
  exact ⟨h.2.symm, h.1⟩

theorem validateStoredIdentifier_ok {v : Nat} (h0 : v ≠ 0) (hlt : v < maxIdentifier) (kind : String) :
    validateStoredIdentifier v kind = .ok () := require_ok.mpr ⟨h0, hlt⟩

namespace TeamState

theorem nextIdentifier_tasks {n : Nat} {s : TeamState} (h : Inv n s) (hn : n + 1 < 2 ^ 64) :
    nextIdentifier s.tasks.keys = .ok (n + 1) := by
  refine nextIdentifier_ok (fun k hk => ((h.tasks k).mp (OrdMap.mem_keys.mp hk)).2) ?_ hn
  rcases Nat.eq_zero_or_pos n with h0 | h0
  · exact Or.inl h0
  · exact Or.inr (OrdMap.mem_keys.mpr ((h.tasks n).mpr ⟨h0, Nat.le_refl n⟩))

theorem nextIdentifier_agents {n : Nat} {s : TeamState} (h : Inv n s) (hn : n + 1 < 2 ^ 64) :
    nextIdentifier s.agents.keys = .ok (n + 1) := by
  refine nextIdentifier_ok (fun k hk => ((h.agents k).mp (OrdMap.mem_keys.mp hk)).2) ?_ hn
  rcases Nat.eq_zero_or_pos n with h0 | h0
  · exact Or.inl h0
  · exact Or.inr (OrdMap.mem_keys.mpr ((h.agents n).mpr ⟨h0, Nat.le_refl n⟩))

/-! ## Creations are applied -/

/-- The invariant is of the Tasks, the Agents and the root. -/
theorem Inv.congr {n : Nat} {s s' : TeamState} (h : Inv n s) (htasks : s'.tasks = s.tasks) (hagents : s'.agents = s.agents)
    (hroot : s'.root = s.root) : Inv n s' := by
  obtain ⟨root, tasks, agents, messages, operations⟩ := s
  obtain ⟨root', tasks', agents', messages', operations'⟩ := s'
  cases htasks
  cases hagents
  cases hroot
  exact ⟨h.tasks, h.agents, fun k t ht => ⟨(h.task k t ht).id, (h.task k t ht).owner, (h.task k t ht).completion,
      (h.task k t ht).dependencies, (h.task k t ht).started⟩,
    fun k a ha => ⟨(h.agent k a ha).id, (h.agent k a ha).task, (h.agent k a ha).within, (h.agent k a ha).tokens,
      (h.agent k a ha).calls, (h.agent k a ha).root, (h.agent k a ha).parent, (h.agent k a ha).capabilities,
      (h.agent k a ha).closed⟩,
    h.paired, h.scope, h.root⟩

theorem climbDependency_congr {s s' : TeamState} (h : s'.agents = s.agents) (deps : List TaskId) (fuel : Nat) :
    ∀ current, s'.climbDependency deps fuel current = s.climbDependency deps fuel current := by
  induction fuel with
  | zero => intro current; cases current <;> rfl
  | succ fuel ih =>
    intro current
    cases current with
    | none => rfl
    | some p =>
      have hp : s'.agent p = s.agent p := by rw [agent, agent, h]
      simp only [climbDependency, hp, ih]

theorem ancestorDependency_congr {s s' : TeamState} (h : s'.agents = s.agents) (p : AgentId) (deps : List TaskId) :
    s'.ancestorDependency p deps = s.ancestorDependency p deps := by
  rw [ancestorDependency, ancestorDependency, climbDependency_congr h, h]

/-- A specification that the planner has put in canonical form. -/
structure Canonical (s : TeamState) (spec : TaskSpec) : Prop where
  stored : validateStoredTaskSpec spec = .ok ()
  known : ∀ d : Nat, d ∈ spec.dependencies → ∃ td, s.tasks.get d = some td

section Create

variable {n m : Nat} {s : TeamState} {spec : TaskSpec} {budget : ResourceBudget} {capabilities : CapabilitySnapshot}
  {preset : Option InheritedModelPreset}

theorem taskCreated_ok (h : Inv n s) (hn : n + 1 < maxIdentifier) (hspec : Canonical s spec) :
    s.apply (.taskCreated (n + 1) spec) m = .ok (s.setTask (n + 1) ⟨n + 1, spec, none, .pending, none⟩) := by
  have hnext := nextIdentifier_tasks h (Nat.lt_trans hn (by decide))
  have hnew : s.tasks.contains (n + 1) = false := by
    rw [OrdMap.contains, h.fresh_task]
    rfl
  have hdeps : (spec.dependencies.forM fun dependency => require (s.tasks.contains dependency = true)
      (violation s!"Task {n + 1} references unknown dependency {dependency}")) = .ok () := by
    refine forM_ok.mpr fun d hd => require_ok.mpr ?_
    exact OrdMap.contains_iff.mpr (hspec.known d hd)
  simp only [apply, applyTaskCreated, validateStoredIdentifier_ok (Nat.succ_ne_zero n) hn, hnext, ok_bind]
  rw [require_bind trivial, require_bind hnew]
  simp only [hspec.stored, hdeps, ok_bind]
  rfl

/-- The first three events of a creation, from the checks of `AgentCreated`. -/
theorem create_applies (h : Inv n s) (hn : n + 1 < maxIdentifier) (hspec : Canonical s spec) {parent : Option AgentId}
    (hbudget : validateBudget budget = .ok ()) (hcap : validateCapabilities capabilities = .ok ())
    (hpreset : validatePreset preset = .ok ())
    (hroot : (s.setTask (n + 1) ⟨n + 1, spec, none, .pending, none⟩).admitAgent (n + 1)
      ⟨n + 1, spec, none, .pending, none⟩ capabilities parent = .ok (if parent = none then some (n + 1) else s.root)) :
    s.applyAll m [.taskCreated (n + 1) spec, .agentCreated (n + 1) (n + 1) parent budget capabilities preset,
      .taskOwnerAssigned (n + 1) (n + 1)] = .ok (s.create (n + 1) spec parent budget capabilities preset) := by
  have hnext := nextIdentifier_agents h (Nat.lt_trans hn (by decide))
  have hnew : s.agents.contains (n + 1) = false := by
    rw [OrdMap.contains, h.fresh_agent]
    rfl
  generalize ht : (⟨n + 1, spec, none, .pending, none⟩ : TaskRecord) = t at hroot
  have howner : t.owner = none := by rw [← ht]
  have hget : (s.setTask (n + 1) t).task (n + 1) = .ok t := task_ok (OrdMap.get_insert_self _ _ _)
  have hstep1 := taskCreated_ok (m := m) h hn hspec
  rw [ht] at hstep1
  have hstep2 : (s.setTask (n + 1) t).apply (.agentCreated (n + 1) (n + 1) parent budget capabilities preset) m =
      .ok { (s.setTask (n + 1) t).setAgent (n + 1)
        ⟨n + 1, parent, n + 1, .dormant, budget, .default, capabilities, preset⟩ with
          root := if parent = none then some (n + 1) else s.root } := by
    simp only [apply, applyAgentCreated, validateStoredIdentifier_ok (Nat.succ_ne_zero n) hn, ok_bind]
    rw [show (s.setTask (n + 1) t).agents = s.agents from rfl, hnext, ok_bind, require_bind rfl, require_bind hnew,
      hget, ok_bind, require_bind howner, hbudget, ok_bind, hcap, ok_bind, hpreset, ok_bind, hroot, ok_bind]
    rfl
  have hstep3 : ({ (s.setTask (n + 1) t).setAgent (n + 1)
        ⟨n + 1, parent, n + 1, .dormant, budget, .default, capabilities, preset⟩ with
          root := if parent = none then some (n + 1) else s.root } : TeamState).apply
        (.taskOwnerAssigned (n + 1) (n + 1)) m = .ok (s.create (n + 1) spec parent budget capabilities preset) := by
    simp only [apply, applyTaskOwnerAssigned]
    rw [agent_ok (OrdMap.get_insert_self _ _ _), ok_bind, require_bind rfl, task_ok (OrdMap.get_insert_self _ _ _), ok_bind,
      require_bind howner]
    subst ht
    simp only [setTask, setAgent, create, OrdMap.insert_insert, pure, Except.pure]
  simp only [applyAll, hstep1, hstep2, hstep3, ok_bind]
  rfl

theorem root_applies (h : Inv 0 s) (hspec : Canonical s spec) (hdeps : spec.dependencies = [])
    (hbudget : validateBudget budget = .ok ()) (hcap : validateCapabilities capabilities = .ok ()) :
    s.applyAll m [.taskCreated 1 spec, .agentCreated 1 1 none budget capabilities none, .taskOwnerAssigned 1 1] =
      .ok (s.create 1 spec none budget capabilities none) := by
  refine create_applies h (by decide) hspec hbudget hcap rfl ?_
  have hroot : (s.setTask (0 + 1) ⟨0 + 1, spec, none, .pending, none⟩).root = none := h.root
  simp only [admitAgent]
  rw [require_bind hroot, require_bind hdeps]
  rfl

variable {p : Nat} {pa : AgentRecord} {tp : TaskRecord} {reserved : ResourceBudget}

theorem delegation_applies (h : Inv n s) (hn : n + 1 < maxIdentifier) (hspec : Canonical s spec)
    (hp : s.agents.get p = some pa) (htp : s.tasks.get p = some tp) (hactive : pa.status = .active)
    (hscope : spec.scope ⊆ tp.spec.scope) (hsub : capabilities ⊆ pa.capabilities)
    (hcycle : s.ancestorDependency p spec.dependencies = .ok none) (hbudget : validateBudget budget = .ok ())
    (hcap : validateCapabilities capabilities = .ok ()) (hpreset : validatePreset preset = .ok ())
    (hres : pa.reservedBudget.checkedAdd budget = some reserved) (hwithin : pa.budget.contains reserved) :
    s.applyAll m [.taskCreated (n + 1) spec, .agentCreated (n + 1) (n + 1) (some p) budget capabilities preset,
      .taskOwnerAssigned (n + 1) (n + 1), .delegationGranted p (n + 1)] =
      .ok (s.delegated n spec p pa budget capabilities preset reserved) := by
  have hpn : p ≠ n + 1 := by have := (h.agent_range hp).2; omega
  have hroot : (s.setTask (n + 1) ⟨n + 1, spec, none, .pending, none⟩).admitAgent (n + 1)
      ⟨n + 1, spec, none, .pending, none⟩ capabilities (some p) = .ok s.root := by
    have ht' : (s.setTask (n + 1) ⟨n + 1, spec, none, .pending, none⟩).task pa.task = .ok tp := by
      rw [(h.agent p pa hp).task]
      refine task_ok ?_
      rw [setTask, OrdMap.get_insert_ne _ _ (Ne.symm hpn)]
      exact htp
    have ha' : (s.setTask (n + 1) ⟨n + 1, spec, none, .pending, none⟩).agent p = .ok pa := agent_ok hp
    have hc' : (s.setTask (n + 1) ⟨n + 1, spec, none, .pending, none⟩).ancestorDependency p spec.dependencies = .ok none := by
      rw [← hcycle]
      have hag : (s.setTask (n + 1) ⟨n + 1, spec, none, .pending, none⟩).agents = s.agents := rfl
      exact ancestorDependency_congr hag p _
    simp only [admitAgent, checkParent, ha', ht', hc', ok_bind, requireNoCycle]
    rw [require_bind hactive, require_bind hscope, require_bind hsub]
    rfl
  have hfirst := create_applies (m := m) h hn hspec hbudget hcap hpreset hroot
  have hlast : (s.create (n + 1) spec (some p) budget capabilities preset).apply (.delegationGranted p (n + 1)) m =
      .ok (s.delegated n spec p pa budget capabilities preset reserved) := by
    have hc : (s.create (n + 1) spec (some p) budget capabilities preset).agent (n + 1) =
        .ok ⟨n + 1, some p, n + 1, .dormant, budget, .default, capabilities, preset⟩ :=
      agent_ok (OrdMap.get_insert_self _ _ _)
    have hpar : (s.create (n + 1) spec (some p) budget capabilities preset).agent p = .ok pa := by
      refine agent_ok ?_
      rw [create, OrdMap.get_insert_ne _ _ (Ne.symm hpn)]
      exact hp
    simp only [apply, applyDelegationGranted, hc, hpar, hres, okOr_some, ok_bind]
    rw [require_bind trivial, require_bind hactive, require_bind hwithin]
    rfl
  -- The four events are the three of the creation and the grant.
  simp only [applyAll, bind_ok, pure, Except.pure, Except.ok.injEq] at hfirst ⊢
  obtain ⟨s1, h1, s2, h2, s3, h3, rfl⟩ := hfirst
  exact ⟨s1, h1, s2, h2, _, h3, _, hlast, rfl⟩

end Create

/-! ## Endings, retries and messages are applied -/

/-- No child of `k` is still open. -/
def NoOpenChildren (s : TeamState) (k : Nat) : Prop :=
  ∀ k' a', s.agents.get k' = some a' → a'.parent = some k → a'.status.isTerminal = true

section Endings

variable {n m : Nat} {s : TeamState} {k : Nat} {a : AgentRecord} {t : TaskRecord}

theorem paired_active {st : TaskStatus} (h : paired st .active = true) : st = .running := by
  cases st <;> first | rfl | cases h

theorem running_of_active (h : Inv n s) (ht : s.tasks.get k = some t) (ha : s.agents.get k = some a)
    (hact : a.status = .active) : t.status = .running := paired_active (hact ▸ h.paired k t a ht ha)

/-- The parent of an open Agent is open. -/
theorem Inv.open_parent (h : Inv n s) (ha : s.agents.get k = some a) (hopen : a.status.isTerminal = false) (p : Nat)
    (pa : AgentRecord) (hp : a.parent = some p) (hpa : s.agents.get p = some pa) : pa.status.isTerminal = false := by
  cases hterm : pa.status.isTerminal with
  | false => rfl
  | true =>
    have := (h.agent k a ha).closed p pa hp hpa hterm
    rw [hopen] at this
    cases this

/-- A Task event and then an Agent event on one pair. -/
theorem pair_applies {te ae : TeamEventKind} {t' : TaskRecord} {s' : TeamState}
    (hstep1 : s.apply te m = .ok (s.setTask k t')) (hstep2 : (s.setTask k t').apply ae m = .ok s') :
    s.applyAll m [te, ae] = .ok s' := by
  simp only [applyAll, hstep1, hstep2, ok_bind]
  rfl

theorem setTask_task (h : Inv n s) (ha : s.agents.get k = some a) (t' : TaskRecord) :
    (s.setTask k t').task a.task = .ok t' := by
  rw [(h.agent k a ha).task]
  exact task_ok (OrdMap.get_insert_self _ _ _)

theorem completion_applies (h : Inv n s) (ht : s.tasks.get k = some t) (ha : s.agents.get k = some a)
    (hact : a.status = .active) {c : CompletionCapsule} (hc : validateCapsule c = .ok ()) :
    s.applyAll m [.completionCapsuleSubmitted k k c, .taskSucceeded k, .agentSucceeded k] =
      .ok (s.setStatus k t a .succeeded (some c) .succeeded) := by
  have hrun := running_of_active h ht ha hact
  have htk := h.task k t ht
  have hstep1 : s.apply (.completionCapsuleSubmitted k k c) m = .ok (s.setTask k { t with completion := some c }) := by
    simp only [apply, applyCompletionCapsuleSubmitted, hc, task_ok ht, agent_ok ha, ok_bind]
    rw [require_bind ⟨hrun, htk.owner, htk.completion (by rw [hrun]; rintro ⟨⟩)⟩, require_bind hact]
    rfl
  have hstep2 : (s.setTask k { t with completion := some c }).apply (.taskSucceeded k) m =
      .ok (s.setTask k { t with status := .succeeded, completion := some c }) := by
    have ht' : (s.setTask k { t with completion := some c }).task k = .ok { t with completion := some c } :=
      task_ok (OrdMap.get_insert_self _ _ _)
    simp only [apply, applyTaskSucceeded, ht', ok_bind]
    rw [require_bind ⟨hrun, (by rintro ⟨⟩)⟩]
    simp only [setTask, OrdMap.insert_insert, pure, Except.pure]
  have hstep3 : (s.setTask k { t with status := .succeeded, completion := some c }).apply (.agentSucceeded k) m =
      .ok (s.setStatus k t a .succeeded (some c) .succeeded) := by
    have ha' : (s.setTask k { t with status := .succeeded, completion := some c }).agent k = .ok a := agent_ok ha
    simp only [apply, applyAgentSucceeded, ha', setTask_task h ha, ok_bind]
    rw [require_bind hact, require_bind trivial]
    rfl
  simp only [applyAll, hstep1, hstep2, hstep3, ok_bind]
  rfl

theorem failure_applies (h : Inv n s) (ht : s.tasks.get k = some t) (ha : s.agents.get k = some a)
    (hact : a.status = .active) {reason : String} (hr : validateReason reason = .ok ()) :
    s.applyAll m [.taskFailed k reason, .agentFailed k] =
      .ok (s.setStatus k t a (.failed reason) t.completion .failed) := by
  have hrun := running_of_active h ht ha hact
  have hstep1 : s.apply (.taskFailed k reason) m = .ok (s.setTask k { t with status := .failed reason }) := by
    simp only [apply, applyTaskFailed, hr, task_ok ht, ok_bind]
    rw [require_bind hrun]
    rfl
  refine pair_applies hstep1 ?_
  have ha' : (s.setTask k { t with status := .failed reason }).agent k = .ok a := agent_ok ha
  simp only [apply, applyAgentFailed, ha', setTask_task h ha, ok_bind]
  rw [require_bind hact, require_bind (show (TaskStatus.failed reason).isFailed = true from rfl)]
  rfl

theorem paired_terminal {st : TaskStatus} {as : AgentStatus} (h : paired st as = true) : st.isTerminal = as.isTerminal := by
  cases st <;> cases as <;> first | rfl | cases h

theorem cancellation_applies (h : Inv n s) (ht : s.tasks.get k = some t) (ha : s.agents.get k = some a)
    (hopen : a.status.isTerminal = false) {reason : String} (hr : validateReason reason = .ok ()) :
    s.applyAll m [.taskCancelled k reason, .agentCancelled k] =
      .ok (s.setStatus k t a (.cancelled reason) t.completion .cancelled) := by
  have hstep1 : s.apply (.taskCancelled k reason) m = .ok (s.setTask k { t with status := .cancelled reason }) := by
    simp only [apply, applyTaskCancelled, hr, task_ok ht, ok_bind]
    rw [require_bind ((paired_terminal (h.paired k t a ht ha)).trans hopen)]
    rfl
  refine pair_applies hstep1 ?_
  have ha' : (s.setTask k { t with status := .cancelled reason }).agent k = .ok a := agent_ok ha
  simp only [apply, applyAgentCancelled, ha', setTask_task h ha, ok_bind]
  rw [require_bind hopen, require_bind (show (TaskStatus.cancelled reason).isCancelled = true from rfl)]
  rfl

theorem paired_retryable {st : TaskStatus} {as : AgentStatus} (h : paired st as = true) :
    st.blocksDependents = as.isRetryable := by
  cases st <;> cases as <;> first | rfl | cases h

theorem retry_applies (h : Inv n s) (ht : s.tasks.get k = some t) (ha : s.agents.get k = some a) {p : Nat}
    {pa : AgentRecord} (hp : a.parent = some p) (hpa : s.agents.get p = some pa) (hact : pa.status = .active)
    (hretry : a.status.isRetryable = true) :
    s.applyAll m [.taskRetryRequested k, .agentRetryRequested p k] = .ok (s.setStatus k t a .pending none .dormant) := by
  have hstep1 : s.apply (.taskRetryRequested k) m = .ok (s.setTask k { t with status := .pending, completion := none }) := by
    simp only [apply, applyTaskRetryRequested, task_ok ht, ok_bind]
    rw [require_bind ((paired_retryable (h.paired k t a ht ha)).trans hretry)]
    rfl
  refine pair_applies hstep1 ?_
  have ha' : (s.setTask k { t with status := .pending, completion := none }).agent k = .ok a := agent_ok ha
  have hp' : (s.setTask k { t with status := .pending, completion := none }).agent p = .ok pa := agent_ok hpa
  simp only [apply, applyAgentRetryRequested, ha', hp', ok_bind]
  rw [require_bind hact, require_bind ⟨hp, hretry⟩]
  rfl

theorem message_applies {next id : Nat} (hj : Journal next s) (hid : id = s.messages.length + 1) (hlt : id < maxIdentifier)
    (ha : s.agents.get k = some a) (hact : a.status = .active) {recipient : MessageRecipient} {body : String}
    {e : AgentId → AgentStatus → TeamError} (hbody : isBlank body = false ∧ byteLen body ≤ maxMessageBytes)
    (hrec : s.checkRecipient e recipient = .ok ()) :
    s.applyAll m [.messageSent id k recipient body] =
      .ok { s with messages := s.messages ++ [⟨id, k, recipient, body⟩] } := by
  obtain ⟨c, hc⟩ := hj.messages
  have hlen : c = s.messages.length := by
    have := congrArg List.length hc
    rw [List.length_map, List.length_range'] at this
    exact this.symm
  have hnext : nextIdentifier (s.messages.map (·.id)) = .ok id := by
    rw [hc, nextIdentifier_range (by simp only [maxIdentifier] at hlt; omega), hid, hlen]
  have hnew : s.messages.any (fun existing => existing.id == id) = false := by
    rw [List.any_eq_false]
    intro x hx
    have : x.id ∈ List.range' 1 c := hc ▸ List.mem_map_of_mem hx
    have hrange := List.mem_range'_1.mp this
    simp only [beq_iff_eq]
    intro he
    rw [he] at hrange
    omega
  have hrec' : s.checkRecipient (fun _ _ => violation "terminal Agent received a message") recipient = .ok () := by
    cases recipient with
    | team => rfl
    | agent target =>
      simp only [checkRecipient, bind_ok, require_ok] at hrec ⊢
      exact hrec
  have hstep : s.apply (.messageSent id k recipient body) m =
      .ok { s with messages := s.messages ++ [⟨id, k, recipient, body⟩] } := by
    simp only [apply, applyMessageSent, validateStoredIdentifier_ok (by omega : id ≠ 0) hlt, hnext, agent_ok ha, hrec',
      ok_bind]
    rw [require_bind trivial, require_bind hact, require_bind hbody, require_bind hnew]
    rfl
  simp only [applyAll, hstep, ok_bind]
  rfl

end Endings

end TeamState

/-! ## What an accepted plan says -/

open TeamState

section Plan

variable {r : TeamRuntime} {events : List TeamEventKind} {outcome : CommandOutcome}

theorem agent_get {s : TeamState} {k : AgentId} {a : AgentRecord} (h : s.agent k = .ok a) : s.agents.get k = some a :=
  okOr_ok.mp h

theorem task_get {s : TeamState} {k : TaskId} {t : TaskRecord} (h : s.task k = .ok t) : s.tasks.get k = some t :=
  okOr_ok.mp h

theorem requireActive_ok {k : AgentId} {a : AgentRecord} (h : r.requireActive k = .ok a) :
    r.state.agents.get k = some a ∧ a.status = .active := by
  simp only [TeamRuntime.requireActive, bind_ok, require_ok, exists_const, pure, Except.pure, Except.ok.injEq] at h
  obtain ⟨a', ha, hact, rfl⟩ := h
  exact ⟨agent_get ha, hact⟩

theorem noOpenChildren_ok {k : AgentId} (h : r.requireNoOutstandingChildren k = .ok ()) : NoOpenChildren r.state k := by
  intro k' a' ha' hp
  have hany := List.any_eq_false.mp (require_ok.mp h) a' (OrdMap.mem_values.mpr ⟨k', ha'⟩)
  simpa [hp] using hany

theorem authenticate_ok {session : AgentSession} {k : AgentId} (h : r.authenticate session = .ok k) : k = session.agent := by
  simp only [TeamRuntime.authenticate, bind_ok, require_ok, exists_const, pure, Except.pure, Except.ok.injEq] at h
  exact h.2.2.symm

theorem sorted_stored {l : List TaskId} (hs : l.Pairwise (· ≤ ·)) (h : TeamRuntime.checkDuplicates l = .ok ()) :
    validateStoredDependencies l = .ok () := by
  induction l with
  | nil => rfl
  | cons a l ih =>
    cases l with
    | nil => rfl
    | cons b l =>
      simp only [TeamRuntime.checkDuplicates, bind_ok, require_ok, exists_const] at h
      obtain ⟨ha, hs'⟩ := List.pairwise_cons.mp hs
      have hlt : a < b := Nat.lt_of_le_of_ne (ha b List.mem_cons_self) h.1
      rw [validateStoredDependencies, require_bind h.1, require_bind hlt]
      exact ih hs' h.2

/-- The planner's form of a specification is the one that is stored. -/
theorem validateTaskSpec_ok {task spec : TaskSpec} (h : r.validateTaskSpec task = .ok spec) :
    Canonical r.state spec ∧ spec.scope = task.scope ∧ ∀ d, d ∈ spec.dependencies ↔ d ∈ task.dependencies := by
  simp only [TeamRuntime.validateTaskSpec, bind_ok, require_ok, exists_const, pure, Except.pure, Except.ok.injEq] at h
  obtain ⟨hblank, htitle, _, hscope, hmax, _, hdup, _, hknown, rfl⟩ := h
  have hperm := List.mergeSort_perm task.dependencies (fun a b => decide (a ≤ b))
  have hsorted : (task.dependencies.mergeSort (fun a b => decide (a ≤ b))).Pairwise (· ≤ ·) := by
    have htrans : ∀ a b c : TaskId, decide (a ≤ b) = true → decide (b ≤ c) = true → decide (a ≤ c) = true := by
      simp only [decide_eq_true_eq]
      exact fun a b c => Nat.le_trans
    have htotal : ∀ a b : TaskId, (decide (a ≤ b) || decide (b ≤ a)) = true := by
      simp only [Bool.or_eq_true, decide_eq_true_eq]
      exact Nat.le_total
    exact (List.pairwise_mergeSort htrans htotal task.dependencies).imp of_decide_eq_true
  refine ⟨⟨?_, fun d hd => ?_⟩, rfl, fun d => hperm.mem_iff⟩
  · have htrim : isBlank (trim task.title) = false ∧ trim (trim task.title) = trim task.title := by
      rw [isBlank, trim_trim]
      exact ⟨by simpa using hblank, rfl⟩
    simp only [validateStoredTaskSpec]
    rw [require_bind htrim, require_bind htitle, hscope, ok_bind, require_bind (by rw [hperm.length_eq]; exact hmax)]
    exact sorted_stored hsorted hdup
  · exact OrdMap.contains_iff.mp (require_ok.mp (forM_ok.mp hknown d hd))

theorem planRoot_ok {task : TaskSpec} {budget : ResourceBudget} {capabilities : CapabilitySnapshot}
    (h : r.planRoot task budget capabilities = .ok (events, outcome)) :
    ∃ spec, r.state.root = none ∧ Canonical r.state spec ∧ spec.dependencies = [] ∧ validateBudget budget = .ok () ∧
      validateCapabilities capabilities = .ok () ∧ r.nextTask ≠ 0 ∧ r.nextTask < maxIdentifier ∧
      events = [.taskCreated r.nextTask spec, .agentCreated r.nextAgent r.nextTask none budget capabilities none,
        .taskOwnerAssigned r.nextTask r.nextAgent] := by
  simp only [TeamRuntime.planRoot, bind_ok, require_ok, exists_const, pure, Except.pure, Except.ok.injEq,
    Prod.mk.injEq] at h
  obtain ⟨hroot, spec, hspec, hdeps, _, hbudget, _, hcap, tid, htid, aid, haid, rfl, _⟩ := h
  obtain ⟨rfl, h0, hlt⟩ := freshIdentifier_ok htid
  obtain ⟨rfl, _, _⟩ := freshIdentifier_ok haid
  exact ⟨spec, hroot, (validateTaskSpec_ok hspec).1, hdeps, hbudget, hcap, h0, hlt, rfl⟩

/-- The parent has room for the child's budget, so the reservation is the sum. -/
theorem remaining_reserves {b reserved rest child : ResourceBudget} (h : b.remainingAfter reserved = some rest)
    (hc : rest.contains child) : ∃ sum, reserved.checkedAdd child = some sum ∧ b.contains sum := by
  unfold ResourceBudget.remainingAfter at h
  split at h
  · rename_i hle
    cases h
    obtain ⟨h1, h2⟩ := hc
    obtain ⟨h3, h4⟩ := hle
    have hb1 := b.tokenUnits_lt
    have hb2 := b.toolCalls_lt
    simp only at h1 h2
    unfold ResourceBudget.checkedAdd
    rw [dif_pos ⟨by omega, by omega⟩]
    exact ⟨_, rfl, by simp only; omega, by simp only; omega⟩
  · cases h

theorem planDelegation_ok {p : AgentId} {task : TaskSpec} {budget : ResourceBudget} {capabilities : CapabilitySnapshot}
    {preset : Option InheritedModelPreset} (h : r.planDelegation p task budget capabilities preset = .ok (events, outcome)) :
    ∃ spec pa tp reserved, Canonical r.state spec ∧ (∀ d, d ∈ spec.dependencies ↔ d ∈ task.dependencies) ∧
      r.state.agents.get p = some pa ∧ r.state.tasks.get pa.task = some tp ∧
      pa.status = .active ∧ spec.scope ⊆ tp.spec.scope ∧ capabilities ⊆ pa.capabilities ∧
      r.state.ancestorDependency p spec.dependencies = .ok none ∧ validateBudget budget = .ok () ∧
      validateCapabilities capabilities = .ok () ∧ validatePreset preset = .ok () ∧
      pa.reservedBudget.checkedAdd budget = some reserved ∧ pa.budget.contains reserved ∧ r.nextTask ≠ 0 ∧
      r.nextTask < maxIdentifier ∧
      events = [.taskCreated r.nextTask spec, .agentCreated r.nextAgent r.nextTask (some p) budget capabilities preset,
        .taskOwnerAssigned r.nextTask r.nextAgent, .delegationGranted p r.nextAgent] := by
  simp only [TeamRuntime.planDelegation, bind_ok, require_ok, okOr_ok, exists_const, pure, Except.pure,
    Except.ok.injEq, Prod.mk.injEq] at h
  obtain ⟨pa, hpa, hact, tp, htp, spec, hspec, dep, hdep, _, hcycle, hscope, _, hcap, _, hpreset, hsub, _, hbudget, rest,
    hrest, hcont, tid, htid, aid, haid, rfl, _⟩ := h
  obtain ⟨rfl, h0, hlt⟩ := freshIdentifier_ok htid
  obtain ⟨rfl, _, _⟩ := freshIdentifier_ok haid
  obtain ⟨reserved, hres, hwithin⟩ := remaining_reserves hrest hcont
  have hnone : dep = none := by
    cases dep with
    | none => rfl
    | some d => cases hcycle
  subst hnone
  obtain ⟨hcanon, _, hdeps⟩ := validateTaskSpec_ok hspec
  exact ⟨spec, pa, tp, reserved, hcanon, hdeps, agent_get hpa, task_get htp, hact, hscope, hsub, hdep, hbudget, hcap,
    hpreset, hres, hwithin, h0, hlt, rfl⟩

theorem planMessage_ok {k : AgentId} {recipient : MessageRecipient} {body : String}
    (h : r.planMessage k recipient body = .ok (events, outcome)) :
    ∃ a, r.state.agents.get k = some a ∧ a.status = .active ∧ isBlank body = false ∧ byteLen body ≤ maxMessageBytes ∧
      r.state.checkRecipient (fun agent status => .invalidTransition agent status "receive a message") recipient = .ok () ∧
      r.nextMessage < maxIdentifier ∧ events = [.messageSent r.nextMessage k recipient body] := by
  simp only [TeamRuntime.planMessage, bind_ok, require_ok, exists_const, pure, Except.pure, Except.ok.injEq,
    Prod.mk.injEq] at h
  obtain ⟨a, ha, hblank, hlen, _, hrec, mid, hmid, rfl, _⟩ := h
  obtain ⟨hget, hact⟩ := requireActive_ok ha
  obtain ⟨rfl, _, hlt⟩ := freshIdentifier_ok hmid
  exact ⟨a, hget, hact, hblank, hlen, hrec, hlt, rfl⟩

theorem planCompletion_ok {k : AgentId} {capsule : CompletionCapsule}
    (h : r.planCompletion k capsule = .ok (events, outcome)) :
    ∃ a, r.state.agents.get k = some a ∧ a.status = .active ∧ NoOpenChildren r.state k ∧ validateCapsule capsule = .ok () ∧
      events = [.completionCapsuleSubmitted a.task k capsule, .taskSucceeded a.task, .agentSucceeded k] := by
  simp only [TeamRuntime.planCompletion, bind_ok, pure, Except.pure, Except.ok.injEq, Prod.mk.injEq] at h
  obtain ⟨a, ha, _, hchildren, _, hcapsule, rfl, _⟩ := h
  obtain ⟨hget, hact⟩ := requireActive_ok ha
  exact ⟨a, hget, hact, noOpenChildren_ok hchildren, hcapsule, rfl⟩

theorem planFailure_ok {k : AgentId} {reason : String} (h : r.planFailure k reason = .ok (events, outcome)) :
    ∃ a, r.state.agents.get k = some a ∧ a.status = .active ∧ NoOpenChildren r.state k ∧ validateReason reason = .ok () ∧
      events = [.taskFailed a.task reason, .agentFailed k] := by
  simp only [TeamRuntime.planFailure, bind_ok, pure, Except.pure, Except.ok.injEq, Prod.mk.injEq] at h
  obtain ⟨a, ha, _, hchildren, _, hreason, rfl, _⟩ := h
  obtain ⟨hget, hact⟩ := requireActive_ok ha
  exact ⟨a, hget, hact, noOpenChildren_ok hchildren, hreason, rfl⟩

theorem planCancellation_ok {k : AgentId} {reason : String} (h : r.planCancellation k reason = .ok (events, outcome)) :
    ∃ a, r.state.agents.get k = some a ∧ a.status.isTerminal = false ∧ NoOpenChildren r.state k ∧
      validateReason reason = .ok () ∧ events = [.taskCancelled a.task reason, .agentCancelled k] := by
  simp only [TeamRuntime.planCancellation, bind_ok, require_ok, exists_const, pure, Except.pure, Except.ok.injEq,
    Prod.mk.injEq] at h
  obtain ⟨a, ha, hopen, _, hchildren, _, hreason, rfl, _⟩ := h
  exact ⟨a, agent_get ha, hopen, noOpenChildren_ok hchildren, hreason, rfl⟩

theorem planRetry_ok {p k : AgentId} (h : r.planRetry p k = .ok (events, outcome)) :
    ∃ pa a, r.state.agents.get p = some pa ∧ pa.status = .active ∧ r.state.agents.get k = some a ∧ a.parent = some p ∧
      a.status.isRetryable = true ∧ r.state.firstFailedDependency a.task = .ok none ∧ NoOpenChildren r.state k ∧
      events = [.taskRetryRequested a.task, .agentRetryRequested p k] := by
  simp only [TeamRuntime.planRetry, bind_ok, require_ok, exists_const, pure, Except.pure, Except.ok.injEq,
    Prod.mk.injEq] at h
  obtain ⟨pa, hpa, a, ha, hpar, hretry, failed, hfailed, rfl, _, hchildren, rfl, _⟩ := h
  obtain ⟨hget, hact⟩ := requireActive_ok hpa
  exact ⟨pa, a, hget, hact, agent_get ha, hpar, hretry, hfailed, noOpenChildren_ok hchildren, rfl⟩

end Plan

/-! ## The Runtime's invariant -/

/-- What every reachable Runtime keeps, with `n` Tasks. Its limit may have grown since
    the last transaction, so a Ready Task may be waiting; a Pending one is settled. -/
structure RuntimeInv (n : Nat) (r : TeamRuntime) : Prop where
  limit : r.maxActiveAgents ≠ 0
  state : Inv n r.state
  settled : Settled r.state
  journal : Journal r.nextTransaction r.state
  active : r.state.activeAgentCount ≤ r.maxActiveAgents
  nextTask : r.nextTask = n + 1
  nextAgent : r.nextAgent = n + 1
  nextMessage : r.nextMessage = r.state.messages.length + 1
  tasksFit : n + 1 < 2 ^ 64
  messagesFit : r.state.messages.length + 1 < 2 ^ 64

/-- What the base events of a command or of the journal do to `s`. -/
structure Applied (n' next : Nat) (s s' : TeamState) : Prop where
  inv : Inv n' s'
  journal : Journal next s'
  active : s'.activeAgentCount ≤ s.activeAgentCount
  tasksFit : n' + 1 < 2 ^ 64
  messagesFit : s'.messages.length + 1 < 2 ^ 64

/-- `s'` has one Agent more, a child of `p` for `task`. -/
def Delegation (n : Nat) (s : TeamState) (p : Nat) (task : TaskSpec) (budget : ResourceBudget)
    (capabilities : CapabilitySnapshot) (preset : Option InheritedModelPreset) (s' : TeamState) : Prop :=
  ∃ spec pa reserved, (∀ d, d ∈ spec.dependencies ↔ d ∈ task.dependencies) ∧ s.agents.get p = some pa ∧
    pa.status = .active ∧ s' = s.delegated n spec p pa budget capabilities preset reserved

/-- What a command does to a state with `n` Tasks: a creation, a message, or new statuses
    for one pair. -/
inductive Change (n : Nat) (s : TeamState) : TeamCommand → TeamState → Prop
  | root {task spec : TaskSpec} {budget : ResourceBudget} {capabilities : CapabilitySnapshot} : n = 0 →
      Change n s (.admitRoot task budget capabilities) (s.create 1 spec none budget capabilities none)
  | delegate {parent : AgentSession} {task : TaskSpec} {budget : ResourceBudget} {capabilities : CapabilitySnapshot}
      {s' : TeamState} : Delegation n s parent.agent task budget capabilities none s' →
      Change n s (.delegate parent task budget capabilities) s'
  | delegateWithModelPreset {parent : AgentSession} {task : TaskSpec} {budget : ResourceBudget}
      {capabilities : CapabilitySnapshot} {preset : Option InheritedModelPreset} {s' : TeamState} :
      Delegation n s parent.agent task budget capabilities preset s' →
      Change n s (.delegateWithModelPreset parent task budget capabilities preset) s'
  | message {sender : AgentSession} {recipient : MessageRecipient} {body : String} {messages : List MessageView} :
      Change n s (.sendMessage sender recipient body) { s with messages := messages }
  | complete {session : AgentSession} {capsule : CompletionCapsule} {t : TaskRecord} {a : AgentRecord} :
      s.tasks.get session.agent = some t → s.agents.get session.agent = some a →
      Change n s (.complete session capsule) (s.setStatus session.agent t a .succeeded (some capsule) .succeeded)
  | fail {session : AgentSession} {reason : String} {t : TaskRecord} {a : AgentRecord} :
      s.tasks.get session.agent = some t → s.agents.get session.agent = some a →
      Change n s (.fail session reason) (s.setStatus session.agent t a (.failed reason) t.completion .failed)
  | cancel {session : AgentSession} {reason : String} {t : TaskRecord} {a : AgentRecord} :
      s.tasks.get session.agent = some t → s.agents.get session.agent = some a →
      Change n s (.cancel session reason) (s.setStatus session.agent t a (.cancelled reason) t.completion .cancelled)
  | retry {requester : AgentSession} {k : AgentId} {t : TaskRecord} {a : AgentRecord} :
      s.tasks.get k = some t → s.agents.get k = some a → a.parent = some requester.agent → NoOpenChildren s k →
      Change n s (.retry requester k) (s.setStatus k t a .pending none .dormant)

/-- One command kind, and no event of the journal. -/
def OneCommand (events : List TeamEventKind) : Prop :=
  (∃ kind, events.filterMap (·.operationKind) = [kind]) ∧
    ∀ e ∈ events, e.isOperationCommitted = false ∧ e.isOperationAcknowledged = false

section Applies

variable {n next : Nat} {r : TeamRuntime} {s : TeamState}

theorem TeamState.Journal.congr {s s' : TeamState} (h : Journal next s) (hops : s'.operations = s.operations)
    (hmsgs : s'.messages = s.messages) : Journal next s' :=
  ⟨by rw [hops]; exact h.operations, by rw [hops]; exact h.operation, by rw [hmsgs]; exact h.messages⟩

theorem activeAgentCount_setStatus_le {k : Nat} {t : TaskRecord} {a : AgentRecord} {st : TaskStatus}
    {c : Option CompletionCapsule} {as : AgentStatus} (ha : s.agents.get k = some a) (has : as ≠ .active) :
    (s.setStatus k t a st c as).activeAgentCount ≤ s.activeAgentCount := by
  have := setStatus_activeAgentCount ha t st c as
  rw [if_neg has] at this
  omega

/-- A change of one pair's statuses that activates nobody, as base events. -/
theorem applied_setStatus {k : Nat} {t : TaskRecord} {a : AgentRecord} {st : TaskStatus} {c : Option CompletionCapsule}
    {as : AgentStatus} (hj : Journal next s) (ha : s.agents.get k = some a)
    (has : as ≠ .active) (hn : n + 1 < 2 ^ 64) (hm : s.messages.length + 1 < 2 ^ 64)
    (hinv : Inv n (s.setStatus k t a st c as)) : Applied n next s (s.setStatus k t a st c as) :=
  ⟨hinv, hj.congr rfl rfl, activeAgentCount_setStatus_le ha has, hn, hm⟩

/-- The events of an accepted plan are applied, also on a state with another journal. -/
theorem plan_applies (hr : RuntimeInv n r) {command : TeamCommand} {events : List TeamEventKind} {outcome : CommandOutcome}
    (h : r.plan command = .ok (events, outcome)) (m : Nat) (ops : OrdMap Nat OperationRecord)
    (hj : Journal next { r.state with operations := ops }) :
    OneCommand events ∧ ∃ n' s', ({ r.state with operations := ops } : TeamState).applyAll m events = .ok s' ∧
      Applied n' next { r.state with operations := ops } s' ∧ Change n { r.state with operations := ops } command s' := by
  have hs : Inv n { r.state with operations := ops } := hr.state.congr rfl rfl rfl
  generalize hs0 : ({ r.state with operations := ops } : TeamState) = s at hj hs
  have htasks : r.state.tasks = s.tasks := by rw [← hs0]
  have hagents : r.state.agents = s.agents := by rw [← hs0]
  have hroot : r.state.root = s.root := by rw [← hs0]
  have hmessages : r.state.messages = s.messages := by rw [← hs0]
  have hmfit : s.messages.length + 1 < 2 ^ 64 := hmessages ▸ hr.messagesFit
  have hcanon : ∀ {spec}, Canonical r.state spec → Canonical s spec := fun hc => ⟨hc.stored, htasks ▸ hc.known⟩
  have hclosed : ∀ {k}, NoOpenChildren r.state k → NoOpenChildren s k := fun hc => by rw [NoOpenChildren, ← hagents]; exact hc
  have hcreated : ∀ {spec parent budget capabilities preset} {rest : List TeamEventKind},
      rest.filterMap (·.operationKind) = [] → (∀ e ∈ rest, e.isOperationCommitted = false ∧ e.isOperationAcknowledged = false) →
      OneCommand (.taskCreated (n + 1) spec :: .agentCreated (n + 1) (n + 1) parent budget capabilities preset ::
        .taskOwnerAssigned (n + 1) (n + 1) :: rest) := by
    intro spec parent budget capabilities preset rest hrest hfree
    refine ⟨?_, ?_⟩
    · cases parent with
      | none => exact ⟨.rootAdmission, congrArg (TeamOperationKind.rootAdmission :: ·) hrest⟩
      | some p => exact ⟨.delegation, congrArg (TeamOperationKind.delegation :: ·) hrest⟩
    · intro e he
      rcases List.mem_cons.mp he with rfl | he
      · exact ⟨rfl, rfl⟩
      rcases List.mem_cons.mp he with rfl | he
      · exact ⟨rfl, rfl⟩
      rcases List.mem_cons.mp he with rfl | he
      · exact ⟨rfl, rfl⟩
      · exact hfree e he
  have hdelegate : ∀ {p task budget capabilities preset},
      r.planDelegation p task budget capabilities preset = .ok (events, outcome) →
      OneCommand events ∧ ∃ n' s', s.applyAll m events = .ok s' ∧ Applied n' next s s' ∧
        Delegation n s p task budget capabilities preset s' := by
    intro p task budget capabilities preset h
    obtain ⟨spec, pa, tp, reserved, hspec, hdeps, hpa, htp, hact, hscope, hsub, hcycle, hbudget, hcap, hpreset, hres, hwithin,
      _, hlt, rfl⟩ := planDelegation_ok h
    rw [(hr.state.agent p pa hpa).task, htasks] at htp
    rw [hagents] at hpa
    rw [hr.nextTask, hr.nextAgent] at *
    have hspec' := hcanon hspec
    rw [← ancestorDependency_congr hagents.symm] at hcycle
    refine ⟨hcreated rfl ?_, n + 1, _, delegation_applies hs hlt hspec' hpa htp hact hscope hsub hcycle hbudget hcap hpreset
      hres hwithin, ⟨hs.createChild hpa htp hact hspec'.known hscope hsub hres hwithin, hj.congr rfl rfl, ?_, ?_, hmfit⟩,
      spec, pa, reserved, hdeps, hpa, hact, rfl⟩
    · intro e he
      obtain rfl := List.mem_singleton.mp he
      exact ⟨rfl, rfl⟩
    · -- The child is Dormant, and the parent stays what it was.
      have hpn : p ≠ n + 1 := Nat.ne_of_lt (Nat.lt_succ_of_le (hs.agent_range hpa).2)
      have h1 := OrdMap.countP_insert_none hs.fresh_agent (fun agent => agent.status == .active)
        ⟨n + 1, some p, n + 1, .dormant, budget, .default, capabilities, preset⟩
      have hp' : (s.create (n + 1) spec (some p) budget capabilities preset).agents.get p = some pa := by
        rw [create, OrdMap.get_insert_ne _ _ (Ne.symm hpn)]
        exact hpa
      have h2 := OrdMap.countP_insert hp' (fun agent => agent.status == .active) { pa with reservedBudget := reserved }
      simp only [activeAgentCount, delegated, reserve, setAgent]
      simp only [create] at h1 h2 ⊢
      have h3 : (if (AgentStatus.dormant == AgentStatus.active) = true then 1 else 0) = 0 := rfl
      omega
    · simp only [maxIdentifier] at hlt
      omega
  cases command with
  | admitRoot task budget capabilities =>
    obtain ⟨spec, hnone, hspec, hdeps, hbudget, hcap, _, hlt, rfl⟩ := planRoot_ok h
    have hn : n = 0 := by
      have := hr.state.root
      rw [hnone] at this
      by_contra hne
      rw [if_neg hne] at this
      cases this
    subst hn
    rw [hr.nextTask, hr.nextAgent] at *
    refine ⟨hcreated rfl (by simp), 1, _, root_applies hs (hcanon hspec) hdeps hbudget hcap, ⟨hs.createRoot hdeps,
      hj.congr rfl rfl, ?_, by decide, hmfit⟩, .root rfl⟩
    have h1 := OrdMap.countP_insert_none (hs.fresh_agent) (fun agent => agent.status == .active)
      ⟨1, none, 1, .dormant, budget, .default, capabilities, none⟩
    exact Nat.le_of_eq h1
  | delegate parent task budget capabilities =>
    simp only [TeamRuntime.plan, bind_ok] at h
    obtain ⟨p, hp, h⟩ := h
    obtain rfl := authenticate_ok hp
    obtain ⟨hone, n', s', happ, ha, hd⟩ := hdelegate h
    exact ⟨hone, n', s', happ, ha, .delegate hd⟩
  | delegateWithModelPreset parent task budget capabilities preset =>
    simp only [TeamRuntime.plan, bind_ok] at h
    obtain ⟨p, hp, h⟩ := h
    obtain rfl := authenticate_ok hp
    obtain ⟨hone, n', s', happ, ha, hd⟩ := hdelegate h
    exact ⟨hone, n', s', happ, ha, .delegateWithModelPreset hd⟩
  | sendMessage sender recipient body =>
    simp only [TeamRuntime.plan, bind_ok] at h
    obtain ⟨k, _, h⟩ := h
    obtain ⟨a, ha, hact, hblank, hlen, hrec, hlt, rfl⟩ := planMessage_ok h
    rw [hagents] at ha
    rw [hr.nextMessage] at *
    have hrec' : s.checkRecipient (fun agent status => .invalidTransition agent status "receive a message") recipient =
        .ok () := by
      rw [← hrec]
      cases recipient with
      | team => rfl
      | agent target => simp only [checkRecipient, agent, hagents]
    obtain ⟨c, hc⟩ := hj.messages
    have hclen : c = s.messages.length := by
      have := congrArg List.length hc
      rw [List.length_map, List.length_range'] at this
      exact this.symm
    refine ⟨⟨⟨.message, rfl⟩, ?_⟩, n, _, message_applies hj (by rw [hmessages]) hlt ha hact ⟨hblank, hlen⟩ hrec',
      ⟨hs.congr rfl rfl rfl, ⟨hj.operations, hj.operation, c + 1, ?_⟩, Nat.le_refl _, hr.tasksFit, ?_⟩, .message⟩
    · intro e he
      obtain rfl := List.mem_singleton.mp he
      exact ⟨rfl, rfl⟩
    · rw [List.map_append, hc, List.range'_concat, hmessages, hclen]
      simp [Nat.add_comm]
    · rw [hmessages] at hlt
      simp only [maxIdentifier] at hlt
      rw [List.length_append, List.length_singleton]
      omega
  | complete session capsule =>
    simp only [TeamRuntime.plan, bind_ok] at h
    obtain ⟨k, hk, h⟩ := h
    obtain rfl := authenticate_ok hk
    obtain ⟨a, ha, hact, hchildren, hcapsule, rfl⟩ := planCompletion_ok h
    rw [hagents] at ha
    obtain ⟨t, ht⟩ := hs.task_of_agent ha
    have hrun := running_of_active hs ht ha hact
    rw [(hs.agent session.agent a ha).task]
    refine ⟨⟨⟨.completion, rfl⟩, ?_⟩, n, _, completion_applies hs ht ha hact hcapsule,
      applied_setStatus hj ha (by rintro ⟨⟩) hr.tasksFit hmfit (hs.setStatus ht ha rfl (fun hne => absurd rfl hne)
        (fun _ => (hs.task session.agent t ht).started (by rw [hrun]; rfl)) (fun _ => rfl) (fun _ => hclosed hchildren) (by rintro ⟨⟩)), .complete ht ha⟩
    intro e he
    simp only [List.mem_cons, List.not_mem_nil, or_false] at he
    rcases he with rfl | rfl | rfl <;> exact ⟨rfl, rfl⟩
  | fail session reason =>
    simp only [TeamRuntime.plan, bind_ok] at h
    obtain ⟨k, hk, h⟩ := h
    obtain rfl := authenticate_ok hk
    obtain ⟨a, ha, hact, hchildren, hreason, rfl⟩ := planFailure_ok h
    rw [hagents] at ha
    obtain ⟨t, ht⟩ := hs.task_of_agent ha
    have hrun := running_of_active hs ht ha hact
    rw [(hs.agent session.agent a ha).task]
    refine ⟨⟨⟨.failure, rfl⟩, ?_⟩, n, _, failure_applies hs ht ha hact hreason,
      applied_setStatus hj ha (by rintro ⟨⟩) hr.tasksFit hmfit (hs.setStatus ht ha rfl
        (fun _ => (hs.task session.agent t ht).completion (by rw [hrun]; rintro ⟨⟩)) (by rintro ⟨⟩) (by rw [hrun]; rintro ⟨⟩)
        (fun _ => hclosed hchildren) (by rintro ⟨⟩)), .fail ht ha⟩
    intro e he
    simp only [List.mem_cons, List.not_mem_nil, or_false] at he
    rcases he with rfl | rfl <;> exact ⟨rfl, rfl⟩
  | cancel session reason =>
    simp only [TeamRuntime.plan, bind_ok] at h
    obtain ⟨k, hk, h⟩ := h
    obtain rfl := authenticate_ok hk
    obtain ⟨a, ha, hopen, hchildren, hreason, rfl⟩ := planCancellation_ok h
    rw [hagents] at ha
    obtain ⟨t, ht⟩ := hs.task_of_agent ha
    have hne : t.status ≠ .succeeded := by
      intro heq
      have hterm := paired_terminal (hs.paired session.agent t a ht ha)
      rw [heq, hopen] at hterm
      cases hterm
    rw [(hs.agent session.agent a ha).task]
    refine ⟨⟨⟨.cancellation, rfl⟩, ?_⟩, n, _, cancellation_applies hs ht ha hopen hreason,
      applied_setStatus hj ha (by rintro ⟨⟩) hr.tasksFit hmfit (hs.setStatus ht ha rfl
        (fun _ => (hs.task session.agent t ht).completion hne) (by rintro ⟨⟩) (fun heq => absurd heq hne)
        (fun _ => hclosed hchildren) (by rintro ⟨⟩)), .cancel ht ha⟩
    intro e he
    simp only [List.mem_cons, List.not_mem_nil, or_false] at he
    rcases he with rfl | rfl <;> exact ⟨rfl, rfl⟩
  | retry requester k =>
    simp only [TeamRuntime.plan, bind_ok] at h
    obtain ⟨p, hp, h⟩ := h
    obtain rfl := authenticate_ok hp
    obtain ⟨pa, a, hpa, hact, ha, hpar, hretry, _, hchildren, rfl⟩ := planRetry_ok h
    rw [hagents] at ha hpa
    obtain ⟨t, ht⟩ := hs.task_of_agent ha
    have hne : t.status ≠ .succeeded := by
      intro heq
      have hb := paired_retryable (hs.paired k t a ht ha)
      rw [heq, hretry] at hb
      cases hb
    rw [(hs.agent k a ha).task]
    refine ⟨⟨⟨.retry, rfl⟩, ?_⟩, n, _, retry_applies hs ht ha hpar hpa hact hretry,
      applied_setStatus hj ha (by rintro ⟨⟩) hr.tasksFit hmfit (hs.setStatus ht ha rfl (fun _ => rfl) (by rintro ⟨⟩)
        (fun heq => absurd heq hne) (by rintro ⟨⟩) ?_),
      .retry ht ha hpar (hclosed hchildren)⟩
    · intro e he
      simp only [List.mem_cons, List.not_mem_nil, or_false] at he
      rcases he with rfl | rfl <;> exact ⟨rfl, rfl⟩
    · intro _ p' pa' hp' hpa'
      rw [hpar] at hp'
      cases hp'
      rw [hpa] at hpa'
      cases hpa'
      rw [hact]
      rfl

end Applies

end GreenTyper.Team
