/-
  GreenTyper.Team.Invariant — what is true of every Team state between transactions
  (see `GreenTyper.Team.State`).

  Tasks and Agents are created in pairs, so both are numbered 1 to `n` and the Task `k`
  is owned by the Agent `k` (`Inv`). Dependencies and parents have smaller numbers. A
  command other than a creation changes the statuses of one pair (`setStatus`); a
  creation adds the pair `n + 1` and reserves its budget with the parent. `Inv` is kept by
  both (`Inv.setStatus`, `Inv.create`), and it is all that `validate` checks of Tasks and
  Agents (`Inv.validate`).
-/

import GreenTyper.Team.State

namespace GreenTyper.Team

open GreenTyper.Lib

/-- Ready, Running or Succeeded: the statuses a Task reaches through its dependencies. -/
def TaskStatus.isStarted : TaskStatus → Bool
  | .ready | .running | .succeeded => true
  | _ => false

namespace TeamState

/-- The token units granted to the children of an Agent, all of them ever delegated. -/
def childTokens (s : TeamState) (p : Nat) : Nat :=
  s.agents.sumBy (fun c => if c.parent = some p then c.budget.tokenUnits else 0)

/-- The Tool calls granted to the children of an Agent. -/
def childCalls (s : TeamState) (p : Nat) : Nat :=
  s.agents.sumBy (fun c => if c.parent = some p then c.budget.toolCalls else 0)

structure TaskInv (s : TeamState) (k : Nat) (t : TaskRecord) : Prop where
  id : t.id = k
  owner : t.owner = some k
  completion : t.status ≠ .succeeded → t.completion = none
  dependencies : ∀ d : Nat, d ∈ t.spec.dependencies → 1 ≤ d ∧ d < k
  started : t.status.isStarted = true → ∀ d : Nat, d ∈ t.spec.dependencies → ∀ td, s.tasks.get d = some td → td.status = .succeeded

structure AgentInv (s : TeamState) (k : Nat) (a : AgentRecord) : Prop where
  id : a.id = k
  task : a.task = k
  within : a.budget.contains a.reservedBudget
  tokens : a.reservedBudget.tokenUnits = s.childTokens k
  calls : a.reservedBudget.toolCalls = s.childCalls k
  root : a.parent = none → k = 1
  parent : ∀ p : Nat, a.parent = some p → 1 ≤ p ∧ p < k
  capabilities : ∀ (p : Nat) pa, a.parent = some p → s.agents.get p = some pa → a.capabilities ⊆ pa.capabilities
  closed : ∀ (p : Nat) pa, a.parent = some p → s.agents.get p = some pa → pa.status.isTerminal = true → a.status.isTerminal = true

/-- The invariant of the Tasks and Agents, `n` of each. -/
structure Inv (n : Nat) (s : TeamState) : Prop where
  tasks : ∀ k, (∃ t, s.tasks.get k = some t) ↔ 1 ≤ k ∧ k ≤ n
  agents : ∀ k, (∃ a, s.agents.get k = some a) ↔ 1 ≤ k ∧ k ≤ n
  task : ∀ k t, s.tasks.get k = some t → TaskInv s k t
  agent : ∀ k a, s.agents.get k = some a → AgentInv s k a
  paired : ∀ k t a, s.tasks.get k = some t → s.agents.get k = some a → TeamState.paired t.status a.status = true
  scope : ∀ k a (p : Nat) t tp, s.agents.get k = some a → a.parent = some p → s.tasks.get k = some t → s.tasks.get p = some tp →
    t.spec.scope ⊆ tp.spec.scope
  root : s.root = if n = 0 then none else some 1

theorem inv_default : Inv 0 .default where
  tasks k := by simp [default]; omega
  agents k := by simp [default]; omega
  task k t h := by cases h
  agent k a h := by cases h
  paired k t a h := by cases h
  scope k a p t tp h := by cases h
  root := rfl

namespace Inv

variable {n : Nat} {s : TeamState}

theorem has_task (h : Inv n s) {k : Nat} (h1 : 1 ≤ k) (hn : k ≤ n) : ∃ t, s.tasks.get k = some t := (h.tasks k).mpr ⟨h1, hn⟩

theorem has_agent (h : Inv n s) {k : Nat} (h1 : 1 ≤ k) (hn : k ≤ n) : ∃ a, s.agents.get k = some a :=
  (h.agents k).mpr ⟨h1, hn⟩

theorem task_range (h : Inv n s) {k : Nat} {t : TaskRecord} (ht : s.tasks.get k = some t) : 1 ≤ k ∧ k ≤ n :=
  (h.tasks k).mp ⟨t, ht⟩

theorem agent_range (h : Inv n s) {k : Nat} {a : AgentRecord} (ha : s.agents.get k = some a) : 1 ≤ k ∧ k ≤ n :=
  (h.agents k).mp ⟨a, ha⟩

/-- The Task of an Agent. -/
theorem task_of_agent (h : Inv n s) {k : Nat} {a : AgentRecord} (ha : s.agents.get k = some a) :
    ∃ t, s.tasks.get k = some t := by
  obtain ⟨h1, hn⟩ := h.agent_range ha
  exact h.has_task h1 hn

/-- The Agent of a Task. -/
theorem agent_of_task (h : Inv n s) {k : Nat} {t : TaskRecord} (ht : s.tasks.get k = some t) :
    ∃ a, s.agents.get k = some a := by
  obtain ⟨h1, hn⟩ := h.task_range ht
  exact h.has_agent h1 hn

theorem dependency (h : Inv n s) {k d : Nat} {t : TaskRecord} (ht : s.tasks.get k = some t)
    (hd : d ∈ t.spec.dependencies) : ∃ td, s.tasks.get d = some td := by
  obtain ⟨h1, hlt⟩ := (h.task k t ht).dependencies d hd
  exact h.has_task h1 (Nat.le_trans (Nat.le_of_lt hlt) (h.task_range ht).2)

end Inv

/-! ## One pair changes its statuses -/

/-- The pair `k` with new statuses. -/
def setStatus (s : TeamState) (k : Nat) (t : TaskRecord) (a : AgentRecord) (status : TaskStatus)
    (completion : Option CompletionCapsule) (agentStatus : AgentStatus) : TeamState :=
  { s with
    tasks := s.tasks.insert k { t with status := status, completion := completion }
    agents := s.agents.insert k { a with status := agentStatus } }

section SetStatus

variable {s : TeamState} {k : Nat} {t : TaskRecord} {a : AgentRecord} {st : TaskStatus} {c : Option CompletionCapsule}
  {as : AgentStatus}

theorem setStatus_task (k' : Nat) :
    (s.setStatus k t a st c as).tasks.get k' =
      if k = k' then some { t with status := st, completion := c } else s.tasks.get k' :=
  s.tasks.get_insert k k' _

theorem setStatus_agent (k' : Nat) :
    (s.setStatus k t a st c as).agents.get k' = if k = k' then some { a with status := as } else s.agents.get k' :=
  s.agents.get_insert k k' _

/-- A Task after the change, from the Task before it. -/
theorem setStatus_task_back (ht : s.tasks.get k = some t) {k' : Nat} {t' : TaskRecord}
    (h : (s.setStatus k t a st c as).tasks.get k' = some t') :
    ∃ t0, s.tasks.get k' = some t0 ∧
      ((k' = k ∧ t' = { t0 with status := st, completion := c }) ∨ (k' ≠ k ∧ t' = t0)) := by
  rw [setStatus_task] at h
  split at h
  · rename_i hk
    subst hk
    cases h
    exact ⟨t, ht, Or.inl ⟨rfl, rfl⟩⟩
  · rename_i hk
    exact ⟨t', h, Or.inr ⟨fun he => hk he.symm, rfl⟩⟩

/-- An Agent after the change, from the Agent before it. -/
theorem setStatus_agent_back (ha : s.agents.get k = some a) {k' : Nat} {a' : AgentRecord}
    (h : (s.setStatus k t a st c as).agents.get k' = some a') :
    ∃ a0, s.agents.get k' = some a0 ∧ ((k' = k ∧ a' = { a0 with status := as }) ∨ (k' ≠ k ∧ a' = a0)) := by
  rw [setStatus_agent] at h
  split at h
  · rename_i hk
    subst hk
    cases h
    exact ⟨a, ha, Or.inl ⟨rfl, rfl⟩⟩
  · rename_i hk
    exact ⟨a', h, Or.inr ⟨fun he => hk he.symm, rfl⟩⟩

/-- A change of statuses moves no sum over what Agents were granted. -/
theorem setStatus_sumBy (ha : s.agents.get k = some a) (g : AgentRecord → Nat)
    (hg : g { a with status := as } = g a) : (s.setStatus k t a st c as).agents.sumBy g = s.agents.sumBy g := by
  have := OrdMap.sumBy_insert_some ha g { a with status := as }
  simp only [setStatus]
  omega

theorem setStatus_childTokens (ha : s.agents.get k = some a) (p : Nat) :
    (s.setStatus k t a st c as).childTokens p = s.childTokens p := setStatus_sumBy ha _ rfl

theorem setStatus_childCalls (ha : s.agents.get k = some a) (p : Nat) :
    (s.setStatus k t a st c as).childCalls p = s.childCalls p := setStatus_sumBy ha _ rfl

theorem setStatus_activeAgentCount (ha : s.agents.get k = some a) (t : TaskRecord) (st : TaskStatus)
    (c : Option CompletionCapsule) (as : AgentStatus) :
    (s.setStatus k t a st c as).activeAgentCount + (if a.status = .active then 1 else 0) =
      s.activeAgentCount + (if as = .active then 1 else 0) := by
  have := OrdMap.countP_insert ha (fun agent => agent.status == .active) { a with status := as }
  simpa only [activeAgentCount, setStatus, beq_iff_eq] using this

/-- The invariant, when the pair's new statuses go together, a terminal Agent has no open
    children, an open one no terminal parent, and a started Task has its dependencies. -/
theorem Inv.setStatus {n : Nat} (h : Inv n s) (ht : s.tasks.get k = some t) (ha : s.agents.get k = some a)
    (hpair : TeamState.paired st as = true) (hcomp : st ≠ .succeeded → c = none)
    (hstart : st.isStarted = true → ∀ d : Nat, d ∈ t.spec.dependencies → ∀ td, s.tasks.get d = some td → td.status = .succeeded)
    (hkeep : t.status = .succeeded → st = .succeeded)
    (hchildren : as.isTerminal = true → ∀ k' a', s.agents.get k' = some a' → a'.parent = some k → a'.status.isTerminal = true)
    (hparent : as.isTerminal = false → ∀ (p : Nat) pa, a.parent = some p → s.agents.get p = some pa → pa.status.isTerminal = false) :
    Inv n (s.setStatus k t a st c as) := by
  have htk := h.task k t ht
  have hak := h.agent k a ha
  constructor
  · intro k'
    rw [← h.tasks k', setStatus_task]
    split
    · rename_i hk
      subst hk
      exact ⟨fun _ => ⟨t, ht⟩, fun _ => ⟨_, rfl⟩⟩
    · rfl
  · intro k'
    rw [← h.agents k', setStatus_agent]
    split
    · rename_i hk
      subst hk
      exact ⟨fun _ => ⟨a, ha⟩, fun _ => ⟨_, rfl⟩⟩
    · rfl
  · -- A dependency that had succeeded still has.
    have hdep : ∀ d td, (s.setStatus k t a st c as).tasks.get d = some td →
        (∀ td0, s.tasks.get d = some td0 → td0.status = .succeeded) → td.status = .succeeded := by
      intro d td hd hold
      obtain ⟨td0, hd0, ⟨rfl, rfl⟩ | ⟨_, rfl⟩⟩ := setStatus_task_back ht hd
      · rw [ht] at hd0
        cases hd0
        exact hkeep (hold t ht)
      · exact hold td hd0
    intro k' t' ht'
    obtain ⟨t0, ht0, ⟨rfl, rfl⟩ | ⟨_, rfl⟩⟩ := setStatus_task_back ht ht'
    · rw [ht] at ht0
      cases ht0
      exact ⟨htk.id, htk.owner, hcomp, htk.dependencies, fun hs d hd td htd => hdep d td htd (hstart hs d hd)⟩
    · have h0 := h.task k' t' ht0
      exact ⟨h0.id, h0.owner, h0.completion, h0.dependencies, fun hs d hd td htd => hdep d td htd (h0.started hs d hd)⟩
  · intro k' a' ha'
    obtain ⟨a0, ha0, ⟨rfl, rfl⟩ | ⟨hne, rfl⟩⟩ := setStatus_agent_back ha ha'
    · rw [ha] at ha0
      cases ha0
      refine ⟨hak.id, hak.task, hak.within, ?_, ?_, hak.root, hak.parent, ?_, ?_⟩
      · rw [setStatus_childTokens ha]; exact hak.tokens
      · rw [setStatus_childCalls ha]; exact hak.calls
      · intro p pa hp hpa
        obtain ⟨pa0, hpa0, ⟨rfl, rfl⟩ | ⟨_, rfl⟩⟩ := setStatus_agent_back ha hpa
        · exact absurd (hak.parent _ hp).2 (Nat.lt_irrefl _)
        · exact hak.capabilities p pa hp hpa0
      · intro p pa hp hpa hterm
        obtain ⟨pa0, hpa0, ⟨rfl, rfl⟩ | ⟨_, rfl⟩⟩ := setStatus_agent_back ha hpa
        · exact absurd (hak.parent _ hp).2 (Nat.lt_irrefl _)
        · cases has : as.isTerminal with
          | true => rfl
          | false => exact absurd hterm (by simp [hparent has p pa hp hpa0])
    · have h0 := h.agent k' a' ha0
      refine ⟨h0.id, h0.task, h0.within, ?_, ?_, h0.root, h0.parent, ?_, ?_⟩
      · rw [setStatus_childTokens ha]; exact h0.tokens
      · rw [setStatus_childCalls ha]; exact h0.calls
      · intro p pa hp hpa
        obtain ⟨pa0, hpa0, ⟨rfl, rfl⟩ | ⟨_, rfl⟩⟩ := setStatus_agent_back ha hpa
        · exact h0.capabilities p pa0 hp hpa0
        · exact h0.capabilities p pa hp hpa0
      · intro p pa hp hpa hterm
        obtain ⟨pa0, hpa0, ⟨rfl, rfl⟩ | ⟨_, rfl⟩⟩ := setStatus_agent_back ha hpa
        · exact hchildren hterm k' a' ha0 hp
        · exact h0.closed p pa hp hpa0 hterm
  · intro k' t' a' ht' ha'
    obtain ⟨t0, ht0, htc⟩ := setStatus_task_back ht ht'
    obtain ⟨a0, ha0, hac⟩ := setStatus_agent_back ha ha'
    rcases htc with ⟨rfl, rfl⟩ | ⟨hne, rfl⟩
    · rcases hac with ⟨_, rfl⟩ | ⟨hne, _⟩
      · exact hpair
      · exact absurd rfl hne
    · rcases hac with ⟨heq, _⟩ | ⟨_, rfl⟩
      · exact absurd heq hne
      · exact h.paired k' t' a' ht0 ha0
  · intro k' a' p t' tp ha' hp ht' htp
    obtain ⟨t0, ht0, htc⟩ := setStatus_task_back ht ht'
    obtain ⟨a0, ha0, hac⟩ := setStatus_agent_back ha ha'
    obtain ⟨tp0, htp0, htpc⟩ := setStatus_task_back ht htp
    have hspec : t'.spec = t0.spec := by rcases htc with ⟨_, rfl⟩ | ⟨_, rfl⟩ <;> rfl
    have hspec' : tp.spec = tp0.spec := by rcases htpc with ⟨_, rfl⟩ | ⟨_, rfl⟩ <;> rfl
    have hpar : a0.parent = some p := by rcases hac with ⟨_, rfl⟩ | ⟨_, rfl⟩ <;> exact hp
    rw [hspec, hspec']
    exact h.scope k' a0 p t0 tp0 ha0 hpar ht0 htp0
  · exact h.root

end SetStatus

/-! ## A pair is created -/

/-- The pair `k`, new. -/
def create (s : TeamState) (k : Nat) (spec : TaskSpec) (parent : Option AgentId) (budget : ResourceBudget)
    (capabilities : CapabilitySnapshot) (preset : Option InheritedModelPreset) : TeamState :=
  { s with
    root := if parent = none then some k else s.root
    tasks := s.tasks.insert k ⟨k, spec, some k, .pending, none⟩
    agents := s.agents.insert k ⟨k, parent, k, .dormant, budget, .default, capabilities, preset⟩ }

/-- The Agent `p` with another reservation. -/
def reserve (s : TeamState) (p : Nat) (pa : AgentRecord) (reserved : ResourceBudget) : TeamState :=
  s.setAgent p { pa with reservedBudget := reserved }

section Create

variable {n : Nat} {s : TeamState} {spec : TaskSpec} {budget : ResourceBudget} {capabilities : CapabilitySnapshot}
  {preset : Option InheritedModelPreset}

theorem Inv.fresh_task (h : Inv n s) : s.tasks.get (n + 1) = none := by
  cases ht : s.tasks.get (n + 1) with
  | none => rfl
  | some t => exact absurd (h.task_range ht).2 (by omega)

theorem Inv.fresh_agent (h : Inv n s) : s.agents.get (n + 1) = none := by
  cases ha : s.agents.get (n + 1) with
  | none => rfl
  | some a => exact absurd (h.agent_range ha).2 (by omega)

/-- Nobody is the child of an Agent that is not there yet. -/
theorem Inv.no_children (h : Inv n s) (g : AgentRecord → Nat) :
    s.agents.sumBy (fun c => if c.parent = some (n + 1) then g c else 0) = 0 := by
  refine OrdMap.sumBy_eq_zero fun k c hc => if_neg fun hp => ?_
  have := ((h.agent k c hc).parent _ hp).2
  have := (h.agent_range hc).2
  omega

theorem Inv.createRoot (h : Inv 0 s) (hdeps : spec.dependencies = []) :
    Inv 1 (s.create 1 spec none budget capabilities preset) := by
  have hnt : ∀ k, s.tasks.get k = none := by
    intro k
    cases ht : s.tasks.get k with
    | none => rfl
    | some t => exact absurd (h.task_range ht) (by omega)
  have hna : ∀ k, s.agents.get k = none := by
    intro k
    cases ha : s.agents.get k with
    | none => rfl
    | some a => exact absurd (h.agent_range ha) (by omega)
  have htask : ∀ k t, (s.create 1 spec none budget capabilities preset).tasks.get k = some t →
      k = 1 ∧ t = ⟨1, spec, some 1, .pending, none⟩ := by
    intro k t ht
    rw [create, OrdMap.get_insert, hnt] at ht
    split at ht
    · rename_i hk
      cases ht
      exact ⟨hk.symm, rfl⟩
    · cases ht
  have hagent : ∀ k a, (s.create 1 spec none budget capabilities preset).agents.get k = some a →
      k = 1 ∧ a = ⟨1, none, 1, .dormant, budget, .default, capabilities, preset⟩ := by
    intro k a ha
    rw [create, OrdMap.get_insert, hna] at ha
    split at ha
    · rename_i hk
      cases ha
      exact ⟨hk.symm, rfl⟩
    · cases ha
  have hsum : ∀ g : AgentRecord → Nat,
      (s.create 1 spec none budget capabilities preset).agents.sumBy (fun c => if c.parent = some 1 then g c else 0) = 0 := by
    intro g
    refine OrdMap.sumBy_eq_zero fun k c hc => if_neg ?_
    obtain ⟨_, rfl⟩ := hagent k c hc
    nofun
  constructor
  · intro k
    constructor
    · rintro ⟨t, ht⟩
      obtain ⟨rfl, _⟩ := htask k t ht
      omega
    · intro hk
      obtain rfl : k = 1 := by omega
      exact ⟨_, OrdMap.get_insert_self _ _ _⟩
  · intro k
    constructor
    · rintro ⟨a, ha⟩
      obtain ⟨rfl, _⟩ := hagent k a ha
      omega
    · intro hk
      obtain rfl : k = 1 := by omega
      exact ⟨_, OrdMap.get_insert_self _ _ _⟩
  · intro k t ht
    obtain ⟨rfl, rfl⟩ := htask k t ht
    exact ⟨rfl, rfl, fun _ => rfl, by simp [hdeps], nofun⟩
  · intro k a ha
    obtain ⟨rfl, rfl⟩ := hagent k a ha
    exact ⟨rfl, rfl, ⟨Nat.zero_le _, Nat.zero_le _⟩, (hsum _).symm, (hsum _).symm, fun _ => rfl, nofun, nofun, nofun⟩
  · intro k t a ht ha
    obtain ⟨rfl, rfl⟩ := htask k t ht
    obtain ⟨_, rfl⟩ := hagent _ a ha
    rfl
  · intro k a p t tp ha hp
    obtain ⟨rfl, rfl⟩ := hagent k a ha
    cases hp
  · rfl

theorem checkedAdd_eq {b other r : ResourceBudget} (h : b.checkedAdd other = some r) :
    r.tokenUnits = b.tokenUnits + other.tokenUnits ∧ r.toolCalls = b.toolCalls + other.toolCalls := by
  unfold ResourceBudget.checkedAdd at h
  split at h
  · cases h
    exact ⟨rfl, rfl⟩
  · cases h

variable {p : Nat} {pa : AgentRecord} {tp : TaskRecord} {reserved : ResourceBudget}

/-- The state after a delegation. -/
def delegated (s : TeamState) (n : Nat) (spec : TaskSpec) (p : Nat) (pa : AgentRecord) (budget : ResourceBudget)
    (capabilities : CapabilitySnapshot) (preset : Option InheritedModelPreset) (reserved : ResourceBudget) : TeamState :=
  (s.create (n + 1) spec (some p) budget capabilities preset).reserve p pa reserved

theorem delegated_task_back {k : Nat} {t : TaskRecord}
    (h : (s.delegated n spec p pa budget capabilities preset reserved).tasks.get k = some t) :
    (k = n + 1 ∧ t = ⟨n + 1, spec, some (n + 1), .pending, none⟩) ∨ (k ≠ n + 1 ∧ s.tasks.get k = some t) := by
  rw [delegated, reserve, setAgent, create, OrdMap.get_insert] at h
  split at h
  · rename_i hk
    cases h
    exact Or.inl ⟨hk.symm, rfl⟩
  · rename_i hk
    exact Or.inr ⟨fun he => hk he.symm, h⟩

theorem delegated_agent_back (hn : p ≠ n + 1) (hp : s.agents.get p = some pa) {k : Nat} {a : AgentRecord}
    (h : (s.delegated n spec p pa budget capabilities preset reserved).agents.get k = some a) :
    (k = n + 1 ∧ a = ⟨n + 1, some p, n + 1, .dormant, budget, .default, capabilities, preset⟩) ∨
      ∃ a0, k ≠ n + 1 ∧ s.agents.get k = some a0 ∧
        a = { a0 with reservedBudget := if k = p then reserved else a0.reservedBudget } := by
  simp only [delegated, reserve, setAgent, create, OrdMap.get_insert] at h
  split at h
  · rename_i hk
    subst hk
    cases h
    exact Or.inr ⟨pa, hn, hp, by simp⟩
  · rename_i hk
    split at h
    · rename_i hk'
      cases h
      exact Or.inl ⟨hk'.symm, rfl⟩
    · rename_i hk'
      exact Or.inr ⟨a, fun he => hk' he.symm, h, by rw [if_neg (fun he => hk he.symm)]⟩

theorem delegated_sumBy (h : Inv n s) (hp : s.agents.get p = some pa) (g : ResourceBudget → Nat) (k : Nat) :
    (s.delegated n spec p pa budget capabilities preset reserved).agents.sumBy
        (fun c => if c.parent = some k then g c.budget else 0) =
      s.agents.sumBy (fun c => if c.parent = some k then g c.budget else 0) + if p = k then g budget else 0 := by
  have hpn : p ≠ n + 1 := by have := (h.agent_range hp).2; omega
  have hp' : (s.create (n + 1) spec (some p) budget capabilities preset).agents.get p = some pa := by
    rw [create, OrdMap.get_insert_ne _ _ (Ne.symm hpn)]
    exact hp
  have h1 := OrdMap.sumBy_insert_some hp' (fun c => if c.parent = some k then g c.budget else 0)
    { pa with reservedBudget := reserved }
  have h2 := OrdMap.sumBy_insert_none h.fresh_agent (fun c => if c.parent = some k then g c.budget else 0)
    ⟨n + 1, some p, n + 1, .dormant, budget, .default, capabilities, preset⟩
  simp only [Option.some.injEq] at h2
  simp only [delegated, reserve, setAgent]
  simp only [create] at h1 ⊢
  omega

theorem Inv.createChild (h : Inv n s) (hp : s.agents.get p = some pa) (htp : s.tasks.get p = some tp)
    (hactive : pa.status = .active) (hdeps : ∀ d : Nat, d ∈ spec.dependencies → ∃ td, s.tasks.get d = some td)
    (hscope : spec.scope ⊆ tp.spec.scope) (hcap : capabilities ⊆ pa.capabilities)
    (hres : pa.reservedBudget.checkedAdd budget = some reserved) (hwithin : pa.budget.contains reserved) :
    Inv (n + 1) (s.delegated n spec p pa budget capabilities preset reserved) := by
  obtain ⟨hp1, hpn⟩ := h.agent_range hp
  have hne : p ≠ n + 1 := by omega
  have hpa := h.agent p pa hp
  obtain ⟨hresT, hresC⟩ := checkedAdd_eq hres
  constructor
  · intro k
    constructor
    · rintro ⟨t, ht⟩
      rcases delegated_task_back ht with ⟨rfl, _⟩ | ⟨_, ht⟩
      · omega
      · have := h.task_range ht; omega
    · intro hk
      simp only [delegated, reserve, setAgent, create, OrdMap.get_insert]
      split
      · exact ⟨_, rfl⟩
      · exact h.has_task hk.1 (by omega)
  · intro k
    constructor
    · rintro ⟨a, ha⟩
      rcases delegated_agent_back hne hp ha with ⟨rfl, _⟩ | ⟨a0, _, ha, _⟩
      · omega
      · have := h.agent_range ha; omega
    · intro hk
      simp only [delegated, reserve, setAgent, create, OrdMap.get_insert]
      split
      · exact ⟨_, rfl⟩
      · split
        · exact ⟨_, rfl⟩
        · exact h.has_agent hk.1 (by omega)
  · intro k t ht
    rcases delegated_task_back ht with ⟨rfl, rfl⟩ | ⟨hk, ht0⟩
    · refine ⟨rfl, rfl, fun _ => rfl, fun d hd => ?_, nofun⟩
      obtain ⟨td, htd⟩ := hdeps d hd
      exact ⟨(h.task_range htd).1, Nat.lt_succ_of_le (h.task_range htd).2⟩
    · have h0 := h.task k t ht0
      refine ⟨h0.id, h0.owner, h0.completion, h0.dependencies, fun hs d hd td htd => ?_⟩
      rcases delegated_task_back htd with ⟨rfl, _⟩ | ⟨_, htd0⟩
      · exact absurd (h0.dependencies _ hd).2 (Nat.not_lt.mpr (Nat.le_succ_of_le (h.task_range ht0).2))
      · exact h0.started hs d hd td htd0
  · intro k a ha
    have hfresh : ∀ q, (∃ aq, s.agents.get q = some aq) → q ≠ n + 1 := by
      rintro q ⟨aq, hq⟩ rfl
      rw [h.fresh_agent] at hq
      cases hq
    rcases delegated_agent_back hne hp ha with ⟨rfl, rfl⟩ | ⟨a0, hk, ha0, rfl⟩
    · refine ⟨rfl, rfl, ⟨Nat.zero_le _, Nat.zero_le _⟩, ?_, ?_, nofun, ?_, ?_, ?_⟩
      · rw [childTokens, delegated_sumBy h hp (·.tokenUnits), h.no_children, if_neg hne]; rfl
      · rw [childCalls, delegated_sumBy h hp (·.toolCalls), h.no_children, if_neg hne]; rfl
      · intro q hq
        cases hq
        exact ⟨hp1, by omega⟩
      · intro q pq hq hpq
        cases hq
        rcases delegated_agent_back hne hp hpq with ⟨heq, _⟩ | ⟨a0, _, ha0, rfl⟩
        · exact absurd heq hne
        · rw [hp] at ha0
          cases ha0
          exact hcap
      · intro q pq hq hpq hterm
        cases hq
        rcases delegated_agent_back hne hp hpq with ⟨heq, _⟩ | ⟨a0, _, ha0, rfl⟩
        · exact absurd heq hne
        · rw [hp] at ha0
          cases ha0
          simp [hactive, AgentStatus.isTerminal] at hterm
    · have h0 := h.agent k a0 ha0
      refine ⟨h0.id, h0.task, ?_, ?_, ?_, h0.root, h0.parent, ?_, ?_⟩
      · by_cases hkp : k = p
        · subst hkp
          rw [hp] at ha0
          cases ha0
          simpa using hwithin
        · simpa [hkp] using h0.within
      · rw [childTokens, delegated_sumBy h hp (·.tokenUnits)]
        have := h0.tokens
        by_cases hkp : k = p
        · subst hkp
          rw [hp] at ha0
          cases ha0
          simp only [if_true, hresT, this, childTokens]
        · simp only [if_neg hkp, if_neg (Ne.symm hkp), Nat.add_zero, this, childTokens]
      · rw [childCalls, delegated_sumBy h hp (·.toolCalls)]
        have := h0.calls
        by_cases hkp : k = p
        · subst hkp
          rw [hp] at ha0
          cases ha0
          simp only [if_true, hresC, this, childCalls]
        · simp only [if_neg hkp, if_neg (Ne.symm hkp), Nat.add_zero, this, childCalls]
      · intro q pq hq hpq
        rcases delegated_agent_back hne hp hpq with ⟨rfl, _⟩ | ⟨aq, _, haq, rfl⟩
        · exact absurd (h0.parent _ hq).2 (Nat.not_lt.mpr (Nat.le_succ_of_le (h.agent_range ha0).2))
        · exact h0.capabilities q aq hq haq
      · intro q pq hq hpq hterm
        rcases delegated_agent_back hne hp hpq with ⟨rfl, _⟩ | ⟨aq, _, haq, rfl⟩
        · exact absurd (h0.parent _ hq).2 (Nat.not_lt.mpr (Nat.le_succ_of_le (h.agent_range ha0).2))
        · exact h0.closed q aq hq haq hterm
  · intro k t a ht ha
    rcases delegated_task_back ht with ⟨rfl, rfl⟩ | ⟨hk, ht0⟩
    · rcases delegated_agent_back hne hp ha with ⟨_, rfl⟩ | ⟨a0, hk, _, _⟩
      · rfl
      · exact absurd rfl hk
    · rcases delegated_agent_back hne hp ha with ⟨heq, _⟩ | ⟨a0, _, ha0, rfl⟩
      · exact absurd heq hk
      · exact h.paired k t a0 ht0 ha0
  · intro k a q t tq ha hq ht htq
    rcases delegated_agent_back hne hp ha with ⟨rfl, rfl⟩ | ⟨a0, hk, ha0, rfl⟩
    · cases hq
      rcases delegated_task_back ht with ⟨_, rfl⟩ | ⟨hk, _⟩
      · rcases delegated_task_back htq with ⟨heq, _⟩ | ⟨_, htq0⟩
        · exact absurd heq hne
        · rw [htp] at htq0
          cases htq0
          exact hscope
      · exact absurd rfl hk
    · rcases delegated_task_back ht with ⟨heq, _⟩ | ⟨_, ht0⟩
      · exact absurd heq hk
      · rcases delegated_task_back htq with ⟨rfl, _⟩ | ⟨_, htq0⟩
        · exact absurd ((h.agent k a0 ha0).parent _ hq).2
            (Nat.not_lt.mpr (Nat.le_succ_of_le (h.agent_range ha0).2))
        · exact h.scope k a0 q t tq ha0 hq ht0 htq0
  · have hroot := h.root
    have hn : n ≠ 0 := by omega
    rw [if_neg hn] at hroot
    rw [if_neg (Nat.succ_ne_zero n)]
    exact hroot

end Create

/-! ## The journal and the messages -/

/-- The operations are numbered from 1 on, their transactions are ids below `next`, and
    an acknowledgement comes after its commit; the messages are numbered from 1 on. -/
structure Journal (next : Nat) (s : TeamState) : Prop where
  operations : ∃ m, s.operations.keys = List.range' 1 m
  operation : ∀ o r, s.operations.get o = some r → o < maxIdentifier ∧ r.transaction ≠ 0 ∧ r.transaction < next ∧
    ∀ t, r.acknowledgementTransaction = some t → r.transaction < t
  messages : ∃ m, s.messages.map (·.id) = List.range' 1 m

theorem journal_default (next : Nat) : Journal next .default :=
  ⟨⟨0, rfl⟩, nofun, ⟨0, rfl⟩⟩

theorem Journal.mono {next next' : Nat} {s : TeamState} (h : Journal next s) (hle : next ≤ next') : Journal next' s :=
  ⟨h.operations, fun o r hr => by obtain ⟨h1, h2, h3, h4⟩ := h.operation o r hr; exact ⟨h1, h2, Nat.lt_of_lt_of_le h3 hle, h4⟩,
    h.messages⟩

/-! ## The validators accept it -/

theorem sum_filter {α : Type} (p : α → Bool) (g : α → Nat) (l : List α) :
    ((l.filter p).map g).sum = (l.map (fun x => if p x then g x else 0)).sum := by
  induction l with
  | nil => rfl
  | cons x l ih =>
    rw [List.filter_cons]
    split
    · rename_i h
      simp [ih, h]
    · rename_i h
      simp [ih, h]

/-- Budgets add up unless a sum overflows. -/
theorem foldlM_checkedAdd (l : List AgentRecord) :
    ∀ b : ResourceBudget, b.tokenUnits + (l.map (·.budget.tokenUnits)).sum < 2 ^ 64 →
      b.toolCalls + (l.map (·.budget.toolCalls)).sum < 2 ^ 32 →
      ∃ r : ResourceBudget, l.foldlM (fun reserved (child : AgentRecord) => reserved.checkedAdd child.budget) b = some r ∧
        r.tokenUnits = b.tokenUnits + (l.map (·.budget.tokenUnits)).sum ∧
        r.toolCalls = b.toolCalls + (l.map (·.budget.toolCalls)).sum := by
  induction l with
  | nil => intro b _ _; exact ⟨b, rfl, rfl, rfl⟩
  | cons c l ih =>
    intro b ht hc
    simp only [List.map_cons, List.sum_cons] at ht hc ⊢
    have hadd : b.checkedAdd c.budget =
        some ⟨b.tokenUnits + c.budget.tokenUnits, b.toolCalls + c.budget.toolCalls, by omega, by omega⟩ := by
      unfold ResourceBudget.checkedAdd
      rw [dif_pos ⟨by omega, by omega⟩]
    obtain ⟨r, hr, hrt, hrc⟩ := ih ⟨b.tokenUnits + c.budget.tokenUnits, b.toolCalls + c.budget.toolCalls, by omega, by omega⟩
      (by simp only; omega) (by simp only; omega)
    simp only at hrt hrc
    refine ⟨r, ?_, by omega, by omega⟩
    rw [List.foldlM_cons, hadd]
    exact hr

theorem budget_ext {a b : ResourceBudget} (ht : a.tokenUnits = b.tokenUnits) (hc : a.toolCalls = b.toolCalls) : a = b := by
  cases a; cases b; congr

theorem mem_childrenOf {s : TeamState} {p : AgentId} {c : AgentRecord} :
    c ∈ s.childrenOf p ↔ (∃ k, s.agents.get k = some c) ∧ c.parent = some p := by
  rw [childrenOf, List.mem_filter, OrdMap.mem_values, beq_iff_eq]

section Validate

variable {n : Nat} {s : TeamState}

theorem task_ok {k : TaskId} {t : TaskRecord} (h : s.tasks.get k = some t) : s.task k = .ok t := by rw [task, h]; rfl

theorem agent_ok {k : AgentId} {a : AgentRecord} (h : s.agents.get k = some a) : s.agent k = .ok a := by rw [agent, h]; rfl

theorem contains_agent {k : AgentId} {a : AgentRecord} (h : s.agents.get k = some a) : s.agents.contains k = true :=
  OrdMap.contains_iff.mpr ⟨a, h⟩

/-- The reservation of an Agent is what its children were granted. -/
theorem Inv.reserved (h : Inv n s) {k : Nat} {a : AgentRecord} (ha : s.agents.get k = some a) :
    (s.childrenOf k).foldlM (fun reserved (child : AgentRecord) => reserved.checkedAdd child.budget) .default =
      some a.reservedBudget := by
  have hk := h.agent k a ha
  have ht : ((s.childrenOf k).map (·.budget.tokenUnits)).sum = a.reservedBudget.tokenUnits := by
    rw [hk.tokens, childrenOf, sum_filter]
    simp only [childTokens, OrdMap.sumBy, beq_iff_eq]
  have hc : ((s.childrenOf k).map (·.budget.toolCalls)).sum = a.reservedBudget.toolCalls := by
    rw [hk.calls, childrenOf, sum_filter]
    simp only [childCalls, OrdMap.sumBy, beq_iff_eq]
  have hlt := a.reservedBudget.tokenUnits_lt
  have hlc := a.reservedBudget.toolCalls_lt
  obtain ⟨r, hr, hrt, hrc⟩ := foldlM_checkedAdd (s.childrenOf k) .default
    (by simp only [ResourceBudget.default]; omega) (by simp only [ResourceBudget.default]; omega)
  rw [hr]
  simp only [ResourceBudget.default] at hrt hrc
  exact congrArg some (budget_ext (by omega) (by omega))

theorem Inv.validateTask (h : Inv n s) {k : Nat} {t : TaskRecord} (ht : s.tasks.get k = some t) :
    s.validateTask t = .ok () := by
  obtain ⟨a, ha⟩ := h.agent_of_task ht
  have htk := h.task k t ht
  simp only [TeamState.validateTask, htk.owner, okOr_some, ok_bind, agent_ok ha]
  rw [require_bind ((h.agent k a ha).task.trans htk.id.symm)]
  exact require_ok.mpr (h.paired k t a ht ha)

theorem Inv.validateAgent (h : Inv n s) {k : Nat} {a : AgentRecord} (ha : s.agents.get k = some a) :
    s.validateAgent a = .ok () := by
  obtain ⟨t, ht⟩ := h.task_of_agent ha
  have hak := h.agent k a ha
  have hparent : s.validateParent a.parent = .ok () := by
    cases hp : a.parent with
    | none => rfl
    | some p =>
      obtain ⟨h1, hlt⟩ := hak.parent p hp
      obtain ⟨pa, hpa⟩ := h.has_agent h1 (Nat.le_trans (Nat.le_of_lt hlt) (h.agent_range ha).2)
      exact require_ok.mpr (contains_agent hpa)
  have hchildren : (a.status.isTerminal && (s.childrenOf a.id).any (fun child => !child.status.isTerminal)) = false := by
    cases hterm : a.status.isTerminal with
    | false => rfl
    | true =>
      rw [Bool.true_and, List.any_eq_false]
      intro c hc
      obtain ⟨⟨k', hc⟩, hp⟩ := mem_childrenOf.mp hc
      rw [hak.id] at hp
      simp [(h.agent k' c hc).closed k a hp ha hterm]
  have hsum := h.reserved ha
  rw [← hak.id] at hsum
  simp only [TeamState.validateAgent, hak.task, task_ok ht, ok_bind, (h.task k t ht).owner, hparent, hsum, okOr_some,
    hchildren]
  rw [require_bind (by rw [hak.id]), require_bind hak.within, require_bind trivial]
  exact require_ok.mpr trivial

theorem Journal.validateOperations {next : Nat} (h : Journal next s) :
    s.operations.entries.zipIdx.forM validateOperation = .ok () := by
  refine forM_ok.mpr fun ⟨⟨o, r⟩, i⟩ hmem => ?_
  obtain ⟨m, hm⟩ := h.operations
  have hget := List.mem_zipIdx' hmem
  obtain ⟨hi, hentry⟩ := hget
  have hkey : s.operations.keys[i]? = some o := by
    simp only [OrdMap.keys, List.getElem?_map, List.getElem?_eq_getElem hi, ← hentry, Option.map_some]
  have ho : o = i + 1 := by
    rw [hm, List.getElem?_range' (by
      have : s.operations.keys.length = m := by rw [hm, List.length_range']
      rw [← this, OrdMap.keys, List.length_map]; exact hi)] at hkey
    simp only [Option.some.injEq] at hkey
    omega
  obtain ⟨hlt, _, _, hack⟩ := h.operation o r (OrdMap.mem_entries.mp (hentry ▸ List.getElem_mem hi))
  have hadd : checkedAdd 64 i 1 = some (i + 1) := checkedAdd_some.mpr ⟨by simp only [maxIdentifier] at hlt; omega, rfl⟩
  simp only [validateOperation, hadd, okOr_some, ok_bind]
  rw [require_bind ho]
  refine require_ok.mpr ?_
  cases hr : r.acknowledgementTransaction with
  | none => rfl
  | some t => simpa using hack t hr

theorem Inv.validate {next m : Nat} (h : Inv n s) (hj : Journal next s) (hm : s.activeAgentCount ≤ m) :
    s.validate m = .ok () := by
  have hroot : s.root.all s.agents.contains = true := by
    rw [h.root]
    split
    · rfl
    · obtain ⟨a, ha⟩ := h.has_agent (Nat.le_refl 1) (by omega)
      exact contains_agent ha
  have htasks : s.tasks.values.forM s.validateTask = .ok () := by
    refine forM_ok.mpr fun t ht => ?_
    obtain ⟨k, ht⟩ := OrdMap.mem_values.mp ht
    exact h.validateTask ht
  have hagents : s.agents.values.forM s.validateAgent = .ok () := by
    refine forM_ok.mpr fun a ha => ?_
    obtain ⟨k, ha⟩ := OrdMap.mem_values.mp ha
    exact h.validateAgent ha
  simp only [TeamState.validate, require, if_pos hm, if_pos hroot, hj.validateOperations, htasks, hagents, ok_bind]

end Validate

end TeamState

end GreenTyper.Team
