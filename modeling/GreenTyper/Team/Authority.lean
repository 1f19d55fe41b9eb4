/-
  GreenTyper.Team.Authority — authority only narrows on the way down the delegation tree.

  A child's scope and capabilities are in its parent's, so in every ancestor's. Budgets
  are granted out of the parent's own: the log's grants of an Agent sum up to its
  reservation (`childSum_log`), which its budget contains, and by the law of
  `GreenTyper.Lib.Forest` no choice of Agents below it was granted more in all.
-/

import GreenTyper.Lib.Forest
import GreenTyper.Team.Runs

namespace GreenTyper.Team

open GreenTyper.Lib TeamState

/-- What the event grants to a new child of `p`, in the dimension `g`. -/
def TeamEventKind.grantedBy (g : ResourceBudget → Nat) (p : AgentId) : TeamEventKind → Nat
  | .agentCreated _ _ (some parent) budget _ _ => if parent = p then g budget else 0
  | _ => 0

namespace TeamState

def ChildOf (s : TeamState) (p c : AgentId) : Prop := ∃ a, s.agents.get c = some a ∧ a.parent = some p

def AncestorOf (s : TeamState) : AgentId → AgentId → Prop := Relation.TransGen s.ChildOf

/-- The scope of the Agent's Task. -/
def scopeOf (s : TeamState) (k : AgentId) : Option TaskScope :=
  (s.agents.get k).bind fun a => (s.tasks.get a.task).map (·.spec.scope)

/-- The Agent's budget in the dimension `g`. -/
def granted (s : TeamState) (g : ResourceBudget → Nat) (k : AgentId) : Nat :=
  (s.agents.get k).elim 0 (fun a => g a.budget)

/-- The budgets of the children of `p`, in the dimension `g`. -/
def childSum (s : TeamState) (g : ResourceBudget → Nat) (p : AgentId) : Nat :=
  s.agents.sumBy (fun c => if c.parent = some p then g c.budget else 0)

/-! ## What was ever granted -/

section Grants

variable {s s' : TeamState} {g : ResourceBudget → Nat} {p : AgentId}

theorem setAgent_childSum {k : AgentId} {a a' : AgentRecord} (ha : s.agents.get k = some a) (hp : a'.parent = a.parent)
    (hb : a'.budget = a.budget) : (s.setAgent k a').childSum g p = s.childSum g p := by
  have := OrdMap.sumBy_insert_some ha (fun c => if c.parent = some p then g c.budget else 0) a'
  simp only [hp, hb] at this
  simp only [childSum, setAgent]
  omega

/-- A new Agent is the only thing that changes what is granted. -/
theorem apply_childSum {e : TeamEventKind} {m : Nat} (h : s.apply e m = .ok s') :
    s'.childSum g p = s.childSum g p + e.grantedBy g p := by
  cases e with
  | agentCreated k t parent budget capabilities preset =>
    simp only [apply, applyAgentCreated, bind_ok, require_ok, exists_const, pure, Except.pure, Except.ok.injEq] at h
    obtain ⟨_, _, _, _, _, hfree, _, _, _, _, _, _, _, _, _, root, _, rfl⟩ := h
    have hnone : s.agents.get k = none := by
      cases hget : s.agents.get k with
      | none => rfl
      | some a =>
        rw [contains_agent hget] at hfree
        cases hfree
    have := OrdMap.sumBy_insert_none hnone (fun c => if c.parent = some p then g c.budget else 0)
      ⟨k, parent, t, .dormant, budget, .default, capabilities, preset⟩
    simp only [childSum, setAgent, this]
    cases parent with
    | none => simp [TeamEventKind.grantedBy]
    | some q => simp [TeamEventKind.grantedBy]
  | delegationGranted parent child =>
    simp only [apply, applyDelegationGranted, agent, bind_ok, okOr_ok, require_ok, exists_const, pure, Except.pure,
      Except.ok.injEq] at h
    obtain ⟨_, _, _, a, ha, _, _, _, _, rfl⟩ := h
    exact setAgent_childSum ha rfl rfl
  | agentActivated k =>
    simp only [apply, applyAgentActivated, agent, bind_ok, okOr_ok, require_ok, exists_const, pure, Except.pure,
      Except.ok.injEq] at h
    obtain ⟨_, a, ha, _, _, _, _, rfl⟩ := h
    exact setAgent_childSum ha rfl rfl
  | agentSucceeded k | agentFailed k | agentCancelled k | agentBlocked k _ =>
    simp only [apply, applyAgentSucceeded, applyAgentFailed, applyAgentCancelled, applyAgentBlocked, agent, bind_ok,
      okOr_ok, require_ok, exists_const, pure, Except.pure, Except.ok.injEq] at h
    obtain ⟨a, ha, _, _, _, _, rfl⟩ := h
    exact setAgent_childSum ha rfl rfl
  | agentRetryRequested q k =>
    simp only [apply, applyAgentRetryRequested, agent, bind_ok, okOr_ok, require_ok, exists_const, pure, Except.pure,
      Except.ok.injEq] at h
    obtain ⟨_, _, _, a, ha, _, rfl⟩ := h
    exact setAgent_childSum ha rfl rfl
  | _ =>
    -- An event of a Task or of the journal, and a message, leave the Agents as they are.
    simp only [apply, applyTaskCreated, applyTaskOwnerAssigned, applyTaskReady, applyTaskStarted, applyTaskBlocked,
      applyMessageSent, applyCompletionCapsuleSubmitted, applyTaskSucceeded, applyTaskFailed, applyTaskCancelled,
      applyTaskRetryRequested, applyOperationCommitted, applyOperationAcknowledged, bind_ok, pure, Except.pure,
      Except.ok.injEq] at h
    repeat obtain ⟨_, _, h⟩ := h
    rfl

/-- What the children of `p` have is what the events granted. -/
theorem childSum_log {m : Nat} (events : List TeamEventKind) :
    ∀ {s s' : TeamState}, s.applyAll m events = .ok s' →
      s'.childSum g p = s.childSum g p + (events.map (·.grantedBy g p)).sum := by
  induction events with
  | nil =>
    intro s s' h
    cases h
    rfl
  | cons e events ih =>
    intro s s' h
    simp only [applyAll, bind_ok] at h
    obtain ⟨s1, h1, h⟩ := h
    rw [ih h, apply_childSum h1, List.map_cons, List.sum_cons, Nat.add_assoc]

end Grants

/-! ## The delegation tree -/

section Tree

variable {n : Nat} {s : TeamState}

/-- The Agents as a forest, numbered from the root down. -/
def forest (h : Inv n s) : Forest AgentId where
  nodes := s.agents.keys.toFinset
  parent k := (s.agents.get k).bind (·.parent)
  rank := id
  parent_mem {p c} hc hp := by
    obtain ⟨a, ha, hp⟩ := Option.bind_eq_some_iff.mp hp
    obtain ⟨h1, hlt⟩ := (h.agent c a ha).parent p hp
    rw [List.mem_toFinset, OrdMap.mem_keys]
    exact h.has_agent h1 (Nat.le_trans (Nat.le_of_lt hlt) (h.agent_range ha).2)
  rank_lt {p c} hc hp := by
    obtain ⟨a, ha, hp⟩ := Option.bind_eq_some_iff.mp hp
    exact ((h.agent c a ha).parent p hp).2

theorem isChild_iff (h : Inv n s) {p c : AgentId} : (forest h).IsChild p c ↔ s.ChildOf p c := by
  simp only [Forest.IsChild, forest, List.mem_toFinset, OrdMap.mem_keys, Option.bind_eq_some_iff, ChildOf]
  exact ⟨fun hc => hc.2, fun hc => ⟨⟨hc.choose, hc.choose_spec.1⟩, hc⟩⟩

theorem below_iff (h : Inv n s) {p c : AgentId} : (forest h).Below p c ↔ p = c ∨ s.AncestorOf p c := by
  have hrel : (forest h).IsChild = s.ChildOf := by
    funext p c
    exact propext (isChild_iff h)
  rw [Forest.Below, hrel, Relation.reflTransGen_iff_eq_or_transGen, eq_comm]
  rfl

/-- What holds from parent to child and passes on holds of every ancestor. -/
theorem AncestorOf.lift {R : AgentId → AgentId → Prop} (htrans : ∀ {a b c}, (∃ r, s.agents.get b = some r) → R a b → R b c → R a c)
    (hchild : ∀ {p c}, s.ChildOf p c → R p c) {p c : AgentId} (h : s.AncestorOf p c) : R p c := by
  induction h with
  | single hc => exact hchild hc
  | tail hab hbc ih =>
    refine htrans ?_ ih (hchild hbc)
    cases hab with
    | single hc => exact ⟨_, hc.choose_spec.1⟩
    | tail _ hc => exact ⟨_, hc.choose_spec.1⟩

theorem childSum_eq (h : Inv n s) (g : ResourceBudget → Nat) (p : AgentId) :
    s.childSum g p = ∑ c ∈ (forest h).children p, s.granted g c := by
  rw [childSum, OrdMap.sumBy_eq_sum, Forest.children, Finset.sum_filter]
  refine Finset.sum_congr rfl fun c hc => ?_
  obtain ⟨a, ha⟩ := OrdMap.mem_keys.mp (List.mem_toFinset.mp hc)
  simp only [forest, granted, ha, Option.elim_some, Option.bind_some]

/-- A dimension of budgets in which no Agent is granted out more than it has. -/
def Conserved (s : TeamState) (g : ResourceBudget → Nat) : Prop :=
  ∀ k a, s.agents.get k = some a → s.childSum g k ≤ g a.budget

theorem Inv.conserved_tokens (h : Inv n s) : s.Conserved (·.tokenUnits) := by
  intro k a ha
  have hk := h.agent k a ha
  exact Nat.le_trans (Nat.le_of_eq hk.tokens.symm) hk.within.1

theorem Inv.conserved_calls (h : Inv n s) : s.Conserved (·.toolCalls) := by
  intro k a ha
  have hk := h.agent k a ha
  exact Nat.le_trans (Nat.le_of_eq hk.calls.symm) hk.within.2

/-- Agents below `k`, none above another, were granted together no more than `k`. -/
theorem Conserved.below_le (h : Inv n s) {g : ResourceBudget → Nat} (hg : s.Conserved g) {k : AgentId} {a : AgentRecord}
    (ha : s.agents.get k = some a) {S : Finset AgentId} (hS : ∀ x ∈ S, s.AncestorOf k x)
    (hanti : ∀ x ∈ S, ∀ y ∈ S, ¬ s.AncestorOf x y) : ∑ x ∈ S, s.granted g x ≤ g a.budget := by
  have hnode : ∀ {x}, x ∈ (forest h).nodes ↔ ∃ r, s.agents.get x = some r := by
    intro x
    rw [forest, List.mem_toFinset, OrdMap.mem_keys]
  have hw : ∀ p ∈ (forest h).nodes, ∑ c ∈ (forest h).children p, s.granted g c ≤ s.granted g p := by
    intro p hp
    obtain ⟨r, hr⟩ := hnode.mp hp
    rw [← childSum_eq h, granted, hr]
    exact hg p r hr
  have hle := Forest.sum_antichain_le hw (hnode.mpr ⟨a, ha⟩) (S := S) (fun x hx => ?_) (fun x hx y hy hxy => ?_)
  · rw [granted.eq_1 s g k, ha] at hle
    exact hle
  · have hkx := hS x hx
    refine ⟨hnode.mpr ?_, (below_iff h).mpr (Or.inr hkx)⟩
    cases hkx with
    | single hc => exact ⟨_, hc.choose_spec.1⟩
    | tail _ hc => exact ⟨_, hc.choose_spec.1⟩
  · rcases (below_iff h).mp hxy with heq | hxy
    · exact heq
    · exact absurd hxy (hanti x hx y hy)

end Tree

end TeamState

/-! ## In every run -/

/-- What the log's grants to children of `k` come to, in the dimension `g`. -/
def everGranted (r : TeamRuntime) (g : ResourceBudget → Nat) (k : AgentId) : Nat :=
  (r.eventLog.map (fun event => event.kind.grantedBy g k)).sum

theorem everGranted_eq {r : TeamRuntime} (hl : Logged r) (g : ResourceBudget → Nat) (k : AgentId) :
    everGranted r g k = r.state.childSum g k := by
  obtain ⟨m, hm⟩ := hl.replays
  rw [childSum_log _ hm, List.map_map]
  exact (Nat.zero_add _).symm

/-- Authority only narrows: an Agent's scope and capabilities are in its parent's and in
    every ancestor's; what it ever granted to children is at most its own budget, and so
    is what any Agents below it were granted, none of them above another. -/
structure Narrowing (r : TeamRuntime) : Prop where
  scope : ∀ p k sp sk, r.state.AncestorOf p k → r.state.scopeOf p = some sp → r.state.scopeOf k = some sk → sk ⊆ sp
  capabilities : ∀ p k pa a, r.state.AncestorOf p k → r.state.agents.get p = some pa → r.state.agents.get k = some a →
    a.capabilities ⊆ pa.capabilities
  tokens : ∀ k a, r.state.agents.get k = some a → everGranted r (·.tokenUnits) k ≤ a.budget.tokenUnits
  calls : ∀ k a, r.state.agents.get k = some a → everGranted r (·.toolCalls) k ≤ a.budget.toolCalls
  subtreeTokens : ∀ k a (S : Finset AgentId), r.state.agents.get k = some a → (∀ x ∈ S, r.state.AncestorOf k x) →
    (∀ x ∈ S, ∀ y ∈ S, ¬ r.state.AncestorOf x y) → ∑ x ∈ S, r.state.granted (·.tokenUnits) x ≤ a.budget.tokenUnits
  subtreeCalls : ∀ k a (S : Finset AgentId), r.state.agents.get k = some a → (∀ x ∈ S, r.state.AncestorOf k x) →
    (∀ x ∈ S, ∀ y ∈ S, ¬ r.state.AncestorOf x y) → ∑ x ∈ S, r.state.granted (·.toolCalls) x ≤ a.budget.toolCalls

theorem authority_narrows {r : TeamRuntime} (hr : Reach r) : Narrowing r := by
  obtain ⟨⟨n, hinv⟩, hl⟩ := hr.inv
  have h := hinv.state
  have hscope : ∀ {p k}, r.state.AncestorOf p k →
      ∀ sp sk, r.state.scopeOf p = some sp → r.state.scopeOf k = some sk → sk ⊆ sp := by
    intro p k
    refine AncestorOf.lift
      (R := fun p k => ∀ sp sk, r.state.scopeOf p = some sp → r.state.scopeOf k = some sk → sk ⊆ sp) ?_ ?_
    · rintro a b c ⟨rb, hb⟩ hab hbc sa sc hsa hsc
      obtain ⟨tb, htb⟩ := h.task_of_agent hb
      have hsb : r.state.scopeOf b = some tb.spec.scope := by
        rw [scopeOf, hb, Option.bind_some, (h.agent b rb hb).task, htb]
        rfl
      exact (hbc _ _ hsb hsc).trans (hab _ _ hsa hsb)
    · rintro p c ⟨a, ha, hp⟩ sp sk hsp hsk
      obtain ⟨pa, hpa⟩ := h.has_agent ((h.agent c a ha).parent p hp).1
        (Nat.le_trans (Nat.le_of_lt ((h.agent c a ha).parent p hp).2) (h.agent_range ha).2)
      obtain ⟨t, ht⟩ := h.task_of_agent ha
      obtain ⟨tp, htp⟩ := h.task_of_agent hpa
      rw [scopeOf, ha, Option.bind_some, (h.agent c a ha).task, ht] at hsk
      rw [scopeOf, hpa, Option.bind_some, (h.agent p pa hpa).task, htp] at hsp
      cases hsk
      cases hsp
      exact h.scope c a p t tp ha hp ht htp
  have hcaps : ∀ {p k}, r.state.AncestorOf p k →
      ∀ pa a, r.state.agents.get p = some pa → r.state.agents.get k = some a → a.capabilities ⊆ pa.capabilities := by
    intro p k
    refine AncestorOf.lift (R := fun p k => ∀ pa a, r.state.agents.get p = some pa → r.state.agents.get k = some a →
      a.capabilities ⊆ pa.capabilities) ?_ ?_
    · rintro a b c ⟨rb, hb⟩ hab hbc pa pc hpa hpc
      exact (hbc _ _ hb hpc).trans (hab _ _ hpa hb)
    · rintro p c ⟨a, ha, hp⟩ pa a' hpa ha'
      rw [ha] at ha'
      cases ha'
      exact (h.agent c a ha).capabilities p pa hp hpa
  exact {
    scope := fun p k sp sk hpk hsp hsk => hscope hpk sp sk hsp hsk
    capabilities := fun p k pa a hpk hpa ha => hcaps hpk pa a hpa ha
    tokens := fun k a ha => everGranted_eq hl _ k ▸ h.conserved_tokens k a ha
    calls := fun k a ha => everGranted_eq hl _ k ▸ h.conserved_calls k a ha
    subtreeTokens := fun k a S ha hS hanti => h.conserved_tokens.below_le h ha hS hanti
    subtreeCalls := fun k a S ha hS hanti => h.conserved_calls.below_le h ha hS hanti }

/-- A root that delegated part of its budget. -/
theorem authority_narrows_delegated : ∃ r, TeamRuntime.dispatchAll ⟨2, 7, .default, [], 1, 1, 1, 1⟩
    [.admitRoot ⟨"Plan", {"src", "docs"}, []⟩ ⟨10, 2, by decide, by decide⟩ {.network},
      .delegate ⟨1, 7⟩ ⟨"Part", {"src"}, []⟩ ⟨4, 1, by decide, by decide⟩ ∅] = .ok r ∧
    everGranted r (·.tokenUnits) 1 = 4 ∧ Narrowing r := by
  obtain ⟨r, hr, hgrant⟩ := okAnd_iff.mp (show okAnd (TeamRuntime.dispatchAll ⟨2, 7, .default, [], 1, 1, 1, 1⟩
    [.admitRoot ⟨"Plan", {"src", "docs"}, []⟩ ⟨10, 2, by decide, by decide⟩ {.network},
      .delegate ⟨1, 7⟩ ⟨"Part", {"src"}, []⟩ ⟨4, 1, by decide, by decide⟩ ∅])
    (fun r => everGranted r (·.tokenUnits) 1 == 4) = true by decide +kernel)
  exact ⟨r, hr, by simpa using hgrant, authority_narrows (Reach.dispatchAll (@RunOf.new _ 2 7 _ rfl) hr)⟩

end GreenTyper.Team
