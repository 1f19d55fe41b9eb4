/-
  GreenTyper.Team.WaitGraph — who waits for whom: an unfinished Task for its unfinished
  dependencies and, as its Agent may not end before its children, for their Tasks.

  The planner refuses a dependency on the parent's Task or an ancestor's. That is not all
  it takes: a dependency that waits for the parent in more than one step closes a cycle
  too (`wait_cycle`), and so does a retry of a Task that others came to wait for while it
  had failed. A run whose delegations and retries close no path is free of cycles
  (`wait_graph_acyclic`).
-/

import GreenTyper.Lib.Acyclic
import GreenTyper.Team.Authority

namespace GreenTyper.Team

open GreenTyper.Lib TeamState
open Relation (ReflTransGen TransGen)

namespace TeamState

def Unfinished (s : TeamState) (t : TaskId) : Prop := ∃ record, s.tasks.get t = some record ∧ record.status.isTerminal = false

def DependsOn (s : TeamState) (t u : TaskId) : Prop := ∃ record, s.tasks.get t = some record ∧ u ∈ record.spec.dependencies

/-- The wait-for relation over unfinished Tasks. -/
inductive WaitsFor (s : TeamState) : TaskId → TaskId → Prop
  | dependency {t u : TaskId} : s.Unfinished t → s.Unfinished u → s.DependsOn t u → WaitsFor s t u
  | child {p c : AgentId} {pa ca : AgentRecord} : s.Unfinished pa.task → s.Unfinished ca.task →
      s.agents.get p = some pa → s.agents.get c = some ca → ca.parent = some p → ca.status.isTerminal = false →
      WaitsFor s pa.task ca.task

/-- The Task of the Agent. -/
def HasTask (s : TeamState) (k : AgentId) (t : TaskId) : Prop := ∃ a, s.agents.get k = some a ∧ a.task = t

end TeamState

/-! ## A cycle -/

/-- The root has two children: the first, and a second that depends on the first. -/
def siblings : List TeamCommand :=
  [.admitRoot ⟨"Plan", {"src"}, []⟩ (resourceBudget 10 0) ∅,
    .delegate ⟨1, 7⟩ ⟨"First", {"src"}, []⟩ (resourceBudget 4 0) ∅,
    .delegate ⟨1, 7⟩ ⟨"Second", {"src"}, [2]⟩ (resourceBudget 4 0) ∅]

/-- The first child then delegates a Task that depends on the second. -/
def nephew : TeamCommand := .delegate ⟨2, 7⟩ ⟨"Part", {"src"}, [3]⟩ (resourceBudget 1 0) ∅

/-- All four commands are accepted, and then the first child waits for its own child,
    that for the second child, and that for the first. -/
theorem wait_cycle : ∃ r, Reach r ∧ ¬ Acyclic r.state.WaitsFor := by
  obtain ⟨r, hr, hcheck⟩ := okAnd_iff.mp (show okAnd (TeamRuntime.dispatchAll ⟨4, 7, .default, [], 1, 1, 1, 1⟩
      (siblings ++ [nephew]))
    (fun r => (r.state.tasks.get 2).any (fun t => !t.status.isTerminal) &&
      (r.state.tasks.get 3).any (fun t => !t.status.isTerminal && t.spec.dependencies == [2]) &&
      (r.state.tasks.get 4).any (fun t => !t.status.isTerminal && t.spec.dependencies == [3]) &&
      (r.state.agents.get 2).any (fun a => a.task == 2) &&
      (r.state.agents.get 4).any (fun a => a.task == 4 && a.parent == some 2 && !a.status.isTerminal)) = true
      by decide +kernel)
  refine ⟨r, Reach.dispatchAll (@RunOf.new _ 4 7 _ rfl) hr, fun hacyclic => ?_⟩
  simp only [Bool.and_eq_true, Option.any_eq_true, Bool.not_eq_true', beq_iff_eq] at hcheck
  obtain ⟨⟨⟨⟨⟨t2, h2, ho2⟩, t3, h3, ho3, hd3⟩, t4, h4, ho4, hd4⟩, a2, ha2, ht2⟩, a4, ha4, ⟨ht4, hp4⟩, hop4⟩ := hcheck
  have hu2 : r.state.Unfinished 2 := ⟨t2, h2, ho2⟩
  have hu3 : r.state.Unfinished 3 := ⟨t3, h3, ho3⟩
  have hu4 : r.state.Unfinished 4 := ⟨t4, h4, ho4⟩
  have h24 : r.state.WaitsFor 2 4 := ht2 ▸ ht4 ▸ .child (ht2 ▸ hu2) (ht4 ▸ hu4) ha2 ha4 hp4 hop4
  have h43 : r.state.WaitsFor 4 3 := .dependency hu4 hu3 ⟨t4, h4, by simp [hd4]⟩
  have h32 : r.state.WaitsFor 3 2 := .dependency hu3 hu2 ⟨t3, h3, by simp [hd3]⟩
  exact hacyclic 2 (.tail (.tail (.single h24) h43) h32)

/-! ## What keeps the relation free of cycles -/

/-- The command closes no path: no unfinished dependency of a new Task waits for its
    parent's, and none of a retried Task's for its parent's or for an unfinished Task
    that depends on it. -/
def ClosesNoPath (r : TeamRuntime) : TeamCommand → Prop
  | .delegate parent task _ _ | .delegateWithModelPreset parent task _ _ _ =>
    ∀ d ∈ task.dependencies, r.state.Unfinished d → ∀ t, r.state.HasTask parent.agent t →
      ¬ ReflTransGen r.state.WaitsFor d t
  | .retry requester agent =>
    ∀ t, r.state.HasTask agent t → ∀ d, r.state.DependsOn t d → r.state.Unfinished d →
      ∀ y, r.state.HasTask requester.agent y ∨ (r.state.Unfinished y ∧ r.state.DependsOn y t) →
        ¬ ReflTransGen r.state.WaitsFor d y
  | _ => True

namespace TeamState

section Waits

variable {n n' : Nat} {s s' : TeamState} {t u : TaskId}

/-- With the invariant, Tasks and Agents share their numbers. -/
theorem waitsFor_iff (h : Inv n s) :
    s.WaitsFor t u ↔ s.Unfinished t ∧ s.Unfinished u ∧ (s.DependsOn t u ∨ s.ChildOf t u) := by
  constructor
  · intro hw
    cases hw with
    | dependency ht hu hd => exact ⟨ht, hu, Or.inl hd⟩
    | @child p c pa ca ht hu hp hc hpar _ =>
      have hpt := (h.agent p pa hp).task
      have hct := (h.agent c ca hc).task
      rw [hpt] at ht ⊢
      rw [hct] at hu ⊢
      exact ⟨ht, hu, Or.inr ⟨ca, hc, hpar⟩⟩
  · rintro ⟨ht, hu, hd | ⟨ca, hc, hpar⟩⟩
    · exact .dependency ht hu hd
    · obtain ⟨pa, hp⟩ := h.has_agent ((h.agent u ca hc).parent t hpar).1
        (Nat.le_trans (Nat.le_of_lt ((h.agent u ca hc).parent t hpar).2) (h.agent_range hc).2)
      have hpt := (h.agent t pa hp).task
      have hct := (h.agent u ca hc).task
      have hopen : ca.status.isTerminal = false := by
        obtain ⟨record, hrec, hterm⟩ := hu
        rw [← paired_terminal (h.paired u record ca hrec hc)]
        exact hterm
      have hw := WaitsFor.child (s := s) (hpt.symm ▸ ht) (hct.symm ▸ hu) hp hc hpar hopen
      rwa [hpt, hct] at hw

/-- Nobody waits for itself: dependencies have smaller numbers, children larger ones. -/
theorem waitsFor_ne (h : Inv n s) (hw : s.WaitsFor t u) : t ≠ u := by
  rintro rfl
  obtain ⟨_, _, ⟨record, hrec, hd⟩ | ⟨a, ha, hp⟩⟩ := (waitsFor_iff h).mp hw
  · exact Nat.lt_irrefl _ ((h.task t record hrec).dependencies t hd).2
  · exact Nat.lt_irrefl _ ((h.agent t a ha).parent t hp).2

/-- Fewer Tasks are unfinished, and the rest is the same. -/
theorem waitsFor_shrinks (h : Inv n s) (h' : Inv n' s') (hu : ∀ t, s'.Unfinished t → s.Unfinished t)
    (hd : ∀ t u, s'.DependsOn t u → s.DependsOn t u) (hc : ∀ t u, s'.ChildOf t u → s.ChildOf t u) (t u : TaskId)
    (hw : s'.WaitsFor t u) : s.WaitsFor t u := by
  obtain ⟨ht, hu', hedge⟩ := (waitsFor_iff h').mp hw
  exact (waitsFor_iff h).mpr ⟨hu t ht, hu u hu', hedge.imp (hd t u) (hc t u)⟩

/-- Reconciliation finishes no Task and reopens none. -/
theorem Frame.waitsFor (hf : Frame s s') (h : Inv n s) (h' : Inv n' s') (t u : TaskId) (hw : s'.WaitsFor t u) :
    s.WaitsFor t u := by
  refine waitsFor_shrinks h h' (fun t ⟨r', hr', hterm⟩ => ?_) (fun t u ⟨r', hr', hd⟩ => ?_) (fun t u ⟨a', ha', hp⟩ => ?_) t u hw
  · obtain ⟨r, hr, _, hst⟩ := hf.task t r' hr'
    exact ⟨r, hr, hst ▸ hterm⟩
  · obtain ⟨r, hr, hspec, _⟩ := hf.task t r' hr'
    exact ⟨r, hr, hspec ▸ hd⟩
  · obtain ⟨a, ha, hpar, _⟩ := hf.agent u a' ha'
    exact ⟨a, ha, hpar ▸ hp⟩

section SetStatus

variable {k : Nat} {record : TaskRecord} {a : AgentRecord} {st : TaskStatus} {c : Option CompletionCapsule} {as : AgentStatus}

theorem setStatus_dependsOn (ht : s.tasks.get k = some record) (t u : TaskId)
    (hd : (s.setStatus k record a st c as).DependsOn t u) : s.DependsOn t u := by
  obtain ⟨r', hr', hmem⟩ := hd
  obtain ⟨r0, hr0, ⟨_, rfl⟩ | ⟨_, rfl⟩⟩ := setStatus_task_back ht hr'
  · exact ⟨r0, hr0, hmem⟩
  · exact ⟨r', hr0, hmem⟩

theorem setStatus_childOf (ha : s.agents.get k = some a) (t u : TaskId)
    (hc : (s.setStatus k record a st c as).ChildOf t u) : s.ChildOf t u := by
  obtain ⟨a', ha', hp⟩ := hc
  obtain ⟨a0, ha0, ⟨_, rfl⟩ | ⟨_, rfl⟩⟩ := setStatus_agent_back ha ha'
  · exact ⟨a0, ha0, hp⟩
  · exact ⟨a', ha0, hp⟩

theorem setStatus_unfinished (ht : s.tasks.get k = some record) (t : TaskId)
    (hu : (s.setStatus k record a st c as).Unfinished t) : (t = k ∧ st.isTerminal = false) ∨ (t ≠ k ∧ s.Unfinished t) := by
  obtain ⟨r', hr', hterm⟩ := hu
  obtain ⟨r0, hr0, ⟨hk, rfl⟩ | ⟨hk, rfl⟩⟩ := setStatus_task_back ht hr'
  · exact Or.inl ⟨hk, hterm⟩
  · exact Or.inr ⟨hk, r', hr0, hterm⟩

/-- An ending takes edges away. -/
theorem ended_acyclic (h : Inv n s) (h' : Inv n' (s.setStatus k record a st c as)) (ht : s.tasks.get k = some record)
    (ha : s.agents.get k = some a) (hst : st.isTerminal = true) (hac : Acyclic s.WaitsFor) :
    Acyclic (s.setStatus k record a st c as).WaitsFor := by
  refine hac.mono (waitsFor_shrinks h h' (fun t hu => ?_) (setStatus_dependsOn ht) (setStatus_childOf ha))
  rcases setStatus_unfinished ht t hu with ⟨_, hopen⟩ | ⟨_, hu⟩
  · rw [hst] at hopen
    cases hopen
  · exact hu

/-- A retried Task is waited for by its parent's and by those that depend on it, and
    waits for its unfinished dependencies. -/
theorem retried_acyclic (h : Inv n s) (h' : Inv n' (s.setStatus k record a st c as)) (ht : s.tasks.get k = some record)
    (ha : s.agents.get k = some a) {p : AgentId} (hp : a.parent = some p) (hclosed : NoOpenChildren s k)
    (hpath : ∀ d, s.DependsOn k d → s.Unfinished d → ∀ y, y = p ∨ (s.Unfinished y ∧ s.DependsOn y k) →
      ¬ ReflTransGen s.WaitsFor d y)
    (hac : Acyclic s.WaitsFor) : Acyclic (s.setStatus k record a st c as).WaitsFor := by
  refine hac.attach (u := k) ?_ ?_
  · intro x y hw hx hy
    obtain ⟨h1, h2, hedge⟩ := (waitsFor_iff h').mp hw
    exact (waitsFor_iff h).mpr ⟨((setStatus_unfinished ht x h1).resolve_left fun e => hx e.1).2,
      ((setStatus_unfinished ht y h2).resolve_left fun e => hy e.1).2,
      hedge.imp (setStatus_dependsOn ht x y) (setStatus_childOf ha x y)⟩
  · intro d y hkd hyk
    have hdk : d ≠ k := (waitsFor_ne h' hkd).symm
    have hyne : y ≠ k := waitsFor_ne h' hyk
    obtain ⟨_, hud, hed⟩ := (waitsFor_iff h').mp hkd
    obtain ⟨huy, _, hey⟩ := (waitsFor_iff h').mp hyk
    have hud : s.Unfinished d := ((setStatus_unfinished ht d hud).resolve_left fun e => hdk e.1).2
    have huy : s.Unfinished y := ((setStatus_unfinished ht y huy).resolve_left fun e => hyne e.1).2
    have hdep : s.DependsOn k d := by
      rcases hed with hd | hc
      · exact setStatus_dependsOn ht k d hd
      · -- The Task has no unfinished child to wait for.
        obtain ⟨ca, hca, hpar⟩ := setStatus_childOf ha k d hc
        obtain ⟨rd, hrd, hopen⟩ := hud
        have hterm := hclosed d ca hca hpar
        rw [← paired_terminal (h.paired d rd ca hrd hca), hopen] at hterm
        cases hterm
    refine hpath d hdep hud y ?_
    rcases hey with hd | hc
    · exact Or.inr ⟨huy, setStatus_dependsOn ht y k hd⟩
    · obtain ⟨a', ha', hpar⟩ := setStatus_childOf ha y k hc
      rw [ha] at ha'
      cases ha'
      rw [hp] at hpar
      exact Or.inl (Option.some.inj hpar).symm

end SetStatus

/-- A new Task is waited for by its parent's, and waits for its unfinished dependencies. -/
theorem delegated_acyclic {p : Nat} {pa : AgentRecord} {spec : TaskSpec} {budget reserved : ResourceBudget}
    {capabilities : CapabilitySnapshot} {preset : Option InheritedModelPreset} (h : Inv n s)
    (h' : Inv n' (s.delegated n spec p pa budget capabilities preset reserved)) (hp : s.agents.get p = some pa)
    (hpath : ∀ d ∈ spec.dependencies, s.Unfinished d → ¬ ReflTransGen s.WaitsFor d p) (hac : Acyclic s.WaitsFor) :
    Acyclic (s.delegated n spec p pa budget capabilities preset reserved).WaitsFor := by
  have hpn : p ≠ n + 1 := Nat.ne_of_lt (Nat.lt_succ_of_le (h.agent_range hp).2)
  have hunf : ∀ {x}, x ≠ n + 1 → (s.delegated n spec p pa budget capabilities preset reserved).Unfinished x →
      s.Unfinished x := by
    rintro x hx ⟨record, hrec, hterm⟩
    rcases delegated_task_back hrec with ⟨hk, _⟩ | ⟨_, hrec⟩
    · exact absurd hk hx
    · exact ⟨record, hrec, hterm⟩
  have hdepends : ∀ {x y}, x ≠ n + 1 → (s.delegated n spec p pa budget capabilities preset reserved).DependsOn x y →
      s.DependsOn x y := by
    rintro x y hx ⟨record, hrec, hd⟩
    rcases delegated_task_back hrec with ⟨hk, _⟩ | ⟨_, hrec⟩
    · exact absurd hk hx
    · exact ⟨record, hrec, hd⟩
  have hchild : ∀ {x y}, y ≠ n + 1 → (s.delegated n spec p pa budget capabilities preset reserved).ChildOf x y →
      s.ChildOf x y := by
    rintro x y hy ⟨a, ha, hpar⟩
    rcases delegated_agent_back hpn hp ha with ⟨hk, _⟩ | ⟨a0, _, ha0, rfl⟩
    · exact absurd hk hy
    · exact ⟨a0, ha0, hpar⟩
  refine hac.attach (u := n + 1) ?_ ?_
  · intro x y hw hx hy
    obtain ⟨h1, h2, hedge⟩ := (waitsFor_iff h').mp hw
    exact (waitsFor_iff h).mpr ⟨hunf hx h1, hunf hy h2, hedge.imp (hdepends hx) (hchild hy)⟩
  · intro d y hkd hyk
    have hdk : d ≠ n + 1 := (waitsFor_ne h' hkd).symm
    have hyne : y ≠ n + 1 := waitsFor_ne h' hyk
    obtain ⟨_, hud, hed⟩ := (waitsFor_iff h').mp hkd
    obtain ⟨_, _, hey⟩ := (waitsFor_iff h').mp hyk
    have hdep : d ∈ spec.dependencies := by
      rcases hed with ⟨record, hrec, hd⟩ | hc
      · rcases delegated_task_back hrec with ⟨_, rfl⟩ | ⟨hk, _⟩
        · exact hd
        · exact absurd rfl hk
      · -- The new Agent has no child yet.
        obtain ⟨a, ha, hpar⟩ := hchild hdk hc
        have hlt := ((h.agent d a ha).parent (n + 1) hpar).2
        exact absurd (h.agent_range ha).2 (Nat.not_le.mpr (Nat.lt_of_succ_lt hlt))
    have hyp : y = p := by
      rcases hey with hd | ⟨a, ha, hpar⟩
      · -- No Task depends on it yet.
        obtain ⟨record, hrec, hd⟩ := hdepends hyne hd
        have hlt := ((h.task y record hrec).dependencies (n + 1) hd).2
        exact absurd (h.task_range hrec).2 (Nat.not_le.mpr (Nat.lt_of_succ_lt hlt))
      · rcases delegated_agent_back hpn hp ha with ⟨_, rfl⟩ | ⟨_, hk, _, _⟩
        · exact (Option.some.inj hpar).symm
        · exact absurd rfl hk
    rw [hyp]
    exact hpath d hdep (hunf hdk hud)

/-- The root alone waits for nobody. -/
theorem root_acyclic {spec : TaskSpec} {budget : ResourceBudget} {capabilities : CapabilitySnapshot} (h : Inv 0 s)
    (h' : Inv n' (s.create 1 spec none budget capabilities none)) :
    Acyclic (s.create 1 spec none budget capabilities none).WaitsFor := by
  have hone : ∀ {x}, (s.create 1 spec none budget capabilities none).Unfinished x → x = 1 := by
    rintro x ⟨record, hrec, _⟩
    rw [create, OrdMap.get_insert] at hrec
    split at hrec
    · rename_i hk
      exact hk.symm
    · have := h.task_range hrec
      omega
  refine acyclic_of_no_edge fun x y hw => ?_
  obtain ⟨hx, hy, _⟩ := (waitsFor_iff h').mp hw
  exact waitsFor_ne h' hw ((hone hx).trans (hone hy).symm)

end Waits

end TeamState

/-! ## In every run -/

section Run

variable {n n' : Nat} {r : TeamRuntime}

/-- One command that closes no path. -/
theorem change_acyclic {command : TeamCommand} (hr : RuntimeInv n r) (hguard : ClosesNoPath r command)
    (hac : Acyclic r.state.WaitsFor) {ops : OrdMap Nat OperationRecord} {s' : TeamState} (h' : Inv n' s')
    (hc : Change n { r.state with operations := ops } command s') : Acyclic s'.WaitsFor := by
  have h : Inv n { r.state with operations := ops } := hr.state.congr rfl rfl rfl
  have hwaits : ∀ t u, ({ r.state with operations := ops } : TeamState).WaitsFor t u → r.state.WaitsFor t u :=
    waitsFor_shrinks hr.state h (fun _ hu => hu) (fun _ _ hd => hd) (fun _ _ hc => hc)
  have hpaths : ∀ {d y}, ReflTransGen ({ r.state with operations := ops } : TeamState).WaitsFor d y →
      ReflTransGen r.state.WaitsFor d y := fun hp => ReflTransGen.mono hwaits _ _ hp
  have hac' : Acyclic ({ r.state with operations := ops } : TeamState).WaitsFor := hac.mono hwaits
  have htask : ∀ {p : Nat} {pa : AgentRecord}, r.state.agents.get p = some pa → r.state.HasTask p p :=
    fun {p pa} hpa => ⟨pa, hpa, (hr.state.agent p pa hpa).task⟩
  cases hc with
  | root hn =>
    subst hn
    exact root_acyclic h h'
  | delegate hd | delegateWithModelPreset hd =>
    obtain ⟨spec, pa, reserved, hdeps, hpa, _, rfl⟩ := hd
    exact delegated_acyclic h h' hpa
      (fun d hd hu hp => hguard d ((hdeps d).mp hd) hu _ (htask hpa) (hpaths hp)) hac'
  | message => exact hac'.mono (waitsFor_shrinks h h' (fun _ hu => hu) (fun _ _ hd => hd) (fun _ _ hc => hc))
  | complete ht ha | fail ht ha | cancel ht ha => exact ended_acyclic h h' ht ha rfl hac'
  | retry ht ha hp hclosed =>
    obtain ⟨h1, hlt⟩ := (h.agent _ _ ha).parent _ hp
    obtain ⟨pa, hpa⟩ := h.has_agent h1 (Nat.le_trans (Nat.le_of_lt hlt) (h.agent_range ha).2)
    refine retried_acyclic h h' ht ha hp hclosed (fun d hd hu y hy hpath => ?_) hac'
    refine hguard _ (htask ha) d hd hu y ?_ (hpaths hpath)
    rcases hy with rfl | hy
    · exact Or.inl (htask hpa)
    · exact Or.inr hy

/-- Publishing what reconciliation made of the base events takes no edge back. -/
theorem publish_acyclic (hr : RuntimeInv n r) {applied : TeamState} {prepared : PreparedTeamEvents}
    (hs : StepTo n' r applied prepared) (hac : Acyclic applied.WaitsFor) :
    Acyclic (r.publishEvents prepared).state.WaitsFor := by
  obtain ⟨⟨base, hne, happ, hp⟩, ha⟩ := hs
  obtain ⟨added, candidate, h⟩ := prepared_of_applied hr happ ha
  obtain ⟨_, _, rfl⟩ := prepareEvents_ok h hne hp
  obtain ⟨s', evs, hrec, hinv, _, _, hframe, _⟩ := reconcile_ok ha.inv (Nat.le_trans ha.active hr.active)
  rw [h.reconciled] at hrec
  cases hrec
  exact hac.mono (hframe.waitsFor ha.inv hinv)

/-- In a run whose delegations and retries close no path, nobody ever waits for itself. -/
theorem wait_graph_acyclic (h : RunOf ClosesNoPath r) : Acyclic r.state.WaitsFor := by
  induction h with
  | new h =>
    simp only [TeamRuntime.new, bind_ok, require_ok, exists_const] at h
    obtain ⟨_, h⟩ := h
    cases h
    exact acyclic_of_no_edge fun t u hw => by
      obtain ⟨⟨record, hrec, _⟩, _⟩ := (waitsFor_iff inv_default).mp hw
      cases hrec
  | dispatch hrun hguard h ih =>
    obtain ⟨⟨n, hr⟩, _⟩ := hrun.reach.inv
    simp only [TeamRuntime.dispatch, bind_ok, Prod.exists] at h
    obtain ⟨prepared, outcome, hp, h⟩ := h
    cases h
    obtain ⟨n', applied, hs, ops, hc⟩ := prepare_step hr hp
    exact publish_acyclic hr hs (change_acyclic hr hguard ih hs.applied.inv hc)
  | operation hrun hguard h ih =>
    obtain ⟨⟨n, hr⟩, _⟩ := hrun.reach.inv
    obtain ⟨n', applied, hs, ops, hc⟩ := prepareOperation_step hr h
    exact publish_acyclic hr hs (change_acyclic hr hguard ih hs.applied.inv hc)
  | acknowledge hrun h ih =>
    obtain ⟨⟨n, hr⟩, _⟩ := hrun.reach.inv
    obtain ⟨ops, hs⟩ := acknowledgement_step hr h
    refine publish_acyclic hr hs (ih.mono ?_)
    exact waitsFor_shrinks hr.state hs.applied.inv (fun _ hu => hu) (fun _ _ hd => hd) (fun _ _ hc => hc)
  | recover hrun h ih =>
    obtain ⟨_, hl⟩ := hrun.reach.inv
    obtain ⟨_, _, _, _, _, _, _, _, rfl⟩ := recover_ok hl h
    exact ih

end Run

/-- The siblings' run closes no path: the first child, on which the second depends, waits
    for nobody. -/
theorem wait_graph_acyclic_siblings :
    ∃ r, TeamRuntime.dispatchAll ⟨4, 7, .default, [], 1, 1, 1, 1⟩ siblings = .ok r ∧ Acyclic r.state.WaitsFor := by
  have hguard : TeamRuntime.Guarded ClosesNoPath ⟨4, 7, .default, [], 1, 1, 1, 1⟩ siblings := by
    refine ⟨trivial, fun r1 o1 h1 => ⟨?_, fun r2 o2 h2 => ⟨?_, fun _ _ _ => trivial⟩⟩⟩
    · intro d hd
      exact absurd hd List.not_mem_nil
    have hrun : TeamRuntime.dispatchAll ⟨4, 7, .default, [], 1, 1, 1, 1⟩ (siblings.take 2) = .ok r2 := by
      simp only [siblings, List.take, TeamRuntime.dispatchAll, h1, h2, ok_bind, pure, Except.pure]
    obtain ⟨r, hr, hcheck⟩ := okAnd_iff.mp (show okAnd (TeamRuntime.dispatchAll ⟨4, 7, .default, [], 1, 1, 1, 1⟩
        (siblings.take 2))
      (fun r => (r.state.agents.get 1).all (·.task == 1) && (r.state.tasks.get 2).all (·.spec.dependencies == []) &&
        r.state.agents.values.all (·.parent != some 2)) = true by decide +kernel)
    rw [hrun] at hr
    cases hr
    simp only [Bool.and_eq_true, List.all_eq_true, bne_iff_ne] at hcheck
    obtain ⟨⟨h1task, h2deps⟩, hparents⟩ := hcheck
    obtain ⟨⟨n, hinv⟩, _⟩ := (Reach.dispatchAll (@RunOf.new _ 4 7 _ rfl) hrun).inv
    intro d hd _ t howner hpath
    obtain ⟨a, ha, hat⟩ := howner
    obtain rfl := List.mem_singleton.mp hd
    rw [ha, Option.all_some, beq_iff_eq, hat] at h1task
    subst h1task
    rcases hpath.cases_head with heq | ⟨x, hw, _⟩
    · cases heq
    · obtain ⟨_, _, ⟨record, hrec, hx⟩ | ⟨c, hc, hpar⟩⟩ := (waitsFor_iff hinv.state).mp hw
      · rw [hrec, Option.all_some, beq_iff_eq] at h2deps
        rw [h2deps] at hx
        cases hx
      · exact hparents c (OrdMap.mem_values.mpr ⟨x, hc⟩) hpar
  obtain ⟨r, hr, _⟩ := okAnd_iff.mp (show okAnd (TeamRuntime.dispatchAll ⟨4, 7, .default, [], 1, 1, 1, 1⟩ siblings)
    (fun _ => true) = true by decide +kernel)
  exact ⟨r, hr, wait_graph_acyclic (RunOf.dispatchAll (@RunOf.new _ 4 7 _ rfl) hguard hr)⟩

end GreenTyper.Team
