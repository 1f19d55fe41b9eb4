/-
  GreenTyper.Runtime.Quiescent — what `validate_quiescent` accepts, and that the events of a
  transaction leave it accepted.

  `Quiescent` are its checks, less the sums that may overflow. An event that is about the
  pending Turn alone keeps it (`Quiescent.edit`), as does one that writes a Turn's record
  again (`Quiescent.rewrite`) and one that admits a Turn with its snapshots
  (`Quiescent.admit`). The errors of a kernel that works are `Fine`: they say nothing of a
  Ledger that contradicts itself.
-/

import GreenTyper.Lib.Program
import GreenTyper.Runtime.Ids

namespace GreenTyper.Runtime

open Lib Config Context Provider Usage
open GreenTyper.Team (AgentId)

/-- An error that says that the Ledger contradicts itself, or a panic. -/
def RuntimeError.Corrupt : RuntimeError → Prop
  | .corruptEvent _ | .corruptState _ | .indexOutOfBounds => True
  | _ => False

def RuntimeError.Fine (e : RuntimeError) : Prop := ¬ e.Corrupt

theorem RuntimeError.fine_iff {e : RuntimeError} : e.Fine ↔ (∀ reason, e ≠ .corruptEvent reason) ∧ (∀ reason, e ≠ .corruptState reason) ∧
    e ≠ .indexOutOfBounds := by
  unfold Fine
  cases e <;> simp [Corrupt]

/-- The snapshots that a Turn was admitted with. -/
def TurnRecord.epochs (record : TurnRecord) : Nat := 1 + record.fallbacks.length

namespace RuntimeState

variable {sha256 : Sha256} {state next : RuntimeState} {turn : TurnId}

structure ValidTurn (state : RuntimeState) (turn : TurnId) (record : TurnRecord) : Prop where
  snapshots : state.configs.contains record.config = true ∧ state.providers.contains record.provider = true
  fallbacks : ∀ fallback ∈ record.fallbacks, state.configs.contains fallback.config = true ∧
    state.providers.contains fallback.provider = true
  input : ∃ item ∈ state.items, item.id = record.userItem ∧ item.turn = turn
  delivered : record.completed = true → record.delivery ≠ none
  exclusive : record.completed = true → record.cancelled = false
  unprepared : record.cancelled = true → record.assistantItem = none ∧ record.delivery = none
  running : (∃ pending, state.pending = some pending ∧ pending.turn = turn) ↔ record.completed = false ∧ record.cancelled = false

theorem validateTurn_ok {record : TurnRecord} : state.validateTurn turn record = .ok () ↔ state.ValidTurn turn record := by
  have hpending : state.pending.any (·.turn = turn) = true ↔ ∃ pending, state.pending = some pending ∧ pending.turn = turn := by
    simp [Option.any_eq_true]
  unfold validateTurn
  simp only [seq_ok, require_ok, List.any_eq_true, decide_eq_true_iff]
  constructor
  · intro h
    obtain ⟨⟨hconfig, hprovider, hfallbacks, hinput⟩, hdelivered, hexclusive, hunprepared, hrunning⟩ := h
    refine ⟨⟨hconfig, hprovider⟩, hfallbacks, hinput, ?_, ?_, ?_, ?_⟩
    · intro hcompleted
      exact hdelivered.resolve_left (by simp [hcompleted])
    · intro hcompleted
      exact hexclusive.resolve_left (by simp [hcompleted])
    · intro hcancelled
      exact hunprepared.resolve_left (by simp [hcancelled])
    · rw [← hpending, hrunning]
      simp
  · intro h
    refine ⟨⟨h.snapshots.1, h.snapshots.2, h.fallbacks, h.input⟩, ?_, ?_, ?_, ?_⟩
    · by_cases hcompleted : record.completed = true
      · exact .inr (h.delivered hcompleted)
      · exact .inl (by simpa using hcompleted)
    · by_cases hcompleted : record.completed = true
      · exact .inr (h.exclusive hcompleted)
      · exact .inl (by simpa using hcompleted)
    · by_cases hcancelled : record.cancelled = true
      · exact .inr (h.unprepared hcancelled)
      · exact .inl (by simpa using hcancelled)
    · rw [Bool.eq_iff_iff, hpending, h.running]
      simp

/-- How many snapshots the Turns have. -/
def snapshotCount (state : RuntimeState) : Nat := state.turns.sumBy TurnRecord.epochs

theorem checkedAdd_64 (a b : Nat) : checkedAdd 64 a b = if a + b < 2 ^ 64 then some (a + b) else none := rfl

theorem expectedSnapshots_fold (records : List TurnRecord) : ∀ {total : Nat}, total < 2 ^ 64 →
    records.foldlM (fun total record => do
      let total ← okOr (checkedAdd 64 total 1) RuntimeError.integerOverflow
      okOr (checkedAdd 64 total record.fallbacks.length) .integerOverflow) total =
      if total + (records.map TurnRecord.epochs).sum < 2 ^ 64 then .ok (total + (records.map TurnRecord.epochs).sum)
      else .error .integerOverflow := by
  induction records with
  | nil =>
    intro total htotal
    rw [List.map_nil, List.sum_nil, Nat.add_zero, if_pos htotal]
    rfl
  | cons record records ih =>
    intro total htotal
    rw [List.foldlM_cons, List.map_cons, List.sum_cons, checkedAdd_64]
    have hweight : record.epochs = 1 + record.fallbacks.length := rfl
    by_cases hone : total + 1 < 2 ^ 64
    · rw [if_pos hone, okOr_some, ok_bind, checkedAdd_64]
      by_cases hall : total + 1 + record.fallbacks.length < 2 ^ 64
      · rw [if_pos hall, okOr_some, ok_bind, ih hall, hweight, Nat.add_assoc, Nat.add_assoc, Nat.add_assoc]
      · rw [if_neg hall, if_neg (by omega)]
        rfl
    · rw [if_neg hone, if_neg (by omega)]
      rfl

theorem expectedSnapshots_eq : state.expectedSnapshots =
    if state.snapshotCount < 2 ^ 64 then .ok state.snapshotCount else .error .integerOverflow := by
  unfold expectedSnapshots snapshotCount OrdMap.sumBy
  rw [expectedSnapshots_fold _ (by decide), Nat.zero_add]

structure Quiescent (state : RuntimeState) : Prop where
  thread : state.turns.entries.isEmpty = state.thread.isNone
  configs : state.configs.size = state.snapshotCount
  providers : state.providers.size = state.snapshotCount
  written : ∀ pending, state.pending = some pending → pending.phase ≠ .streaming
  charged : state.pendingCostEvaluation = none
  turns : ∀ turn record, state.turns.get turn = some record → state.ValidTurn turn record

theorem validateQuiescent_ok : state.validateQuiescent = .ok () ↔ state.Quiescent ∧ state.snapshotCount < 2 ^ 64 := by
  unfold validateQuiescent
  simp only [bind_ok, exists_unit, require_ok, expectedSnapshots_eq, forM_ok, Prod.forall, OrdMap.mem_entries, validateTurn_ok]
  constructor
  · intro h
    obtain ⟨hthread, expected, hexpected, ⟨hconfigs, hproviders⟩, hwritten, hcharged, hturns⟩ := h
    by_cases hfits : state.snapshotCount < 2 ^ 64
    · rw [if_pos hfits] at hexpected
      obtain rfl := Except.ok.inj hexpected
      refine ⟨⟨hthread, hconfigs, hproviders, ?_, hcharged, hturns⟩, hfits⟩
      intro pending hpending
      rw [hpending] at hwritten
      simpa using hwritten
    · rw [if_neg hfits] at hexpected
      cases hexpected
  · intro h
    obtain ⟨h, hfits⟩ := h
    refine ⟨h.thread, state.snapshotCount, if_pos hfits, ⟨h.configs, h.providers⟩, ?_, h.charged, h.turns⟩
    cases hpending : state.pending with
    | none => rfl
    | some pending => simpa using h.written pending hpending

/-- What is left to fail is a sum. -/
theorem Quiescent.fine (h : state.Quiescent) : Ends RuntimeError.Fine (fun _ => True) state.validateQuiescent := by
  by_cases hfits : state.snapshotCount < 2 ^ 64
  · rw [validateQuiescent_ok.mpr ⟨h, hfits⟩]
    trivial
  · refine .intro (fun _ _ => trivial) ?_
    intro e he
    unfold validateQuiescent at he
    rw [require_bind h.thread, expectedSnapshots_eq, if_neg hfits, error_bind] at he
    obtain rfl := Except.error.inj he
    exact fun hcorrupt => hcorrupt

/-! ## Changes -/

/-- No snapshot and no Item is lost. -/
structure Grows (state next : RuntimeState) : Prop where
  configs : ∀ id, state.configs.contains id = true → next.configs.contains id = true
  providers : ∀ id, state.providers.contains id = true → next.providers.contains id = true
  items : ∀ item ∈ state.items, item ∈ next.items

theorem ValidTurn.grow {record : TurnRecord} (h : state.ValidTurn turn record) (hgrows : Grows state next)
    (hrunning : (∃ pending, next.pending = some pending ∧ pending.turn = turn) ↔ ∃ pending, state.pending = some pending ∧ pending.turn = turn) :
    next.ValidTurn turn record := by
  obtain ⟨item, hitem, hof⟩ := h.input
  exact {
    snapshots := ⟨hgrows.configs _ h.snapshots.1, hgrows.providers _ h.snapshots.2⟩
    fallbacks := fun fallback hmem => ⟨hgrows.configs _ (h.fallbacks fallback hmem).1, hgrows.providers _ (h.fallbacks fallback hmem).2⟩
    input := ⟨item, hgrows.items item hitem, hof⟩
    delivered := h.delivered
    exclusive := h.exclusive
    unprepared := h.unprepared
    running := hrunning.trans h.running
  }

/-- A state with the same snapshots and no fewer Items. -/
structure SameSnapshots (state next : RuntimeState) : Prop where
  thread : next.thread = state.thread
  configs : next.configs = state.configs
  providers : next.providers = state.providers
  items : ∀ item ∈ state.items, item ∈ next.items

theorem SameSnapshots.grows (h : SameSnapshots state next) : Grows state next := by
  constructor
  · intro id hcontains
    rw [h.configs, hcontains]
  · intro id hcontains
    rw [h.providers, hcontains]
  · exact h.items

/-- A change of the pending Turn alone. -/
theorem Quiescent.edit {pending pending' : PendingTurn} (h : state.Quiescent) (hsame : SameSnapshots state next)
    (hturns : next.turns = state.turns) (hpending : state.pending = some pending) (hnext : next.pending = some pending')
    (hturn : pending'.turn = pending.turn) (hphase : pending'.phase ≠ .streaming) (hcharged : next.pendingCostEvaluation = none) :
    next.Quiescent := by
  have hcount : next.snapshotCount = state.snapshotCount := by
    unfold snapshotCount
    rw [hturns]
  constructor
  · rw [hturns, hsame.thread, h.thread]
  · rw [hsame.configs, hcount, h.configs]
  · rw [hsame.providers, hcount, h.providers]
  · intro of hof
    obtain rfl := Option.some.inj (hnext.symm.trans hof)
    exact hphase
  · exact hcharged
  · intro turn record hget
    refine (h.turns turn record (hturns ▸ hget)).grow hsame.grows ?_
    simp only [hnext, hpending, Option.some.injEq, exists_eq_left', hturn]

/-- A state that is the same for all that the checks read. -/
theorem Quiescent.keep (h : state.Quiescent) (hsame : SameSnapshots state next) (hturns : next.turns = state.turns)
    (hpending : next.pending = state.pending) (hcharged : next.pendingCostEvaluation = none) : next.Quiescent := by
  have hcount : next.snapshotCount = state.snapshotCount := by
    unfold snapshotCount
    rw [hturns]
  constructor
  · rw [hturns, hsame.thread, h.thread]
  · rw [hsame.configs, hcount, h.configs]
  · rw [hsame.providers, hcount, h.providers]
  · rw [hpending]
    exact h.written
  · exact hcharged
  · intro turn record hget
    exact (h.turns turn record (hturns ▸ hget)).grow hsame.grows (by rw [hpending])

/-- A record that is written again, of the Turn that is pending. -/
theorem Quiescent.rewrite {pending : PendingTurn} {record : TurnRecord} (record' : TurnRecord) (h : state.Quiescent) (hsame : SameSnapshots state next)
    (hpending : state.pending = some pending) (hrecord : state.turns.get pending.turn = some record)
    (hturns : next.turns = state.turns.insert pending.turn record')
    (hkept : record'.userItem = record.userItem ∧ record'.config = record.config ∧ record'.provider = record.provider ∧
      record'.fallbacks = record.fallbacks)
    (hwritten : ∀ pending', next.pending = some pending' → pending'.turn = pending.turn ∧ pending'.phase ≠ .streaming)
    (hcharged : next.pendingCostEvaluation = none) (hdelivered : record'.completed = true → record'.delivery ≠ none)
    (hexclusive : record'.completed = true → record'.cancelled = false)
    (hunprepared : record'.cancelled = true → record'.assistantItem = none ∧ record'.delivery = none)
    (hrunning : next.pending.isSome = true ↔ record'.completed = false ∧ record'.cancelled = false) : next.Quiescent := by
  obtain ⟨huser, hconfig, hprovider, hfallbacks⟩ := hkept
  have hcount : next.snapshotCount = state.snapshotCount := by
    have hsum := OrdMap.sumBy_insert_some hrecord TurnRecord.epochs record'
    have hweight : record'.epochs = record.epochs := by rw [TurnRecord.epochs, TurnRecord.epochs, hfallbacks]
    unfold snapshotCount
    rw [hturns]
    omega
  have hnonempty : state.turns.entries.isEmpty = false := by
    rw [List.isEmpty_eq_false_iff_exists_mem]
    exact ⟨_, OrdMap.mem_entries.mpr hrecord⟩
  have hnonempty' : next.turns.entries.isEmpty = false := by
    rw [List.isEmpty_eq_false_iff_exists_mem]
    exact ⟨(pending.turn, record'), OrdMap.mem_entries.mpr (by rw [hturns, OrdMap.get_insert_self])⟩
  constructor
  · rw [hnonempty', hsame.thread, ← h.thread, hnonempty]
  · rw [hsame.configs, hcount, h.configs]
  · rw [hsame.providers, hcount, h.providers]
  · exact fun pending' hnext => (hwritten pending' hnext).2
  · exact hcharged
  · intro other of hof
    by_cases hother : pending.turn = other
    · subst hother
      rw [hturns, OrdMap.get_insert_self] at hof
      obtain rfl := Option.some.inj hof
      have hvalid := h.turns _ record hrecord
      obtain ⟨item, hitem, hid⟩ := hvalid.input
      refine ⟨?_, ?_, ⟨item, hsame.items item hitem, huser ▸ hid⟩, hdelivered, hexclusive, hunprepared, ?_⟩
      · rw [hsame.configs, hsame.providers, hconfig, hprovider]
        exact hvalid.snapshots
      · rw [hsame.configs, hsame.providers, hfallbacks]
        exact hvalid.fallbacks
      · rw [← hrunning, Option.isSome_iff_exists]
        constructor
        · intro hex
          obtain ⟨pending', hnext, _⟩ := hex
          exact ⟨pending', hnext⟩
        · intro hex
          obtain ⟨pending', hnext⟩ := hex
          exact ⟨pending', hnext, (hwritten pending' hnext).1⟩
    · rw [hturns, OrdMap.get_insert_ne _ _ hother] at hof
      refine (h.turns other of hof).grow hsame.grows ?_
      constructor
      · intro hex
        obtain ⟨pending', hnext, rfl⟩ := hex
        exact absurd (hwritten pending' hnext).1.symm hother
      · intro hex
        obtain ⟨of', hof', rfl⟩ := hex
        obtain rfl := Option.some.inj (hpending.symm.trans hof')
        exact absurd rfl hother

/-- A Turn more, with its snapshots. -/
theorem Quiescent.admit (turn : TurnId) {pending : PendingTurn} (record : TurnRecord) (h : state.Quiescent) (hidle : state.pending = none)
    (hgrows : Grows state next) (hthread : next.thread ≠ none)
    (hsizes : next.configs.size = state.configs.size + record.epochs ∧ next.providers.size = state.providers.size + record.epochs)
    (hnew : state.turns.get turn = none) (hturns : next.turns = state.turns.insert turn record)
    (hnext : next.pending = some pending) (hturn : pending.turn = turn) (hphase : pending.phase ≠ .streaming)
    (hcharged : next.pendingCostEvaluation = none) (hvalid : next.ValidTurn turn record) : next.Quiescent := by
  have hcount : next.snapshotCount = state.snapshotCount + record.epochs := by
    unfold snapshotCount
    rw [hturns, OrdMap.sumBy_insert_none hnew]
  have hget : next.turns.get turn = some record := by
    rw [hturns, OrdMap.get_insert_self]
  constructor
  · rw [List.isEmpty_eq_false_iff_exists_mem.mpr ⟨_, OrdMap.mem_entries.mpr hget⟩]
    cases hof : next.thread with
    | none => exact absurd hof hthread
    | some thread => rfl
  · rw [hsizes.1, hcount, h.configs]
  · rw [hsizes.2, hcount, h.providers]
  · intro of hof
    obtain rfl := Option.some.inj (hnext.symm.trans hof)
    exact hphase
  · exact hcharged
  · intro other of hof
    by_cases hother : turn = other
    · subst hother
      obtain rfl := Option.some.inj (hget.symm.trans hof)
      exact hvalid
    · rw [hturns, OrdMap.get_insert_ne _ _ hother] at hof
      refine (h.turns other of hof).grow hgrows ?_
      constructor
      · intro hex
        obtain ⟨of', hof', rfl⟩ := hex
        obtain rfl := Option.some.inj (hnext.symm.trans hof')
        exact absurd hturn.symm hother
      · intro hex
        obtain ⟨of', hof', _⟩ := hex
        rw [hidle] at hof'
        cases hof'

/-! ## Between transactions -/

theorem quiescent_default : Quiescent default := by
  refine ⟨rfl, rfl, rfl, ?_, rfl, ?_⟩
  · intro pending hpending
    cases hpending
  · intro turn record hget
    cases hget

/-- A state that a transaction may leave. -/
structure AtRest (state : RuntimeState) : Prop where
  kept : state.Kept
  quiescent : state.Quiescent

theorem atRest_of_replay {ledger : List (List RuntimeEvent)} (h : replay sha256 ledger = .ok state) : state.AtRest := by
  refine ⟨kept_of_replay h, ?_⟩
  induction ledger using List.reverseRecOn with
  | nil =>
    obtain rfl := Except.ok.inj h
    exact quiescent_default
  | append_singleton ledger transaction _ =>
    obtain ⟨_, _, htransaction⟩ := replay_append.mp h
    exact (validateQuiescent_ok.mp (replayTransaction_ok.mp htransaction).2.2).1

end RuntimeState

end GreenTyper.Runtime
