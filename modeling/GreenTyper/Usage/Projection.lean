/-
  GreenTyper.Usage.Projection — the attempts on record and their cached rollups (`usage.rs`).

  Each cache covers the attempts with its keys (`Covers`): recording an attempt and
  evaluating its cost move every cached rollup as they move the attempts it covers, in any
  order of the two. A rolling report merges the rollups of the instants in its window,
  which is the rollup of the attempts that started there (`rolling_tally`).
-/

import GreenTyper.Usage.Rollup
import Mathlib.Logic.Relation

namespace GreenTyper.Usage

open Lib

structure UsageProjection where
  attempts : List UsageAttempt
  total : UsageRollup
  threads : OrdMap Nat UsageRollup
  turns : OrdMap Nat UsageRollup
  agents : OrdMap Nat UsageRollup
  namedWindows : OrdMap UsageWindow UsageRollup
  instants : OrdMap Int UsageRollup

section Caches

variable {κ : Type} [LinearOrder κ]

/-- `entry(key).or_default().observe(attempt)`, for each key. -/
def observeUnder (cache : OrdMap κ UsageRollup) (keys : List κ) (attempt : UsageAttempt) : OrdMap κ UsageRollup :=
  keys.foldl (fun cache key => cache.upsert key .default (·.observe attempt)) cache

/-- `get_mut(key).ok_or(UnknownAttempt)?.observe_cost_evaluation(outcome)`, for each key. -/
def evaluateUnder (cache : OrdMap κ UsageRollup) (keys : List κ) (outcome : CostEstimateOutcome) :
    Except UsageError (OrdMap κ UsageRollup) :=
  keys.foldlM (fun cache key => do
    let rollup ← okOr (cache.get key) .unknownAttempt
    return cache.insert key (rollup.observeCostEvaluation outcome)) cache

end Caches

/-- The instant an attempt is kept under. -/
def UsageAttempt.instant (attempt : UsageAttempt) : Option Int := attempt.startedAt.map (·.unixMillis)

def millisPerHour : Int := 60 * 60 * 1000
def millisPerDay : Int := 24 * millisPerHour

/-- `a.saturating_sub(b)` of an `i64` by a duration. -/
def saturatingSub (a b : Int) : Int := max (a - b) (-2 ^ 63)

structure RollingUsageRollups where
  oneHour : UsageRollup
  oneDay : UsageRollup
  sevenDays : UsageRollup

structure RuntimeUsageSummary where
  asOf : UsageTimestamp
  total : UsageRollup
  thread : Option (Nat × UsageRollup)
  team : Option UsageRollup
  rolling : RollingUsageRollups
  namedWindows : List (UsageWindow × UsageRollup)

namespace UsageProjection

def default : UsageProjection := ⟨[], .default, .empty, .empty, .empty, .empty, .empty⟩

/-- The attempt of this number in a Turn. -/
def isAttempt (turn attempt : Nat) (candidate : UsageAttempt) : Bool := candidate.turn == turn && candidate.attempt == attempt

def attempt (projection : UsageProjection) (turn attempt : Nat) : Option UsageAttempt :=
  projection.attempts.find? (isAttempt turn attempt)

def record (projection : UsageProjection) (attempt : UsageAttempt) : Except UsageError UsageProjection := do
  require (projection.attempts.any (isAttempt attempt.turn attempt.attempt) = false) .duplicateAttempt
  return {
    attempts := projection.attempts ++ [attempt]
    total := projection.total.observe attempt
    threads := observeUnder projection.threads [attempt.thread] attempt
    turns := observeUnder projection.turns [attempt.turn] attempt
    agents := observeUnder projection.agents attempt.agent.toList attempt
    namedWindows := observeUnder projection.namedWindows attempt.namedWindows attempt
    instants := observeUnder projection.instants attempt.instant.toList attempt
  }

def recordCostEvaluation (projection : UsageProjection) (turn attempt : Nat) (outcome : CostEstimateOutcome) :
    Except UsageError UsageProjection := do
  let before ← okOr (projection.attempt turn attempt) .unknownAttempt
  let usageAttempt ← before.recordCostEvaluation outcome
  let threads ← evaluateUnder projection.threads [usageAttempt.thread] outcome
  let turns ← evaluateUnder projection.turns [usageAttempt.turn] outcome
  let agents ← evaluateUnder projection.agents usageAttempt.agent.toList outcome
  let namedWindows ← evaluateUnder projection.namedWindows usageAttempt.namedWindows outcome
  let instants ← evaluateUnder projection.instants usageAttempt.instant.toList outcome
  return {
    attempts := projection.attempts.set (projection.attempts.findIdx (isAttempt turn attempt)) usageAttempt
    total := projection.total.observeCostEvaluation outcome
    threads, turns, agents, namedWindows, instants
  }

def rolling (projection : UsageProjection) (asOf : UsageTimestamp) (duration : Int) : UsageRollup :=
  (projection.instants.range (saturatingSub asOf.unixMillis duration) asOf.unixMillis).foldl UsageRollup.merge .default

def summary (projection : UsageProjection) (thread : Option Nat) (asOf : UsageTimestamp) : RuntimeUsageSummary where
  asOf := asOf
  total := projection.total
  thread := thread.bind fun id => (projection.threads.get id).map (id, ·)
  team := if projection.agents.entries.isEmpty then none else some projection.total
  rolling := {
    oneHour := projection.rolling asOf millisPerHour
    oneDay := projection.rolling asOf millisPerDay
    sevenDays := projection.rolling asOf (7 * millisPerDay)
  }
  namedWindows := projection.namedWindows.entries

end UsageProjection

/-! ## What a cache covers -/

section Covers

variable {κ : Type} [LinearOrder κ]

/-- The rollup kept for the attempts that `covers` picks: none before the first of them. -/
def covered (covers : UsageAttempt → Bool) (as : List UsageAttempt) : Option UsageRollup :=
  if (as.filter covers).isEmpty then none else some (.tally (as.filter covers))

theorem covered_getD (covers : UsageAttempt → Bool) (as : List UsageAttempt) :
    (covered covers as).getD .default = .tally (as.filter covers) := by
  unfold covered
  cases as.filter covers <;> rfl

theorem covered_append (covers : UsageAttempt → Bool) (as : List UsageAttempt) (a : UsageAttempt) :
    covered covers (as ++ [a]) = if covers a then some (.tally (as.filter covers ++ [a])) else covered covers as := by
  unfold covered
  by_cases h : covers a
  · simp [List.filter_append, h]
  · simp [List.filter_append, h]

/-- A cache that keeps under each key the rollup of the attempts with that key. -/
def Covers (keys : UsageAttempt → List κ) (cache : OrdMap κ UsageRollup) (as : List UsageAttempt) : Prop :=
  ∀ k, cache.get k = covered (fun a => decide (k ∈ keys a)) as

theorem get_observeUnder (keys : List κ) (hkeys : keys.Nodup) (a : UsageAttempt) (k : κ) : ∀ cache : OrdMap κ UsageRollup,
    (observeUnder cache keys a).get k =
      if k ∈ keys then some (((cache.get k).getD .default).observe a) else cache.get k := by
  induction keys with
  | nil =>
    intro cache
    rfl
  | cons key keys ih =>
    intro cache
    obtain ⟨hnot, hkeys⟩ := List.nodup_cons.mp hkeys
    rw [observeUnder, List.foldl_cons]
    show (observeUnder _ keys a).get k = _
    rw [ih hkeys, OrdMap.get_upsert]
    by_cases hk : key = k
    · subst hk
      rw [if_neg hnot, if_pos rfl, if_pos List.mem_cons_self]
    · simp only [if_neg hk, List.mem_cons, Ne.symm hk, false_or]

theorem Covers.observe {keys : UsageAttempt → List κ} {cache : OrdMap κ UsageRollup} {as : List UsageAttempt}
    (h : Covers keys cache as) (a : UsageAttempt) (hkeys : (keys a).Nodup) (hcost : a.costEstimate = none) :
    Covers keys (observeUnder cache (keys a) a) (as ++ [a]) := by
  intro k
  rw [get_observeUnder _ hkeys, h k, covered_getD, covered_append]
  by_cases hk : k ∈ keys a
  · rw [if_pos hk, if_pos (decide_eq_true hk), UsageRollup.observe_tally _ a hcost]
  · rw [if_neg hk, if_neg (by simpa using hk)]

theorem get_evaluateUnder (keys : List κ) (hkeys : keys.Nodup) (outcome : CostEstimateOutcome) (k : κ) :
    ∀ {cache cache' : OrdMap κ UsageRollup}, evaluateUnder cache keys outcome = .ok cache' →
      cache'.get k = if k ∈ keys then (cache.get k).map (·.observeCostEvaluation outcome) else cache.get k := by
  induction keys with
  | nil =>
    intro cache cache' h
    cases h
    rfl
  | cons key keys ih =>
    intro cache cache' h
    obtain ⟨hnot, hkeys⟩ := List.nodup_cons.mp hkeys
    rw [evaluateUnder, List.foldlM_cons] at h
    obtain ⟨next, hnext, h⟩ := bind_ok.mp h
    obtain ⟨rollup, hget, hnext⟩ := bind_ok.mp hnext
    cases hnext
    rw [ih hkeys h, OrdMap.get_insert]
    by_cases hk : key = k
    · subst hk
      rw [if_neg hnot, if_pos rfl, if_pos List.mem_cons_self, okOr_ok.mp hget]
      rfl
    · simp only [if_neg hk, List.mem_cons, Ne.symm hk, false_or]

/-- An evaluation finds the rollups of an attempt that was recorded. -/
theorem evaluateUnder_total (keys : List κ) (outcome : CostEstimateOutcome) : ∀ {cache : OrdMap κ UsageRollup},
    (∀ k ∈ keys, cache.get k ≠ none) → ∃ cache', evaluateUnder cache keys outcome = .ok cache' := by
  induction keys with
  | nil =>
    intro cache _
    exact ⟨cache, rfl⟩
  | cons key keys ih =>
    intro cache h
    obtain ⟨rollup, hget⟩ := Option.ne_none_iff_exists'.mp (h key List.mem_cons_self)
    have hrest : ∀ k ∈ keys, (cache.insert key (rollup.observeCostEvaluation outcome)).get k ≠ none := by
      intro k hk
      rw [OrdMap.get_insert]
      split
      · simp
      · exact h k (List.mem_cons_of_mem key hk)
    obtain ⟨cache', h'⟩ := ih hrest
    refine ⟨cache', ?_⟩
    rw [evaluateUnder, List.foldlM_cons, hget]
    exact h'

/-- What an evaluation does not change. -/
structure SameKeys (a a' : UsageAttempt) : Prop where
  attempt : a'.attempt = a.attempt
  thread : a'.thread = a.thread
  turn : a'.turn = a.turn
  agent : a'.agent = a.agent
  startedAt : a'.startedAt = a.startedAt
  namedWindows : a'.namedWindows = a.namedWindows

theorem recordCostEvaluation_same {a a' : UsageAttempt} {outcome : CostEstimateOutcome}
    (h : a.recordCostEvaluation outcome = .ok a') : SameKeys a a' := by
  obtain ⟨_, _, h⟩ := bind_ok.mp h
  cases outcome <;> cases h <;> exact ⟨rfl, rfl, rfl, rfl, rfl, rfl⟩

theorem Covers.evaluate {keys : UsageAttempt → List κ} {cache cache' : OrdMap κ UsageRollup} {pre post : List UsageAttempt}
    {a a' : UsageAttempt} {outcome : CostEstimateOutcome} (h : Covers keys cache (pre ++ a :: post)) (hkeys : (keys a).Nodup)
    (hsame : keys a' = keys a) (hrecord : a.recordCostEvaluation outcome = .ok a')
    (hfits : (pre ++ a :: post).length ≤ maxU64) (heval : evaluateUnder cache (keys a) outcome = .ok cache') :
    Covers keys cache' (pre ++ a' :: post) := by
  intro k
  rw [get_evaluateUnder _ hkeys outcome k heval, h k, covered, covered]
  simp only [List.filter_append, List.filter_cons, hsame]
  by_cases hk : k ∈ keys a
  · have hsub : (pre.filter (fun a => decide (k ∈ keys a)) ++ a :: post.filter (fun a => decide (k ∈ keys a))).length ≤ maxU64 := by
      have hpre := List.length_filter_le (fun a => decide (k ∈ keys a)) pre
      have hpost := List.length_filter_le (fun a => decide (k ∈ keys a)) post
      rw [List.length_append, List.length_cons] at hfits ⊢
      omega
    have hmore : ∀ (l m : List UsageAttempt) (a : UsageAttempt), (l ++ a :: m).isEmpty = false := by
      intro l m a
      cases l <;> rfl
    simp only [hk, decide_true, if_true, hmore, Bool.false_eq_true, if_false, Option.map_some,
      UsageRollup.evaluate_tally hrecord hsub]
  · simp only [hk, decide_false, Bool.false_eq_true, if_false]

end Covers

/-! ## Every projection -/

/-- `isize::MAX`: no `Vec` is longer, and a `push` beyond it does not return. -/
def maxVecLength : Nat := 2 ^ 63 - 1

namespace UsageProjection

/-- An attempt as the runtime records it, before its cost is evaluated. -/
def IsNew (attempt : UsageAttempt) : Prop :=
  ∃ number thread turn agent profile model dialect start done outcome usage windows contextMode effort tier created,
    UsageAttempt.new number thread turn agent profile model dialect start done outcome usage windows = .ok created ∧
      attempt = created.withRequestedPolicy contextMode effort tier

inductive Step : UsageProjection → UsageProjection → Prop
  | record {projection next attempt} : IsNew attempt → projection.attempts.length < maxVecLength →
      projection.record attempt = .ok next → Step projection next
  | evaluate {projection next turn attempt outcome} :
      projection.recordCostEvaluation turn attempt outcome = .ok next → Step projection next

def Run : UsageProjection → UsageProjection → Prop := Relation.ReflTransGen Step

theorem IsNew.cost {attempt : UsageAttempt} (h : IsNew attempt) : attempt.costEstimate = none := by
  obtain ⟨_, _, _, _, _, _, _, _, _, _, _, _, _, _, _, created, hnew, rfl⟩ := h
  simp only [UsageAttempt.new, bind_ok, require_ok, exists_const] at hnew
  obtain ⟨_, _, hnew⟩ := hnew
  split at hnew
  · cases hnew
    rfl
  · cases hnew

/-- The cached rollups are those of the attempts on record. -/
structure Exact (projection : UsageProjection) : Prop where
  fits : projection.attempts.length ≤ maxVecLength
  total : projection.total = .tally projection.attempts
  threads : Covers (fun a => [a.thread]) projection.threads projection.attempts
  turns : Covers (fun a => [a.turn]) projection.turns projection.attempts
  agents : Covers (·.agent.toList) projection.agents projection.attempts
  namedWindows : Covers (·.namedWindows) projection.namedWindows projection.attempts
  instants : Covers (·.instant.toList) projection.instants projection.attempts

theorem exact_default : Exact default :=
  ⟨Nat.zero_le _, rfl, fun _ => rfl, fun _ => rfl, fun _ => rfl, fun _ => rfl, fun _ => rfl⟩

theorem toList_nodup {α : Type} (o : Option α) : o.toList.Nodup := by
  cases o <;> simp

theorem Exact.record {projection next : UsageProjection} {attempt : UsageAttempt} (h : Exact projection)
    (hcost : attempt.costEstimate = none) (hroom : projection.attempts.length < maxVecLength)
    (hrecord : projection.record attempt = .ok next) : Exact next := by
  obtain ⟨_, _, hrecord⟩ := bind_ok.mp hrecord
  cases hrecord
  refine ⟨?_, ?_, h.threads.observe attempt (List.nodup_singleton _) hcost, h.turns.observe attempt (List.nodup_singleton _) hcost,
    h.agents.observe attempt (toList_nodup _) hcost, h.namedWindows.observe attempt (.of_map _ attempt.distinct) hcost,
    h.instants.observe attempt (toList_nodup _) hcost⟩
  · rw [List.length_append, List.length_singleton]
    omega
  · rw [h.total, UsageRollup.observe_tally _ attempt hcost]

/-- The first attempt with a number, taken apart from the others. -/
theorem attempt_split {projection : UsageProjection} {turn attempt : Nat} {a : UsageAttempt} (h : projection.attempt turn attempt = some a) :
    ∃ pre post, projection.attempts = pre ++ a :: post ∧
      ∀ a', projection.attempts.set (projection.attempts.findIdx (isAttempt turn attempt)) a' = pre ++ a' :: post := by
  obtain ⟨his, pre, post, hsplit, hpre⟩ := List.find?_eq_some_iff_append.mp h
  refine ⟨pre, post, hsplit, fun a' => ?_⟩
  have hindex : projection.attempts.findIdx (isAttempt turn attempt) = pre.length := by
    have hnone : pre.findIdx (isAttempt turn attempt) = pre.length := List.findIdx_eq_length.mpr fun x hx => by
      simpa using hpre x hx
    rw [hsplit, List.findIdx_append, hnone, if_neg (Nat.lt_irrefl _), List.findIdx_cons, his]
    exact Nat.zero_add _
  rw [hindex, hsplit]
  simp

theorem Exact.evaluate {projection next : UsageProjection} {turn attempt : Nat} {outcome : CostEstimateOutcome} (h : Exact projection)
    (heval : projection.recordCostEvaluation turn attempt outcome = .ok next) : Exact next := by
  simp only [recordCostEvaluation, bind_ok, okOr_ok] at heval
  obtain ⟨a, hfind, a', hrecord, threads, hthreads, turns, hturns, agents, hagents, windows, hwindows, instants, hinstants, hnext⟩ := heval
  cases hnext
  obtain ⟨pre, post, hsplit, hset⟩ := attempt_split hfind
  have hsame := recordCostEvaluation_same hrecord
  obtain ⟨hfits, htotal, h1, h2, h3, h4, h5⟩ := h
  rw [hsplit] at hfits htotal h1 h2 h3 h4 h5
  have hsmall : (pre ++ a :: post).length ≤ maxU64 := Nat.le_trans hfits (by decide)
  have hlen : (pre ++ a' :: post).length = (pre ++ a :: post).length := by
    rw [List.length_append, List.length_append, List.length_cons, List.length_cons]
  rw [hsame.thread] at hthreads
  rw [hsame.turn] at hturns
  rw [hsame.agent] at hagents
  rw [hsame.namedWindows] at hwindows
  rw [UsageAttempt.instant, hsame.startedAt] at hinstants
  constructor <;> simp only [hset]
  · rwa [hlen]
  · rw [htotal, UsageRollup.evaluate_tally hrecord hsmall]
  · exact h1.evaluate (List.nodup_singleton _) (by rw [hsame.thread]) hrecord hsmall hthreads
  · exact h2.evaluate (List.nodup_singleton _) (by rw [hsame.turn]) hrecord hsmall hturns
  · exact h3.evaluate (toList_nodup _) (by rw [hsame.agent]) hrecord hsmall hagents
  · exact h4.evaluate (.of_map _ a.distinct) hsame.namedWindows hrecord hsmall hwindows
  · exact h5.evaluate (toList_nodup _) (by rw [UsageAttempt.instant, hsame.startedAt]; rfl) hrecord hsmall hinstants

theorem Step.exact {projection next : UsageProjection} (h : Exact projection) (hstep : Step projection next) : Exact next := by
  cases hstep with
  | record hnew hroom hrecord => exact h.record hnew.cost hroom hrecord
  | evaluate heval => exact h.evaluate heval

theorem Run.exact {projection : UsageProjection} (hrun : Run default projection) : Exact projection := by
  induction hrun with
  | refl => exact exact_default
  | tail _ hstep ih => exact hstep.exact ih

/-- The evaluation of an attempt on record that has none yet finds every rollup it changes. -/
theorem Exact.evaluates {projection : UsageProjection} (h : Exact projection) {turn attempt : Nat} {a a' : UsageAttempt}
    {outcome : CostEstimateOutcome} (hfind : projection.attempt turn attempt = some a)
    (hrecord : a.recordCostEvaluation outcome = .ok a') : ∃ next, projection.recordCostEvaluation turn attempt outcome = .ok next := by
  have hmem : a ∈ projection.attempts := List.mem_of_find?_eq_some hfind
  have hsame := recordCostEvaluation_same hrecord
  have hkept : ∀ {κ : Type} [LinearOrder κ] {keys : UsageAttempt → List κ} {cache : OrdMap κ UsageRollup},
      Covers keys cache projection.attempts → ∃ cache', evaluateUnder cache (keys a) outcome = .ok cache' := by
    intro κ _ keys cache hcovers
    refine evaluateUnder_total _ outcome fun k hk => ?_
    have hne : projection.attempts.filter (fun a => decide (k ∈ keys a)) ≠ [] :=
      List.ne_nil_of_mem (List.mem_filter.mpr ⟨hmem, decide_eq_true hk⟩)
    rw [hcovers k, covered, if_neg (by rwa [List.isEmpty_iff])]
    simp
  obtain ⟨threads, hthreads⟩ := hkept h.threads
  obtain ⟨turns, hturns⟩ := hkept h.turns
  obtain ⟨agents, hagents⟩ := hkept h.agents
  obtain ⟨windows, hwindows⟩ := hkept h.namedWindows
  obtain ⟨instants, hinstants⟩ := hkept h.instants
  rw [← hsame.thread] at hthreads
  rw [← hsame.turn] at hturns
  rw [← hsame.agent] at hagents
  rw [← hsame.namedWindows] at hwindows
  rw [UsageAttempt.instant, ← hsame.startedAt] at hinstants
  rw [recordCostEvaluation, hfind, okOr_some, ok_bind, hrecord, ok_bind, hthreads, ok_bind, hturns, ok_bind, hagents, ok_bind,
    hwindows, ok_bind, UsageAttempt.instant, hinstants]
  exact ⟨_, rfl⟩

/-! ## Rolling reports -/

/-- The attempts that started in the half-open window of a duration before a moment. -/
def startedWithin (asOf : UsageTimestamp) (duration : Int) (as : List UsageAttempt) : List UsageAttempt :=
  as.filter fun a => a.startedAt.any fun start =>
    asOf.unixMillis - duration ≤ start.unixMillis && start.unixMillis < asOf.unixMillis

theorem foldl_merge_tally (parts : List (List UsageAttempt)) :
    ∀ as, (parts.map UsageRollup.tally).foldl UsageRollup.merge (.tally as) = .tally (as ++ parts.flatten) := by
  induction parts with
  | nil =>
    intro as
    rw [List.flatten_nil, List.append_nil]
    rfl
  | cons part parts ih =>
    intro as
    rw [List.map_cons, List.foldl_cons, UsageRollup.merge_tally, ih, List.append_assoc, List.flatten_cons]

theorem filter_or_perm {α : Type} (p q : α → Bool) (hpq : ∀ a, ¬ (p a = true ∧ q a = true)) (l : List α) :
    (l.filter p ++ l.filter q).Perm (l.filter fun a => p a || q a) := by
  induction l with
  | nil => exact .refl _
  | cons a l ih =>
    have hnot := hpq a
    cases hp : p a with
    | true =>
      have hq : q a = false := by
        rw [hp] at hnot
        simpa using hnot
      simp only [List.filter_cons, hp, hq, if_true, Bool.false_eq_true, if_false, Bool.true_or, List.cons_append]
      exact ih.cons a
    | false =>
      cases hq : q a with
      | true =>
        simp only [List.filter_cons, hp, hq, if_true, Bool.false_eq_true, if_false, Bool.or_true]
        exact List.perm_middle.trans (ih.cons a)
      | false =>
        simp only [List.filter_cons, hp, hq, Bool.false_eq_true, if_false, Bool.or_self]
        exact ih

/-- Cut by keys and put together again, a list has the members with one of the keys. -/
theorem flatten_filter_perm {α κ : Type} [DecidableEq κ] (key : α → Option κ) (l : List α) : ∀ ks : List κ, ks.Nodup →
    ((ks.map fun k => l.filter fun a => decide (k ∈ (key a).toList)).flatten).Perm
      (l.filter fun a => (key a).any fun k => decide (k ∈ ks)) := by
  intro ks
  induction ks with
  | nil =>
    intro _
    simp
  | cons k ks ih =>
    intro hks
    obtain ⟨hk, hks⟩ := List.nodup_cons.mp hks
    rw [List.map_cons, List.flatten_cons]
    refine (((ih hks).append_left _).trans (filter_or_perm _ _ ?_ l)).trans (.of_eq (List.filter_congr ?_))
    · rintro a ⟨ha, hb⟩
      cases h : key a with
      | none => simp [h] at ha
      | some k' =>
        simp only [h, Option.toList_some, List.mem_singleton, decide_eq_true_eq, Option.any_some] at ha hb
        exact hk (ha ▸ hb)
    · intro a _
      cases key a with
      | none => simp
      | some k' => simp [eq_comm, Bool.decide_or]

theorem rolling_tally {projection : UsageProjection} (h : Exact projection) (asOf : UsageTimestamp) (duration : Int) :
    projection.rolling asOf duration = .tally (startedWithin asOf duration projection.attempts) := by
  let lower := saturatingSub asOf.unixMillis duration
  let inside := projection.instants.entries.filter (fun e => lower ≤ e.1 ∧ e.1 < asOf.unixMillis)
  let keys := inside.map (·.1)
  have hvalues : projection.instants.range lower asOf.unixMillis =
      (keys.map fun k => projection.attempts.filter fun a => decide (k ∈ a.instant.toList)).map .tally := by
    rw [OrdMap.range, List.map_map, List.map_map]
    refine List.map_congr_left fun e he => ?_
    have hget : projection.instants.get e.1 = some e.2 := OrdMap.mem_entries.mp (List.mem_filter.mp he).1
    rw [h.instants e.1, covered] at hget
    split at hget
    · cases hget
    · exact (Option.some.inj hget).symm
  have hnodup : keys.Nodup := by
    have hsorted := projection.instants.sorted.filter (fun e => decide (lower ≤ e.1 ∧ e.1 < asOf.unixMillis))
    exact List.Pairwise.imp ne_of_lt (List.pairwise_map.mpr hsorted)
  have hmem : ∀ a ∈ projection.attempts, (a.instant.any fun k => decide (k ∈ keys)) =
      a.startedAt.any fun start => asOf.unixMillis - duration ≤ start.unixMillis && start.unixMillis < asOf.unixMillis := by
    intro a ha
    cases hstart : a.startedAt with
    | none => simp [UsageAttempt.instant, hstart]
    | some start =>
      -- The attempt's own instant has a rollup.
      have hsome : ∃ r, projection.instants.get start.unixMillis = some r := by
        have hcovers : a ∈ projection.attempts.filter fun a => decide (start.unixMillis ∈ a.instant.toList) := by
          simp [List.mem_filter, ha, UsageAttempt.instant, hstart]
        rw [h.instants start.unixMillis, covered, if_neg (by
          rw [List.isEmpty_iff]
          exact List.ne_nil_of_mem hcovers)]
        exact ⟨_, rfl⟩
      obtain ⟨r, hr⟩ := hsome
      have hiff : start.unixMillis ∈ keys ↔ lower ≤ start.unixMillis ∧ start.unixMillis < asOf.unixMillis := by
        simp only [keys, inside, List.mem_map, List.mem_filter, decide_eq_true_eq, Prod.exists, exists_and_right, exists_eq_right,
          OrdMap.mem_entries]
        exact ⟨fun h => h.2, fun hin => ⟨⟨r, hr⟩, hin⟩⟩
      have hlower : lower ≤ start.unixMillis ↔ asOf.unixMillis - duration ≤ start.unixMillis := by
        have := start.fits.1
        simp only [lower, saturatingSub]
        omega
      simp only [UsageAttempt.instant, hstart, Option.map_some, Option.any_some, hiff, hlower, Bool.decide_and]
  rw [rolling, hvalues, ← UsageRollup.tally_nil, foldl_merge_tally, List.nil_append,
    UsageRollup.tally_perm (flatten_filter_perm UsageAttempt.instant _ keys hnodup), List.filter_congr hmem]
  rfl

/-! ## Rollups are exact -/

/-- The rollup recomputed from the attempts that `covers` picks: none before the first of them. -/
def recomputed (covers : UsageAttempt → Bool) (as : List UsageAttempt) : Option UsageRollup :=
  if (as.filter covers).isEmpty then none else some (.recompute (as.filter covers))

theorem covered_recomputed {as : List UsageAttempt} (hfits : as.length ≤ maxVecLength) (covers : UsageAttempt → Bool) :
    covered covers as = recomputed covers as := by
  have hfilter : (as.filter covers).length ≤ maxU64 :=
    Nat.le_trans (List.length_filter_le covers as) (Nat.le_trans hfits (by decide))
  rw [covered, recomputed, UsageRollup.recompute_tally hfilter]

end UsageProjection

end GreenTyper.Usage
