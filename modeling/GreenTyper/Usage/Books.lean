/-
  GreenTyper.Usage.Books — which schedule prices an attempt (see `GreenTyper.Usage.Pricing`).

  The overlap test of a book compares schedules pairwise; an estimate matches schedules
  against one attempt. They agree: two schedules overlap when and only when some attempt
  matches both (`overlaps_iff`). A book is then a list of which no attempt matches two
  schedules, sorted by id, so the order it was given in is lost (`new_perm`).
-/

import GreenTyper.Usage.Pricing

namespace GreenTyper.Usage

open Lib Provider

/-! ## Ranges -/

/-- In a half-open range, open-ended where it has no end. -/
def InRange {α : Type} [LE α] [LT α] (lower : α) (upper : Option α) (x : α) : Prop := lower ≤ x ∧ ∀ b ∈ upper, x < b

section Ranges

variable {α : Type} [LinearOrder α] {leftStart rightStart : α} {leftEnd rightEnd : Option α}

theorem rangesOverlap_eq : rangesOverlap leftStart leftEnd rightStart rightEnd = true ↔
    (∀ b ∈ leftEnd, rightStart < b) ∧ ∀ b ∈ rightEnd, leftStart < b := by
  rw [rangesOverlap, Bool.and_eq_true]
  cases leftEnd <;> cases rightEnd <;> simp

theorem rangesOverlap_of_common {x : α} (hleft : InRange leftStart leftEnd x) (hright : InRange rightStart rightEnd x) :
    rangesOverlap leftStart leftEnd rightStart rightEnd = true :=
  rangesOverlap_eq.mpr ⟨fun b hb => lt_of_le_of_lt hright.1 (hleft.2 b hb), fun b hb => lt_of_le_of_lt hleft.1 (hright.2 b hb)⟩

/-- Ranges that overlap share the later of their starts, where neither is empty. -/
theorem common_of_rangesOverlap (hleft : ∀ b ∈ leftEnd, leftStart < b) (hright : ∀ b ∈ rightEnd, rightStart < b)
    (h : rangesOverlap leftStart leftEnd rightStart rightEnd = true) :
    ∃ x, (x = leftStart ∨ x = rightStart) ∧ InRange leftStart leftEnd x ∧ InRange rightStart rightEnd x := by
  obtain ⟨h1, h2⟩ := rangesOverlap_eq.mp h
  rcases le_total leftStart rightStart with hle | hle
  · exact ⟨rightStart, Or.inr rfl, ⟨hle, h1⟩, le_refl _, hright⟩
  · exact ⟨leftStart, Or.inl rfl, ⟨le_refl _, hleft⟩, hle, h2⟩

end Ranges

theorem selectorsOverlap_iff {α : Type} [DecidableEq α] {left right : Option α} : selectorsOverlap left right = true ↔
    ∃ x : Option α, left.all (some · == x) = true ∧ right.all (some · == x) = true := by
  cases left with
  | none =>
    cases right with
    | none => simp [selectorsOverlap]
    | some r =>
      simp only [selectorsOverlap, Option.isNone_none, Bool.true_or, true_iff]
      exact ⟨some r, by simp⟩
  | some l =>
    cases right with
    | none =>
      simp only [selectorsOverlap, Option.isNone_none, Bool.or_true, Bool.true_or, true_iff]
      exact ⟨some l, by simp⟩
    | some r =>
      simp only [selectorsOverlap, Option.isNone_some, Bool.false_or, beq_iff_eq, Option.all_some, Option.some.injEq]
      exact ⟨fun h => ⟨some l, rfl, congrArg some h.symm⟩, fun ⟨_, hl, hr⟩ => Option.some.inj (hl.trans hr.symm)⟩

/-! ## Schedules that apply -/

/-- What decides which schedule prices an attempt. -/
structure PricedAttempt where
  providerProfile : String
  model : String
  dialect : Option ProviderDialect
  serviceTier : Option String
  startedAt : UsageTimestamp
  inputTokens : UInt64

namespace PriceSchedule

def appliesTo (schedule : PriceSchedule) (attempt : PricedAttempt) : Bool :=
  schedule.matchesBase attempt.providerProfile attempt.model attempt.dialect attempt.startedAt &&
    schedule.matchesServiceTier attempt.serviceTier && schedule.matchesContext attempt.inputTokens

theorem validated (schedule : PriceSchedule) :
    (∀ b ∈ schedule.maximumContextTokens, schedule.minimumContextTokens < b) ∧
      ∀ b ∈ schedule.effectiveUntil, schedule.effectiveFrom.unixMillis < b.unixMillis := by
  have h := schedule.valid
  simp only [PriceScheduleDefinition.validate, bind_ok, require_ok] at h
  obtain ⟨_, _, _, _, _, _, _, _, _, _, _, _, _, hcontext, _, hinterval, _⟩ := h
  refine ⟨fun b hb => ?_, fun b hb => ?_⟩
  · rw [hb] at hcontext
    simpa using hcontext
  · rw [hb] at hinterval
    simpa using hinterval

/-- The token range, in natural numbers. -/
def InContext (schedule : PriceSchedule) (inputTokens : UInt64) : Prop :=
  InRange schedule.minimumContextTokens.toNat (schedule.maximumContextTokens.map (·.toNat)) inputTokens.toNat

def InEffect (schedule : PriceSchedule) (startedAt : UsageTimestamp) : Prop :=
  InRange schedule.effectiveFrom.unixMillis (schedule.effectiveUntil.map (·.unixMillis)) startedAt.unixMillis

theorem appliesTo_iff {schedule : PriceSchedule} {attempt : PricedAttempt} : schedule.appliesTo attempt = true ↔
    schedule.providerProfile = attempt.providerProfile ∧ schedule.model = attempt.model ∧
      schedule.dialect.all (some · == attempt.dialect) = true ∧ schedule.serviceTier.all (some · == attempt.serviceTier) = true ∧
      schedule.InContext attempt.inputTokens ∧ schedule.InEffect attempt.startedAt := by
  simp only [appliesTo, matchesBase, matchesServiceTier, matchesContext, Bool.and_eq_true, beq_iff_eq, decide_eq_true_eq, InContext,
    InEffect, InRange, UInt64.le_iff_toNat_le]
  cases schedule.maximumContextTokens <;> cases schedule.effectiveUntil <;>
    simp [UInt64.lt_iff_toNat_lt] <;> tauto

theorem rangesOverlap_tokens (leftStart rightStart : UInt64) (leftEnd rightEnd : Option UInt64) :
    rangesOverlap leftStart leftEnd rightStart rightEnd =
      rangesOverlap leftStart.toNat (leftEnd.map (·.toNat)) rightStart.toNat (rightEnd.map (·.toNat)) := by
  cases leftEnd <;> cases rightEnd <;> simp [rangesOverlap, UInt64.lt_iff_toNat_lt]

/-- The overlap test finds exactly the schedules that some attempt matches both of. -/
theorem overlaps_iff {schedule other : PriceSchedule} :
    schedule.overlaps other = true ↔ ∃ attempt, schedule.appliesTo attempt = true ∧ other.appliesTo attempt = true := by
  simp only [overlaps, Bool.and_eq_true, beq_iff_eq, rangesOverlap_tokens, appliesTo_iff]
  constructor
  · rintro ⟨⟨⟨⟨⟨hprofile, hmodel⟩, hdialect⟩, htier⟩, hcontext⟩, heffect⟩
    obtain ⟨dialect, hd, hd'⟩ := selectorsOverlap_iff.mp hdialect
    obtain ⟨tier, ht, ht'⟩ := selectorsOverlap_iff.mp htier
    have hinput : ∃ n : UInt64, schedule.InContext n ∧ other.InContext n := by
      have hfull : ∀ s : PriceSchedule, ∀ b ∈ s.maximumContextTokens.map (·.toNat), s.minimumContextTokens.toNat < b := by
        intro s b hb
        obtain ⟨u, hu, rfl⟩ := Option.map_eq_some_iff.mp hb
        exact UInt64.lt_iff_toNat_lt.mp (s.validated.1 u hu)
      obtain ⟨x, rfl | rfl, hx, hx'⟩ := common_of_rangesOverlap (hfull schedule) (hfull other) hcontext
      · exact ⟨_, hx, hx'⟩
      · exact ⟨_, hx, hx'⟩
    have hstart : ∃ t : UsageTimestamp, schedule.InEffect t ∧ other.InEffect t := by
      have hfull : ∀ s : PriceSchedule, ∀ b ∈ s.effectiveUntil.map (·.unixMillis), s.effectiveFrom.unixMillis < b := by
        intro s b hb
        obtain ⟨u, hu, rfl⟩ := Option.map_eq_some_iff.mp hb
        exact s.validated.2 u hu
      obtain ⟨x, rfl | rfl, hx, hx'⟩ := common_of_rangesOverlap (hfull schedule) (hfull other) heffect
      · exact ⟨_, hx, hx'⟩
      · exact ⟨_, hx, hx'⟩
    obtain ⟨n, hn, hn'⟩ := hinput
    obtain ⟨t, ht1, ht2⟩ := hstart
    exact ⟨⟨schedule.providerProfile, schedule.model, dialect, tier, t, n⟩, ⟨rfl, rfl, hd, ht, hn, ht1⟩,
      hprofile.symm, hmodel.symm, hd', ht', hn', ht2⟩
  · rintro ⟨attempt, ⟨hp, hm, hd, ht, hn, he⟩, hp', hm', hd', ht', hn', he'⟩
    exact ⟨⟨⟨⟨⟨hp.trans hp'.symm, hm.trans hm'.symm⟩, selectorsOverlap_iff.mpr ⟨_, hd, hd'⟩⟩, selectorsOverlap_iff.mpr ⟨_, ht, ht'⟩⟩,
      rangesOverlap_of_common hn hn'⟩, rangesOverlap_of_common he he'⟩

/-- No attempt matches both schedules. -/
def Apart (schedule other : PriceSchedule) : Prop :=
  ¬ ∃ attempt, schedule.appliesTo attempt = true ∧ other.appliesTo attempt = true

theorem Apart.symm {schedule other : PriceSchedule} (h : Apart schedule other) : Apart other schedule :=
  fun ⟨attempt, h1, h2⟩ => h ⟨attempt, h2, h1⟩

theorem apart_iff {schedule other : PriceSchedule} : Apart schedule other ↔ schedule.overlaps other = false := by
  rw [Apart, ← overlaps_iff, Bool.not_eq_true]

end PriceSchedule

/-! ## Books -/

namespace PriceScheduleBook

def sortById (schedules : List PriceSchedule) : List PriceSchedule := schedules.insertionSort (fun left right => left.id ≤ right.id)

theorem sortById_perm (schedules : List PriceSchedule) : (sortById schedules).Perm schedules := List.perm_insertionSort _ schedules

theorem sortById_sorted (schedules : List PriceSchedule) :
    (sortById schedules).Pairwise (fun left right => left.id ≤ right.id) := by
  have : Std.Total (fun left right : PriceSchedule => left.id ≤ right.id) := ⟨fun _ _ => le_total _ _⟩
  have : IsTrans PriceSchedule (fun left right => left.id ≤ right.id) := ⟨fun _ _ _ => le_trans⟩
  exact List.pairwise_insertionSort _ schedules

theorem distinct_iff (schedules : List PriceSchedule) :
    (sortById schedules).Pairwise (fun left right => left.id < right.id) ↔ (schedules.map (·.id)).Nodup := by
  have hnodup : (schedules.map (·.id)).Nodup ↔ (sortById schedules).Pairwise (fun left right => left.id ≠ right.id) := by
    rw [← ((sortById_perm schedules).map _).nodup_iff, List.Nodup, List.pairwise_map]
  rw [hnodup]
  constructor
  · exact fun h => h.imp fun hlt => ne_of_lt hlt
  · intro h
    exact List.Pairwise.imp₂ (fun _ _ hle hne => lt_of_le_of_ne hle hne) (sortById_sorted schedules) h

theorem disjoint_iff (schedules : List PriceSchedule) :
    (sortById schedules).Pairwise (fun left right => left.overlaps right = false) ↔ schedules.Pairwise PriceSchedule.Apart := by
  rw [← (sortById_perm schedules).pairwise_iff PriceSchedule.Apart.symm]
  exact ⟨fun h => h.imp PriceSchedule.apart_iff.mpr, fun h => h.imp PriceSchedule.apart_iff.mp⟩

/-- A book is accepted as the list sorted by id. -/
theorem new_ok {schedules : List PriceSchedule} {book : PriceScheduleBook} (h : new schedules = .ok book) :
    book.schedules = sortById schedules := by
  simp only [new] at h
  split at h
  · split at h
    · split at h
      · cases h
        rfl
      · cases h
    · cases h
  · cases h

theorem new_accepts_iff (schedules : List PriceSchedule) : (∃ book, new schedules = .ok book) ↔
    schedules.length ≤ maxPriceSchedules ∧ (schedules.map (·.id)).Nodup ∧ schedules.Pairwise PriceSchedule.Apart := by
  rw [← (sortById_perm schedules).length_eq, ← distinct_iff, ← disjoint_iff]
  constructor
  · rintro ⟨book, h⟩
    rw [← new_ok h]
    exact ⟨book.few, book.distinct, book.disjoint⟩
  · rintro ⟨hfew, hdistinct, hdisjoint⟩
    exact ⟨⟨_, hfew, hdistinct, hdisjoint⟩, by
      rw [sortById] at hfew hdistinct hdisjoint
      simp only [new, dif_pos hfew, dif_pos hdistinct, dif_pos hdisjoint, sortById]⟩

/-- The order a book is given in is lost. -/
theorem new_perm {schedules permuted : List PriceSchedule} (h : schedules.Perm permuted) : new permuted = new schedules := by
  have hperm : (sortById permuted).Perm (sortById schedules) :=
    ((sortById_perm permuted).trans h.symm).trans (sortById_perm schedules).symm
  by_cases hdistinct : (sortById permuted).Pairwise (fun left right => left.id < right.id)
  · have hdistinct' : (sortById schedules).Pairwise (fun left right => left.id < right.id) := by
      rw [distinct_iff] at hdistinct ⊢
      exact (h.map _).nodup_iff.mpr hdistinct
    have hsame : sortById permuted = sortById schedules :=
      hperm.eq_of_pairwise (fun _ _ _ _ hlt hgt => absurd hgt (lt_asymm hlt)) hdistinct hdistinct'
    simp only [sortById] at hsame
    simp only [new, hsame]
  · have hdistinct' : ¬ (sortById schedules).Pairwise (fun left right => left.id < right.id) := by
      rw [distinct_iff] at hdistinct ⊢
      exact fun hnodup => hdistinct ((h.map _).nodup_iff.mp hnodup)
    simp only [sortById] at hperm hdistinct hdistinct'
    simp only [new, hperm.length_eq, dif_neg hdistinct, dif_neg hdistinct']

/-- An estimate is that of a schedule that applies, or none does. -/
theorem estimateAttempt_cases (book : PriceScheduleBook) (profile model : String) (dialect : Option ProviderDialect)
    (startedAt : UsageTimestamp) (usage : UsageRecord) :
    (∃ reason, book.estimateAttempt profile model dialect startedAt usage = .unknown reason ∧
      ∀ schedule ∈ book.schedules, ∀ n ∈ usage.inputTokens,
        schedule.appliesTo ⟨profile, model, dialect, usage.serviceTier, startedAt, n⟩ = false) ∨
    ∃ schedule ∈ book.schedules, ∃ n ∈ usage.inputTokens,
      schedule.appliesTo ⟨profile, model, dialect, usage.serviceTier, startedAt, n⟩ = true ∧
        book.estimateAttempt profile model dialect startedAt usage = schedule.estimate usage := by
  unfold estimateAttempt
  by_cases hbase : (book.schedules.filter (·.matchesBase profile model dialect startedAt)).isEmpty = true
  · refine Or.inl ⟨_, if_pos hbase, fun schedule hmem n _ => ?_⟩
    have hno := List.filter_eq_nil_iff.mp (List.isEmpty_iff.mp hbase) schedule hmem
    simp only [PriceSchedule.appliesTo, Bool.not_eq_true] at hno ⊢
    rw [hno, Bool.false_and, Bool.false_and]
  simp only [if_neg hbase]
  by_cases htiers : ((book.schedules.filter (·.matchesBase profile model dialect startedAt)).filter
      (·.matchesServiceTier usage.serviceTier)).isEmpty = true
  · refine Or.inl ⟨_, if_pos htiers, fun schedule hmem n _ => ?_⟩
    have hno := List.isEmpty_iff.mp htiers
    rw [List.filter_filter] at hno
    have hno := List.filter_eq_nil_iff.mp hno schedule hmem
    simp only [PriceSchedule.appliesTo, Bool.not_eq_true, Bool.and_comm] at hno ⊢
    rw [hno, Bool.and_false]
  simp only [if_neg htiers]
  cases hinput : usage.inputTokens with
  | none => exact Or.inl ⟨_, rfl, fun _ _ _ hn => by cases hn⟩
  | some n =>
    simp only
    cases hfind : ((book.schedules.filter (·.matchesBase profile model dialect startedAt)).filter
        (·.matchesServiceTier usage.serviceTier)).find? (·.matchesContext n) with
    | none =>
      refine Or.inl ⟨_, rfl, ?_⟩
      rintro schedule hmem _ ⟨⟩
      rw [List.filter_filter] at hfind
      have hno := List.find?_eq_none.mp hfind schedule
      simp only [List.mem_filter, hmem, true_and, Bool.not_eq_true, PriceSchedule.appliesTo] at hno ⊢
      cases hb : schedule.matchesBase profile model dialect startedAt with
      | false => rfl
      | true =>
        cases ht : schedule.matchesServiceTier usage.serviceTier with
        | false => rfl
        | true => exact hno (by rw [hb, ht]; rfl)
    | some schedule =>
      have hmem := List.mem_of_find?_eq_some hfind
      have hcontext := List.find?_some hfind
      simp only [List.mem_filter] at hmem
      obtain ⟨⟨hmem, hbase⟩, htier⟩ := hmem
      refine Or.inr ⟨schedule, hmem, n, rfl, ?_, rfl⟩
      simp only [PriceSchedule.appliesTo]
      rw [hbase, htier, hcontext]
      rfl

end PriceScheduleBook

/-- For every list of schedules: a book accepts it exactly when it is short enough, the ids
    are unique and no attempt matches two of the schedules; an estimate of an accepted book
    is that of the one schedule that matches the attempt, and unknown where none does; and
    a book is the same for every order of the list. -/
theorem price_schedules_disjoint (schedules : List PriceSchedule) :
    ((∃ book, PriceScheduleBook.new schedules = .ok book) ↔
      schedules.length ≤ maxPriceSchedules ∧ (schedules.map (·.id)).Nodup ∧
        schedules.Pairwise (fun left right => ¬ ∃ attempt, left.appliesTo attempt = true ∧ right.appliesTo attempt = true)) ∧
    (∀ book, PriceScheduleBook.new schedules = .ok book → ∀ profile model dialect startedAt usage,
      (∃ reason, book.estimateAttempt profile model dialect startedAt usage = .unknown reason ∧
        ∀ schedule ∈ schedules, ∀ n ∈ usage.inputTokens,
          schedule.appliesTo ⟨profile, model, dialect, usage.serviceTier, startedAt, n⟩ = false) ∨
      ∃ schedule ∈ schedules, ∃ n ∈ usage.inputTokens,
        schedule.appliesTo ⟨profile, model, dialect, usage.serviceTier, startedAt, n⟩ = true ∧
          (∀ other ∈ schedules, other.appliesTo ⟨profile, model, dialect, usage.serviceTier, startedAt, n⟩ = true → other = schedule) ∧
          book.estimateAttempt profile model dialect startedAt usage = schedule.estimate usage) ∧
    ∀ permuted, schedules.Perm permuted → PriceScheduleBook.new permuted = PriceScheduleBook.new schedules := by
  refine ⟨PriceScheduleBook.new_accepts_iff schedules, ?_, fun permuted h => PriceScheduleBook.new_perm h⟩
  intro book hnew profile model dialect startedAt usage
  have hmem : ∀ schedule, schedule ∈ book.schedules ↔ schedule ∈ schedules := by
    intro schedule
    rw [PriceScheduleBook.new_ok hnew]
    exact (PriceScheduleBook.sortById_perm schedules).mem_iff
  have hcases := book.estimateAttempt_cases profile model dialect startedAt usage
  simp only [hmem] at hcases
  refine hcases.imp_right ?_
  rintro ⟨schedule, hschedule, n, hn, happlies, hestimate⟩
  refine ⟨schedule, hschedule, n, hn, happlies, fun other hother hboth => ?_, hestimate⟩
  by_contra hne
  have hapart : schedules.Pairwise PriceSchedule.Apart := ((PriceScheduleBook.new_accepts_iff schedules).mp ⟨book, hnew⟩).2.2
  have hsymm : Std.Symm PriceSchedule.Apart := ⟨fun _ _ => PriceSchedule.Apart.symm⟩
  exact hapart.forall hother hschedule hne ⟨_, hboth, happlies⟩

end GreenTyper.Usage
