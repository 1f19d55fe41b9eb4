/-
  GreenTyper.Runtime.Ids — the identities and the conversation of a Ledger that is replayed.

  Every event hands out identities that the state does not know yet, and the state knows
  nothing else (`apply_issues`), so no Thread, Turn, Item, delivery or snapshot ever shares
  one (`ids_unique`). The counters that new identities are taken from stay above all of them.
  The canonical Items are what the admissions and the outputs wrote, in their order.
-/

import GreenTyper.Runtime.LifeCycle

namespace GreenTyper.Runtime

open Lib Config Context Provider Usage
open GreenTyper.Team (AgentId)

inductive Id where
  /-- There is one Thread. -/
  | thread
  | config (id : ConfigEpochId)
  | provider (id : ProviderEpochId)
  | turn (id : TurnId)
  | item (id : ItemId)
  | delivery (id : DeliveryId)
  deriving DecidableEq

def Id.number : Id → Nat
  | .thread => 0
  | .config id | .provider id | .turn id | .item id | .delivery id => id

/-- The identities that an event brings in. -/
def RuntimeEvent.issued : RuntimeEvent → List Id
  | .threadCreated _ => [.thread]
  | .configFrozen epoch => [.config epoch.id]
  | .providerFrozen epoch => [.provider epoch.id]
  | .turnAdmitted _ turn userItem _ _ _ _ _ => [.turn turn, .item userItem]
  | .assistantItemStarted _ item => [.item item]
  | .outputPrepared _ _ delivery _ _ _ => [.delivery delivery]
  | _ => []

/-- What an event writes into the conversation. -/
def RuntimeEvent.items : RuntimeEvent → List (Nat × Nat × ItemRole × String)
  | .turnAdmitted _ turn userItem _ _ _ _ input => [(userItem, turn, .user, input)]
  | .outputPrepared turn item _ text _ _ => [(item, turn, .assistant, text)]
  | _ => []

namespace RuntimeState

variable {sha256 : Sha256} {state next : RuntimeState} {turn : TurnId}

/-- A delivery that was acknowledged or waits for it. -/
def Delivered (state : RuntimeState) (delivery : DeliveryId) : Prop :=
  delivery ∈ state.acknowledged ∨ ∃ pending prepared, state.pending = some pending ∧ pending.prepared = some prepared ∧
    prepared.delivery = delivery

def Known (state : RuntimeState) : Id → Prop
  | .thread => state.thread ≠ none
  | .config id => state.configs.contains id = true
  | .provider id => state.providers.contains id = true
  | .turn id => state.turns.contains id = true
  | .item id => state.itemExists id = true
  | .delivery id => state.Delivered id

/-- Where the next identity of a kind is taken from. -/
def counter (state : RuntimeState) : Id → Nat
  | .thread => 1
  | .config _ => state.nextConfig
  | .provider _ => state.nextProvider
  | .turn _ => state.nextTurn
  | .item _ => state.nextItem
  | .delivery _ => state.nextDelivery

def conversation (state : RuntimeState) : List (Nat × Nat × ItemRole × String) :=
  state.items.map fun item => (item.id, item.turn, item.role, item.text)

/-- What was prepared is an Item, and its delivery is known once it was acknowledged. -/
structure Filed (state : RuntimeState) : Prop where
  coherent : state.Coherent
  filed : ∀ {pending prepared}, state.pending = some pending → pending.prepared = some prepared →
    pending.assistantItem = some prepared.item ∧ state.items.any (fun item => item.id = prepared.item) = true ∧
      (pending.acknowledged = true → prepared.delivery ∈ state.acknowledged)

theorem filed_default : Filed default := ⟨coherent_default, fun h => by cases h⟩

/-- States that know the same. -/
structure SameIds (state next : RuntimeState) : Prop where
  thread : next.thread = state.thread
  configs : next.configs = state.configs
  providers : next.providers = state.providers
  turns : ∀ turn, next.turns.contains turn = state.turns.contains turn
  items : ∀ item, next.itemExists item = state.itemExists item
  deliveries : ∀ delivery, next.Delivered delivery ↔ state.Delivered delivery

theorem SameIds.issues (h : SameIds state next) : Issues Known state next [] := by
  refine ⟨.nil, by simp, fun id => ?_⟩
  rw [List.mem_nil_iff, or_false]
  cases id with
  | thread => rw [Known, Known, h.thread]
  | config id => rw [Known, Known, h.configs]
  | provider id => rw [Known, Known, h.providers]
  | turn id => rw [Known, Known, h.turns]
  | item id => rw [Known, Known, h.items]
  | delivery id => exact h.deliveries id

/-- A change of what is pending that keeps what it was given. -/
theorem Filed.edit {pending pending' : PendingTurn} (h : state.Filed) (hcoherent : next.Coherent) (hpending : state.pending = some pending)
    (hnext : next.pending = some pending') (hsame : pending'.assistantItem = pending.assistantItem ∧ pending'.prepared = pending.prepared ∧
      pending'.acknowledged = pending.acknowledged)
    (hrest : next.thread = state.thread ∧ next.configs = state.configs ∧ next.providers = state.providers ∧ next.turns = state.turns ∧
      next.items = state.items ∧ next.acknowledged = state.acknowledged) : Issues Known state next [] ∧ next.Filed := by
  obtain ⟨hthread, hconfigs, hproviders, hturns, hitems, hacknowledged⟩ := hrest
  obtain ⟨hitem, hprepared, hack⟩ := hsame
  constructor
  · refine SameIds.issues ⟨hthread, hconfigs, hproviders, fun turn => by rw [hturns], fun item => ?_, fun delivery => ?_⟩
    · unfold itemExists
      simp only [hitems, hpending, hnext, Option.bind_some, hitem]
    · unfold Delivered
      simp only [hacknowledged, hpending, hnext, Option.some.injEq, exists_and_left, exists_eq_left', hprepared]
  · refine ⟨hcoherent, fun hof hp => ?_⟩
    obtain rfl := Option.some.inj (hnext.symm.trans hof)
    rw [hitem, hitems, hacknowledged, hack]
    exact h.filed hpending (hprepared ▸ hp)

theorem contains_insert {κ α : Type} [LinearOrder κ] (m : OrdMap κ α) (k k' : κ) (v : α) :
    (m.insert k v).contains k' = true ↔ m.contains k' = true ∨ k' = k := by
  unfold OrdMap.contains
  rw [OrdMap.get_insert]
  by_cases h : k = k'
  · simp [h]
  · simp [h, Ne.symm h]

/-- A record that is written again is no new Turn. -/
theorem contains_rewrite {record record' : TurnRecord} (h : state.turns.get turn = some record) (other : TurnId) :
    (state.turns.insert turn record').contains other = state.turns.contains other := by
  rw [Bool.eq_iff_iff, contains_insert]
  constructor
  · intro hor
    rcases hor with hor | rfl
    · exact hor
    · exact OrdMap.contains_iff.mpr ⟨record, h⟩
  · exact Or.inl

/-! ## Events -/

theorem turnAdmitted_issues {thread : ThreadId} {userItem : ItemId} {config : ConfigEpochId} {provider : ProviderEpochId}
    {fallbacks : List FrozenProviderFallback} {agent : Option AgentId} {input : String} (hcoherent : next.Coherent)
    (h : state.turnAdmitted thread turn userItem config provider fallbacks agent input = .ok next) :
    Issues Known state next [.turn turn, .item userItem] ∧ next.Filed := by
  obtain ⟨hadmissible, item, ⟨hid, _⟩, rfl⟩ := turnAdmitted_ok.mp h
  have hidle := hadmissible.idle
  obtain ⟨hturn, hitem⟩ := hadmissible.new
  constructor
  · refine ⟨by simp, ?_, ?_⟩
    · intro id hmem
      rcases List.mem_pair.mp hmem with rfl | rfl
      · simp [Known, OrdMap.contains, hturn]
      · simp [Known, hitem]
    · intro id
      rw [List.mem_pair]
      cases id with
      | thread | config | provider => simp [Known]
      | turn id => simp [Known, contains_insert]
      | item id =>
        simp only [Known, itemExists, hidle, admittedTurn, Option.bind_some, Option.bind_none, List.any_append, List.any_cons, List.any_nil,
          hid]
        simp only [Bool.or_false, Bool.or_eq_true, decide_eq_true_iff, Id.item.injEq, reduceCtorEq, false_or, or_false]
        rw [eq_comm (a := id), PNat.coe_inj]
      | delivery id => simp [Known, Delivered, hidle, admittedTurn]
  · refine ⟨hcoherent, fun hof hp => ?_⟩
    obtain rfl := Option.some.inj hof
    cases hp

theorem assistantItemStarted_issues {item : ItemId} (hf : state.Filed) (hcoherent : next.Coherent)
    (h : state.assistantItemStarted turn item = .ok next) : Issues Known state next [.item item] ∧ next.Filed := by
  obtain ⟨hnew, _, pending, hpending, _, hphase, hnone, rfl⟩ := assistantItemStarted_ok.mp h
  have hprepared : pending.prepared = none := by
    have hshaped := (hf.coherent.shaped hpending).1
    unfold Shaped at hshaped
    rw [hphase] at hshaped
    exact hshaped.2.2.1
  constructor
  · refine ⟨List.nodup_singleton _, ?_, ?_⟩
    · intro id hmem
      obtain rfl := List.mem_singleton.mp hmem
      simp [Known, hnew]
    · intro id
      rw [List.mem_singleton]
      cases id with
      | thread | config | provider | turn => simp [Known]
      | item id =>
        simp only [Known, itemExists, hpending, hnone, Option.bind_some]
        simp only [Bool.or_eq_true, decide_eq_true_iff, Option.some.injEq, Id.item.injEq, reduceCtorEq, or_false]
        rw [eq_comm (a := id)]
      | delivery id => simp [Known, Delivered, hpending, hprepared]
  · refine ⟨hcoherent, fun hof hp => ?_⟩
    obtain rfl := Option.some.inj hof
    rw [show _ = none from hprepared] at hp
    cases hp

theorem outputPrepared_issues {item : ItemId} {delivery : DeliveryId} {text : String} {usageRecords : List UsageRecord}
    {legacyUsage : Bool} (hf : state.Filed) (hcoherent : next.Coherent)
    (h : state.outputPrepared turn item delivery text usageRecords legacyUsage = .ok next) :
    Issues Known state next [.delivery delivery] ∧ next.Filed := by
  obtain ⟨pending, record, books, number, hp, rfl, _, assistant, ⟨hid, _⟩, rfl⟩ := outputPrepared_ok.mp h
  have hpending := hp.current
  obtain ⟨hphase, hitem, _, hnone⟩ := hp.written
  constructor
  · refine ⟨List.nodup_singleton _, ?_, ?_⟩
    · intro id hmem
      obtain rfl := List.mem_singleton.mp hmem
      simp [Known, Delivered, hp.newDelivery, hpending, hnone]
    · intro id
      rw [List.mem_singleton]
      cases id with
      | thread | config | provider => simp [Known]
      | turn id => simp [Known, contains_rewrite hp.recorded]
      | item id =>
        simp only [Known, itemExists, hpending, hitem, Option.bind_some, List.any_append, List.any_cons, List.any_nil, hid]
        simp
      | delivery id => simp [Known, Delivered, hpending, hnone, eq_comm]
  · refine ⟨hcoherent, fun hof hprepared => ?_⟩
    obtain rfl := Option.some.inj hof
    obtain rfl := Option.some.inj hprepared
    have hack : pending.acknowledged = false := by
      have hshaped := (hf.coherent.shaped hpending).1
      unfold Shaped at hshaped
      rw [hphase] at hshaped
      exact hshaped.2.2
    refine ⟨hitem, by simp [hid], fun hacknowledged => ?_⟩
    rw [show pending.acknowledged = true from hacknowledged] at hack
    cases hack

theorem outputAcknowledged_issues {delivery : DeliveryId} (hf : state.Filed) (hcoherent : next.Coherent)
    (h : state.outputAcknowledged turn delivery = .ok next) : Issues Known state next [] ∧ next.Filed := by
  obtain ⟨pending, hpending, _, _, _, hmap, _, rfl⟩ := outputAcknowledged_ok.mp h
  obtain ⟨prepared, hprepared, rfl⟩ := Option.map_eq_some_iff.mp hmap
  constructor
  · refine SameIds.issues ⟨rfl, rfl, rfl, fun _ => rfl, fun item => ?_, fun delivery => ?_⟩
    · unfold itemExists
      rw [hpending]
      rfl
    · unfold Delivered
      rw [hpending]
      simp [hprepared, eq_comm, or_comm]
  · refine ⟨hcoherent, fun hof hp => ?_⟩
    obtain rfl := Option.some.inj hof
    obtain rfl := Option.some.inj (hprepared.symm.trans hp)
    obtain ⟨hitem, hany, _⟩ := hf.filed hpending hprepared
    exact ⟨hitem, hany, fun _ => Finset.mem_insert_self _ _⟩

/-- A Turn that ends leaves its Item and its delivery behind. -/
theorem Filed.finish {pending : PendingTurn} {record record' : TurnRecord} (hf : state.Filed) (hcoherent : next.Coherent)
    (hpending : state.pending = some pending) (hrecord : state.turns.get pending.turn = some record)
    (hended : ∀ item, pending.assistantItem = some item → pending.prepared ≠ none ∧ pending.acknowledged = true)
    (hnext : next = { state with turns := state.turns.insert pending.turn record', pending := none }) :
    Issues Known state next [] ∧ next.Filed := by
  subst hnext
  constructor
  · refine SameIds.issues ⟨rfl, rfl, rfl, contains_rewrite hrecord, fun item => ?_, fun delivery => ?_⟩
    · unfold itemExists
      rw [hpending, Option.bind_none, Option.bind_some]
      cases hitem : pending.assistantItem with
      | none => rfl
      | some started =>
        obtain ⟨prepared, hprepared⟩ := Option.ne_none_iff_exists'.mp (hended started hitem).1
        obtain ⟨hsame, hany, _⟩ := hf.filed hpending hprepared
        obtain rfl := Option.some.inj (hitem.symm.trans hsame)
        by_cases heq : prepared.item = item
        · subst heq
          rw [hany]
          rfl
        · simp [heq]
    · unfold Delivered
      rw [hpending]
      constructor
      · intro hor
        rcases hor with hmem | ⟨_, _, hof, _⟩
        · exact .inl hmem
        · cases hof
      · intro hor
        rcases hor with hmem | ⟨of, prepared, hof, hprepared, rfl⟩
        · exact .inl hmem
        · obtain rfl := Option.some.inj hof
          obtain ⟨hitem, _, hack⟩ := hf.filed hpending hprepared
          exact .inl (hack (hended _ hitem).2)
  · exact ⟨hcoherent, fun hof => by cases hof⟩

/-- A map that got a snapshot that it did not have. -/
theorem Filed.frozen (hf : state.Filed) (hcoherent : next.Coherent) (hpending : next.pending = state.pending)
    (hitems : next.items = state.items) (hack : next.acknowledged = state.acknowledged) : next.Filed := by
  refine ⟨hcoherent, fun hof hp => ?_⟩
  rw [hitems, hack]
  exact hf.filed (hpending ▸ hof) hp

theorem apply_issues {event : RuntimeEvent} (hf : state.Filed) (h : state.apply sha256 event = .ok next) :
    Issues Known state next event.issued ∧ next.Filed := by
  have hcoherent : next.Coherent := (tracks sha256 1).kept hf.coherent h
  obtain ⟨_, hperform⟩ := apply_ok.mp h
  cases event with
  | contextCheckpointPublished checkpoint =>
    obtain ⟨_, _, rfl⟩ := contextCheckpointPublished_ok.mp hperform
    exact ⟨SameIds.issues ⟨rfl, rfl, rfl, fun _ => rfl, fun _ => rfl, fun _ => Iff.rfl⟩, hf.frozen hcoherent rfl rfl rfl⟩
  | modelSelectionStaged agent selection =>
    obtain ⟨_, _, rfl⟩ := modelSelectionStaged_ok.mp hperform
    exact ⟨SameIds.issues ⟨rfl, rfl, rfl, fun _ => rfl, fun _ => rfl, fun _ => Iff.rfl⟩, hf.frozen hcoherent rfl rfl rfl⟩
  | threadCreated thread =>
    obtain ⟨hnone, _, _, rfl⟩ := threadCreated_ok.mp hperform
    refine ⟨⟨List.nodup_singleton _, ?_, ?_⟩, hf.frozen hcoherent rfl rfl rfl⟩
    · intro id hmem
      obtain rfl := List.mem_singleton.mp hmem
      exact fun hknown => hknown hnone
    · intro id
      cases id <;> simp [Known, RuntimeEvent.issued, itemExists, Delivered]
  | configFrozen epoch =>
    obtain ⟨hnone, _, rfl⟩ := configFrozen_ok.mp hperform
    refine ⟨⟨List.nodup_singleton _, ?_, ?_⟩, hf.frozen hcoherent rfl rfl rfl⟩
    · intro id hmem
      obtain rfl := List.mem_singleton.mp hmem
      simp [Known, OrdMap.contains, hnone]
    · intro id
      cases id <;> simp [Known, RuntimeEvent.issued, contains_insert, itemExists, Delivered]
  | providerFrozen epoch =>
    obtain ⟨hnone, _, rfl⟩ := providerFrozen_ok.mp hperform
    refine ⟨⟨List.nodup_singleton _, ?_, ?_⟩, hf.frozen hcoherent rfl rfl rfl⟩
    · intro id hmem
      obtain rfl := List.mem_singleton.mp hmem
      simp [Known, OrdMap.contains, hnone]
    · intro id
      cases id <;> simp [Known, RuntimeEvent.issued, contains_insert, itemExists, Delivered]
  | turnAdmitted => exact turnAdmitted_issues hcoherent hperform
  | assistantItemStarted => exact assistantItemStarted_issues hf hcoherent hperform
  | assistantTextDelta turn item delta =>
    obtain ⟨_, pending, hpending, _, _, _, _, rfl⟩ := assistantTextDelta_ok.mp hperform
    exact hf.edit hcoherent hpending rfl ⟨rfl, rfl, rfl⟩ ⟨rfl, rfl, rfl, rfl, rfl, rfl⟩
  | outputPrepared => exact outputPrepared_issues hf hcoherent hperform
  | outputAcknowledged => exact outputAcknowledged_issues hf hcoherent hperform
  | turnCompleted turn =>
    obtain ⟨pending, record, hpending, rfl, hphase, hack, hget, hnext⟩ := turnCompleted_ok.mp hperform
    refine hf.finish hcoherent hpending hget (fun item _ => ⟨?_, hack⟩) hnext
    have hshaped := (hf.coherent.shaped hpending).1
    unfold Shaped at hshaped
    rw [hphase] at hshaped
    exact hshaped.2
  | turnBlocked turn reason origin stage =>
    obtain ⟨_, pending, hpending, _, _, _, rfl⟩ := turnBlocked_ok.mp hperform
    exact hf.edit hcoherent hpending rfl ⟨rfl, rfl, rfl⟩ ⟨rfl, rfl, rfl, rfl, rfl, rfl⟩
  | turnCancelled turn =>
    obtain ⟨pending, record, hpending, rfl, hrecoverable, hget, _, _, hnext⟩ := turnCancelled_ok.mp hperform
    refine hf.finish hcoherent hpending hget (fun item hitem => ?_) hnext
    rw [hrecoverable.2.2.2.2.1] at hitem
    cases hitem
  | turnRetryRequested turn =>
    obtain ⟨pending, hpending, _, _, _, rfl⟩ := turnRetryRequested_ok.mp hperform
    exact hf.edit hcoherent hpending rfl ⟨rfl, rfl, rfl⟩ ⟨rfl, rfl, rfl, rfl, rfl, rfl⟩
  | providerFallbackRequested turn index =>
    obtain ⟨_, pending, _, hpending, _, _, _, _, rfl⟩ := providerFallbackRequested_ok.mp hperform
    exact hf.edit hcoherent hpending rfl ⟨rfl, rfl, rfl⟩ ⟨rfl, rfl, rfl, rfl, rfl, rfl⟩
  | usageAttemptStarted turn attempt startedAt =>
    obtain ⟨pending, hpending, _, _, _, _, _, rfl⟩ := usageAttemptStarted_ok.mp hperform
    exact hf.edit hcoherent hpending rfl ⟨rfl, rfl, rfl⟩ ⟨rfl, rfl, rfl, rfl, rfl, rfl⟩
  | usageAttemptFinished =>
    obtain ⟨_, pending, _, _, _, _, _, _, hpending, _, _, _, _, _, _, _, _, rfl⟩ := usageAttemptFinished_ok.mp hperform
    exact hf.edit hcoherent hpending rfl ⟨rfl, rfl, rfl⟩ ⟨rfl, rfl, rfl, rfl, rfl, rfl⟩
  | usageAttemptCostEvaluated =>
    obtain ⟨_, _, _, _, _, _, _, _, _, _, _, _, _, _, rfl⟩ := usageAttemptCostEvaluated_ok.mp hperform
    exact ⟨SameIds.issues ⟨rfl, rfl, rfl, fun _ => rfl, fun _ => rfl, fun _ => Iff.rfl⟩, hf.frozen hcoherent rfl rfl rfl⟩

/-- What the events that hand nothing out leave as it was. -/
structure Settled (state next : RuntimeState) : Prop where
  thread : next.thread = state.thread
  configs : next.configs = state.configs
  providers : next.providers = state.providers
  items : next.items = state.items
  nextConfig : next.nextConfig = state.nextConfig
  nextProvider : next.nextProvider = state.nextProvider
  nextTurn : next.nextTurn = state.nextTurn
  nextItem : next.nextItem = state.nextItem
  nextDelivery : next.nextDelivery = state.nextDelivery

theorem apply_settled {event : RuntimeEvent} (h : state.apply sha256 event = .ok next) (hnone : event.issued = []) : Settled state next := by
  obtain ⟨_, hperform⟩ := apply_ok.mp h
  cases event with
  | threadCreated | configFrozen | providerFrozen | turnAdmitted | assistantItemStarted | outputPrepared => cases hnone
  | contextCheckpointPublished checkpoint =>
    obtain ⟨_, _, rfl⟩ := contextCheckpointPublished_ok.mp hperform
    constructor <;> rfl
  | modelSelectionStaged agent selection =>
    obtain ⟨_, _, rfl⟩ := modelSelectionStaged_ok.mp hperform
    constructor <;> rfl
  | assistantTextDelta =>
    obtain ⟨_, _, _, _, _, _, _, rfl⟩ := assistantTextDelta_ok.mp hperform
    constructor <;> rfl
  | outputAcknowledged =>
    obtain ⟨_, _, _, _, _, _, _, rfl⟩ := outputAcknowledged_ok.mp hperform
    constructor <;> rfl
  | turnCompleted =>
    obtain ⟨_, _, _, _, _, _, _, rfl⟩ := turnCompleted_ok.mp hperform
    constructor <;> rfl
  | turnBlocked =>
    obtain ⟨_, _, _, _, _, _, rfl⟩ := turnBlocked_ok.mp hperform
    constructor <;> rfl
  | turnCancelled =>
    obtain ⟨_, _, _, _, _, _, _, _, rfl⟩ := turnCancelled_ok.mp hperform
    constructor <;> rfl
  | turnRetryRequested =>
    obtain ⟨_, _, _, _, _, rfl⟩ := turnRetryRequested_ok.mp hperform
    constructor <;> rfl
  | providerFallbackRequested =>
    obtain ⟨_, _, _, _, _, _, _, _, rfl⟩ := providerFallbackRequested_ok.mp hperform
    constructor <;> rfl
  | usageAttemptStarted =>
    obtain ⟨_, _, _, _, _, _, _, rfl⟩ := usageAttemptStarted_ok.mp hperform
    constructor <;> rfl
  | usageAttemptFinished =>
    obtain ⟨_, _, _, _, _, _, _, _, _, _, _, _, _, _, _, _, _, rfl⟩ := usageAttemptFinished_ok.mp hperform
    constructor <;> rfl
  | usageAttemptCostEvaluated =>
    obtain ⟨_, _, _, _, _, _, _, _, _, _, _, _, _, _, rfl⟩ := usageAttemptCostEvaluated_ok.mp hperform
    constructor <;> rfl

theorem Settled.counter (h : Settled state next) (id : Id) : next.counter id = state.counter id := by
  cases id with
  | thread => rfl
  | config => exact h.nextConfig
  | provider => exact h.nextProvider
  | turn => exact h.nextTurn
  | item => exact h.nextItem
  | delivery => exact h.nextDelivery

/-- The counters only grow, and over what is handed out. -/
theorem apply_counter {event : RuntimeEvent} (h : state.apply sha256 event = .ok next) (id : Id) :
    state.counter id ≤ next.counter id ∧ (id ∈ event.issued → id.number < next.counter id) := by
  obtain ⟨_, hperform⟩ := apply_ok.mp h
  cases event with
  | threadCreated thread =>
    obtain ⟨_, _, _, rfl⟩ := threadCreated_ok.mp hperform
    refine ⟨by cases id <;> exact Nat.le_refl _, fun hmem => ?_⟩
    obtain rfl := List.mem_singleton.mp hmem
    exact Nat.zero_lt_one
  | configFrozen epoch =>
    obtain ⟨_, _, rfl⟩ := configFrozen_ok.mp hperform
    refine ⟨by cases id <;> simp [RuntimeState.counter], fun hmem => ?_⟩
    obtain rfl := List.mem_singleton.mp hmem
    show (epoch.id : Nat) < max state.nextConfig (epoch.id + 1)
    omega
  | providerFrozen epoch =>
    obtain ⟨_, _, rfl⟩ := providerFrozen_ok.mp hperform
    refine ⟨by cases id <;> simp [RuntimeState.counter], fun hmem => ?_⟩
    obtain rfl := List.mem_singleton.mp hmem
    show (epoch.id : Nat) < max state.nextProvider (epoch.id + 1)
    omega
  | turnAdmitted thread turn userItem =>
    obtain ⟨_, _, _, rfl⟩ := turnAdmitted_ok.mp hperform
    refine ⟨by cases id <;> simp [RuntimeState.counter], fun hmem => ?_⟩
    rcases List.mem_pair.mp hmem with rfl | rfl
    · show (turn : Nat) < max state.nextTurn (turn + 1)
      omega
    · show (userItem : Nat) < max state.nextItem (userItem + 1)
      omega
  | assistantItemStarted turn item =>
    obtain ⟨_, _, _, _, _, _, _, rfl⟩ := assistantItemStarted_ok.mp hperform
    refine ⟨by cases id <;> simp [RuntimeState.counter], fun hmem => ?_⟩
    obtain rfl := List.mem_singleton.mp hmem
    show (item : Nat) < max state.nextItem (item + 1)
    omega
  | outputPrepared turn item delivery =>
    obtain ⟨_, _, _, _, _, _, _, _, _, rfl⟩ := outputPrepared_ok.mp hperform
    refine ⟨by cases id <;> simp [RuntimeState.counter], fun hmem => ?_⟩
    obtain rfl := List.mem_singleton.mp hmem
    show (delivery : Nat) < max state.nextDelivery (delivery + 1)
    omega
  | _ => exact ⟨Nat.le_of_eq ((apply_settled h rfl).counter id).symm, fun hmem => by cases hmem⟩

theorem apply_items {event : RuntimeEvent} (h : state.apply sha256 event = .ok next) :
    next.conversation = state.conversation ++ event.items := by
  obtain ⟨_, hperform⟩ := apply_ok.mp h
  unfold conversation
  have hsame : next.items = state.items → next.items.map (fun item => (item.id, item.turn, item.role, item.text)) =
      state.items.map (fun item => (item.id, item.turn, item.role, item.text)) ++ [] := by
    intro hitems
    rw [hitems, List.append_nil]
  cases event with
  | turnAdmitted =>
    obtain ⟨_, item, ⟨hid, hof, hrole, htext⟩, rfl⟩ := turnAdmitted_ok.mp hperform
    rw [List.map_append, List.map_singleton, hid, hof, hrole, htext]
    rfl
  | outputPrepared =>
    obtain ⟨_, _, _, _, _, _, _, item, ⟨hid, hof, hrole, htext⟩, rfl⟩ := outputPrepared_ok.mp hperform
    rw [List.map_append, List.map_singleton, hid, hof, hrole, htext]
    rfl
  | threadCreated =>
    obtain ⟨_, _, _, rfl⟩ := threadCreated_ok.mp hperform
    exact hsame rfl
  | configFrozen =>
    obtain ⟨_, _, rfl⟩ := configFrozen_ok.mp hperform
    exact hsame rfl
  | providerFrozen =>
    obtain ⟨_, _, rfl⟩ := providerFrozen_ok.mp hperform
    exact hsame rfl
  | assistantItemStarted =>
    obtain ⟨_, _, _, _, _, _, _, rfl⟩ := assistantItemStarted_ok.mp hperform
    exact hsame rfl
  | _ => exact hsame (apply_settled h rfl).items

/-! ## Ledgers -/

/-- A state whose identities are filed below its counters. -/
structure Kept (state : RuntimeState) : Prop where
  filed : state.Filed
  below : ∀ id, state.Known id → id.number < state.counter id

theorem not_known_default (id : Id) : ¬ default.Known id := by
  intro hknown
  cases id with
  | thread => exact hknown rfl
  | config | provider | turn | item => cases hknown
  | delivery id =>
    rcases hknown with hmem | ⟨_, _, hof, _⟩
    · exact absurd hmem (Finset.notMem_empty id)
    · cases hof

theorem kept_default : Kept default := ⟨filed_default, fun id hknown => absurd hknown (not_known_default id)⟩

theorem Kept.apply {event : RuntimeEvent} (hk : state.Kept) (h : state.apply sha256 event = .ok next) : next.Kept := by
  obtain ⟨hissues, hfiled⟩ := apply_issues hk.filed h
  refine ⟨hfiled, fun id hknown => ?_⟩
  obtain ⟨hgrows, hnew⟩ := apply_counter h id
  rcases (hissues.known id).mp hknown with hold | hmem
  · exact Nat.lt_of_lt_of_le (hk.below id hold) hgrows
  · exact hnew hmem

theorem kept_of_replay {ledger : List (List RuntimeEvent)} (h : replay sha256 ledger = .ok state) : state.Kept :=
  foldlM_inv (fun hk => hk.apply) kept_default (applyAll_of_replay h)

end RuntimeState

end GreenTyper.Runtime
