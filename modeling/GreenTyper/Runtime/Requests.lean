/-
  GreenTyper.Runtime.Requests — what a Provider is asked about a Turn.

  While a Turn waits, its input is the last Item of the conversation, and what is before it
  and the checkpoint do not change. So every request that is made about a Turn shows the same
  history, and that history is the one before its input (`Answers`). `Moves` says what an
  event does to all that; the invariants are proved from it.
-/

import GreenTyper.Context.Checkpoint
import GreenTyper.Runtime.Acceptance

namespace GreenTyper.Runtime

open Lib Config Context Provider Usage
open GreenTyper.Ledger (LedgerHead)
open GreenTyper.Team (AgentId)

namespace RuntimeState

variable {sha256 : Sha256} {state next : RuntimeState} {turn : TurnId}

/-- The Item is the input of the Turn. -/
def InputOf (item : CanonicalItem) (pending : PendingTurn) (record : TurnRecord) : Prop :=
  item.id = record.userItem ∧ item.turn = pending.turn ∧ item.role = .user ∧ item.text = pending.input

/-- The pending Turn is the same one, with the same input. -/
def SameTurn (pending pending' : PendingTurn) : Prop := pending'.turn = pending.turn ∧ pending'.input = pending.input

/-- The record still has what the Turn was admitted with. -/
def KeepsAdmission (record record' : TurnRecord) : Prop :=
  record'.userItem = record.userItem ∧ ∀ index, record'.inUse index = record.inUse index

/-- What an event does to the Turns and the conversation. -/
inductive Moves (state next : RuntimeState) : Prop where
  | idle (hpending : next.pending = state.pending) (hturns : next.turns = state.turns) (hitems : next.items = state.items)
      (hthread : ∀ thread, state.thread = some thread → next.thread = some thread)
      (hcheckpoint : state.pending ≠ none → next.contextCheckpoint = state.contextCheckpoint)
  | admitted (pending : PendingTurn) (record : TurnRecord) (item : CanonicalItem) (hidle : state.pending = none)
      (hnext : next.pending = some pending) (hphase : pending.phase = .admitted) (hnew : state.turns.get pending.turn = none)
      (hturns : next.turns = state.turns.insert pending.turn record) (hinput : InputOf item pending record)
      (hfresh : ∀ other ∈ state.items, other.id ≠ item.id) (hitems : next.items = state.items ++ [item])
      (hthread : next.thread = state.thread)
  | edited (pending pending' : PendingTurn) (hpending : state.pending = some pending) (hnext : next.pending = some pending')
      (hsame : SameTurn pending pending') (hphase : pending.phase = .prepared → pending'.phase = .prepared)
      (hstreaming : pending'.phase = .streaming → ∀ item, pending'.assistantItem = some item →
        (pending.phase = .streaming ∧ pending.assistantItem = some item) ∨ ∀ other ∈ state.items, other.id ≠ item)
      (hturns : next.turns = state.turns) (hitems : next.items = state.items) (hthread : next.thread = state.thread)
      (hcheckpoint : next.contextCheckpoint = state.contextCheckpoint)
  | wrote (pending pending' : PendingTurn) (record record' : TurnRecord) (assistant : CanonicalItem) (item : ItemId)
      (hpending : state.pending = some pending) (hstreaming : pending.phase = .streaming) (hitem : pending.assistantItem = some item)
      (hnext : next.pending = some pending') (hsame : SameTurn pending pending') (hphase : pending'.phase = .prepared)
      (hrecord : state.turns.get pending.turn = some record) (hturns : next.turns = state.turns.insert pending.turn record')
      (hkept : KeepsAdmission record record') (hid : assistant.id = item) (hitems : next.items = state.items ++ [assistant])
      (hthread : next.thread = state.thread) (hcheckpoint : next.contextCheckpoint = state.contextCheckpoint)
  | ended (pending : PendingTurn) (record record' : TurnRecord) (hpending : state.pending = some pending) (hnext : next.pending = none)
      (hrecord : state.turns.get pending.turn = some record) (hturns : next.turns = state.turns.insert pending.turn record')
      (hkept : KeepsAdmission record record') (hitems : next.items = state.items) (hthread : next.thread = state.thread)

theorem fresh_of_new {item : ItemId} (h : state.itemExists item = false) : ∀ other ∈ state.items, other.id ≠ item := by
  intro other hmem hsame
  unfold itemExists at h
  rw [Bool.or_eq_false_iff] at h
  have hnone := List.any_eq_false.mp h.1 other hmem
  exact hnone (by simpa using hsame)

/-- A change of the pending Turn that begins no Item. -/
theorem Moves.edit {pending pending' : PendingTurn} (hpending : state.pending = some pending) (hnext : next.pending = some pending')
    (hsame : SameTurn pending pending') (hphase : pending.phase = .prepared → pending'.phase = .prepared)
    (hstreaming : pending'.phase = .streaming → pending.phase = .streaming ∧ pending'.assistantItem = pending.assistantItem)
    (hturns : next.turns = state.turns) (hitems : next.items = state.items) (hthread : next.thread = state.thread)
    (hcheckpoint : next.contextCheckpoint = state.contextCheckpoint) : Moves state next := by
  refine .edited pending pending' hpending hnext hsame hphase ?_ hturns hitems hthread hcheckpoint
  intro hwriting item hitem
  obtain ⟨hwas, hkept⟩ := hstreaming hwriting
  exact .inl ⟨hwas, hkept ▸ hitem⟩

theorem apply_moves {event : RuntimeEvent} (h : state.apply sha256 event = .ok next) : Moves state next := by
  obtain ⟨_, hperform⟩ := apply_ok.mp h
  cases event with
  | contextCheckpointPublished checkpoint =>
    obtain ⟨hidle, _, rfl⟩ := contextCheckpointPublished_ok.mp hperform
    exact .idle rfl rfl rfl (fun _ hof => hof) fun hbusy => absurd hidle hbusy
  | modelSelectionStaged agent selection =>
    obtain ⟨_, _, rfl⟩ := modelSelectionStaged_ok.mp hperform
    exact .idle rfl rfl rfl (fun _ hof => hof) fun _ => rfl
  | threadCreated thread =>
    obtain ⟨hnone, _, _, rfl⟩ := threadCreated_ok.mp hperform
    refine .idle rfl rfl rfl ?_ fun _ => rfl
    intro of hof
    rw [hnone] at hof
    cases hof
  | configFrozen epoch =>
    obtain ⟨_, _, rfl⟩ := configFrozen_ok.mp hperform
    exact .idle rfl rfl rfl (fun _ hof => hof) fun _ => rfl
  | providerFrozen epoch =>
    obtain ⟨_, _, rfl⟩ := providerFrozen_ok.mp hperform
    exact .idle rfl rfl rfl (fun _ hof => hof) fun _ => rfl
  | turnAdmitted thread turn userItem config provider fallbacks agent input =>
    obtain ⟨hadmissible, item, ⟨hid, hof, hrole, htext⟩, rfl⟩ := turnAdmitted_ok.mp hperform
    refine .admitted _ _ item hadmissible.idle rfl rfl hadmissible.new.1 rfl ⟨hid, hof, hrole, htext⟩ ?_ rfl rfl
    rw [hid]
    exact fresh_of_new hadmissible.new.2
  | assistantItemStarted turn item =>
    obtain ⟨hnew, _, pending, hpending, rfl, hphase, _, rfl⟩ := assistantItemStarted_ok.mp hperform
    refine .edited pending _ hpending rfl ⟨rfl, rfl⟩ ?_ ?_ rfl rfl rfl rfl
    · rw [hphase]
      exact fun hprepared => absurd hprepared (by decide)
    · intro _ of hof
      obtain rfl := Option.some.inj hof
      exact .inr (fresh_of_new hnew)
  | assistantTextDelta turn item delta =>
    obtain ⟨_, pending, hpending, rfl, hphase, _, _, rfl⟩ := assistantTextDelta_ok.mp hperform
    exact .edit hpending rfl ⟨rfl, rfl⟩ id (fun _ => ⟨hphase, rfl⟩) rfl rfl rfl rfl
  | outputPrepared turn item delivery text usageRecords legacyUsage =>
    obtain ⟨pending, record, _, _, hp, rfl, _, assistant, ⟨hid, _, _, _⟩, rfl⟩ := outputPrepared_ok.mp hperform
    exact .wrote pending _ record _ assistant item hp.current hp.written.1 hp.written.2.1 rfl ⟨rfl, rfl⟩ rfl hp.recorded rfl
      ⟨rfl, fun _ => rfl⟩ hid rfl rfl rfl
  | outputAcknowledged turn delivery =>
    obtain ⟨pending, hpending, rfl, hphase, _, _, _, rfl⟩ := outputAcknowledged_ok.mp hperform
    refine .edit hpending rfl ⟨rfl, rfl⟩ id ?_ rfl rfl rfl rfl
    intro hstreaming
    exact ⟨hstreaming, rfl⟩
  | turnCompleted turn =>
    obtain ⟨pending, record, hpending, rfl, _, _, hrecord, rfl⟩ := turnCompleted_ok.mp hperform
    exact .ended pending record _ hpending rfl hrecord rfl ⟨rfl, fun _ => rfl⟩ rfl rfl
  | turnBlocked turn reason origin stage =>
    obtain ⟨_, pending, hpending, rfl, hphase, _, rfl⟩ := turnBlocked_ok.mp hperform
    refine .edit hpending rfl ⟨rfl, rfl⟩ ?_ ?_ rfl rfl rfl rfl
    · rw [hphase]
      exact fun hprepared => absurd hprepared (by decide)
    · exact fun hstreaming => absurd hstreaming blocked_ne_streaming
  | turnCancelled turn =>
    obtain ⟨pending, record, hpending, rfl, _, hrecord, _, _, rfl⟩ := turnCancelled_ok.mp hperform
    exact .ended pending record _ hpending rfl hrecord rfl ⟨rfl, fun _ => rfl⟩ rfl rfl
  | turnRetryRequested turn =>
    obtain ⟨pending, hpending, rfl, hrecoverable, _, rfl⟩ := turnRetryRequested_ok.mp hperform
    refine .edit hpending rfl ⟨rfl, rfl⟩ ?_ ?_ rfl rfl rfl rfl
    · rw [hrecoverable.1]
      exact fun hprepared => absurd hprepared (by decide)
    · exact fun hstreaming => absurd hstreaming admitted_ne_streaming
  | providerFallbackRequested turn index =>
    obtain ⟨_, pending, _, hpending, rfl, hrecoverable, _, _, rfl⟩ := providerFallbackRequested_ok.mp hperform
    refine .edit hpending rfl ⟨rfl, rfl⟩ ?_ ?_ rfl rfl rfl rfl
    · rw [hrecoverable.1]
      exact fun hprepared => absurd hprepared (by decide)
    · exact fun hstreaming => absurd hstreaming admitted_ne_streaming
  | usageAttemptStarted turn attempt startedAt =>
    obtain ⟨pending, hpending, rfl, hphase, _, _, _, rfl⟩ := usageAttemptStarted_ok.mp hperform
    exact .edit hpending rfl ⟨rfl, rfl⟩ id (fun hstreaming => ⟨hstreaming, rfl⟩) rfl rfl rfl rfl
  | usageAttemptFinished turn attempt completedAt outcome usage names charged =>
    obtain ⟨_, pending, _, _, _, _, _, _, hpending, ⟨rfl, hphase⟩, _, _, _, _, _, _, _, rfl⟩ := usageAttemptFinished_ok.mp hperform
    exact .edit hpending rfl ⟨rfl, rfl⟩ id (fun hstreaming => ⟨hstreaming, rfl⟩) rfl rfl rfl rfl
  | usageAttemptCostEvaluated turn attempt evaluation =>
    obtain ⟨_, _, _, _, _, _, _, _, _, _, _, _, _, _, rfl⟩ := usageAttemptCostEvaluated_ok.mp hperform
    exact .idle rfl rfl rfl (fun _ hof => hof) fun _ => rfl

/-! ## The latest Item -/

/-- While a Turn waits, its input is the last Item of the conversation, which has no Item twice. -/
structure InputLast (state : RuntimeState) : Prop where
  distinct : (state.items.map (·.id)).Nodup
  writing : ∀ pending item, state.pending = some pending → pending.phase = .streaming → pending.assistantItem = some item →
    ∀ other ∈ state.items, other.id ≠ item
  latest : ∀ pending record, state.pending = some pending → state.turns.get pending.turn = some record → pending.phase ≠ .prepared →
    ∃ front item, state.items = front ++ [item] ∧ InputOf item pending record

theorem inputLast_default : InputLast default := by
  refine ⟨.nil, ?_, ?_⟩
  · intro _ _ hpending
    cases hpending
  · intro _ _ hpending
    cases hpending

theorem nodup_snoc {items : List CanonicalItem} {item : CanonicalItem} (h : (items.map (·.id)).Nodup)
    (hfresh : ∀ other ∈ items, other.id ≠ item.id) : ((items ++ [item]).map (·.id)).Nodup := by
  rw [List.map_append, List.map_singleton, List.nodup_append]
  refine ⟨h, List.nodup_singleton _, ?_⟩
  intro a hmem b hb
  obtain ⟨other, hother, rfl⟩ := List.mem_map.mp hmem
  rw [List.mem_singleton] at hb
  rw [hb]
  exact hfresh other hother

theorem InputLast.move (h : state.InputLast) (hmoves : Moves state next) : next.InputLast := by
  cases hmoves with
  | idle hpending hturns hitems _ _ =>
    constructor
    · rw [hitems]
      exact h.distinct
    · rw [hpending, hitems]
      exact h.writing
    · rw [hpending, hturns, hitems]
      exact h.latest
  | admitted pending record item hidle hnext hphase hnew hturns hinput hfresh hitems _ =>
    constructor
    · rw [hitems]
      exact nodup_snoc h.distinct hfresh
    · intro of written hof hstreaming
      obtain rfl := Option.some.inj (hnext.symm.trans hof)
      rw [hphase] at hstreaming
      cases hstreaming
    · intro of ofRecord hof hget _
      obtain rfl := Option.some.inj (hnext.symm.trans hof)
      rw [hturns, OrdMap.get_insert_self] at hget
      obtain rfl := Option.some.inj hget
      exact ⟨state.items, item, hitems, hinput⟩
  | edited pending pending' hpending hnext hsame hphase hstreaming hturns hitems _ _ =>
    constructor
    · rw [hitems]
      exact h.distinct
    · intro of item hof hwriting hitem
      obtain rfl := Option.some.inj (hnext.symm.trans hof)
      rw [hitems]
      rcases hstreaming hwriting item hitem with hwas | hfresh
      · exact h.writing pending item hpending hwas.1 hwas.2
      · exact hfresh
    · intro of record hof hget hunprepared
      obtain rfl := Option.some.inj (hnext.symm.trans hof)
      rw [hturns, hsame.1] at hget
      obtain ⟨front, item, hfront, hinput⟩ := h.latest pending record hpending hget fun hprepared => hunprepared (hphase hprepared)
      refine ⟨front, item, by rw [hitems, hfront], hinput.1, ?_, hinput.2.2.1, ?_⟩
      · rw [hsame.1]
        exact hinput.2.1
      · rw [hsame.2]
        exact hinput.2.2.2
  | wrote pending pending' record record' assistant item hpending hstreaming hitem hnext _ hphase _ _ _ hid hitems _ _ =>
    have hfresh := h.writing pending item hpending hstreaming hitem
    constructor
    · rw [hitems]
      refine nodup_snoc h.distinct ?_
      rw [hid]
      exact hfresh
    · intro of written hof hwriting
      obtain rfl := Option.some.inj (hnext.symm.trans hof)
      rw [hphase] at hwriting
      cases hwriting
    · intro of ofRecord hof _ hunprepared
      obtain rfl := Option.some.inj (hnext.symm.trans hof)
      exact absurd hphase hunprepared
  | ended pending record record' _ hnext _ _ _ hitems _ =>
    constructor
    · rw [hitems]
      exact h.distinct
    · intro of item hof
      rw [hnext] at hof
      cases hof
    · intro of record hof
      rw [hnext] at hof
      cases hof

theorem inputLast_of_applyAll {events : List RuntimeEvent} (h : state.InputLast) (hall : state.applyAll sha256 events = .ok next) : next.InputLast :=
  foldlM_inv (fun hlast happly => hlast.move (apply_moves happly)) h hall

theorem inputLast_of_replay {ledger : List (List RuntimeEvent)} (h : replay sha256 ledger = .ok state) : state.InputLast :=
  inputLast_of_applyAll inputLast_default (applyAll_of_replay h)

/-! ## Contexts -/

end RuntimeState

/-- What a context says of the history: how much it leaves out, and the Items that it shows. -/
def content (view : ContextRequestView) : Nat × List ContextViewItem := (view.archivedItems, view.items)

/-- The context that a request has of a history. -/
def Shown (sha256 : Sha256) (checkpoint : Option ContextCheckpoint) (history : List CanonicalItem) (context : Option ContextRequestView) :
    Prop :=
  if history = [] then context = none
  else ∃ view, context = some view ∧ match checkpoint with
    | some checkpoint => checkpoint.view.materializeRequest sha256 history = .ok view
    | none => ∃ head, ContextRequestView.fromItems head history = .ok view

section Shown

variable {sha256 : Sha256} {checkpoint : Option ContextCheckpoint} {history : List CanonicalItem} {context context' : Option ContextRequestView}

theorem fromItems_content {head head' : LedgerHead} {view view' : ContextRequestView} (h : ContextRequestView.fromItems head history = .ok view)
    (h' : ContextRequestView.fromItems head' history = .ok view') : content view = content view' := by
  have hclosed : ∀ {head : LedgerHead} {view : ContextRequestView}, ContextRequestView.fromItems head history = .ok view →
      content view = (leadingAssistantItems (history.map .fromItem), (fromUser history).map .fromItem) := by
    intro head view h
    obtain ⟨made, hmade, h⟩ := bind_ok.mp h
    obtain ⟨_, _, _, _, rfl⟩ := contextView_ok.mp hmade
    obtain ⟨sums, _, h⟩ := bind_ok.mp h
    simp only [drop_leading] at h
    cases h
    rfl
  rw [hclosed h, hclosed h']

/-- Two requests of one history show the same. -/
theorem Shown.same (h : Shown sha256 checkpoint history context) (h' : Shown sha256 checkpoint history context') :
    context.map content = context'.map content := by
  unfold Shown at h h'
  by_cases hempty : history = []
  · rw [if_pos hempty] at h h'
    rw [h, h']
  · rw [if_neg hempty] at h h'
    obtain ⟨view, rfl, hview⟩ := h
    obtain ⟨view', rfl, hview'⟩ := h'
    cases checkpoint with
    | some checkpoint =>
      obtain rfl := Except.ok.inj (hview.symm.trans hview')
      rfl
    | none =>
      obtain ⟨_, hview⟩ := hview
      obtain ⟨_, hview'⟩ := hview'
      rw [Option.map_some, Option.map_some, fromItems_content hview hview']

theorem Shown.ends (h : Shown sha256 checkpoint history context) :
    (context = none ↔ history = []) ∧ ∀ view, context = some view → ShowsEnd history view := by
  unfold Shown at h
  by_cases hempty : history = []
  · rw [if_pos hempty] at h
    refine ⟨by simp [h, hempty], ?_⟩
    intro view hview
    rw [h] at hview
    cases hview
  · rw [if_neg hempty] at h
    obtain ⟨view, rfl, hview⟩ := h
    refine ⟨by simp [hempty], ?_⟩
    intro of hof
    obtain rfl := Option.some.inj hof
    cases checkpoint with
    | some checkpoint => exact materializeRequest_shows hview
    | none =>
      obtain ⟨_, hview⟩ := hview
      exact requestView_shows hview

end Shown

namespace RuntimeState

variable {sha256 : Sha256} {state next : RuntimeState} {turn : TurnId}

/-! ## Answers -/

/-- The request is about a Turn of the state: with its Thread, its input, snapshots that it was admitted with, and a context that
    shows the end of the conversation before it. -/
structure Answers (state : RuntimeState) (request : ProviderRequest) : Prop where
  thread : state.thread = some request.thread
  told : ∃ (record : TurnRecord) (front : List CanonicalItem) (item : CanonicalItem) (rest : List CanonicalItem),
    state.turns.get request.turn = some record ∧ state.items = front ++ item :: rest ∧
    (item.id = record.userItem ∧ item.turn = request.turn ∧ item.role = .user ∧ item.text = request.input) ∧
    ((request.context = none ↔ front = []) ∧ ∀ view, request.context = some view → ShowsEnd front view) ∧
    ∃ index config provider, record.inUse index = some (config, provider) ∧ state.configs.get config = some request.config ∧
      state.providers.get provider = some request.provider

/-- What a transaction keeps of the Turns and the snapshots. -/
structure Keeps (state next : RuntimeState) : Prop where
  thread : ∀ thread, state.thread = some thread → next.thread = some thread
  items : ∃ more, next.items = state.items ++ more
  turns : ∀ turn record, state.turns.get turn = some record → ∃ record', next.turns.get turn = some record' ∧ KeepsAdmission record record'
  configs : ∀ id config, state.configs.get id = some config → next.configs.get id = some config
  providers : ∀ id provider, state.providers.get id = some provider → next.providers.get id = some provider

theorem keeps_insert {record record' : TurnRecord} (hrecord : state.turns.get turn = some record) (hkept : KeepsAdmission record record')
    (hturns : next.turns = state.turns.insert turn record') : ∀ other of, state.turns.get other = some of →
    ∃ of', next.turns.get other = some of' ∧ KeepsAdmission of of' := by
  intro other of hof
  rw [hturns, OrdMap.get_insert]
  by_cases hsame : turn = other
  · subst hsame
    obtain rfl := Option.some.inj (hrecord.symm.trans hof)
    rw [if_pos rfl]
    exact ⟨record', rfl, hkept⟩
  · rw [if_neg hsame]
    exact ⟨of, hof, rfl, fun _ => rfl⟩

theorem KeepsAdmission.refl (record : TurnRecord) : KeepsAdmission record record := ⟨rfl, fun _ => rfl⟩

theorem apply_keeps {event : RuntimeEvent} (h : state.apply sha256 event = .ok next) : Keeps state next := by
  have hmoves := apply_moves h
  have hconfigs : ∀ id config, state.configs.get id = some config → next.configs.get id = some config := by
    obtain ⟨_, hperform⟩ := apply_ok.mp h
    intro id config hget
    rw [(apply_snapshots h).1 id]
    cases hfrozen : RuntimeEvent.frozenConfig? id event with
    | none => exact hget
    | some epoch =>
      cases event <;> simp only [RuntimeEvent.frozenConfig?, reduceCtorEq, Option.ite_none_right_eq_some] at hfrozen
      obtain ⟨hsame, _⟩ := hfrozen
      obtain ⟨hnone, _⟩ := configFrozen_ok.mp hperform
      rw [hsame, hget] at hnone
      cases hnone
  have hproviders : ∀ id provider, state.providers.get id = some provider → next.providers.get id = some provider := by
    obtain ⟨_, hperform⟩ := apply_ok.mp h
    intro id provider hget
    rw [(apply_snapshots h).2 id]
    cases hfrozen : RuntimeEvent.frozenProvider? id event with
    | none => exact hget
    | some epoch =>
      cases event <;> simp only [RuntimeEvent.frozenProvider?, reduceCtorEq, Option.ite_none_right_eq_some] at hfrozen
      obtain ⟨hsame, _⟩ := hfrozen
      obtain ⟨hnone, _⟩ := providerFrozen_ok.mp hperform
      rw [hsame, hget] at hnone
      cases hnone
  have hsame : next.turns = state.turns → ∀ turn record, state.turns.get turn = some record →
      ∃ record', next.turns.get turn = some record' ∧ KeepsAdmission record record' := by
    intro hturns turn record hget
    rw [hturns]
    exact ⟨record, hget, .refl record⟩
  cases hmoves with
  | idle _ hturns hitems hthread _ => exact ⟨hthread, ⟨[], by rw [hitems, List.append_nil]⟩, hsame hturns, hconfigs, hproviders⟩
  | admitted pending record item _ _ _ hnew hturns _ _ hitems hthread =>
    refine ⟨fun thread hof => hthread.trans hof, ⟨[item], hitems⟩, ?_, hconfigs, hproviders⟩
    intro other of hof
    have hne : pending.turn ≠ other := by
      intro hother
      rw [hother, hof] at hnew
      cases hnew
    rw [hturns, OrdMap.get_insert_ne _ _ hne]
    exact ⟨of, hof, .refl of⟩
  | edited _ _ _ _ _ _ _ hturns hitems hthread _ =>
    exact ⟨fun thread hof => hthread.trans hof, ⟨[], by rw [hitems, List.append_nil]⟩, hsame hturns, hconfigs, hproviders⟩
  | wrote _ _ record record' assistant _ _ _ _ _ _ _ hrecord hturns hkept _ hitems hthread _ =>
    exact ⟨fun thread hof => hthread.trans hof, ⟨[assistant], hitems⟩, keeps_insert hrecord hkept hturns, hconfigs, hproviders⟩
  | ended _ record record' _ _ hrecord hturns hkept hitems hthread =>
    exact ⟨fun thread hof => hthread.trans hof, ⟨[], by rw [hitems, List.append_nil]⟩, keeps_insert hrecord hkept hturns, hconfigs, hproviders⟩

theorem Answers.keep {request : ProviderRequest} (h : state.Answers request) (hkeeps : Keeps state next) : next.Answers request := by
  obtain ⟨record, front, item, rest, hrecord, hitems, ⟨hid, hof⟩, hcontext, index, config, provider, huse, hconfig, hprovider⟩ := h.told
  obtain ⟨record', hrecord', huser, hinUse⟩ := hkeeps.turns _ _ hrecord
  obtain ⟨more, hmore⟩ := hkeeps.items
  refine ⟨hkeeps.thread _ h.thread, record', front, item, rest ++ more, hrecord', ?_, ⟨?_, hof⟩, hcontext, index, config, provider, ?_,
    hkeeps.configs _ _ hconfig, hkeeps.providers _ _ hprovider⟩
  · rw [hmore, hitems, List.append_assoc, List.cons_append]
  · rw [huser]
    exact hid
  · rw [hinUse]
    exact huse

/-! ## Requests -/

/-- While the Turn of a request waits, the request shows what is before its input. -/
def Current (sha256 : Sha256) (state : RuntimeState) (request : ProviderRequest) : Prop :=
  ∀ pending, state.pending = some pending → pending.turn = request.turn → pending.phase ≠ .prepared →
    ∃ front item, state.items = front ++ [item] ∧ Shown sha256 state.contextCheckpoint front request.context

/-- A request that may be made now. -/
structure Fits (sha256 : Sha256) (state : RuntimeState) (request : ProviderRequest) : Prop where
  answers : state.Answers request
  waits : ∃ pending, state.pending = some pending ∧ pending.turn = request.turn ∧ pending.phase ≠ .prepared
  current : Current sha256 state request

/-- The requests that were made: each is answered for, and those about one Turn show the same. -/
structure Told (sha256 : Sha256) (state : RuntimeState) (asked : List ProviderRequest) : Prop where
  answers : ∀ request ∈ asked, state.Answers request
  current : ∀ request ∈ asked, Current sha256 state request
  agree : ∀ request ∈ asked, ∀ other ∈ asked, request.turn = other.turn → request.context.map content = other.context.map content

theorem told_nil : Told sha256 state [] := by
  constructor
  · intro request hmem
    cases hmem
  · intro request hmem
    cases hmem
  · intro request hmem
    cases hmem

theorem Current.move {request : ProviderRequest} (h : Current sha256 state request) (hanswers : state.Answers request)
    (hmoves : Moves state next) : Current sha256 next request := by
  intro of hof hturn hunprepared
  cases hmoves with
  | idle hpending _ hitems _ hcheckpoint =>
    rw [hpending] at hof
    rw [hitems, hcheckpoint (by rw [hof]; exact fun hnone => by cases hnone)]
    exact h of hof hturn hunprepared
  | admitted pending record item _ hnext _ hnew _ _ _ _ _ =>
    -- A Turn that was asked about is not new.
    obtain rfl := Option.some.inj (hnext.symm.trans hof)
    obtain ⟨record, _, _, _, hrecord, _⟩ := hanswers.told
    rw [hturn, hrecord] at hnew
    cases hnew
  | edited pending pending' hpending hnext hsame hphase _ _ hitems _ hcheckpoint =>
    obtain rfl := Option.some.inj (hnext.symm.trans hof)
    rw [hitems, hcheckpoint]
    exact h pending hpending (hsame.1.symm.trans hturn) fun hprepared => hunprepared (hphase hprepared)
  | wrote _ pending' _ _ _ _ _ _ _ hnext _ hphase =>
    obtain rfl := Option.some.inj (hnext.symm.trans hof)
    exact absurd hphase hunprepared
  | ended _ _ _ _ hnext =>
    rw [hnext] at hof
    cases hof

theorem Told.apply {asked : List ProviderRequest} {event : RuntimeEvent} (h : Told sha256 state asked)
    (happly : state.apply sha256 event = .ok next) : Told sha256 next asked := by
  constructor
  · intro request hmem
    exact (h.answers request hmem).keep (apply_keeps happly)
  · intro request hmem
    exact (h.current request hmem).move (h.answers request hmem) (apply_moves happly)
  · exact h.agree

theorem Told.applyAll {asked : List ProviderRequest} {events : List RuntimeEvent} (h : Told sha256 state asked)
    (hall : state.applyAll sha256 events = .ok next) : Told sha256 next asked := by
  induction events generalizing state with
  | nil =>
    obtain rfl := Except.ok.inj hall
    exact h
  | cons event events ih =>
    obtain ⟨middle, happly, hrest⟩ := applyAll_cons.mp hall
    exact ih (h.apply happly) hrest

theorem Fits.agrees {request other : ProviderRequest} (h : Fits sha256 state request) (hother : Current sha256 state other)
    (hsame : request.turn = other.turn) : request.context.map content = other.context.map content := by
  obtain ⟨pending, hpending, hturn, hunprepared⟩ := h.waits
  obtain ⟨front, item, hfront, hshown⟩ := h.current pending hpending hturn hunprepared
  obtain ⟨front', item', hfront', hshown'⟩ := hother pending hpending (hturn.trans hsame) hunprepared
  obtain ⟨rfl, _⟩ := List.append_inj' (hfront.symm.trans hfront') rfl
  exact hshown.same hshown'

/-- One request more, which fits. -/
theorem Told.ask {asked : List ProviderRequest} {request : ProviderRequest} (h : Told sha256 state asked) (hfits : Fits sha256 state request) :
    Told sha256 state (asked ++ [request]) := by
  constructor
  · intro other hmem
    rcases List.mem_append.mp hmem with hmem | hmem
    · exact h.answers other hmem
    · obtain rfl := List.mem_singleton.mp hmem
      exact hfits.answers
  · intro other hmem
    rcases List.mem_append.mp hmem with hmem | hmem
    · exact h.current other hmem
    · obtain rfl := List.mem_singleton.mp hmem
      exact hfits.current
  · intro other hmem other' hmem' hsame
    rcases List.mem_append.mp hmem with hold | hnew
    · rcases List.mem_append.mp hmem' with hold' | hnew'
      · exact h.agree other hold other' hold' hsame
      · obtain rfl := List.mem_singleton.mp hnew'
        exact (hfits.agrees (h.current other hold) hsame.symm).symm
    · obtain rfl := List.mem_singleton.mp hnew
      rcases List.mem_append.mp hmem' with hold' | hnew'
      · exact hfits.agrees (h.current other' hold') hsame
      · obtain rfl := List.mem_singleton.mp hnew'
        rfl

/-- The requests about one Turn say the same. -/
theorem Told.same {asked : List ProviderRequest} (h : Told sha256 state asked) (hlast : state.InputLast) {request other : ProviderRequest}
    (hrequest : request ∈ asked) (hother : other ∈ asked) (hsame : request.turn = other.turn) :
    request.thread = other.thread ∧ request.input = other.input ∧ request.context.map content = other.context.map content := by
  have hanswers := h.answers request hrequest
  have hanswers' := h.answers other hother
  refine ⟨Option.some.inj (hanswers.thread.symm.trans hanswers'.thread), ?_, h.agree request hrequest other hother hsame⟩
  obtain ⟨record, front, item, rest, hrecord, hitems, ⟨hid, _, _, htext⟩, _⟩ := hanswers.told
  obtain ⟨record', front', item', rest', hrecord', hitems', ⟨hid', _, _, htext'⟩, _⟩ := hanswers'.told
  rw [hsame, hrecord'] at hrecord
  obtain rfl := Option.some.inj hrecord
  have hmem : item ∈ state.items := by
    rw [hitems]
    exact List.mem_append_right _ List.mem_cons_self
  have hmem' : item' ∈ state.items := by
    rw [hitems']
    exact List.mem_append_right _ List.mem_cons_self
  obtain rfl := List.inj_on_of_nodup_map hlast.distinct hmem hmem' (hid.trans hid'.symm)
  rw [← htext, htext']

end RuntimeState

namespace Kernel

variable {host : Host} {k : Kernel}

theorem shown_of_context {history : List CanonicalItem} {mode : ContextMode} {context : Option ContextRequestView}
    (h : k.providerContextForHistory host history mode = .ok context) : Shown host.sha256 k.state.contextCheckpoint history context := by
  unfold providerContextForHistory at h
  obtain ⟨_, h⟩ := seq_ok.mp h
  unfold Shown
  by_cases hempty : history = []
  · subst hempty
    rw [if_pos rfl]
    exact (Except.ok.inj h).symm
  · rw [if_neg (by simpa using hempty)] at h
    rw [if_neg hempty]
    cases hcheckpoint : k.state.contextCheckpoint with
    | some checkpoint =>
      rw [hcheckpoint] at h
      obtain ⟨view, hview, h⟩ := bind_ok.mp h
      exact ⟨view, (Except.ok.inj h).symm, mapError_ok.mp hview⟩
    | none =>
      rw [hcheckpoint] at h
      obtain ⟨view, hview, h⟩ := bind_ok.mp h
      exact ⟨view, (Except.ok.inj h).symm, _, mapError_ok.mp hview⟩

/-- What is planned for the pending Turn is a request that fits. -/
theorem pendingProviderContext_ends (hrest : k.state.AtRest) (hlast : k.state.InputLast) :
    Ends RuntimeError.Fine (fun planned => k.state.pending = some planned.1 ∧ planned.1.phase = .admitted ∧
        planned.2.2.turn = planned.1.turn ∧ k.state.configs.get planned.1.config = some planned.2.1 ∧
        RuntimeState.Fits host.sha256 k.state planned.2.2)
      (k.pendingProviderContext host) := by
  unfold pendingProviderContext
  refine (Ends.checkOr (e := RuntimeError.busy k.state.status) fun hcorrupt => hcorrupt).bind fun pending _ hfilter => ?_
  obtain ⟨hpending, hphase⟩ := Option.filter_eq_some_iff.mp hfilter
  have hadmitted : pending.phase = .admitted := by simpa using hphase
  have hunprepared : pending.phase ≠ .prepared := by
    rw [hadmitted]
    decide
  obtain ⟨⟨config, hconfig⟩, provider, hprovider⟩ := hrest.snapshots hpending
  obtain ⟨thread, hthread⟩ := hrest.thread hpending
  obtain ⟨record, hrecord⟩ := hrest.record hpending
  obtain ⟨front, item, hitems, hid, hof, hrole, htext⟩ := hlast.latest pending record hpending hrecord.get hunprepared
  have hfresh : ∀ other ∈ front, other.id ≠ (record.userItem : Nat) := by
    intro other hmem
    have hdistinct := hlast.distinct
    rw [hitems, List.map_append, List.nodup_append] at hdistinct
    rw [← hid]
    exact hdistinct.2.2 _ (List.mem_map_of_mem hmem) _ (List.mem_map_of_mem List.mem_cons_self)
  have hindex : k.state.items.findIdx? (·.id = (record.userItem : Nat)) = some front.length := by
    rw [hitems, List.findIdx?_append, List.findIdx?_eq_none_iff.mpr (by simpa using hfresh)]
    simp [hid]
  rw [hconfig, okOr_some, ok_bind, hprovider, okOr_some, ok_bind, hthread, okOr_some, ok_bind, hrecord.get, okOr_some, ok_bind, hindex,
    okOr_some, ok_bind, require_bind (by rw [hitems]; simp), hitems, List.take_left]
  refine (providerContextForHistory_ends front _).bind fun context hcontext _ => ?_
  have hshown := shown_of_context hcontext
  refine ⟨hpending, hadmitted, rfl, hconfig, ⟨hthread, record, front, item, [], hrecord.get, hitems, ⟨hid, hof, hrole, htext⟩, hshown.ends,
    _, _, _, hrecord.inUse, hconfig, hprovider⟩, ⟨pending, hpending, rfl, hunprepared⟩, ?_⟩
  intro _ _ _ _
  exact ⟨front, item, hitems, hshown⟩

end Kernel

end GreenTyper.Runtime
