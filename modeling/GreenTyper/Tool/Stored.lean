/-
  GreenTyper.Tool.Stored — what a Ledger of Tool events stores, and what an append does to
  it (see `GreenTyper.Tool.Runtime`).

  A Ledger stores a state when replaying its events gives the state (`Stored`). Replay
  goes transaction by transaction (`replayFrom_append`), so appending the events of a
  transaction that the state takes stores the state after it (`Stored.append`), and an
  append however it ends leaves a file that opens to the state before or after
  (`appendEvents_fate`).
-/

import GreenTyper.Ledger.Recovery
import GreenTyper.Tool.Invariant
import GreenTyper.Tool.Runtime

namespace GreenTyper.Tool

open GreenTyper.Lib ToolState
open GreenTyper.Ledger (EventData StoredEvent FileLedger ReplayReport WriteOutcome DurabilityReceipt LedgerError storedFrom
  maxReplayEvents)
open GreenTyper.Team (ValidId)

variable {json : PayloadReader}

/-! ## Replay -/

theorem storedTransaction_ok {position : Nat} {first : StoredEvent} {rest stored : List StoredEvent} :
    storedTransaction position first rest = .ok stored ↔
      position + first.eventsInTransaction < 2 ^ 64 ∧ first.eventsInTransaction ≠ 0 ∧
        first.eventsInTransaction ≤ rest.length + 1 ∧ stored = (first :: rest).take first.eventsInTransaction ∧
        ∀ event ∈ stored, event.transaction = first.transaction := by
  simp only [storedTransaction, bind_ok, okOr_ok, checkedAdd_some, require_ok, exists_const, pure, Except.pure, Except.ok.injEq]
  constructor
  · rintro ⟨_, ⟨hfit, _⟩, ⟨hne, hle⟩, hsame, rfl⟩
    exact ⟨hfit, hne, hle, rfl, by simpa using hsame⟩
  · rintro ⟨hfit, hne, hle, rfl, hsame⟩
    exact ⟨_, ⟨hfit, rfl⟩, ⟨hne, hle⟩, by simpa using hsame, rfl⟩

/-- A log that replays leaves the events after it to be replayed from its end. -/
theorem replayFrom_append {ys : List StoredEvent} (xs : List StoredEvent) : ∀ {position : Nat} {s s' : ToolState},
    replayFrom json position xs s = .ok s' →
      replayFrom json position (xs ++ ys) s = replayFrom json (position + xs.length) ys s' := by
  induction hn : xs.length using Nat.strong_induction_on generalizing xs with
  | _ n ih =>
  intro position s s' h
  subst hn
  cases xs with
  | nil =>
    rw [replayFrom] at h
    cases h
    rfl
  | cons first rest =>
    rw [replayFrom] at h
    split at h
    · cases h
    rename_i stored hstored
    obtain ⟨hfit, hne, hle, rfl, hsame⟩ := storedTransaction_ok.mp hstored
    simp only [bind_ok] at h
    obtain ⟨decoded, hdecoded, s1, hs1, h⟩ := h
    have htake : (first :: (rest ++ ys)).take first.eventsInTransaction = (first :: rest).take first.eventsInTransaction := by
      rw [← List.cons_append, List.take_append_of_le_length hle]
    have hmore : storedTransaction position first (rest ++ ys) = .ok ((first :: rest).take first.eventsInTransaction) :=
      storedTransaction_ok.mpr ⟨hfit, hne, by rw [List.length_append]; omega, htake.symm, hsame⟩
    have hdrop : (rest ++ ys).drop (first.eventsInTransaction - 1) = rest.drop (first.eventsInTransaction - 1) ++ ys :=
      List.drop_append_of_le_length (by omega)
    have hlen : (rest.drop (first.eventsInTransaction - 1)).length < (first :: rest).length := by
      rw [List.length_drop, List.length_cons]
      omega
    rw [List.cons_append, replayFrom, hmore]
    simp only [hdecoded, hs1, ok_bind, hdrop]
    rw [ih _ hlen _ rfl h, List.length_drop, List.length_cons]
    congr 1
    omega

theorem decode_stored (hjson : json.ReadsBack) {tx first count : Nat} (events : List ToolEvent) : ∀ {i : Nat},
    (∀ event ∈ events, event.Storable) →
      (storedFrom tx first count i (events.map encodeEvent)).mapM (decodeEvent json) = .ok events := by
  induction events with
  | nil => intro i _; rfl
  | cons event events ih =>
    intro i h
    obtain ⟨hevent, hevents⟩ := List.forall_mem_cons.mp h
    show (⟨first + i, tx, i, count, encodeEvent event⟩ ::
      storedFrom tx first count (i + 1) (events.map encodeEvent)).mapM (decodeEvent json) = _
    rw [List.mapM_cons, decodeEvent_encodeEvent hjson hevent rfl, ok_bind, ih hevents]
    rfl

/-- The stored events of one transaction replay to what the state makes of it. -/
theorem replayFrom_transaction (hjson : json.ReadsBack) {tx first position : Nat} {events : List ToolEvent} {s s' : ToolState}
    (hne : events ≠ []) (hfit : position + events.length < 2 ^ 64) (hstorable : ∀ event ∈ events, event.Storable)
    (happ : s.applyTransaction events = .ok s') :
    replayFrom json position (storedFrom tx first events.length 0 (events.map encodeEvent)) s = .ok s' := by
  have hdecoded := @decode_stored json hjson tx first events.length events 0 hstorable
  have htx : ∀ e ∈ storedFrom tx first events.length 0 (events.map encodeEvent), e.transaction = tx := fun e he =>
    Ledger.storedFrom_transaction he
  have hlen : (storedFrom tx first events.length 0 (events.map encodeEvent)).length = events.length := by
    rw [storedFrom, List.length_map, List.length_zipIdx, List.length_map]
  obtain ⟨event, rest, rfl⟩ : ∃ event rest, events = event :: rest := List.exists_cons_of_ne_nil hne
  have hcons : storedFrom tx first (event :: rest).length 0 ((event :: rest).map encodeEvent) =
      ⟨first + 0, tx, 0, (event :: rest).length, encodeEvent event⟩ ::
        storedFrom tx first (event :: rest).length (0 + 1) (rest.map encodeEvent) := rfl
  rw [hcons] at hdecoded htx hlen ⊢
  generalize storedFrom tx first (event :: rest).length (0 + 1) (rest.map encodeEvent) = tail at *
  rw [List.length_cons, List.length_cons] at hlen
  have hstored : storedTransaction position ⟨first + 0, tx, 0, (event :: rest).length, encodeEvent event⟩ tail =
      .ok (⟨first + 0, tx, 0, (event :: rest).length, encodeEvent event⟩ :: tail) := by
    refine storedTransaction_ok.mpr ⟨hfit, Nat.succ_ne_zero _, ?_, ?_, htx⟩
    · show rest.length + 1 ≤ tail.length + 1
      omega
    · exact (List.take_of_length_le (by show tail.length + 1 ≤ rest.length + 1; omega)).symm
  have hdrop : tail.drop ((event :: rest).length - 1) = [] := List.drop_eq_nil_of_le (by rw [List.length_cons]; omega)
  rw [replayFrom, hstored]
  simp only [hdecoded, happ, ok_bind, hdrop]
  rw [replayFrom]

/-! ## What a Ledger stores -/

/-- `L` is a Ledger of appends, and its events are `events`, which build `s`. -/
structure Stored (json : PayloadReader) (L : FileLedger) (s : ToolState) (events : List ToolEvent) : Prop where
  appended : ∃ batches, FileLedger.fresh.appendAll batches = .ok L
  replays : replayState json L.events = .ok s
  decodes : L.events.mapM (decodeEvent json) = .ok events
  builds : ToolState.default.applyAll events = .ok s
  inv : StateInv s

theorem stored_fresh : Stored json .fresh .default [] where
  appended := ⟨[], rfl⟩
  replays := by
    show replayFrom json 0 [] .default = _
    rw [replayFrom]
  decodes := rfl
  builds := rfl
  inv := default_inv

theorem applyTransaction_ok {s s' : ToolState} {events : List ToolEvent} :
    s.applyTransaction events = .ok s' ↔ validateTransaction events = .ok () ∧ s.applyAll events = .ok s' := by
  rw [applyTransaction, bind_ok]
  exact ⟨fun ⟨_, h⟩ => h, fun h => ⟨(), h⟩⟩

theorem validateTransaction_ne_nil {events : List ToolEvent} (h : validateTransaction events = .ok ()) : events ≠ [] := by
  rintro rfl
  cases h

/-- The stored events decode to `log`, which builds `s`. -/
structure Replays (json : PayloadReader) (stored : List StoredEvent) (s : ToolState) (log : List ToolEvent) : Prop where
  replays : replayState json stored = .ok s
  decodes : stored.mapM (decodeEvent json) = .ok log
  builds : ToolState.default.applyAll log = .ok s
  inv : StateInv s

theorem Stored.log {L : FileLedger} {s : ToolState} {log : List ToolEvent} (h : Stored json L s log) :
    Replays json L.events s log := ⟨h.replays, h.decodes, h.builds, h.inv⟩

/-- A transaction that the state takes, at the end of the events. -/
theorem Replays.append (hjson : json.ReadsBack) {stored : List StoredEvent} {s s' : ToolState} {log events : List ToolEvent}
    {tx first : Nat} (h : Replays json stored s log) (hagent : ∀ event ∈ events, event.AgentStored)
    (happ : s.applyTransaction events = .ok s') (hfit : stored.length + events.length < 2 ^ 64) :
    Replays json (stored ++ storedFrom tx first events.length 0 (events.map encodeEvent)) s' (log ++ events) := by
  obtain ⟨hvalid, happ'⟩ := applyTransaction_ok.mp happ
  obtain ⟨hinv, hstorable⟩ := applyAll_inv h.inv hagent happ'
  refine ⟨?_, ?_, ?_, hinv⟩
  · rw [replayState, replayFrom_append _ h.replays]
    exact replayFrom_transaction hjson (validateTransaction_ne_nil hvalid) (by omega) hstorable happ
  · rw [List.mapM_append, h.decodes, ok_bind, decode_stored hjson events hstorable]
    rfl
  · rw [applyAll_append, h.builds, ok_bind, happ']

theorem Stored.append (hjson : json.ReadsBack) {L L' : FileLedger} {s s' : ToolState} {log events : List ToolEvent}
    {receipt : DurabilityReceipt} (hL : Stored json L s log) (hagent : ∀ event ∈ events, event.AgentStored)
    (happ : s.applyTransaction events = .ok s')
    (h : L.append L.head (events.map encodeEvent) .synced = (.ok receipt, L')) : Stored json L' s' (log ++ events) := by
  obtain ⟨_, _, hroom, _, _, _, hevents⟩ := FileLedger.append_stored h
  obtain ⟨batches, hbatches⟩ := hL.appended
  rw [List.length_map] at hevents hroom
  have hfit : L.events.length + events.length < 2 ^ 64 := by
    simp only [maxReplayEvents] at hroom
    omega
  have hlog : Replays json (L.events ++ storedFrom (L.head.transaction + 1) (L.head.sequence + 1) events.length 0
      (events.map encodeEvent)) s' (log ++ events) := hL.log.append hjson hagent happ hfit
  obtain ⟨h1, h2, h3, h4⟩ := hlog
  rw [← hevents] at h1 h2
  exact ⟨⟨_, FileLedger.appendAll_concat hbatches h⟩, h1, h2, h3, h4⟩

/-! ## Appending -/

/-- A runtime whose Ledger stores its state, as long as its writes have succeeded. -/
def Live (json : PayloadReader) (d : DurableToolRuntime) : Prop :=
  d.ledger.poisoned = false → ∃ log, Stored json d.ledger d.state log

/-- The append is done, and the state with it. -/
structure Done (json : PayloadReader) (d : DurableToolRuntime) (events : List ToolEvent) (d' : DurableToolRuntime)
    (log : List ToolEvent) : Prop where
  before : Stored json d.ledger d.state log
  after : Stored json d'.ledger d'.state (log ++ events)
  apply : d.state.applyTransaction events = .ok d'.state
  writes : d'.ledger.poisoned = false

/-- The append failed: the state is as it was, and the file opens to it or to the state
    after. -/
structure Torn (json : PayloadReader) (d : DurableToolRuntime) (events : List ToolEvent) (d' : DurableToolRuntime)
    (log : List ToolEvent) : Prop where
  before : Stored json d.ledger d.state log
  poisoned : d'.ledger.poisoned = true
  disk : ∃ L report s log', FileLedger.openFile d'.ledger.file = .ok (L, report) ∧ Stored json L s log' ∧
    (log' = log ∨ log' = log ++ events)

section AppendEvents

variable {d : DurableToolRuntime} {events : List ToolEvent} {write : WriteOutcome} {s : ToolState} {ledger : FileLedger}

theorem appendEvents_error {e : LedgerError} (happ : (do validateTransaction events; d.state.applyTransaction events) = .ok s)
    (h : d.ledger.append d.ledger.head (events.map encodeEvent) write = (.error e, ledger)) :
    d.appendEvents events write = (.error (.ledger e), { d with ledger := ledger }) := by
  simp only [DurableToolRuntime.appendEvents, happ, h]

theorem appendEvents_ok {receipt : DurabilityReceipt}
    (happ : (do validateTransaction events; d.state.applyTransaction events) = .ok s)
    (h : d.ledger.append d.ledger.head (events.map encodeEvent) write = (.ok receipt, ledger)) :
    d.appendEvents events write = (.ok receipt, { d with ledger := ledger, state := s }) := by
  simp only [DurableToolRuntime.appendEvents, happ, h]

end AppendEvents

theorem appendEvents_fate (hjson : json.ReadsBack) {d : DurableToolRuntime} (hlive : Live json d) {events : List ToolEvent}
    (hagent : ∀ event ∈ events, event.AgentStored) (write : WriteOutcome) :
    (∃ e, d.appendEvents events write = (.error e, d)) ∨
      (∃ receipt d' log, d.appendEvents events write = (.ok receipt, d') ∧ Done json d events d' log) ∨
      ∃ e d' log, d.appendEvents events write = (.error e, d') ∧ Torn json d events d' log := by
  cases happ : (do validateTransaction events; d.state.applyTransaction events) with
  | error e => exact Or.inl ⟨e, by rw [DurableToolRuntime.appendEvents, happ]⟩
  | ok s' =>
    obtain ⟨_, _, happ'⟩ := bind_ok.mp happ
    cases hp : d.ledger.poisoned with
    | true => exact Or.inl ⟨_, appendEvents_error happ (FileLedger.append_poisoned hp _ _)⟩
    | false =>
      obtain ⟨log, hstored⟩ := hlive hp
      obtain ⟨batches, hb⟩ := hstored.appended
      rcases FileLedger.append_fate hb (events.map encodeEvent) write with ⟨e, he⟩ | ⟨receipt, L, hL, hdone | htorn⟩
      · exact Or.inl ⟨_, appendEvents_error happ he⟩
      · have hafter := hstored.append hjson hagent happ' hL
        have hstep := appendEvents_ok happ hdone
        exact Or.inr (Or.inl ⟨receipt, _, log, hstep, hstored, hafter, happ', (FileLedger.append_stored hL).2.2.2.2.1⟩)
      · obtain ⟨torn, report, htorn, hpoison, hopen⟩ := htorn
        refine Or.inr (Or.inr ⟨_, _, log, appendEvents_error happ htorn, hstored, hpoison, ?_⟩)
        rcases hopen with hopen | hopen
        · exact ⟨_, report, _, log, hopen, hstored, Or.inl rfl⟩
        · exact ⟨_, report, _, _, hopen, hstored.append hjson hagent happ' hL, Or.inr rfl⟩

end GreenTyper.Tool
