/-
  GreenTyper.Context.Reduction — the two reducers agree (`context.rs`).

  The walk back from the newest item keeps the longest suffix within both bounds of the
  policy (`takeRecent_longest`), whether it goes over the projected items of a view or over
  the history itself (`takeRecent_map`). What the scans of `from_items` and `from_stored`
  accept is said once as ascending ids and two sums (`projectItems_ok`, `fromStored_ok`).
-/

import GreenTyper.Context.Model
import GreenTyper.Lib.Suffix
import Mathlib.Algebra.BigOperators.Group.List.Basic

namespace GreenTyper.Context

open Lib
open GreenTyper.Ledger (LedgerHead)

/-! ## What the scans accept -/

def textBytes (items : List ContextViewItem) : Nat := (items.map fun item => byteLen item.text).sum

def tokensOf (items : List ContextViewItem) : Nat := (items.map (·.estimatedTokens)).sum

/-- The ids go up from `last`. -/
def Ascending (last : Nat) (items : List ContextViewItem) : Prop := (last :: items.map (·.item)).IsChain (· < ·)

@[simp] theorem textBytes_nil : textBytes [] = 0 := rfl

@[simp] theorem textBytes_cons (item : ContextViewItem) (items : List ContextViewItem) :
    textBytes (item :: items) = byteLen item.text + textBytes items := List.sum_cons

@[simp] theorem textBytes_append (items more : List ContextViewItem) : textBytes (items ++ more) = textBytes items + textBytes more := by
  simp [textBytes]

@[simp] theorem tokensOf_nil : tokensOf [] = 0 := rfl

@[simp] theorem tokensOf_cons (item : ContextViewItem) (items : List ContextViewItem) :
    tokensOf (item :: items) = item.estimatedTokens + tokensOf items := List.sum_cons

@[simp] theorem tokensOf_append (items more : List ContextViewItem) : tokensOf (items ++ more) = tokensOf items + tokensOf more := by
  simp [tokensOf]

@[simp] theorem ascending_nil (last : Nat) : Ascending last [] := .singleton last

@[simp] theorem ascending_cons {last : Nat} {item : ContextViewItem} {items : List ContextViewItem} :
    Ascending last (item :: items) ↔ last < item.item ∧ Ascending item.item items := List.isChain_cons_cons

/-- The id a scan that began at `last` ends at. -/
def lastId (last : Nat) (items : List ContextViewItem) : Nat := (items.getLast?.map (·.item)).getD last

@[simp] theorem lastId_nil (last : Nat) : lastId last [] = last := rfl

@[simp] theorem lastId_cons (last : Nat) (item : ContextViewItem) (items : List ContextViewItem) :
    lastId last (item :: items) = lastId item.item items := by
  cases items with
  | nil => rfl
  | cons next rest =>
    unfold lastId
    rw [List.getLast?_cons_cons, List.getLast?_eq_some_getLast (by simp)]
    rfl

instance (last : Nat) (items : List ContextViewItem) : Decidable (Ascending last items) :=
  inferInstanceAs (Decidable (List.IsChain (· < ·) _))

theorem ascending_append {items more : List ContextViewItem} : ∀ {last : Nat},
    Ascending last (items ++ more) ↔ Ascending last items ∧ Ascending (lastId last items) more := by
  induction items with
  | nil => simp
  | cons item items ih =>
    intro last
    rw [List.cons_append, ascending_cons, ascending_cons, ih, lastId_cons, and_assoc]

theorem projectItems_ok (items : List CanonicalItem) : ∀ {last raw tokens : Nat} {out : List ContextViewItem × Nat × Nat},
    raw ≤ maxContextViewBytes → tokens < 2 ^ 64 → (projectItems items last raw tokens = .ok out ↔
      Ascending last (items.map .fromItem) ∧ raw + textBytes (items.map .fromItem) ≤ maxContextViewBytes ∧
      tokens + tokensOf (items.map .fromItem) < 2 ^ 64 ∧
      out = (items.map .fromItem, raw + textBytes (items.map .fromItem), tokens + tokensOf (items.map .fromItem))) := by
  induction items with
  | nil =>
    intro last raw tokens out hraw htokens
    simp only [projectItems, Except.ok.injEq, List.map_nil, ascending_nil, textBytes_nil, tokensOf_nil, Nat.add_zero, true_and]
    exact ⟨fun h => ⟨hraw, htokens, h.symm⟩, fun h => h.2.2.symm⟩
  | cons item rest ih =>
    intro last raw tokens out hraw htokens
    unfold projectItems
    simp only [bind_ok, exists_unit, require_ok, okOr_ok, checkedAdd_some, List.map_cons, ascending_cons, textBytes_cons, tokensOf_cons]
    show _ ↔ (last < item.id ∧ Ascending item.id _) ∧ raw + (byteLen item.text + _) ≤ _ ∧ _
    constructor
    · intro hall
      obtain ⟨hlast, raw', ⟨_, hraw'⟩, hfits, tokens', ⟨htokens', htokensEq⟩, ⟨items, raws, toks⟩, hrest, hout⟩ := hall
      subst hraw' htokensEq
      obtain ⟨hasc, hbytes, htoks, heq⟩ := (ih hfits htokens').mp hrest
      cases heq
      cases hout
      refine ⟨⟨hlast, hasc⟩, by omega, by omega, ?_⟩
      rw [Nat.add_assoc, Nat.add_assoc]
      rfl
    · intro hall
      obtain ⟨⟨hlast, hasc⟩, hbytes, htoks, hout⟩ := hall
      have hmax : maxContextViewBytes < 2 ^ 64 := by decide
      refine ⟨hlast, _, ⟨by omega, rfl⟩, by omega, _, ⟨by omega, rfl⟩, _, (ih (by omega) (by omega)).mpr ⟨hasc, by omega, by omega, rfl⟩, ?_⟩
      rw [hout, Nat.add_assoc, Nat.add_assoc]
      rfl

theorem contextView_ok {head : LedgerHead} {items : List CanonicalItem} {view : ContextView} :
    ContextView.fromItems head items = .ok view ↔ items.length ≤ maxContextViewItems ∧ Ascending 0 (items.map .fromItem) ∧
      textBytes (items.map .fromItem) ≤ maxContextViewBytes ∧ tokensOf (items.map .fromItem) < 2 ^ 64 ∧
      view = ⟨.fromHead head, items.map .fromItem, textBytes (items.map .fromItem), tokensOf (items.map .fromItem)⟩ := by
  unfold ContextView.fromItems
  rw [seq_ok, require_ok, bind_ok]
  constructor
  · intro ⟨hcount, out, hproject, hview⟩
    obtain ⟨hasc, hbytes, htokens, hout⟩ := (projectItems_ok items (by decide) (by decide)).mp hproject
    rw [Nat.zero_add] at hbytes htokens hout
    rw [Nat.zero_add] at hout
    subst hout
    cases hview
    exact ⟨hcount, hasc, hbytes, htokens, rfl⟩
  · intro ⟨hcount, hasc, hbytes, htokens, hview⟩
    refine ⟨hcount, _, (projectItems_ok items (by decide) (by decide)).mpr ⟨hasc, ?_, ?_, rfl⟩, ?_⟩
    · omega
    · omega
    · rw [hview, Nat.zero_add, Nat.zero_add]

theorem scanArtifacts_ok (sha256 : Sha256) (older : List ContextViewItem) : ∀ {last tokens : Nat} {out : Nat × Nat},
    tokens < 2 ^ 64 → (scanArtifacts (older.map (.fromItem sha256)) last tokens = .ok out ↔
      Ascending last older ∧ tokens + tokensOf older < 2 ^ 64 ∧ out = (lastId last older, tokens + tokensOf older)) := by
  induction older with
  | nil =>
    intro last tokens out htokens
    simp only [List.map_nil, scanArtifacts, Except.ok.injEq, ascending_nil, tokensOf_nil, Nat.add_zero, lastId_nil, true_and]
    exact ⟨fun h => ⟨htokens, h.symm⟩, fun h => h.2.symm⟩
  | cons item older ih =>
    intro last tokens out htokens
    rw [List.map_cons]
    unfold scanArtifacts
    simp only [bind_ok, exists_unit, require_ok, okOr_ok, checkedAdd_some, ascending_cons, tokensOf_cons, lastId_cons]
    show (last < item.item ∧ ∃ a, (tokens + item.estimatedTokens < 2 ^ 64 ∧ a = tokens + item.estimatedTokens) ∧
      scanArtifacts (older.map (.fromItem sha256)) item.item a = .ok out) ↔ _
    constructor
    · intro hall
      obtain ⟨hlast, a, ⟨ha, haEq⟩, hrest⟩ := hall
      subst haEq
      obtain ⟨hasc, htoks, hout⟩ := (ih ha).mp hrest
      exact ⟨⟨hlast, hasc⟩, by omega, by rw [hout, Nat.add_assoc]⟩
    · intro hall
      obtain ⟨⟨hlast, hasc⟩, htoks, hout⟩ := hall
      exact ⟨hlast, _, ⟨by omega, rfl⟩, (ih (by omega)).mpr ⟨hasc, by omega, by rw [hout, Nat.add_assoc]⟩⟩

theorem scanRecent_ok (recent : List ContextViewItem) : ∀ {last raw tokens : Nat} {out : Nat × Nat},
    raw < 2 ^ 64 → tokens < 2 ^ 64 → (scanRecent recent last raw tokens = .ok out ↔
      Ascending last recent ∧ raw + textBytes recent < 2 ^ 64 ∧ tokens + tokensOf recent < 2 ^ 64 ∧
      out = (raw + textBytes recent, tokens + tokensOf recent)) := by
  induction recent with
  | nil =>
    intro last raw tokens out hraw htokens
    simp only [scanRecent, Except.ok.injEq, ascending_nil, textBytes_nil, tokensOf_nil, Nat.add_zero, true_and]
    exact ⟨fun h => ⟨hraw, htokens, h.symm⟩, fun h => h.2.2.symm⟩
  | cons item recent ih =>
    intro last raw tokens out hraw htokens
    unfold scanRecent
    simp only [bind_ok, exists_unit, require_ok, okOr_ok, checkedAdd_some, ascending_cons, textBytes_cons, tokensOf_cons]
    constructor
    · intro hall
      obtain ⟨hlast, raw', ⟨hraw', hrawEq⟩, tokens', ⟨htokens', htokensEq⟩, hrest⟩ := hall
      subst hrawEq htokensEq
      obtain ⟨hasc, hbytes, htoks, hout⟩ := (ih hraw' htokens').mp hrest
      exact ⟨⟨hlast, hasc⟩, by omega, by omega, by rw [hout, Nat.add_assoc, Nat.add_assoc]⟩
    · intro hall
      obtain ⟨⟨hlast, hasc⟩, hbytes, htoks, hout⟩ := hall
      refine ⟨hlast, _, ⟨by omega, rfl⟩, _, ⟨by omega, rfl⟩, (ih (by omega) (by omega)).mpr ⟨hasc, by omega, by omega, ?_⟩⟩
      rw [hout, Nat.add_assoc, Nat.add_assoc]

theorem fromStored_ok {sha256 : Sha256} {source : ContextEventRange} {older recent : List ContextViewItem} {view : ReducedContextView} :
    ReducedContextView.fromStored source (older.map (.fromItem sha256)) recent = .ok view ↔
      older.length + recent.length ≤ maxContextViewItems ∧ Ascending 0 (older ++ recent) ∧ tokensOf (older ++ recent) < 2 ^ 64 ∧
      textBytes recent ≤ maxContextViewBytes ∧
      view = ⟨source, older.map (.fromItem sha256), recent, textBytes recent, tokensOf (older ++ recent)⟩ := by
  have hitems : maxContextViewItems < 2 ^ 64 := by decide
  have hbytes : maxContextViewBytes < 2 ^ 64 := by decide
  unfold ReducedContextView.fromStored
  simp only [bind_ok, exists_unit, require_ok, okOr_ok, checkedAdd_some, List.length_map, ascending_append, tokensOf_append]
  constructor
  · intro hall
    obtain ⟨count, ⟨_, hcount⟩, hfits, ⟨last, tokens⟩, hartifacts, ⟨raw, all⟩, hrecent, hraw, hview⟩ := hall
    obtain ⟨hasc, htokens, hout⟩ := (scanArtifacts_ok sha256 older (by decide)).mp hartifacts
    cases hout
    obtain ⟨hasc', _, hall, hout⟩ := (scanRecent_ok recent (by decide) htokens).mp hrecent
    cases hout
    cases hview
    simp only [Nat.zero_add] at hall hraw ⊢
    exact ⟨by omega, ⟨hasc, hasc'⟩, hall, hraw, trivial⟩
  · intro hall
    obtain ⟨hcount, ⟨hasc, hasc'⟩, htokens, hraw, hview⟩ := hall
    refine ⟨_, ⟨by omega, rfl⟩, hcount, _, (scanArtifacts_ok sha256 older (by decide)).mpr ⟨hasc, by omega, rfl⟩, _,
      (scanRecent_ok recent (by decide) (by omega)).mpr ⟨hasc', by omega, by omega, rfl⟩, ?_⟩
    simp only [Nat.zero_add]
    exact ⟨hraw, by rw [hview]⟩

/-! ## The backward walk -/

variable {α β : Type} {policy : ContextReductionPolicy}

/-- Within both bounds of the policy. -/
def Fits (policy : ContextReductionPolicy) (textLen : α → Nat) (items : List α) : Prop :=
  items.length ≤ policy.maxRawItems ∧ (items.map textLen).sum ≤ policy.maxRawBytes

instance (textLen : α → Nat) (items : List α) : Decidable (Fits policy textLen items) := inferInstanceAs (Decidable (_ ∧ _))

theorem fits_suffixClosed (textLen : α → Nat) : SuffixClosed (Fits policy textLen) := by
  intro a l ⟨hcount, hbytes⟩
  rw [List.length_cons] at hcount
  rw [List.map_cons, List.sum_cons] at hbytes
  exact ⟨by omega, by omega⟩

theorem takeRecent_map (textLen : β → Nat) (f : α → β) (older : List α) : ∀ {kept raw : Nat},
    takeRecent policy textLen (older.map f) kept raw = takeRecent policy (fun a => textLen (f a)) older kept raw := by
  induction older with
  | nil => intros; rfl
  | cons item older ih => intros; simp only [List.map_cons, takeRecent, ih]

/-- The walk goes on from a suffix that fits to the longest that does. -/
theorem takeRecent_from {textLen : α → Nat} (older : List α) : ∀ {recent : List α},
    (∀ item ∈ older, textLen item ≤ maxItemTextBytes) → Fits policy textLen recent →
    ∃ s, LongestSuffix (Fits policy textLen) (older.reverse ++ recent) s ∧
      takeRecent policy textLen older recent.length (recent.map textLen).sum = .ok (s.length, (s.map textLen).sum) := by
  induction older with
  | nil => exact fun {recent} _ hfits => ⟨recent, LongestSuffix.all hfits, rfl⟩
  | cons item older ih =>
    intro recent hlen hfits
    have hitem := hlen item List.mem_cons_self
    have hbytes := policy.bytes_le
    have hroom : maxContextViewBytes + maxItemTextBytes < 2 ^ 64 := by decide
    rw [List.reverse_cons, List.append_assoc, List.singleton_append]
    unfold takeRecent
    by_cases hcount : policy.maxRawItems < recent.length + 1
    · rw [if_pos hcount]
      refine ⟨recent, LongestSuffix.of_stop (fits_suffixClosed textLen) hfits fun h => ?_, rfl⟩
      have := h.1
      rw [List.length_cons] at this
      omega
    · rw [if_neg hcount]
      have hadd : checkedAdd 64 (recent.map textLen).sum (textLen item) = some (((item :: recent).map textLen).sum) := by
        rw [checkedAdd_some, List.map_cons, List.sum_cons]
        have := hfits.2
        omega
      rw [hadd, okOr_some, ok_bind]
      by_cases hraw : policy.maxRawBytes < ((item :: recent).map textLen).sum
      · rw [if_pos hraw]
        refine ⟨recent, LongestSuffix.of_stop (fits_suffixClosed textLen) hfits fun h => ?_, rfl⟩
        have := h.2
        omega
      · rw [if_neg hraw]
        refine ih (fun a ha => hlen a (List.mem_cons_of_mem item ha)) ⟨?_, ?_⟩
        · rw [List.length_cons]; omega
        · omega

theorem takeRecent_longest {textLen : α → Nat} {items : List α} (hlen : ∀ item ∈ items, textLen item ≤ maxItemTextBytes) :
    ∃ recent, LongestSuffix (Fits policy textLen) items recent ∧
      takeRecent policy textLen items.reverse 0 0 = .ok (recent.length, (recent.map textLen).sum) := by
  have h := @takeRecent_from α policy textLen items.reverse [] (fun a ha => hlen a (List.mem_reverse.mp ha))
    ⟨Nat.zero_le _, Nat.zero_le _⟩
  rw [List.reverse_reverse, List.append_nil] at h
  exact h

/-! ## The reducers -/

def itemLen (item : CanonicalItem) : Nat := byteLen item.text

theorem itemLen_sum (items : List CanonicalItem) : (items.map itemLen).sum = textBytes (items.map .fromItem) := by
  unfold textBytes
  rw [List.map_map]
  rfl

/-- What both reducers keep of a history. -/
theorem keptItems (policy : ContextReductionPolicy) (items : List CanonicalItem) : ∃ recent,
    LongestSuffix (Fits policy itemLen) items recent ∧
      takeRecent policy itemLen items.reverse 0 0 = .ok (recent.length, (recent.map itemLen).sum) :=
  takeRecent_longest fun item _ => item.text_fits

/-- What a kept suffix leaves before it. -/
theorem suffix_cut {items recent : List α} (h : recent <:+ items) :
    items.take (items.length - recent.length) ++ recent = items ∧ items.drop (items.length - recent.length) = recent := by
  have hdrop := List.suffix_iff_eq_drop.mp h
  refine ⟨?_, hdrop.symm⟩
  nth_rewrite 2 [hdrop]
  exact List.take_append_drop _ _

/-- A view that is accepted is that of the longest suffix within the policy. -/
theorem reducedView_ok {sha256 : Sha256} {head : LedgerHead} {items : List CanonicalItem} {reduced : ReducedContextView} :
    ReducedContextView.fromItems sha256 head items policy = .ok reduced ↔ ∃ older recent, older ++ recent = items ∧
      LongestSuffix (Fits policy itemLen) items recent ∧ items.length ≤ maxContextViewItems ∧ Ascending 0 (items.map .fromItem) ∧
      tokensOf (items.map .fromItem) < 2 ^ 64 ∧
      reduced = ⟨.fromHead head, (older.map .fromItem).map (.fromItem sha256), recent.map .fromItem,
        textBytes (recent.map .fromItem), tokensOf (items.map .fromItem)⟩ := by
  obtain ⟨recent, hlongest, hwalk⟩ := keptItems policy items
  obtain ⟨hcut, hdrop⟩ := suffix_cut hlongest.suffix
  unfold ReducedContextView.fromItems
  show (require (items.length ≤ maxContextViewItems) ContextViewError.tooManyItems >>= fun _ =>
    takeRecent policy itemLen items.reverse 0 0 >>= _) = _ ↔ _
  rw [seq_ok, require_ok, hwalk, ok_bind]
  show (_ ∧ ReducedContextView.fromStored _ ((items.take (items.length - recent.length)).map _) ((items.drop _).map _) = _) ↔ _
  rw [hdrop]
  generalize hold : items.take (items.length - recent.length) = older at hcut ⊢
  have hmap : older.map (fun item => ContextArtifactRef.fromItem sha256 (.fromItem item)) = (older.map .fromItem).map (.fromItem sha256) := by
    rw [List.map_map]
    rfl
  have hlen : older.length + recent.length = items.length := by rw [← hcut, List.length_append]
  rw [hmap, fromStored_ok, List.length_map, List.length_map, hlen, ← List.map_append, hcut]
  constructor
  · intro ⟨hcount, _, hasc, htokens, _, hview⟩
    exact ⟨older, recent, hcut, hlongest, hcount, hasc, htokens, hview⟩
  · intro ⟨older', recent', hcut', hlongest', hcount, hasc, htokens, hview⟩
    obtain rfl := hlongest'.unique hlongest
    obtain rfl := List.append_cancel_right (hcut'.trans hcut.symm)
    have hbytes := hlongest'.holds.2
    rw [itemLen_sum] at hbytes
    exact ⟨hcount, hcount, hasc, htokens, hbytes.trans policy.bytes_le, hview⟩

/-- Reducing the full view of a history, where it has one, is reducing the history: both keep
    the longest suffix within the policy and refer to what is before it. -/
theorem reduce_agrees (sha256 : Sha256) (policy : ContextReductionPolicy) {head : LedgerHead} {items : List CanonicalItem}
    {view : ContextView} (hview : ContextView.fromItems head items = .ok view) :
    ∃ older recent reduced, older ++ recent = items ∧ LongestSuffix (Fits policy itemLen) items recent ∧
      view.reduce sha256 policy = .ok reduced ∧ ReducedContextView.fromItems sha256 head items policy = .ok reduced ∧
      reduced.recentItems = recent.map .fromItem ∧ reduced.artifacts = (older.map .fromItem).map (.fromItem sha256) := by
  obtain ⟨hcount, hasc, _, htokens, rfl⟩ := contextView_ok.mp hview
  obtain ⟨recent, hlongest, hwalk⟩ := keptItems policy items
  obtain ⟨hcut, hdrop⟩ := suffix_cut hlongest.suffix
  refine ⟨_, recent, _, hcut, hlongest, ?_, reducedView_ok.mpr ⟨_, recent, hcut, hlongest, hcount, hasc, htokens, rfl⟩, rfl, rfl⟩
  unfold ContextView.reduce
  show (takeRecent policy (fun item => byteLen item.text) (items.map ContextViewItem.fromItem).reverse 0 0 >>= _) = _
  rw [← List.map_reverse, takeRecent_map]
  show (takeRecent policy itemLen items.reverse 0 0 >>= _) = _
  rw [hwalk, ok_bind]
  simp only [List.length_map, ← List.map_take, ← List.map_drop, hdrop, itemLen_sum]

/-! A user's item, the assistant's reply to it and the user's next item. -/

def greeting : CanonicalItem := ⟨1, 1, .user, "Hello", by decide, by decide, by decide, by decide⟩

def reply : CanonicalItem := ⟨2, 1, .assistant, "Hi", by decide, by decide, by decide, by decide⟩

def farewell : CanonicalItem := ⟨3, 2, .user, "Bye", by decide, by decide, by decide, by decide⟩

/-- Keeps one item. -/
def newestOnly : ContextReductionPolicy := ⟨64 * 1024, 1, by decide, by decide, by decide, by decide⟩

def exchange : ContextView := ⟨⟨some 1, some 3, 2⟩, [⟨1, 1, .user, "Hello", 2⟩, ⟨2, 1, .assistant, "Hi", 1⟩], 7, 3⟩

/-- The digests of the texts here. -/
def digests : Sha256 := fun text =>
  if text = utf8 "Hello" then
    #v[0x18, 0x5f, 0x8d, 0xb3, 0x22, 0x71, 0xfe, 0x25, 0xf5, 0x61, 0xa6, 0xfc, 0x93, 0x8b, 0x2e, 0x26,
      0x43, 0x06, 0xec, 0x30, 0x4e, 0xda, 0x51, 0x80, 0x07, 0xd1, 0x76, 0x48, 0x26, 0x38, 0x19, 0x69]
  else if text = utf8 "Hi" then
    #v[0x36, 0x39, 0xef, 0xcd, 0x08, 0xab, 0xb2, 0x73, 0xb1, 0x61, 0x9e, 0x82, 0xe7, 0x8c, 0x29, 0xa7,
      0xdf, 0x02, 0xc1, 0x05, 0x1b, 0x18, 0x20, 0xe9, 0x9f, 0xc3, 0x95, 0xdc, 0xaa, 0x33, 0x26, 0xb8]
  else if text = utf8 "Bye" then
    #v[0x12, 0x89, 0x01, 0x22, 0x3a, 0xac, 0x8d, 0xf3, 0xb8, 0x9c, 0xd7, 0x5d, 0x7e, 0xc6, 0x44, 0xf9,
      0x92, 0x4e, 0xd9, 0xdc, 0xd0, 0x1e, 0x0c, 0x65, 0xae, 0x99, 0x33, 0x4a, 0x3c, 0xf9, 0x27, 0x3a]
  else .replicate 32 0

theorem reduce_agrees_exchange : ∃ older recent reduced, older ++ recent = [greeting, reply] ∧
    LongestSuffix (Fits newestOnly itemLen) [greeting, reply] recent ∧ exchange.reduce digests newestOnly = .ok reduced ∧
    ReducedContextView.fromItems digests ⟨2, 3⟩ [greeting, reply] newestOnly = .ok reduced ∧
    reduced.recentItems = recent.map .fromItem ∧ reduced.artifacts = (older.map .fromItem).map (.fromItem digests) :=
  reduce_agrees digests newestOnly (contextView_ok.mpr ⟨by decide, by decide, by decide, by decide, by decide⟩)

end GreenTyper.Context
