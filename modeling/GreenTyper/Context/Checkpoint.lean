/-
  GreenTyper.Context.Checkpoint — a request materialized from a checkpoint shows the end of
  the history (`context.rs`).

  (1) Materialization stitches the checkpoint's raw tail to the items after it; what is
      shown is what the history itself shows from that place on (`materializeRequest_shows`),
      whatever the digests say.
  (2) With digests that tell the texts apart, the checkpoint is accepted against the history
      it was made from and no other (`validateAgainstItems_made`); an extension is refused
      there (`validation_refuses_an_extension`) and accepted by the materialization, which
      validates the part of the checkpoint's length.
-/

import GreenTyper.Context.Reduction
import Mathlib.Algebra.Group.Action.Defs
import Mathlib.Algebra.Order.BigOperators.Group.List

namespace GreenTyper.Context

open Lib
open GreenTyper.Ledger (LedgerHead)

/-! ## The parts of a materialization -/

theorem appendLater_ok (later : List CanonicalItem) : ∀ {last : Nat} {out : List ContextViewItem},
    appendLater later last = .ok out ↔ Ascending last (later.map .fromItem) ∧ out = later.map .fromItem := by
  induction later with
  | nil =>
    intro last out
    simp only [appendLater, Except.ok.injEq, List.map_nil, ascending_nil, true_and]
    exact eq_comm
  | cons item later ih =>
    intro last out
    unfold appendLater
    simp only [bind_ok, exists_unit, require_ok, ih, List.map_cons, ascending_cons, Except.ok.injEq]
    show (last < item.id ∧ _) ↔ (last < item.id ∧ _) ∧ _
    constructor
    · intro hall
      obtain ⟨hlast, items, ⟨hasc, hitems⟩, hout⟩ := hall
      subst hitems
      exact ⟨⟨hlast, hasc⟩, hout.symm⟩
    · intro hall
      obtain ⟨⟨hlast, hasc⟩, hout⟩ := hall
      exact ⟨hlast, _, ⟨hasc, rfl⟩, hout.symm⟩

theorem sumItems_ok (items : List ContextViewItem) : ∀ {raw tokens : Nat} {out : Nat × Nat}, raw < 2 ^ 64 → tokens < 2 ^ 64 →
    (sumItems items raw tokens = .ok out ↔ raw + textBytes items < 2 ^ 64 ∧ tokens + tokensOf items < 2 ^ 64 ∧
      out = (raw + textBytes items, tokens + tokensOf items)) := by
  induction items with
  | nil =>
    intro raw tokens out hraw htokens
    simp only [sumItems, Except.ok.injEq, textBytes_nil, tokensOf_nil, Nat.add_zero]
    exact ⟨fun h => ⟨hraw, htokens, h.symm⟩, fun h => h.2.2.symm⟩
  | cons item items ih =>
    intro raw tokens out hraw htokens
    unfold sumItems
    simp only [bind_ok, okOr_ok, checkedAdd_some, textBytes_cons, tokensOf_cons]
    constructor
    · intro hall
      obtain ⟨raw', ⟨hraw', hrawEq⟩, tokens', ⟨htokens', htokensEq⟩, hrest⟩ := hall
      subst hrawEq htokensEq
      obtain ⟨hbytes, htoks, hout⟩ := (ih hraw' htokens').mp hrest
      exact ⟨by omega, by omega, by rw [hout, Nat.add_assoc, Nat.add_assoc]⟩
    · intro hall
      obtain ⟨hbytes, htoks, hout⟩ := hall
      refine ⟨_, ⟨by omega, rfl⟩, _, ⟨by omega, rfl⟩, (ih (by omega) (by omega)).mpr ⟨by omega, by omega, ?_⟩⟩
      rw [hout, Nat.add_assoc, Nat.add_assoc]

/-- A loop over pairs compares a list with the values of as many items. -/
theorem zip_matches {α β ε : Type} [DecidableEq α] (f : β → α) (e : ε) (xs : List α) : ∀ ys : List β, xs.length ≤ ys.length →
    ((xs.zip ys).forM (fun p => require (p.1 = f p.2) e) = .ok () ↔ xs = (ys.take xs.length).map f) := by
  induction xs with
  | nil => simp [pure, Except.pure]
  | cons x xs ih =>
    intro ys hlen
    cases ys with
    | nil => exact absurd hlen (by simp)
    | cons y ys =>
      rw [List.zip_cons_cons, List.length_cons, List.take_succ_cons, List.map_cons, List.cons.injEq, ← ih ys (by simpa using hlen)]
      show (require (x = f y) e >>= fun _ => (xs.zip ys).forM _) = .ok () ↔ _
      rw [seq_ok, require_ok]

/-- Validation passes against the items that the artifacts and the raw tail are of. -/
theorem validateAgainstItems_ok {sha256 : Sha256} {view : ReducedContextView} {authoritative : List CanonicalItem} :
    view.validateAgainstItems sha256 authoritative = .ok () ↔ ∃ older recent, older ++ recent = authoritative ∧
      view.artifacts = (older.map .fromItem).map (.fromItem sha256) ∧ view.recentItems = recent.map .fromItem := by
  unfold ReducedContextView.validateAgainstItems
  rw [seq_ok, require_ok, seq_ok]
  constructor
  · intro ⟨hlen, hartifacts, hrecent⟩
    have hold := (zip_matches (fun item => ContextArtifactRef.fromItem sha256 (.fromItem item)) ContextViewError.artifactMismatch
      view.artifacts _ (by omega)).mp hartifacts
    have htail := (zip_matches ContextViewItem.fromItem ContextViewError.artifactMismatch view.recentItems
      (authoritative.drop view.artifacts.length) (by rw [List.length_drop]; omega)).mp hrecent
    refine ⟨_, _, List.take_append_drop view.artifacts.length authoritative, ?_, ?_⟩
    · rw [List.map_map]
      exact hold
    · rwa [List.take_of_length_le (by rw [List.length_drop]; omega)] at htail
  · intro ⟨older, recent, hcut, hartifacts, hrecent⟩
    have holder : view.artifacts.length = older.length := by rw [hartifacts, List.length_map, List.length_map]
    have htail : view.recentItems.length = recent.length := by rw [hrecent, List.length_map]
    subst hcut
    refine ⟨by rw [holder, htail, List.length_append], ?_, ?_⟩
    · refine (zip_matches (fun item => ContextArtifactRef.fromItem sha256 (.fromItem item)) _ _ _ ?_).mpr ?_
      · rw [holder, List.length_append]; omega
      · rw [holder, List.take_left, hartifacts, List.map_map]
        rfl
    · rw [holder, List.drop_left]
      refine (zip_matches ContextViewItem.fromItem _ _ _ (by omega)).mpr ?_
      rw [htail, List.take_length, hrecent]

/-- What is left from the first user item on. -/
def fromUser (items : List CanonicalItem) : List CanonicalItem := items.dropWhile fun item => !(item.role == .user)

theorem drop_leading (items : List CanonicalItem) :
    (items.map ContextViewItem.fromItem).drop (leadingAssistantItems (items.map .fromItem)) = (fromUser items).map .fromItem := by
  have hindex : leadingAssistantItems (items.map ContextViewItem.fromItem) = items.findIdx fun item => item.role == .user := by
    unfold leadingAssistantItems
    rw [List.findIdx_map]
    rfl
  rw [hindex, ← List.map_drop, fromUser, List.dropWhile_eq_drop_findIdx_not]
  simp only [Bool.not_not]

theorem leading_length (items : List CanonicalItem) :
    leadingAssistantItems (items.map ContextViewItem.fromItem) + (fromUser items).length = items.length := by
  have hdrop := congrArg List.length (drop_leading items)
  have hle : leadingAssistantItems (items.map ContextViewItem.fromItem) ≤ (items.map ContextViewItem.fromItem).length := List.findIdx_le_length
  rw [List.length_drop, List.length_map, List.length_map] at hdrop
  rw [List.length_map] at hle
  omega

theorem fromUser_head {items : List CanonicalItem} : ∀ item : ContextViewItem,
    ((fromUser items).map .fromItem).head? = some item → item.role = .user := by
  intro item h
  rw [List.head?_map, Option.map_eq_some_iff] at h
  obtain ⟨first, hfirst, rfl⟩ := h
  have := List.head?_dropWhile_not (fun item : CanonicalItem => !(item.role == .user)) items
  unfold fromUser at hfirst
  rw [hfirst] at this
  simpa [ContextViewItem.fromItem] using this

theorem fromUser_suffix (items : List CanonicalItem) : fromUser items <:+ items := List.dropWhile_suffix _

/-! ## No sum of a short history overflows -/

theorem itemTokens_le (item : CanonicalItem) : (ContextViewItem.fromItem item).estimatedTokens ≤ maxItemTextBytes := by
  have hlen := length_le_byteLen item.text
  have hfits := item.text_fits
  have hone : 1 ≤ maxItemTextBytes := by decide
  have hlength : item.text.length = item.text.toList.length := String.length_toList.symm
  show max ((item.text.length + 3) / 4) 1 ≤ maxItemTextBytes
  omega

theorem sums_fit {items : List CanonicalItem} (h : items.length ≤ maxContextViewItems) :
    textBytes (items.map .fromItem) < 2 ^ 64 ∧ tokensOf (items.map .fromItem) < 2 ^ 64 := by
  have hbytes := List.sum_le_card_nsmul (items.map itemLen) maxItemTextBytes fun n hn => by
    obtain ⟨item, _, rfl⟩ := List.mem_map.mp hn
    exact item.text_fits
  have htokens := List.sum_le_card_nsmul (items.map fun item => (ContextViewItem.fromItem item).estimatedTokens) maxItemTextBytes fun n hn => by
    obtain ⟨item, _, rfl⟩ := List.mem_map.mp hn
    exact itemTokens_le item
  have htotal : items.length * maxItemTextBytes ≤ maxContextViewItems * maxItemTextBytes := Nat.mul_le_mul_right _ h
  have hroom : maxContextViewItems * maxItemTextBytes < 2 ^ 64 := by decide
  rw [List.length_map, smul_eq_mul] at hbytes htokens
  rw [itemLen_sum] at hbytes
  refine ⟨by omega, ?_⟩
  unfold tokensOf
  rw [List.map_map]
  show (items.map fun item => (ContextViewItem.fromItem item).estimatedTokens).sum < 2 ^ 64
  omega

/-! ## A request shows the end of the history -/

/-- The request shows a suffix of the history, each item once and in its place, from a user
    item on, within the bounds. -/
structure ShowsEnd (authoritative : List CanonicalItem) (request : ContextRequestView) : Prop where
  cut : ∃ hidden visible, hidden ++ visible = authoritative ∧ request.items = visible.map .fromItem ∧
    request.archivedItems = hidden.length ∧ request.rawBytes = textBytes (visible.map .fromItem)
  starts : ∀ item, request.items.head? = some item → item.role = .user
  counted : request.archivedItems + request.items.length = authoritative.length
  items_le : authoritative.length ≤ maxContextViewItems
  bytes_le : request.rawBytes ≤ maxContextViewBytes

/-- Materialization in closed form: the items before the checkpoint's end are its own, those
    after go on in order, and what is shown starts at the first user item of the two. -/
theorem materializeRequest_ok {sha256 : Sha256} {view : ReducedContextView} {authoritative : List CanonicalItem}
    {request : ContextRequestView} : view.materializeRequest sha256 authoritative = .ok request ↔
      ∃ older recent later, older ++ recent ++ later = authoritative ∧ authoritative.length ≤ maxContextViewItems ∧
        view.artifacts = (older.map .fromItem).map (.fromItem sha256) ∧ view.recentItems = recent.map .fromItem ∧
        Ascending view.lastItem (later.map .fromItem) ∧
        textBytes ((fromUser (recent ++ later)).map .fromItem) ≤ maxContextViewBytes ∧
        request = ⟨view.source, older.length + leadingAssistantItems ((recent ++ later).map .fromItem),
          (fromUser (recent ++ later)).map .fromItem, textBytes ((fromUser (recent ++ later)).map .fromItem),
          tokensOf ((fromUser (recent ++ later)).map .fromItem)⟩ := by
  have hroom : maxContextViewItems < 2 ^ 64 := by decide
  unfold ReducedContextView.materializeRequest
  simp only [bind_ok, exists_unit, require_ok, okOr_ok, checkedAdd_some, validateAgainstItems_ok, appendLater_ok]
  constructor
  · intro hall
    obtain ⟨hcount, checkpointItems, ⟨_, hitems⟩, hwithin, ⟨older, recent, hcut, hartifacts, hrecent⟩, later, ⟨hasc,
      hlater⟩, sums, hsums, hbytes, archived, ⟨_, harchived⟩, hrequest⟩ := hall
    have hwhole : older ++ recent ++ authoritative.drop checkpointItems = authoritative := by rw [hcut, List.take_append_drop]
    subst hlater
    rw [hrecent, ← List.map_append, drop_leading] at hsums hrequest
    rw [hrecent, ← List.map_append] at harchived
    obtain ⟨_, _, hout⟩ := (sumItems_ok _ (by decide) (by decide)).mp hsums
    rw [Nat.zero_add, Nat.zero_add] at hout
    subst hout
    refine ⟨older, recent, _, hwhole, hcount, hartifacts, hrecent, hasc, hbytes, ?_⟩
    rw [harchived, hartifacts, List.length_map, List.length_map] at hrequest
    exact (Except.ok.inj hrequest).symm
  · intro hall
    obtain ⟨older, recent, later, hwhole, hcount, hartifacts, hrecent, hasc, hbytes, hrequest⟩ := hall
    have holder : view.artifacts.length = older.length := by rw [hartifacts, List.length_map, List.length_map]
    have htail : view.recentItems.length = recent.length := by rw [hrecent, List.length_map]
    have hlen := congrArg List.length hwhole
    rw [List.length_append, List.length_append] at hlen
    have hleading := leading_length (recent ++ later)
    rw [List.length_append] at hleading
    have hshown := (fromUser_suffix (recent ++ later)).length_le
    rw [List.length_append] at hshown
    have hcheckpoint : older.length + recent.length = (older ++ recent).length := List.length_append.symm
    refine ⟨hcount, older.length + recent.length, ⟨by omega, by omega⟩, by omega, ⟨older, recent, ?_, hartifacts, hrecent⟩, _,
      ⟨?_, rfl⟩, (textBytes ((fromUser (recent ++ later)).map .fromItem), tokensOf ((fromUser (recent ++ later)).map .fromItem)), ?_,
      hbytes, _, ⟨?_, rfl⟩, ?_⟩
    · rw [← hwhole, hcheckpoint, List.take_left]
    · rwa [← hwhole, hcheckpoint, List.drop_left]
    · have hfew : (fromUser (recent ++ later)).length ≤ maxContextViewItems := by omega
      obtain ⟨hraw, htokens⟩ := sums_fit hfew
      rw [← hwhole, hcheckpoint, List.drop_left, hrecent, ← List.map_append, drop_leading]
      refine (sumItems_ok _ (by decide) (by decide)).mpr ⟨by omega, by omega, ?_⟩
      rw [Nat.zero_add, Nat.zero_add]
    · rw [← hwhole, hcheckpoint, List.drop_left, hrecent, ← List.map_append, holder]
      omega
    · rw [hrequest, ← hwhole, hcheckpoint, List.drop_left, hrecent, ← List.map_append, drop_leading, holder]

theorem materializeRequest_shows {sha256 : Sha256} {view : ReducedContextView} {authoritative : List CanonicalItem}
    {request : ContextRequestView} (h : view.materializeRequest sha256 authoritative = .ok request) : ShowsEnd authoritative request := by
  obtain ⟨older, recent, later, hwhole, hcount, _, _, _, hbytes, rfl⟩ := materializeRequest_ok.mp h
  obtain ⟨skipped, hskipped⟩ := fromUser_suffix (recent ++ later)
  have hleading := leading_length (recent ++ later)
  have hskippedLen := congrArg List.length hskipped
  rw [List.length_append] at hskippedLen
  have hlen := congrArg List.length hwhole
  rw [List.append_assoc, List.length_append] at hlen
  refine ⟨⟨older ++ skipped, fromUser (recent ++ later), ?_, rfl, ?_, rfl⟩, ?_, ?_, hcount, hbytes⟩
  · rw [List.append_assoc, hskipped, ← List.append_assoc, hwhole]
  · rw [List.length_append]
    show older.length + _ = _
    omega
  · exact fromUser_head
  · rw [List.length_map]
    show older.length + _ + _ = _
    omega

/-- A request made of the history alone shows the end of it too. -/
theorem requestView_shows {head : LedgerHead} {items : List CanonicalItem} {request : ContextRequestView}
    (h : ContextRequestView.fromItems head items = .ok request) : ShowsEnd items request := by
  obtain ⟨view, hview, h⟩ := bind_ok.mp h
  obtain ⟨hcount, _, hbytes, _, rfl⟩ := contextView_ok.mp hview
  obtain ⟨sums, hsums, h⟩ := bind_ok.mp h
  obtain ⟨skipped, hskipped⟩ := fromUser_suffix items
  have hleading := leading_length items
  have hlen := congrArg List.length hskipped
  rw [List.length_append] at hlen
  simp only [drop_leading] at hsums h
  obtain ⟨_, _, rfl⟩ := (sumItems_ok _ (by decide) (by decide)).mp hsums
  cases h
  refine ⟨⟨skipped, fromUser items, hskipped, rfl, ?_, Nat.zero_add _⟩, ?_, ?_, hcount, ?_⟩
  · show leadingAssistantItems _ = _
    omega
  · exact fromUser_head
  · rw [List.length_map]
    exact hleading
  · rw [← hskipped, List.map_append, textBytes_append] at hbytes
    show 0 + _ ≤ _
    omega

/-! ## Which histories a checkpoint is accepted against -/

def itemTexts (items : List CanonicalItem) : List (List Byte) := items.map fun item => utf8 item.text

theorem CollisionFree.texts {sha256 : Sha256} {items more : List CanonicalItem} (h : CollisionFree sha256 (itemTexts more))
    (hsub : ∀ item, item ∈ items → item ∈ more) : CollisionFree sha256 (itemTexts items) :=
  h.subset (List.map_subset _ hsub)

theorem fromItem_inj {a b : CanonicalItem} (h : ContextViewItem.fromItem a = .fromItem b) : a = b := by
  have hid : a.id = b.id := congrArg ContextViewItem.item h
  have hturn : a.turn = b.turn := congrArg ContextViewItem.turn h
  have hrole : a.role = b.role := congrArg ContextViewItem.role h
  have htext : a.text = b.text := congrArg ContextViewItem.text h
  exact CanonicalItem.ext hid hturn hrole htext

/-- References with one digest a text are those of the same items. -/
theorem artifacts_inj {sha256 : Sha256} : ∀ {older older' : List CanonicalItem}, CollisionFree sha256 (itemTexts (older ++ older')) →
    (older.map .fromItem).map (ContextArtifactRef.fromItem sha256) = (older'.map .fromItem).map (.fromItem sha256) → older = older' := by
  intro older
  induction older with
  | nil =>
    intro older' _ h
    cases older' with
    | nil => rfl
    | cons item older' => cases h
  | cons item older ih =>
    intro older' hfree h
    cases older' with
    | nil => cases h
    | cons item' older' =>
      simp only [List.map_cons, List.cons.injEq] at h
      have hid : item.id = item'.id := congrArg ContextArtifactRef.item h.1
      have hturn : item.turn = item'.turn := congrArg ContextArtifactRef.turn h.1
      have hrole : item.role = item'.role := congrArg ContextArtifactRef.role h.1
      have hdigest : sha256 (utf8 item.text) = sha256 (utf8 item'.text) := congrArg ContextArtifactRef.digest h.1
      have hbytes := hfree _ (by simp [itemTexts]) _ (by simp [itemTexts]) hdigest
      have htext : item.text = item'.text := Option.some.inj (by rw [← fromUtf8_utf8, ← fromUtf8_utf8, hbytes])
      have hrest : CollisionFree sha256 (itemTexts (older ++ older')) := by
        refine CollisionFree.texts hfree fun a ha => ?_
        simp only [List.mem_append, List.mem_cons] at ha ⊢
        tauto
      rw [CanonicalItem.ext hid hturn hrole htext, ih hrest h.2]

variable {sha256 : Sha256} {head : LedgerHead} {policy : ContextReductionPolicy} {history : List CanonicalItem} {view : ReducedContextView}

/-- One checkpoint is that of at most one history. -/
theorem same_history {older recent older' recent' : List CanonicalItem}
    (hfree : CollisionFree sha256 (itemTexts (older ++ recent ++ (older' ++ recent'))))
    (hartifacts : (older.map .fromItem).map (ContextArtifactRef.fromItem sha256) = (older'.map .fromItem).map (.fromItem sha256))
    (hrecent : recent.map ContextViewItem.fromItem = recent'.map .fromItem) : older ++ recent = older' ++ recent' := by
  have holder : older = older' := by
    refine artifacts_inj (CollisionFree.texts hfree fun a ha => ?_) hartifacts
    simp only [List.mem_append] at ha ⊢
    tauto
  have htail : recent = recent' := List.map_injective_iff.mpr (fun _ _ => fromItem_inj) hrecent
  rw [holder, htail]

theorem validateAgainstItems_made {authoritative : List CanonicalItem}
    (hmade : ReducedContextView.fromItems sha256 head history policy = .ok view)
    (hfree : CollisionFree sha256 (itemTexts (history ++ authoritative))) :
    view.validateAgainstItems sha256 authoritative = .ok () ↔ authoritative = history := by
  obtain ⟨older, recent, hcut, _, _, _, _, rfl⟩ := reducedView_ok.mp hmade
  rw [validateAgainstItems_ok]
  constructor
  · intro ⟨older', recent', hcut', hartifacts, hrecent⟩
    subst hcut hcut'
    exact (same_history hfree hartifacts hrecent).symm
  · intro h
    exact ⟨older, recent, h ▸ hcut, rfl, rfl⟩

theorem lastItem_made (hmade : ReducedContextView.fromItems sha256 head history policy = .ok view) :
    view.lastItem = lastId 0 (history.map .fromItem) := by
  obtain ⟨older, recent, hcut, _, _, _, _, rfl⟩ := reducedView_ok.mp hmade
  subst hcut
  unfold ReducedContextView.lastItem lastId
  rw [List.map_append, List.getLast?_append]
  cases hlast : (recent.map ContextViewItem.fromItem).getLast? with
  | some item => rfl
  | none =>
    show ((((older.map .fromItem).map (ContextArtifactRef.fromItem sha256)).getLast?.map (·.item))).getD 0 = _
    rw [List.getLast?_map, Option.map_map]
    rfl

/-- What a checkpoint's request can show: the history from the first user item after its
    artifacts on. -/
def visibleFrom (archived : Nat) (authoritative : List CanonicalItem) : List CanonicalItem := fromUser (authoritative.drop archived)

theorem materializeRequest_made {authoritative : List CanonicalItem}
    (hmade : ReducedContextView.fromItems sha256 head history policy = .ok view)
    (hfree : CollisionFree sha256 (itemTexts (history ++ authoritative))) :
    (∃ request, view.materializeRequest sha256 authoritative = .ok request) ↔ history <+: authoritative ∧
      authoritative.length ≤ maxContextViewItems ∧ Ascending 0 (authoritative.map .fromItem) ∧
      textBytes ((visibleFrom view.artifacts.length authoritative).map .fromItem) ≤ maxContextViewBytes := by
  have hlast := lastItem_made hmade
  obtain ⟨older, recent, hcut, _, _, hasc, _, rfl⟩ := reducedView_ok.mp hmade
  constructor
  · intro ⟨request, hrequest⟩
    obtain ⟨older', recent', later, hwhole, hcount, hartifacts, hrecent, hlater, hbytes, _⟩ := materializeRequest_ok.mp hrequest
    have hsame : older ++ recent = older' ++ recent' := by
      refine same_history (CollisionFree.texts hfree fun a ha => ?_) hartifacts hrecent
      rw [hcut] at ha
      rw [← hwhole]
      simp only [List.mem_append] at ha ⊢
      tauto
    have hhistory : older' ++ recent' = history := hsame.symm.trans hcut
    have holder : older'.length = older.length := by
      have := congrArg List.length hartifacts
      simpa using this.symm
    rw [hhistory] at hwhole
    refine ⟨⟨later, hwhole⟩, hcount, ?_, ?_⟩
    · rw [← hwhole, List.map_append, ascending_append]
      exact ⟨hasc, hlast ▸ hlater⟩
    · unfold visibleFrom
      rw [List.length_map, List.length_map, ← holder, ← hwhole, ← hhistory, List.append_assoc, List.drop_left]
      exact hbytes
  · intro ⟨⟨later, hwhole⟩, hcount, hall, hbytes⟩
    refine ⟨_, materializeRequest_ok.mpr ⟨older, recent, later, by rw [hcut, hwhole], hcount, rfl, rfl, ?_, ?_, rfl⟩⟩
    · rw [← hwhole, List.map_append, ascending_append] at hall
      rw [hlast]
      exact hall.2
    · unfold visibleFrom at hbytes
      rwa [List.length_map, List.length_map, ← hwhole, ← hcut, List.append_assoc, List.drop_left] at hbytes

/-- A checkpoint made from a history: whatever it is materialized against shows the end of
    that; it is valid against its own history only, and materialized against the extensions
    that the bounds let through. -/
theorem checkpoint_materializes (hmade : ReducedContextView.fromItems sha256 head history policy = .ok view)
    (authoritative : List CanonicalItem) :
    (∀ request, view.materializeRequest sha256 authoritative = .ok request → ShowsEnd authoritative request) ∧
    (CollisionFree sha256 (itemTexts (history ++ authoritative)) →
      (view.validateAgainstItems sha256 authoritative = .ok () ↔ authoritative = history) ∧
      ((∃ request, view.materializeRequest sha256 authoritative = .ok request) ↔ history <+: authoritative ∧
        authoritative.length ≤ maxContextViewItems ∧ Ascending 0 (authoritative.map .fromItem) ∧
        textBytes ((visibleFrom view.artifacts.length authoritative).map .fromItem) ≤ maxContextViewBytes)) :=
  ⟨fun _ => materializeRequest_shows, fun hfree => ⟨validateAgainstItems_made hmade hfree, materializeRequest_made hmade hfree⟩⟩

/-- The exchange with the reply raw and a reference to the greeting. -/
def exchangeCheckpoint : ReducedContextView :=
  ⟨⟨some 1, some 3, 2⟩, [.fromItem digests (.fromItem greeting)], [.fromItem reply], 2, 3⟩

theorem exchangeCheckpoint_made : ReducedContextView.fromItems digests ⟨2, 3⟩ [greeting, reply] newestOnly = .ok exchangeCheckpoint := by
  have hkept : LongestSuffix (Fits newestOnly itemLen) ([] ++ greeting :: [reply]) [reply] :=
    .of_stop (fits_suffixClosed itemLen) (by decide) (by decide)
  exact reducedView_ok.mpr ⟨[greeting], [reply], rfl, hkept, by decide, by decide, by decide, by decide⟩

theorem exchange_digests : CollisionFree digests (itemTexts ([greeting, reply] ++ [greeting, reply, farewell])) := by
  unfold CollisionFree
  decide

theorem checkpoint_materializes_exchange :
    (∀ request, exchangeCheckpoint.materializeRequest digests [greeting, reply, farewell] = .ok request →
      ShowsEnd [greeting, reply, farewell] request) ∧
    (exchangeCheckpoint.validateAgainstItems digests [greeting, reply, farewell] = .ok () ↔ [greeting, reply, farewell] = [greeting, reply]) ∧
    ∃ request, exchangeCheckpoint.materializeRequest digests [greeting, reply, farewell] = .ok request := by
  have h := checkpoint_materializes exchangeCheckpoint_made [greeting, reply, farewell]
  exact ⟨h.1, (h.2 exchange_digests).1, (h.2 exchange_digests).2.mpr ⟨⟨[farewell], rfl⟩, by decide, by decide, by decide⟩⟩

/-- The item after the checkpoint's history makes its validation fail. -/
theorem validation_refuses_an_extension :
    ReducedContextView.fromItems digests ⟨2, 3⟩ [greeting, reply] newestOnly = .ok exchangeCheckpoint ∧
    CollisionFree digests (itemTexts ([greeting, reply] ++ [greeting, reply, farewell])) ∧
    exchangeCheckpoint.validateAgainstItems digests ([greeting, reply] ++ [farewell]) = .error .artifactMismatch :=
  ⟨exchangeCheckpoint_made, exchange_digests, by decide⟩

end GreenTyper.Context
