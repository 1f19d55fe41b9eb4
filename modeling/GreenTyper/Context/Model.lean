/-
  GreenTyper.Context.Model — context views of a thread's items and their reduction
  (`context.rs`).

  A view shows every item of a history; a reduced view keeps the newest items as they are
  and a reference with a digest for each older one. Both reducers walk back from the newest
  item (`takeRecent`) and stop before the first item that passes one of the policy's bounds.
-/

import GreenTyper.Ledger.Format
import GreenTyper.Lib.Hex
import GreenTyper.Lib.Result

namespace GreenTyper.Context

open Lib
open GreenTyper.Ledger (LedgerHead)

def maxItemTextBytes : Nat := 1024 * 1024

def maxContextViewBytes : Nat := 512 * 1024

def maxContextViewItems : Nat := 4096

inductive ContextViewError where
  | tooManyItems
  | viewTooLarge
  | arithmeticOverflow
  | invalidReductionPolicy
  | invalidStoredView
  | artifactMismatch
  deriving DecidableEq

inductive ItemRole where
  | user
  | assistant
  deriving DecidableEq

structure CanonicalItem where
  id : Nat
  turn : Nat
  role : ItemRole
  text : String
  id_pos : 0 < id
  turn_pos : 0 < turn
  text_shown : isBlank text = false
  text_fits : byteLen text ≤ maxItemTextBytes

theorem CanonicalItem.ext {a b : CanonicalItem} (hid : a.id = b.id) (hturn : a.turn = b.turn) (hrole : a.role = b.role)
    (htext : a.text = b.text) : a = b := by
  cases a
  cases b
  subst hid hturn hrole htext
  rfl

/-! ## Views -/

structure ContextEventRange where
  firstSequence : Option Nat
  lastSequence : Option Nat
  transaction : Nat
  deriving DecidableEq

def ContextEventRange.fromHead (head : LedgerHead) : ContextEventRange :=
  if head.sequence = 0 then ⟨none, none, 0⟩ else ⟨some 1, some head.sequence, head.transaction⟩

structure ContextViewItem where
  item : Nat
  turn : Nat
  role : ItemRole
  text : String
  estimatedTokens : Nat
  deriving DecidableEq

def ContextViewItem.fromItem (item : CanonicalItem) : ContextViewItem where
  item := item.id
  turn := item.turn
  role := item.role
  text := item.text
  estimatedTokens := max ((item.text.length + 3) / 4) 1

structure ContextView where
  source : ContextEventRange
  items : List ContextViewItem
  rawBytes : Nat
  estimatedTokens : Nat
  deriving DecidableEq

/-- The loop of `ContextView::from_items`: the projected items, their bytes and tokens. -/
def projectItems : List CanonicalItem → Nat → Nat → Nat → Except ContextViewError (List ContextViewItem × Nat × Nat)
  | [], _, rawBytes, estimatedTokens => .ok ([], rawBytes, estimatedTokens)
  | item :: rest, lastItem, rawBytes, estimatedTokens => do
    require (lastItem < item.id) .invalidStoredView
    let rawBytes ← okOr (checkedAdd 64 rawBytes (byteLen item.text)) .arithmeticOverflow
    require (rawBytes ≤ maxContextViewBytes) .viewTooLarge
    let projected := ContextViewItem.fromItem item
    let estimatedTokens ← okOr (checkedAdd 64 estimatedTokens projected.estimatedTokens) .arithmeticOverflow
    let (items, rawBytes, estimatedTokens) ← projectItems rest item.id rawBytes estimatedTokens
    .ok (projected :: items, rawBytes, estimatedTokens)

def ContextView.fromItems (head : LedgerHead) (items : List CanonicalItem) : Except ContextViewError ContextView := do
  require (items.length ≤ maxContextViewItems) .tooManyItems
  let (projected, rawBytes, estimatedTokens) ← projectItems items 0 0 0
  .ok ⟨.fromHead head, projected, rawBytes, estimatedTokens⟩

/-! ## Reduction -/

structure ContextReductionPolicy where
  maxRawBytes : Nat
  maxRawItems : Nat
  bytes_pos : 0 < maxRawBytes
  bytes_le : maxRawBytes ≤ maxContextViewBytes
  items_pos : 0 < maxRawItems
  items_le : maxRawItems ≤ maxContextViewItems

/-- The backward walk of both reducers over the items not yet passed, newest first: how many
    are kept and their bytes. -/
def takeRecent {α : Type} (policy : ContextReductionPolicy) (textLen : α → Nat) :
    List α → Nat → Nat → Except ContextViewError (Nat × Nat)
  | [], kept, rawBytes => .ok (kept, rawBytes)
  | item :: older, kept, rawBytes =>
    if policy.maxRawItems < kept + 1 then .ok (kept, rawBytes)
    else do
      let nextRawBytes ← okOr (checkedAdd 64 rawBytes (textLen item)) .arithmeticOverflow
      if policy.maxRawBytes < nextRawBytes then .ok (kept, rawBytes)
      else takeRecent policy textLen older (kept + 1) nextRawBytes

structure ContextArtifactRef where
  item : Nat
  turn : Nat
  role : ItemRole
  byteLen : Nat
  estimatedTokens : Nat
  digest : Digest
  deriving DecidableEq

def ContextArtifactRef.fromItem (sha256 : Sha256) (item : ContextViewItem) : ContextArtifactRef where
  item := item.item
  turn := item.turn
  role := item.role
  byteLen := Lib.byteLen item.text
  estimatedTokens := item.estimatedTokens
  digest := sha256 (utf8 item.text)

structure ReducedContextView where
  source : ContextEventRange
  artifacts : List ContextArtifactRef
  recentItems : List ContextViewItem
  rawBytes : Nat
  estimatedTokens : Nat
  deriving DecidableEq

def ContextView.reduce (sha256 : Sha256) (view : ContextView) (policy : ContextReductionPolicy) :
    Except ContextViewError ReducedContextView := do
  let (kept, recentRawBytes) ← takeRecent policy (fun item => byteLen item.text) view.items.reverse 0 0
  let recentStart := view.items.length - kept
  .ok {
    source := view.source
    artifacts := (view.items.take recentStart).map (.fromItem sha256)
    recentItems := view.items.drop recentStart
    rawBytes := recentRawBytes
    estimatedTokens := view.estimatedTokens }

/-- The scan of the artifacts in `from_stored`: the last item and the tokens so far. -/
def scanArtifacts : List ContextArtifactRef → Nat → Nat → Except ContextViewError (Nat × Nat)
  | [], lastItem, estimatedTokens => .ok (lastItem, estimatedTokens)
  | artifact :: rest, lastItem, estimatedTokens => do
    require (lastItem < artifact.item) .invalidStoredView
    let estimatedTokens ← okOr (checkedAdd 64 estimatedTokens artifact.estimatedTokens) .arithmeticOverflow
    scanArtifacts rest artifact.item estimatedTokens

/-- The scan of the recent items in `from_stored`: their bytes and all tokens. -/
def scanRecent : List ContextViewItem → Nat → Nat → Nat → Except ContextViewError (Nat × Nat)
  | [], _, rawBytes, estimatedTokens => .ok (rawBytes, estimatedTokens)
  | item :: rest, lastItem, rawBytes, estimatedTokens => do
    require (lastItem < item.item) .invalidStoredView
    let rawBytes ← okOr (checkedAdd 64 rawBytes (byteLen item.text)) .arithmeticOverflow
    let estimatedTokens ← okOr (checkedAdd 64 estimatedTokens item.estimatedTokens) .arithmeticOverflow
    scanRecent rest item.item rawBytes estimatedTokens

def ReducedContextView.fromStored (source : ContextEventRange) (artifacts : List ContextArtifactRef)
    (recentItems : List ContextViewItem) : Except ContextViewError ReducedContextView := do
  let itemCount ← okOr (checkedAdd 64 artifacts.length recentItems.length) .arithmeticOverflow
  require (itemCount ≤ maxContextViewItems) .tooManyItems
  let (lastItem, estimatedTokens) ← scanArtifacts artifacts 0 0
  let (rawBytes, estimatedTokens) ← scanRecent recentItems lastItem 0 estimatedTokens
  require (rawBytes ≤ maxContextViewBytes) .viewTooLarge
  .ok ⟨source, artifacts, recentItems, rawBytes, estimatedTokens⟩

def ReducedContextView.fromItems (sha256 : Sha256) (head : LedgerHead) (items : List CanonicalItem)
    (policy : ContextReductionPolicy) : Except ContextViewError ReducedContextView := do
  require (items.length ≤ maxContextViewItems) .tooManyItems
  let (kept, _) ← takeRecent policy (fun item => byteLen item.text) items.reverse 0 0
  let recentStart := items.length - kept
  let artifacts := (items.take recentStart).map fun item => ContextArtifactRef.fromItem sha256 (.fromItem item)
  let recentItems := (items.drop recentStart).map .fromItem
  fromStored (.fromHead head) artifacts recentItems

/-! ## Requests -/

structure ContextRequestView where
  source : ContextEventRange
  archivedItems : Nat
  items : List ContextViewItem
  rawBytes : Nat
  estimatedTokens : Nat
  deriving DecidableEq

/-- The sums over the visible items. -/
def sumItems : List ContextViewItem → Nat → Nat → Except ContextViewError (Nat × Nat)
  | [], rawBytes, estimatedTokens => .ok (rawBytes, estimatedTokens)
  | item :: rest, rawBytes, estimatedTokens => do
    let rawBytes ← okOr (checkedAdd 64 rawBytes (byteLen item.text)) .arithmeticOverflow
    let estimatedTokens ← okOr (checkedAdd 64 estimatedTokens item.estimatedTokens) .arithmeticOverflow
    sumItems rest rawBytes estimatedTokens

/-- `position` of the first user item, else the length. -/
def leadingAssistantItems (items : List ContextViewItem) : Nat := items.findIdx (·.role == .user)

def ContextRequestView.fromItems (head : LedgerHead) (items : List CanonicalItem) :
    Except ContextViewError ContextRequestView := do
  let view ← ContextView.fromItems head items
  let leading := leadingAssistantItems view.items
  let items := view.items.drop leading
  let (rawBytes, estimatedTokens) ← sumItems items 0 0
  .ok ⟨view.source, leading, items, rawBytes, estimatedTokens⟩

def ReducedContextView.validateAgainstItems (sha256 : Sha256) (view : ReducedContextView)
    (authoritative : List CanonicalItem) : Except ContextViewError Unit := do
  require (view.artifacts.length + view.recentItems.length = authoritative.length) .artifactMismatch
  (view.artifacts.zip authoritative).forM fun (artifact, item) =>
    require (artifact = .fromItem sha256 (.fromItem item)) .artifactMismatch
  (view.recentItems.zip (authoritative.drop view.artifacts.length)).forM fun (stored, item) =>
    require (stored = .fromItem item) .artifactMismatch

/-- The items after the checkpoint, projected; their ids go on from the checkpoint's last. -/
def appendLater : List CanonicalItem → Nat → Except ContextViewError (List ContextViewItem)
  | [], _ => .ok []
  | item :: rest, lastItem => do
    require (lastItem < item.id) .invalidStoredView
    let items ← appendLater rest item.id
    .ok (.fromItem item :: items)

def ReducedContextView.lastItem (view : ReducedContextView) : Nat :=
  (view.recentItems.getLast?.map (·.item) <|> view.artifacts.getLast?.map (·.item)).getD 0

def ReducedContextView.materializeRequest (sha256 : Sha256) (view : ReducedContextView)
    (authoritative : List CanonicalItem) : Except ContextViewError ContextRequestView := do
  require (authoritative.length ≤ maxContextViewItems) .tooManyItems
  let checkpointItems ← okOr (checkedAdd 64 view.artifacts.length view.recentItems.length) .arithmeticOverflow
  require (checkpointItems ≤ authoritative.length) .artifactMismatch
  view.validateAgainstItems sha256 (authoritative.take checkpointItems)
  let later ← appendLater (authoritative.drop checkpointItems) view.lastItem
  let items := view.recentItems ++ later
  let leading := leadingAssistantItems items
  let items := items.drop leading
  let (rawBytes, estimatedTokens) ← sumItems items 0 0
  require (rawBytes ≤ maxContextViewBytes) .viewTooLarge
  let archivedItems ← okOr (checkedAdd 64 view.artifacts.length leading) .arithmeticOverflow
  .ok ⟨view.source, archivedItems, items, rawBytes, estimatedTokens⟩

end GreenTyper.Context
