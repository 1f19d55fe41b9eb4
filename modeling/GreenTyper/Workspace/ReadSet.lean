/-
  GreenTyper.Workspace.ReadSet — a stale Read Set stops a write (`workspace.rs`).

  (1) A captured Read Set is valid against a later file system exactly where every listed
      path still names a regular file with the bytes it had (`validateBeforeMutation_captured`).
  (2) `apply_file` changes the file system only behind that check, a read-write lease of the
      same root and an entry with the path, and then only the file of the path
      (`applyFile_changes`).
  (3) A Read Set from JSON has the revision and the id of its own entries
      (`fromJsonReader_shape`).
-/

import GreenTyper.Workspace.Model

namespace GreenTyper.Workspace

open Lib

/-! ## Paths -/

/-- A relative path that only goes down. -/
def ValidPath (path : String) : Prop :=
  (path ≠ "" ∧ byteLen path ≤ maxRelativePathBytes ∧ path.toList.any isControl = false) ∧
    path.toList.head? ≠ some '/' ∧ (path.toList.splitOn '/').head? ≠ some ['.'] ∧ ['.', '.'] ∉ path.toList.splitOn '/'

theorem validateRelativePath_ok {path : String} {relative : List String} :
    validateRelativePath path = .ok relative ↔ ValidPath path ∧ relative = components path := by
  unfold validateRelativePath ValidPath
  rw [seq_ok, require_ok]
  show (_ ∧ (require (path.toList.head? ≠ some '/' ∧ (path.toList.splitOn '/').head? ≠ some ['.'] ∧
    ['.', '.'] ∉ path.toList.splitOn '/') WorkspaceError.invalidRelativePath >>= fun _ => pure (components path)) = _) ↔ _
  rw [seq_ok, require_ok]
  show (_ ∧ _ ∧ Except.ok _ = Except.ok _) ↔ _
  rw [Except.ok.injEq, ← and_assoc, @eq_comm _ (components path)]

/-- A valid path names something below the root. -/
theorem ValidPath.components_ne_nil {path : String} (h : ValidPath path) : components path ≠ [] := by
  obtain ⟨⟨hempty, _⟩, hslash, hdot, _⟩ := h
  have hpath : List.intercalate ['/'] (path.toList.splitOn '/') = path.toList := List.intercalate_splitOn '/'
  cases hparts : path.toList.splitOn '/' with
  | nil => exact absurd hparts (List.splitOn_ne_nil _ _)
  | cons part parts =>
    rw [hparts] at hpath hdot
    have hpart : part ≠ [] := by
      intro hnil
      subst hnil
      cases parts with
      | nil =>
        rw [List.intercalate_singleton] at hpath
        exact hempty (String.toList_inj.mp hpath.symm)
      | cons next parts =>
        rw [List.intercalate_cons_cons, List.nil_append] at hpath
        rw [← hpath] at hslash
        exact hslash rfl
    have hmem : String.ofList part ∈ components path := by
      unfold components
      rw [hparts, List.map_cons, List.mem_filter]
      refine ⟨List.mem_cons_self, ?_⟩
      rw [decide_eq_true_eq]
      refine ⟨fun heq => hpart (String.ofList_injective heq), fun heq => hdot ?_⟩
      have hsingle : String.ofList part = String.ofList ['.'] := heq
      rw [List.head?_cons, String.ofList_injective hsingle]
    exact List.ne_nil_of_mem hmem

/-- The path names a regular file with these bytes under the root. -/
structure FileSystem.Names (fs : FileSystem) (root : WorkspaceRoot) (path : String) (bytes : List Byte) : Prop where
  root_same : fs.root = .directory root.device root.inode
  parents : ∀ parent, parent ≠ [] → parent <+: components path → parent ≠ components path → fs.node parent = some .directory
  file : fs.node (components path) = some (.regular bytes)

theorem FileSystem.Names.unique {fs : FileSystem} {root root' : WorkspaceRoot} {path : String} {bytes bytes' : List Byte}
    (h : fs.Names root path bytes) (h' : fs.Names root' path bytes') : bytes = bytes' := by
  have hnode := h.file
  rw [h'.file] at hnode
  cases hnode
  rfl

/-- What opening one component after another finds. -/
theorem openComponents_ok {fs : FileSystem} {node : Node} (rest : List String) : ∀ {directory : List String},
    openComponents fs directory rest = .ok node ↔ rest ≠ [] ∧
      (∀ parent, parent ≠ [] → parent <+: rest → parent ≠ rest → fs.node (directory ++ parent) = some .directory) ∧
      fs.node (directory ++ rest) = some node ∧ ∀ target, node ≠ .symlink target := by
  induction rest with
  | nil =>
    intro directory
    simp [openComponents]
  | cons part rest ih =>
    intro directory
    cases rest with
    | nil =>
      have hparents : ∀ parent, parent ≠ [] → parent <+: [part] → parent ≠ [part] → fs.node (directory ++ parent) = some .directory := by
        intro parent hnil hparent hne
        rcases List.prefix_cons_iff.mp hparent with h | ⟨t, rfl, ht⟩
        · exact absurd h hnil
        · rw [List.prefix_nil.mp ht] at hne
          exact absurd rfl hne
      unfold openComponents
      cases hnode : fs.node (directory ++ [part]) with
      | none => simp
      | some found =>
        cases found with
        | regular bytes =>
          simp only [Except.ok.injEq, Option.some.injEq]
          exact ⟨fun h => ⟨by simp, hparents, h, h ▸ fun target => by simp⟩, fun h => h.2.2.1⟩
        | directory =>
          simp only [Except.ok.injEq, Option.some.injEq]
          exact ⟨fun h => ⟨by simp, hparents, h, h ▸ fun target => by simp⟩, fun h => h.2.2.1⟩
        | symlink target =>
          simp only [reduceCtorEq, false_iff, Option.some.injEq]
          exact fun h => h.2.2.2 target h.2.2.1.symm
    | cons next rest =>
      unfold openComponents
      have hsplit : directory ++ part :: next :: rest = (directory ++ [part]) ++ next :: rest := by simp
      have hfirst : ∀ {p : Prop}, (∀ parent, parent ≠ [] → parent <+: part :: next :: rest → parent ≠ part :: next :: rest →
          fs.node (directory ++ parent) = some .directory) → (fs.node (directory ++ [part]) = some .directory → p) → p := by
        intro p hparents hp
        exact hp (hparents [part] (by simp) ⟨next :: rest, rfl⟩ (by simp))
      cases hnode : fs.node (directory ++ [part]) with
      | none =>
        simp only [reduceCtorEq, false_iff]
        intro h
        exact hfirst h.2.1 fun hdir => by rw [hnode] at hdir; cases hdir
      | some found =>
        cases found with
        | regular bytes =>
          simp only [reduceCtorEq, false_iff]
          intro h
          exact hfirst h.2.1 fun hdir => by rw [hnode] at hdir; cases hdir
        | symlink target =>
          simp only [reduceCtorEq, false_iff]
          intro h
          exact hfirst h.2.1 fun hdir => by rw [hnode] at hdir; cases hdir
        | directory =>
          show openComponents fs (directory ++ [part]) (next :: rest) = .ok node ↔ _
          rw [ih, hsplit]
          constructor
          · intro ⟨_, hparents, hfound, hlink⟩
            refine ⟨by simp, fun parent hnil hparent hne => ?_, hfound, hlink⟩
            rcases List.prefix_cons_iff.mp hparent with h | ⟨t, rfl, ht⟩
            · exact absurd h hnil
            · by_cases htnil : t = []
              · rw [htnil]
                exact hnode
              · have := hparents t htnil ht fun heq => hne (by rw [heq])
                rwa [List.append_assoc] at this
          · intro ⟨_, hparents, hfound, hlink⟩
            refine ⟨by simp, fun parent hnil hparent hne => ?_, hfound, hlink⟩
            have := hparents (part :: parent) (by simp) (List.prefix_cons_inj part |>.mpr hparent) fun heq => hne (List.cons.inj heq).2
            rwa [List.append_assoc]

theorem openRootDirectory_ok {fs : FileSystem} {root : WorkspaceRoot} :
    openRootDirectory fs root = .ok () ↔ fs.root = .directory root.device root.inode := by
  unfold openRootDirectory
  cases fs.root with
  | missing => simp
  | other => simp
  | directory device inode => simp

variable {sha256 : Sha256} {fs : FileSystem} {root : WorkspaceRoot}

theorem readEntry_ok {path : String} {entry : ReadSetEntry} : readEntry sha256 fs root path = .ok entry ↔
    ValidPath path ∧ ∃ bytes, fs.Names root path bytes ∧ bytes.length ≤ maxReadSetFileBytes ∧
      entry = ⟨path, bytes.length, sha256Digest sha256 bytes⟩ := by
  unfold readEntry
  simp only [bind_ok, validateRelativePath_ok]
  constructor
  · intro ⟨relative, ⟨hpath, hrelative⟩, node, hopen, hread⟩
    subst hrelative
    obtain ⟨_, hroot, hopen⟩ := bind_ok.mp hopen
    obtain ⟨_, hparents, hfile, _⟩ := (openComponents_ok _).mp hopen
    cases node with
    | regular bytes =>
      obtain ⟨hsize, hentry⟩ := seq_ok.mp hread
      cases hentry
      exact ⟨hpath, bytes, ⟨openRootDirectory_ok.mp hroot, hparents, hfile⟩, require_ok.mp hsize, rfl⟩
    | directory => cases hread
    | symlink target => cases hread
  · intro ⟨hpath, bytes, hnames, hsize, hentry⟩
    refine ⟨_, ⟨hpath, rfl⟩, .regular bytes, ?_, ?_⟩
    · refine bind_ok.mpr ⟨(), openRootDirectory_ok.mpr hnames.root_same, (openComponents_ok _).mpr ⟨hpath.components_ne_nil, hnames.parents,
        hnames.file, by simp⟩⟩
    · rw [hentry]
      exact seq_ok.mpr ⟨require_ok.mpr hsize, rfl⟩

/-! ## The shape of a Read Set -/

theorem validateDigest_hex (digest : Digest) : validateDigest (hexDigest digest) = .ok () := by
  unfold validateDigest
  rw [require_ok]
  have hascii : ∀ c ∈ (hexDigest digest).toList, c.utf8Size = 1 := by
    intro c hc
    have hlow := isHexDigest_ascii (hexDigest_chars digest c hc)
    have hle : c.val.toNat ≤ 127 := Nat.le_of_lt_succ hlow
    rw [Char.utf8Size, if_pos (UInt32.le_iff_toNat_le.mpr hle)]
  refine ⟨by rw [byteLen_ascii hascii, hexDigest_length], ?_⟩
  rw [List.all_eq_true]
  intro c hc
  have hhex := hexDigest_chars digest c hc
  unfold isHexDigest at hhex
  unfold isAsciiHexdigit
  rw [hhex, Bool.true_or]

theorem validateEntries_ok (entries : List ReadSetEntry) : ∀ {previous : Option String},
    ReadSet.validateEntries entries previous = .ok () ↔
      (∀ entry ∈ entries, ValidPath entry.path ∧ entry.bytes ≤ maxReadSetFileBytes ∧ validateDigest entry.digest = .ok ()) ∧
      (previous.toList ++ entries.map (·.path)).IsChain (· < ·) := by
  induction entries with
  | nil =>
    intro previous
    cases previous <;> simp [ReadSet.validateEntries]
  | cons entry entries ih =>
    intro previous
    unfold ReadSet.validateEntries
    simp only [bind_ok, exists_unit, validateRelativePath_ok, require_ok, ih, List.forall_mem_cons, List.map_cons, Option.toList_some,
      List.singleton_append]
    constructor
    · intro hall
      obtain ⟨_, ⟨hpath, _⟩, hsize, hdigest, hprevious, hall, hchain⟩ := hall
      refine ⟨⟨⟨hpath, hsize, hdigest⟩, hall⟩, ?_⟩
      cases previous with
      | none => exact hchain
      | some before => exact List.isChain_cons_cons.mpr ⟨by simpa using hprevious, hchain⟩
    · intro hall
      obtain ⟨⟨⟨hpath, hsize, hdigest⟩, hall⟩, hchain⟩ := hall
      cases previous with
      | none => exact ⟨_, ⟨hpath, rfl⟩, hsize, hdigest, rfl, hall, hchain⟩
      | some before =>
        obtain ⟨hlt, hchain⟩ := List.isChain_cons_cons.mp hchain
        exact ⟨_, ⟨hpath, rfl⟩, hsize, hdigest, by simpa using hlt, hall, hchain⟩

/-- What `validate_shape` says of the digests. -/
theorem validateShape_digests {readSet : ReadSet} (h : readSet.validateShape sha256 = .ok ()) :
    revisionForEntries sha256 readSet.entries = readSet.observedRevision ∧
      readSetIdOf sha256 readSet.worktreeId readSet.observedRevision = readSet.readSetId := by
  unfold ReadSet.validateShape at h
  simp only [bind_ok, exists_unit, require_ok] at h
  exact ⟨h.2.2.2.2.2.2.1, h.2.2.2.2.2.2.2⟩

/-- (3) What comes from JSON has the revision and the id of its entries. -/
theorem fromJsonReader_shape {fromSlice : List Byte → Option ReadSet} {bytes : List Byte} {readSet : ReadSet}
    (h : ReadSet.fromJsonReader sha256 fromSlice bytes = .ok readSet) :
    revisionForEntries sha256 readSet.entries = readSet.observedRevision ∧
      readSetIdOf sha256 readSet.worktreeId readSet.observedRevision = readSet.readSetId := by
  unfold ReadSet.fromJsonReader at h
  obtain ⟨_, h⟩ := seq_ok.mp h
  obtain ⟨parsed, _, h⟩ := bind_ok.mp h
  obtain ⟨hshape, h⟩ := seq_ok.mp h
  cases h
  exact validateShape_digests hshape

/-! ## Validation -/

theorem checkEntries_ok (entries : List ReadSetEntry) : ∀ {current : List ReadSetEntry} {stalePaths : List String},
    ReadSet.checkEntries sha256 fs root entries = .ok (current, stalePaths) → stalePaths = [] →
      current = entries ∧ ∀ entry ∈ entries, readEntry sha256 fs root entry.path = .ok entry := by
  induction entries with
  | nil =>
    intro current stalePaths h _
    cases h
    exact ⟨rfl, fun _ hmem => by cases hmem⟩
  | cons expected rest ih =>
    intro current stalePaths h hstale
    unfold ReadSet.checkEntries at h
    split at h
    · rename_i actual hread
      split at h
      · rename_i hsame
        obtain ⟨⟨current', stale'⟩, hrest, h⟩ := bind_ok.mp h
        cases h
        obtain ⟨hcurrent, hall⟩ := ih hrest hstale
        refine ⟨by rw [hsame, hcurrent], List.forall_mem_cons.mpr ⟨by rw [hread, hsame], hall⟩⟩
      · obtain ⟨⟨current', stale'⟩, _, h⟩ := bind_ok.mp h
        cases h
        cases hstale
    · split at h
      · obtain ⟨⟨current', stale'⟩, _, h⟩ := bind_ok.mp h
        cases h
        cases hstale
      · cases h

theorem checkEntries_fresh {entries : List ReadSetEntry} (h : ∀ entry ∈ entries, readEntry sha256 fs root entry.path = .ok entry) :
    ReadSet.checkEntries sha256 fs root entries = .ok (entries, []) := by
  induction entries with
  | nil => rfl
  | cons expected rest ih =>
    obtain ⟨hread, hrest⟩ := List.forall_mem_cons.mp h
    unfold ReadSet.checkEntries
    simp only [hread, ih hrest, if_true]
    rfl

theorem validateBeforeMutation_ok {readSet : ReadSet} : readSet.validateBeforeMutation sha256 fs root = .ok () ↔
    readSet.validateShape sha256 = .ok () ∧ (readSet.workspaceId = root.workspaceId sha256 ∧ readSet.worktreeId = root.worktreeId sha256) ∧
      ∀ entry ∈ readSet.entries, readEntry sha256 fs root entry.path = .ok entry := by
  unfold ReadSet.validateBeforeMutation ReadSet.validate
  constructor
  · intro h
    obtain ⟨result, h, hresult⟩ := bind_ok.mp h
    obtain ⟨hshape, h⟩ := seq_ok.mp h
    obtain ⟨hidentity, h⟩ := seq_ok.mp h
    obtain ⟨⟨current, stalePaths⟩, hcheck, h⟩ := bind_ok.mp h
    cases h
    exact ⟨hshape, require_ok.mp hidentity, (checkEntries_ok _ hcheck (require_ok.mp hresult).1).2⟩
  · intro ⟨hshape, hidentity, hall⟩
    rw [hshape, ok_bind, require_bind hidentity, checkEntries_fresh hall]
    exact require_ok.mpr ⟨rfl, (validateShape_digests hshape).1⟩

/-! ## Captured Read Sets -/

theorem captureEntries_ok (paths : List String) : ∀ {count : Nat} {entries : List ReadSetEntry}, count ≤ maxReadSetEntries →
    ReadSet.captureEntries sha256 fs root paths count = .ok entries →
      (∀ entry ∈ entries, readEntry sha256 fs root entry.path = .ok entry) ∧ count + entries.length ≤ maxReadSetEntries := by
  induction paths with
  | nil =>
    intro count entries hcount h
    cases h
    exact ⟨fun _ hmem => absurd hmem List.not_mem_nil, hcount⟩
  | cons path paths ih =>
    intro count entries hcount h
    unfold ReadSet.captureEntries at h
    obtain ⟨hroom, h⟩ := seq_ok.mp h
    obtain ⟨_, _, h⟩ := bind_ok.mp h
    obtain ⟨entry, hentry, h⟩ := bind_ok.mp h
    obtain ⟨rest, hrest, h⟩ := bind_ok.mp h
    cases h
    rw [require_ok] at hroom
    obtain ⟨hall, hlen⟩ := ih (by omega) hrest
    have hpath : entry.path = path := by
      obtain ⟨_, _, _, _, rfl⟩ := readEntry_ok.mp hentry
      rfl
    refine ⟨List.forall_mem_cons.mpr ⟨by rw [hpath, hentry], hall⟩, ?_⟩
    rw [List.length_cons]
    omega

/-- Sorted, with no neighbours equal: strictly sorted. -/
theorem isChain_lt {l : List String} (hle : l.IsChain (· ≤ ·)) (hne : l.IsChain (· ≠ ·)) : l.IsChain (· < ·) := by
  induction l with
  | nil => exact .nil
  | cons a l ih =>
    cases l with
    | nil => exact .singleton a
    | cons b l =>
      obtain ⟨hle', hle⟩ := List.isChain_cons_cons.mp hle
      obtain ⟨hne', hne⟩ := List.isChain_cons_cons.mp hne
      exact List.isChain_cons_cons.mpr ⟨lt_of_le_of_ne hle' hne', ih hle hne⟩

variable {paths : List String} {readSet : ReadSet}

/-- A captured Read Set: its ids, and its entries as they are read. -/
theorem capture_ok (h : ReadSet.capture sha256 fs root paths = .ok readSet) :
    readSet.validateShape sha256 = .ok () ∧ (readSet.workspaceId = root.workspaceId sha256 ∧ readSet.worktreeId = root.worktreeId sha256) ∧
      ∀ entry ∈ readSet.entries, readEntry sha256 fs root entry.path = .ok entry := by
  unfold ReadSet.capture at h
  obtain ⟨entries, hentries, h⟩ := bind_ok.mp h
  obtain ⟨hchain, h⟩ := seq_ok.mp h
  cases h
  rw [require_ok] at hchain
  obtain ⟨hall, hlen⟩ := captureEntries_ok paths (Nat.zero_le _) hentries
  have hperm := List.perm_insertionSort (fun left right : ReadSetEntry => left.path ≤ right.path) entries
  have hread : ∀ entry ∈ entries.insertionSort fun left right => left.path ≤ right.path, readEntry sha256 fs root entry.path = .ok entry :=
    fun entry hmem => hall entry (hperm.mem_iff.mp hmem)
  have hsorted : ((entries.insertionSort fun left right => left.path ≤ right.path).map (·.path)).IsChain (· ≤ ·) := by
    have htotal : Std.Total fun left right : ReadSetEntry => left.path ≤ right.path := ⟨fun left right => le_total left.path right.path⟩
    have htrans : IsTrans ReadSetEntry fun left right => left.path ≤ right.path := ⟨fun _ _ _ => le_trans⟩
    exact (List.pairwise_map.mpr (List.pairwise_insertionSort _ entries)).isChain
  refine ⟨?_, ⟨rfl, rfl⟩, hread⟩
  unfold ReadSet.validateShape
  simp only [bind_ok, exists_unit, require_ok, validateEntries_ok, Option.toList_none, List.nil_append]
  refine ⟨validateDigest_hex _, validateDigest_hex _, validateDigest_hex _, validateDigest_hex _, ?_, ⟨?_, isChain_lt hsorted hchain⟩, trivial, trivial⟩
  · rw [hperm.length_eq]
    omega
  · intro entry hmem
    obtain ⟨hpath, bytes, _, hsize, hentry⟩ := readEntry_ok.mp (hread entry hmem)
    rw [hentry]
    exact ⟨hpath, hsize, validateDigest_hex _⟩

/-! ## Staleness -/

/-- What a path names, as far as it is a regular file. -/
def FileSystem.contents (fs : FileSystem) (path : String) : List (List Byte) :=
  match fs.node (components path) with
  | some (.regular bytes) => [bytes]
  | _ => []

/-- The contents that the digests of a check are taken of. -/
def contentsOf (fs fs' : FileSystem) (entries : List ReadSetEntry) : List (List Byte) :=
  entries.flatMap fun entry => fs.contents entry.path ++ fs'.contents entry.path

theorem FileSystem.Names.contents {path : String} {bytes : List Byte} (h : fs.Names root path bytes) : fs.contents path = [bytes] := by
  unfold FileSystem.contents
  rw [h.file]

/-- The entry still names what it named. -/
def Unchanged (fs fs' : FileSystem) (root : WorkspaceRoot) (entry : ReadSetEntry) : Prop :=
  ∃ bytes, fs.Names root entry.path bytes ∧ fs'.Names root entry.path bytes

theorem readEntry_unchanged {fs' : FileSystem} {entry : ReadSetEntry} (hbefore : readEntry sha256 fs root entry.path = .ok entry)
    (hfree : CollisionFree sha256 (fs.contents entry.path ++ fs'.contents entry.path)) :
    readEntry sha256 fs' root entry.path = .ok entry ↔ Unchanged fs fs' root entry := by
  obtain ⟨hpath, bytes, hnames, hsize, hentry⟩ := readEntry_ok.mp hbefore
  constructor
  · intro hafter
    obtain ⟨_, bytes', hnames', _, hentry'⟩ := readEntry_ok.mp hafter
    have hdigest : sha256Digest sha256 bytes = sha256Digest sha256 bytes' := congrArg ReadSetEntry.digest (hentry.symm.trans hentry')
    have hsame : bytes = bytes' := by
      refine hfree _ ?_ _ ?_ (hexDigest_inj hdigest)
      · rw [hnames.contents]
        exact List.mem_append_left _ List.mem_cons_self
      · rw [hnames'.contents]
        exact List.mem_append_right _ List.mem_cons_self
    exact ⟨bytes, hnames, hsame ▸ hnames'⟩
  · intro ⟨bytes', hnames', hafter⟩
    rw [hnames'.unique hnames] at hafter
    exact readEntry_ok.mpr ⟨hpath, bytes, hafter, hsize, hentry⟩

/-- (1) A captured Read Set is valid exactly where nothing it lists has changed. -/
theorem validateBeforeMutation_captured {fs' : FileSystem} (hcapture : ReadSet.capture sha256 fs root paths = .ok readSet)
    (hfree : CollisionFree sha256 (contentsOf fs fs' readSet.entries)) :
    readSet.validateBeforeMutation sha256 fs' root = .ok () ↔ ∀ entry ∈ readSet.entries, Unchanged fs fs' root entry := by
  obtain ⟨hshape, hidentity, hread⟩ := capture_ok hcapture
  have heach : ∀ entry ∈ readSet.entries, (readEntry sha256 fs' root entry.path = .ok entry ↔ Unchanged fs fs' root entry) := by
    intro entry hmem
    refine readEntry_unchanged (hread entry hmem) (hfree.subset fun text htext => ?_)
    exact List.mem_flatMap.mpr ⟨entry, hmem, htext⟩
  rw [validateBeforeMutation_ok]
  constructor
  · intro ⟨_, _, hall⟩ entry hmem
    exact (heach entry hmem).mp (hall entry hmem)
  · intro hall
    exact ⟨hshape, hidentity, fun entry hmem => (heach entry hmem).mpr (hall entry hmem)⟩

/-! ## Which root a lease is of -/

/-- The texts of a root's two ids. -/
def identityTexts (root : WorkspaceRoot) : List (List Byte) :=
  [taggedText "workspace" (utf8 root.path), taggedText "worktree" (utf8 root.worktreeIdentity)]

theorem repr_no_colon (n : Nat) : ':' ∉ n.repr.toList := by
  intro hc
  rw [Nat.toList_repr] at hc
  have hdigit := Nat.isDigit_of_mem_toDigits (by decide) (by decide) hc
  revert hdigit
  decide

theorem repr_inj {m n : Nat} (h : m.repr.toList = n.repr.toList) : m = n := by
  rw [Nat.toList_repr, Nat.toList_repr] at h
  rw [← Nat.ofDigitChars_ten_toDigits (n := m), h, Nat.ofDigitChars_ten_toDigits]

/-- Roots with the same ids are one. -/
theorem root_of_ids {root root' : WorkspaceRoot} (hfree : CollisionFree sha256 (identityTexts root ++ identityTexts root'))
    (hworkspace : root.workspaceId sha256 = root'.workspaceId sha256) (hworktree : root.worktreeId sha256 = root'.worktreeId sha256) :
    root = root' := by
  have hpath : root.path = root'.path := by
    have htext := hfree _ (by simp [identityTexts]) _ (by simp [identityTexts]) (hexDigest_inj hworkspace)
    exact utf8_inj (List.append_cancel_left htext)
  have hidentity : root.worktreeIdentity = root'.worktreeIdentity := by
    have htext := hfree _ (by simp [identityTexts]) _ (by simp [identityTexts]) (hexDigest_inj hworktree)
    exact utf8_inj (List.append_cancel_left htext)
  have hlist := congrArg String.toList hidentity
  simp only [WorkspaceRoot.worktreeIdentity, hpath, String.toList_append, List.append_assoc] at hlist
  have hrest := List.append_cancel_left hlist
  obtain ⟨hdevice, hinode⟩ := append_sep_inj (repr_no_colon _) (repr_no_colon _) (List.append_cancel_left hrest)
  have hdev : root.device = root'.device := repr_inj hdevice
  have hino : root.inode = root'.inode := repr_inj hinode
  cases root
  cases root'
  cases hpath
  cases hdev
  cases hino
  rfl

/-! ## Writes -/

variable {lease : WorkspaceLease} {path : String} {bytes : List Byte}

theorem checkApply_ok {relative : List String} (h : lease.checkApply sha256 fs root readSet path bytes = .ok relative) :
    lease.access = .readWrite ∧ (lease.workspaceId = root.workspaceId sha256 ∧ lease.worktreeId = root.worktreeId sha256) ∧
      readSet.validateBeforeMutation sha256 fs root = .ok () ∧ (∃ entry ∈ readSet.entries, entry.path = path) ∧
      relative = components path := by
  unfold WorkspaceLease.checkApply WorkspaceLease.validateBeforeMutation WorkspaceLease.ensureRoot at h
  obtain ⟨hlease, h⟩ := seq_ok.mp h
  obtain ⟨haccess, hlease⟩ := seq_ok.mp hlease
  obtain ⟨hroot, hvalid⟩ := seq_ok.mp hlease
  obtain ⟨_, h⟩ := seq_ok.mp h
  obtain ⟨target, htarget, h⟩ := bind_ok.mp h
  obtain ⟨hlisted, h⟩ := seq_ok.mp h
  obtain ⟨node, _, h⟩ := bind_ok.mp h
  rw [require_ok] at haccess hroot hlisted
  have hentry : ∃ entry ∈ readSet.entries, entry.path = path := by
    obtain ⟨entry, hmem, hentry⟩ := List.any_eq_true.mp hlisted
    exact ⟨entry, hmem, beq_iff_eq.mp hentry⟩
  have hrelative : relative = target := by
    cases node with
    | regular _ => cases h; rfl
    | directory => cases h
    | symlink _ => cases h
  exact ⟨haccess, hroot, hvalid, hentry, hrelative.trans (validateRelativePath_ok.mp htarget).2⟩

/-- What a change by `apply_file` took, and what it left. -/
structure GuardedWrite (sha256 : Sha256) (fs : FileSystem) (leased root : WorkspaceRoot) (lease : WorkspaceLease) (readSet : ReadSet)
    (path : String) (bytes : List Byte) (next : FileSystem) : Prop where
  valid : readSet.validateBeforeMutation sha256 fs root = .ok ()
  writer : lease.access = .readWrite
  same_root : leased = root
  listed : ∃ entry ∈ readSet.entries, entry.path = path
  written : next.node (components path) = some (.regular bytes)
  others : ∀ other, other ≠ components path → next.node other = fs.node other
  root_kept : next.root = fs.root

/-- (2) `apply_file` changes nothing, or one file behind every check. -/
theorem applyFile_changes {leased : WorkspaceRoot} {before : FileSystem} {access : WorkspaceAccess} {lock : Except WorkspaceError Unit}
    {nonce : String} {committed : Bool} (hlease : leased.acquireLease sha256 before access lock nonce = .ok lease)
    (hfree : CollisionFree sha256 (identityTexts leased ++ identityTexts root))
    (hchange : (lease.applyFile sha256 fs root readSet path bytes committed).1 ≠ fs) :
    GuardedWrite sha256 fs leased root lease readSet path bytes (lease.applyFile sha256 fs root readSet path bytes committed).1 := by
  have hids : lease.workspaceId = leased.workspaceId sha256 ∧ lease.worktreeId = leased.worktreeId sha256 := by
    unfold WorkspaceRoot.acquireLease at hlease
    obtain ⟨_, hlease⟩ := seq_ok.mp hlease
    obtain ⟨_, hlease⟩ := seq_ok.mp hlease
    cases hlease
    exact ⟨rfl, rfl⟩
  unfold WorkspaceLease.applyFile at hchange ⊢
  cases hcheck : lease.checkApply sha256 fs root readSet path bytes with
  | error error =>
    rw [hcheck] at hchange
    exact absurd rfl hchange
  | ok relative =>
    rw [hcheck] at hchange
    obtain ⟨haccess, hroot, hvalid, hentry, rfl⟩ := checkApply_ok hcheck
    cases committed with
    | false => exact absurd rfl hchange
    | true =>
      refine ⟨hvalid, haccess, root_of_ids hfree (hids.1.symm.trans hroot.1) (hids.2.symm.trans hroot.2), hentry, ?_, fun other hne => ?_, rfl⟩
      · exact if_pos rfl
      · exact if_neg hne

/-- Staleness is exact and guards the write, and a Read Set from JSON is that of its entries. -/
theorem stale_writes_refused (sha256 : Sha256) :
    (∀ fs fs' root paths readSet, ReadSet.capture sha256 fs root paths = .ok readSet →
      CollisionFree sha256 (contentsOf fs fs' readSet.entries) →
      (readSet.validateBeforeMutation sha256 fs' root = .ok () ↔ ∀ entry ∈ readSet.entries, Unchanged fs fs' root entry)) ∧
    (∀ fs leased root before access lock nonce lease readSet path bytes committed,
      leased.acquireLease sha256 before access lock nonce = .ok lease →
      CollisionFree sha256 (identityTexts leased ++ identityTexts root) →
      (lease.applyFile sha256 fs root readSet path bytes committed).1 ≠ fs →
      GuardedWrite sha256 fs leased root lease readSet path bytes (lease.applyFile sha256 fs root readSet path bytes committed).1) ∧
    (∀ fromSlice bytes readSet, ReadSet.fromJsonReader sha256 fromSlice bytes = .ok readSet →
      revisionForEntries sha256 readSet.entries = readSet.observedRevision ∧
        readSetIdOf sha256 readSet.worktreeId readSet.observedRevision = readSet.readSetId) :=
  ⟨fun _ _ _ _ _ => validateBeforeMutation_captured, fun _ _ _ _ _ _ _ _ _ _ _ _ => applyFile_changes, fun _ _ _ => fromJsonReader_shape⟩

end GreenTyper.Workspace
