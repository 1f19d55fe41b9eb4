/-
  GreenTyper.Workspace.Model — workspace roots, leases and Read Sets (`workspace.rs`).

  The file system is what is found under the root: a map from component paths to regular
  files, directories and symbolic links. A path is opened one component after another below
  the root, and no link is followed. The hash function is an argument; the text of a digest
  is in lower-case hexadecimal.
-/

import GreenTyper.Lib.Hex
import GreenTyper.Lib.Result
import Mathlib.Data.List.Sort

namespace GreenTyper.Workspace

open Lib

def maxRelativePathBytes : Nat := 512
def maxReadSetEntries : Nat := 1024
def maxReadSetJsonBytes : Nat := 1024 * 1024
def maxReadSetFileBytes : Nat := 16 * 1024 * 1024
def maxWorkspaceWriteBytes : Nat := maxReadSetFileBytes

inductive WorkspaceError where
  | missingPath
  | symlinkPath
  | notRegularFile
  | invalidRelativePath
  | tooLarge
  | tooManyEntries
  | duplicatePath
  | locked
  | writeLeaseRequired
  | identityMismatch
  | staleReadSet (changedPaths : List String)
  | readSetPathRequired
  | corrupt
  | io
  deriving DecidableEq

/-! ## Digests -/

def sha256Digest (sha256 : Sha256) (value : List Byte) : String := hexDigest (sha256 value)

def taggedText (tag : String) (value : List Byte) : List Byte := utf8 tag ++ [0] ++ value

def hashTagged (sha256 : Sha256) (tag : String) (value : List Byte) : String := hexDigest (sha256 (taggedText tag value))

/-- `u8::is_ascii_hexdigit`. -/
def isAsciiHexdigit (c : Char) : Bool := ('0' ≤ c && c ≤ '9') || ('a' ≤ c && c ≤ 'f') || ('A' ≤ c && c ≤ 'F')

def validateDigest (value : String) : Except WorkspaceError Unit :=
  require (byteLen value = 64 ∧ value.toList.all isAsciiHexdigit) .corrupt

/-! ## Roots and leases -/

inductive WorkspaceAccess where
  | readOnly
  | readWrite
  deriving DecidableEq

/-- An opened root: its canonical path and its device and inode. -/
structure WorkspaceRoot where
  path : String
  device : Nat
  inode : Nat
  deriving DecidableEq

/-- `format!("{bytes}:{device}:{inode}")`. -/
def WorkspaceRoot.worktreeIdentity (root : WorkspaceRoot) : String := root.path ++ ":" ++ root.device.repr ++ ":" ++ root.inode.repr

def WorkspaceRoot.workspaceId (sha256 : Sha256) (root : WorkspaceRoot) : String := hashTagged sha256 "workspace" (utf8 root.path)

def WorkspaceRoot.worktreeId (sha256 : Sha256) (root : WorkspaceRoot) : String :=
  hashTagged sha256 "worktree" (utf8 root.worktreeIdentity)

structure WorkspaceLease where
  leaseId : String
  workspaceId : String
  worktreeId : String
  access : WorkspaceAccess
  deriving DecidableEq

/-! ## The file system -/

inductive Node where
  | regular (bytes : List Byte)
  | directory
  | symlink (target : String)
  deriving DecidableEq

/-- What is at the path of the root. -/
inductive RootNode where
  | missing
  | directory (device inode : Nat)
  | other
  deriving DecidableEq

structure FileSystem where
  root : RootNode
  node : List String → Option Node

/-- A regular file with these bytes in place of what is there. -/
def FileSystem.write (fs : FileSystem) (path : List String) (bytes : List Byte) : FileSystem :=
  { fs with node := fun p => if p = path then some (.regular bytes) else fs.node p }

/-- `Path::components` of a relative path: the names between slashes, without empty names and
    single dots. -/
def components (path : String) : List String :=
  ((path.toList.splitOn '/').map String.ofList).filter fun part => part ≠ "" ∧ part ≠ "."

/-- The components of a path that is relative and only goes down. -/
def validateRelativePath (path : String) : Except WorkspaceError (List String) := do
  require (path ≠ "" ∧ byteLen path ≤ maxRelativePathBytes ∧ path.toList.any isControl = false) .invalidRelativePath
  let parts := path.toList.splitOn '/'
  require (path.toList.head? ≠ some '/' ∧ parts.head? ≠ some ['.'] ∧ ['.', '.'] ∉ parts) .invalidRelativePath
  return components path

def openRootDirectory (fs : FileSystem) (root : WorkspaceRoot) : Except WorkspaceError Unit :=
  match fs.root with
  | .missing => .error .missingPath
  | .other => .error .notRegularFile
  | .directory device inode => require (device = root.device ∧ inode = root.inode) .identityMismatch

/-- The loop of `open_relative_file`; a link on the way is no directory, a link at the end is
    not followed. -/
def openComponents (fs : FileSystem) : List String → List String → Except WorkspaceError Node
  | _, [] => .error .invalidRelativePath
  | directory, [part] =>
    match fs.node (directory ++ [part]) with
    | none => .error .missingPath
    | some (.symlink _) => .error .symlinkPath
    | some node => .ok node
  | directory, part :: rest =>
    match fs.node (directory ++ [part]) with
    | none => .error .missingPath
    | some .directory => openComponents fs (directory ++ [part]) rest
    | some _ => .error .notRegularFile

def openRelativeFile (fs : FileSystem) (root : WorkspaceRoot) (relative : List String) : Except WorkspaceError Node := do
  openRootDirectory fs root
  openComponents fs [] relative

def WorkspaceRoot.acquireLease (sha256 : Sha256) (fs : FileSystem) (root : WorkspaceRoot) (access : WorkspaceAccess)
    (lock : Except WorkspaceError Unit) (nonce : String) : Except WorkspaceError WorkspaceLease := do
  openRootDirectory fs root
  lock
  return {
    leaseId := hashTagged sha256 "lease" (utf8 (root.worktreeId sha256 ++ ":" ++ nonce))
    workspaceId := root.workspaceId sha256
    worktreeId := root.worktreeId sha256
    access }

/-! ## Read Sets -/

structure ReadSetEntry where
  path : String
  bytes : Nat
  digest : String
  deriving DecidableEq

structure ReadSet where
  readSetId : String
  workspaceId : String
  worktreeId : String
  observedRevision : String
  entries : List ReadSetEntry
  deriving DecidableEq

structure ReadSetValidation where
  readSetId : String
  workspaceId : String
  worktreeId : String
  currentRevision : String
  stalePaths : List String
  valid : Bool
  deriving DecidableEq

def readEntry (sha256 : Sha256) (fs : FileSystem) (root : WorkspaceRoot) (path : String) : Except WorkspaceError ReadSetEntry := do
  let relative ← validateRelativePath path
  let node ← openRelativeFile fs root relative
  match node with
  | .regular bytes => do
    require (bytes.length ≤ maxReadSetFileBytes) .tooLarge
    return ⟨path, bytes.length, sha256Digest sha256 bytes⟩
  | _ => .error .notRegularFile

def entryText (entry : ReadSetEntry) : List Byte := utf8 entry.path ++ [0] ++ leBytes 8 entry.bytes ++ utf8 entry.digest ++ [0xff]

def revisionForEntries (sha256 : Sha256) (entries : List ReadSetEntry) : String := hexDigest (sha256 (entries.flatMap entryText))

/-- The id of a Read Set: a digest of its worktree and its revision. -/
def readSetIdOf (sha256 : Sha256) (worktreeId revision : String) : String :=
  hashTagged sha256 "read-set" (utf8 (worktreeId ++ ":" ++ revision))

namespace ReadSet

/-- The loop of `capture`, with the number of entries so far. -/
def captureEntries (sha256 : Sha256) (fs : FileSystem) (root : WorkspaceRoot) :
    List String → Nat → Except WorkspaceError (List ReadSetEntry)
  | [], _ => .ok []
  | path :: paths, count => do
    require (count ≠ maxReadSetEntries) .tooManyEntries
    let _ ← validateRelativePath path
    let entry ← readEntry sha256 fs root path
    let entries ← captureEntries sha256 fs root paths (count + 1)
    return entry :: entries

def capture (sha256 : Sha256) (fs : FileSystem) (root : WorkspaceRoot) (paths : List String) : Except WorkspaceError ReadSet := do
  let entries ← captureEntries sha256 fs root paths 0
  let entries := entries.insertionSort fun left right => left.path ≤ right.path
  require ((entries.map (·.path)).IsChain (· ≠ ·)) .duplicatePath
  let observedRevision := revisionForEntries sha256 entries
  return {
    readSetId := readSetIdOf sha256 (root.worktreeId sha256) observedRevision
    workspaceId := root.workspaceId sha256
    worktreeId := root.worktreeId sha256
    observedRevision, entries }

/-- The loop of `validate_shape`, with the path before. -/
def validateEntries : List ReadSetEntry → Option String → Except WorkspaceError Unit
  | [], _ => .ok ()
  | entry :: entries, previous => do
    let _ ← validateRelativePath entry.path
    require (entry.bytes ≤ maxReadSetFileBytes) .tooLarge
    validateDigest entry.digest
    require (previous.all (· < entry.path)) .duplicatePath
    validateEntries entries (some entry.path)

def validateShape (sha256 : Sha256) (readSet : ReadSet) : Except WorkspaceError Unit := do
  validateDigest readSet.workspaceId
  validateDigest readSet.worktreeId
  validateDigest readSet.readSetId
  validateDigest readSet.observedRevision
  require (readSet.entries.length ≤ maxReadSetEntries) .tooManyEntries
  validateEntries readSet.entries none
  require (revisionForEntries sha256 readSet.entries = readSet.observedRevision) .corrupt
  require (readSetIdOf sha256 readSet.worktreeId readSet.observedRevision = readSet.readSetId) .corrupt

/-- The loop of `validate`: the entries that are as they were, and the paths of the others. -/
def checkEntries (sha256 : Sha256) (fs : FileSystem) (root : WorkspaceRoot) :
    List ReadSetEntry → Except WorkspaceError (List ReadSetEntry × List String)
  | [] => .ok ([], [])
  | expected :: rest =>
    match readEntry sha256 fs root expected.path with
    | .ok actual =>
      if actual = expected then do
        let (current, stalePaths) ← checkEntries sha256 fs root rest
        return (actual :: current, stalePaths)
      else do
        let (current, stalePaths) ← checkEntries sha256 fs root rest
        return (current, expected.path :: stalePaths)
    | .error error =>
      if error = .missingPath ∨ error = .symlinkPath ∨ error = .notRegularFile then do
        let (current, stalePaths) ← checkEntries sha256 fs root rest
        return (current, expected.path :: stalePaths)
      else .error error

def validate (sha256 : Sha256) (fs : FileSystem) (readSet : ReadSet) (root : WorkspaceRoot) : Except WorkspaceError ReadSetValidation := do
  readSet.validateShape sha256
  require (readSet.workspaceId = root.workspaceId sha256 ∧ readSet.worktreeId = root.worktreeId sha256) .identityMismatch
  let (current, stalePaths) ← checkEntries sha256 fs root readSet.entries
  let currentRevision := revisionForEntries sha256 current
  return {
    readSetId := readSet.readSetId
    workspaceId := root.workspaceId sha256
    worktreeId := root.worktreeId sha256
    currentRevision, stalePaths
    valid := stalePaths.isEmpty && currentRevision == readSet.observedRevision }

def validateBeforeMutation (sha256 : Sha256) (fs : FileSystem) (readSet : ReadSet) (root : WorkspaceRoot) : Except WorkspaceError Unit := do
  let result ← readSet.validate sha256 fs root
  require (result.stalePaths = [] ∧ result.currentRevision = readSet.observedRevision) (.staleReadSet result.stalePaths)

/-- `fromSlice` is what serde_json makes of the bytes. -/
def fromJsonReader (sha256 : Sha256) (fromSlice : List Byte → Option ReadSet) (bytes : List Byte) : Except WorkspaceError ReadSet := do
  require (bytes.length ≤ maxReadSetJsonBytes) .tooLarge
  let readSet ← okOr (fromSlice bytes) .corrupt
  readSet.validateShape sha256
  return readSet

end ReadSet

/-! ## Writes -/

structure WorkspaceWriteResult where
  path : String
  bytes : Nat
  digest : String
  readSetId : String
  deriving DecidableEq

namespace WorkspaceLease

def ensureRoot (sha256 : Sha256) (lease : WorkspaceLease) (root : WorkspaceRoot) : Except WorkspaceError Unit :=
  require (lease.workspaceId = root.workspaceId sha256 ∧ lease.worktreeId = root.worktreeId sha256) .identityMismatch

def validateBeforeMutation (sha256 : Sha256) (fs : FileSystem) (lease : WorkspaceLease) (root : WorkspaceRoot) (readSet : ReadSet) :
    Except WorkspaceError Unit := do
  require (lease.access = .readWrite) .writeLeaseRequired
  lease.ensureRoot sha256 root
  readSet.validateBeforeMutation sha256 fs root

/-- The checks of `apply_file`: the components of the file to replace. -/
def checkApply (sha256 : Sha256) (fs : FileSystem) (lease : WorkspaceLease) (root : WorkspaceRoot) (readSet : ReadSet) (path : String)
    (bytes : List Byte) : Except WorkspaceError (List String) := do
  lease.validateBeforeMutation sha256 fs root readSet
  require (bytes.length ≤ maxWorkspaceWriteBytes) .tooLarge
  let relative ← validateRelativePath path
  require (readSet.entries.any (·.path == path)) .readSetPathRequired
  let target ← openRelativeFile fs root relative
  match target with
  | .regular _ => return relative
  | _ => .error .notRegularFile

/-- `committed` is whether the atomic write went through; one that fails leaves the file. -/
def applyFile (sha256 : Sha256) (fs : FileSystem) (lease : WorkspaceLease) (root : WorkspaceRoot) (readSet : ReadSet) (path : String)
    (bytes : List Byte) (committed : Bool) : FileSystem × Except WorkspaceError WorkspaceWriteResult :=
  match lease.checkApply sha256 fs root readSet path bytes with
  | .error error => (fs, .error error)
  | .ok relative =>
    if committed then
      (fs.write relative bytes, .ok ⟨path, bytes.length, sha256Digest sha256 bytes, readSet.readSetId⟩)
    else (fs, .error .io)

end WorkspaceLease

end GreenTyper.Workspace
