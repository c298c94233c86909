import AttackSharkX3.Effects.Store
import AttackSharkX3.Validate
/-!
# Disk — the store in a file, and in memory

A transaction on disk locks the directory, loads the state file, and replaces it by renaming a temporary file over it.  Each
step may fail; a file that cannot be loaded is kept as a backup when it is discarded.  Documents are bytes by way of serde,
which is a parameter.
-/
namespace AttackSharkX3

open Effects (Request Store)

abbrev FileBytes : Type := List UInt8

/-- **The files next to the state file**, by name. -/
abbrev Directory : Type := BTreeMap String FileBytes

/-- What `serde_json` does with the bytes of a state file. -/
class SerdeJson where
  schemaHeader : FileBytes → Except StateError Nat
  stateFile : FileBytes → Except StateError StateFile
  toVecPretty : StateFile → Except StateError FileBytes

/-- Where a state file is. -/
structure StatePaths where
  parent : String
  fileName : String

def LOCK_FILE_NAME : String := "state.lock"

namespace StatePaths

def stateFile (paths : StatePaths) : String := s!"{paths.parent}/{paths.fileName}"

end StatePaths

/-! ## The file system -/

/-- The steps of a call that may fail. -/
inductive FileStep where
  /-- Creating, opening and locking the lock file. -/
  | lock
  /-- Reading the state file where there is one. -/
  | read
  /-- Creating the directory. -/
  | parent
  /-- Creating the temporary file. -/
  | temp
  /-- Writing and syncing the temporary file. -/
  | write
  /-- Removing the temporary file after a failure. -/
  | remove
  | rename
  /-- Syncing the directory after the rename. -/
  | sync
  /-- Creating the directory of a backup, or the backup. -/
  | backup
  /-- Writing, flushing and syncing a backup. -/
  | backupWrite
deriving DecidableEq

/-- **How the file system answers during one call**: the steps that fail, the stamp of a new temporary file's name, and
what a write that fails leaves. -/
structure FileSystem where
  fails : FileStep → Option StateError
  stamp : String → Directory → String
  torn : FileBytes
  /-- `create_new` does not take a name that is taken. -/
  fresh : ∀ (fileName : String) (dir : Directory), dir.contains s!".{fileName}.tmp.{stamp fileName dir}" = false

/-- A file operation: what it changed stays changed when it fails. -/
abbrev FileOp (α : Type) : Type := ExceptT StateError (StateM Directory) α

/-- The answer of the operation and the directory it leaves. -/
def FileOp.apply {α : Type} (op : FileOp α) (dir : Directory) : Except StateError α × Directory := op.run.run dir

/-- An error of a step that does not touch a file. -/
def FileOp.lift {α : Type} : Except StateError α → FileOp α
  | .ok a => pure a
  | .error e => throw e

namespace FileOp

variable {α β : Type} (dir : Directory)

@[simp] theorem apply_pure (a : α) : (pure a : FileOp α).apply dir = (.ok a, dir) := rfl
@[simp] theorem apply_throw (e : StateError) : (throw e : FileOp α).apply dir = (.error e, dir) := rfl
@[simp] theorem apply_get : (get : FileOp Directory).apply dir = (.ok dir, dir) := rfl
@[simp] theorem apply_modify (f : Directory → Directory) : (modify f : FileOp PUnit).apply dir = (.ok ⟨⟩, f dir) := rfl

@[simp] theorem apply_lift (r : Except StateError α) : (FileOp.lift r).apply dir = (r, dir) := by
  cases r <;> rfl

theorem apply_bind (op : FileOp α) (f : α → FileOp β) : (op >>= f).apply dir =
    match op.apply dir with
    | (.ok a, dir') => (f a).apply dir'
    | (.error e, dir') => (.error e, dir') := by
  show (ExceptT.bindCont f (op.apply dir).1) (op.apply dir).2 = _
  rcases op.apply dir with ⟨r, dir'⟩
  cases r <;> rfl

end FileOp

namespace FileSystem

/-- A step that may fail. -/
def step (fs : FileSystem) (s : FileStep) : FileOp Unit :=
  match fs.fails s with
  | some e => throw e
  | none => pure ()

theorem step_apply (fs : FileSystem) (s : FileStep) (dir : Directory) : (fs.step s).apply dir =
    match fs.fails s with
    | some e => (.error e, dir)
    | none => (.ok (), dir) := by
  unfold step
  cases fs.fails s <;> rfl

/-- No step fails. -/
def Faultless (fs : FileSystem) : Prop := ∀ s, fs.fails s = none

/-- The name of a new temporary file. -/
def tempName (fs : FileSystem) (fileName : String) (dir : Directory) : String := s!".{fileName}.tmp.{fs.stamp fileName dir}"

/-- A failing step after which the temporary file is removed, if it can be. -/
def stepOrRemove (fs : FileSystem) (s : FileStep) (temp : String) : FileOp Unit :=
  match fs.fails s with
  | some e => do
    if (fs.fails .remove).isNone then modify fun dir : Directory => dir.erase temp
    throw e
  | none => pure ()

end FileSystem

section Files

variable [SerdeJson] (fs : FileSystem) (paths : StatePaths)

def LockGuard.acquire : FileOp Unit := do
  fs.step .lock
  modify fun dir : Directory => dir.insertIfNew LOCK_FILE_NAME []

/-- `fs::read`: a file that is not there is no error. -/
def readFile (name : String) : FileOp (Option FileBytes) := do
  let dir : Directory ← get
  match dir[name]? with
  | none => return none
  | some bytes => do
    fs.step .read
    return some bytes

/-- The bytes are a valid document of the current schema. -/
def isLoadableBytes (bytes : FileBytes) : Except StateError StateFile := do
  let header ← SerdeJson.schemaHeader bytes
  if header ≠ SCHEMA_VERSION then throw (.unsupportedSchema header SCHEMA_VERSION)
  let file ← SerdeJson.stateFile bytes
  file.validate
  return file

/-- **Loads the state file**; a missing one is the default document. -/
def loadState : FileOp StateFile := do
  match ← readFile fs paths.fileName with
  | none => return .default
  | some bytes => FileOp.lift (isLoadableBytes bytes)

/-- The bytes put in the place of the state file, by way of a temporary file. -/
def replaceFile (bytes : FileBytes) : FileOp Unit := do
  fs.step .temp
  let temp := fs.tempName paths.fileName (← get)
  modify fun dir : Directory => dir.insert temp (if (fs.fails .write).isSome then fs.torn else bytes)
  fs.stepOrRemove .write temp
  fs.stepOrRemove .rename temp
  modify fun dir : Directory => (dir.erase temp).insert paths.fileName bytes

/-- **Writes a valid document**, whole or not at all. -/
def writeAtomic (state : StateFile) : FileOp Unit := do
  FileOp.lift state.validate
  fs.step .parent
  let bytes ← FileOp.lift (SerdeJson.toVecPretty state)
  replaceFile fs paths bytes
  fs.step .sync

/-! ## Discarding -/

/-- Outcome of discarding an unreadable state file. -/
structure StateReset where
  backup : Option String
  discardedSchema : Option Nat
deriving DecidableEq

def backupStem (fileName : String) : Option Nat → String
  | some found => s!"{fileName}.unsupported-v{found}"
  | none => s!"{fileName}.unreadable"

def backupName (stem : String) (counter : Nat) : String :=
  if counter = 1 then s!"{stem}.bak" else s!"{stem}-{counter}.bak"

/-- The first name that is not taken, of this many. -/
def createBackupFrom (stem : String) (bytes : FileBytes) : Nat → Nat → FileOp String
  | 0, counter => throw (.io s!"{paths.parent}/{backupName stem counter}" "File exists (os error 17)")
  | tries + 1, counter => do
    fs.step .backup
    let candidate := backupName stem counter
    let dir ← get
    if dir.contains candidate then
      if tries = 0 then throw (.io s!"{paths.parent}/{candidate}" "File exists (os error 17)")
      else createBackupFrom stem bytes tries (counter + 1)
    else do
      modify fun dir : Directory => dir.insert candidate (if (fs.fails .backupWrite).isSome then fs.torn else bytes)
      fs.step .backupWrite
      return s!"{paths.parent}/{candidate}"

def createBackupExclusive (bytes : FileBytes) (schema : Option Nat) : FileOp String :=
  createBackupFrom fs paths (backupStem paths.fileName schema) bytes 1000 1

/-- **Replaces a state file that does not load**, and keeps its bytes. -/
def discardDiskUnreadable : FileOp StateReset := do
  LockGuard.acquire fs
  match ← readFile fs paths.fileName with
  | none => do
    writeAtomic fs paths .default
    return ⟨none, none⟩
  | some bytes => do
    if (isLoadableBytes bytes).isOk then throw (.invalidState
      s!"state file {paths.stateFile} is readable with the current schema; refusing to discard it")
    let discardedSchema := (SerdeJson.schemaHeader bytes).toOption
    let backup ← createBackupExclusive fs paths bytes discardedSchema
    writeAtomic fs paths .default
    return ⟨some backup, discardedSchema⟩

end Files

/-- A memory store has no file to discard. -/
def discardMemoryUnreadable : Except StateError StateReset :=
  .error (.invalidState "memory stores hold no state file to discard")

/-! ## The backends -/

/-- **The store in a file.** -/
def StateStore.disk [SerdeJson] (fs : FileSystem) (paths : StatePaths) : Store StateFile StateError Directory where
  load dir := ((loadState fs paths).apply dir).1
  begin_ dir := (do LockGuard.acquire fs; loadState fs paths : FileOp StateFile).apply dir
  replace state dir := (writeAtomic fs paths state).apply dir

/-- **The store in memory.** -/
def StateStore.memory : Store StateFile StateError StateFile where
  load state := .ok state
  begin_ state := (.ok state, state)
  replace state shared := match state.validate with
    | .ok () => (.ok (), state)
    | .error e => (.error e, shared)

/-! ## What a caller does -/

variable {A : Type}

/-- A transaction that is edited and committed. -/
def StateTransaction.commit (edit : StateFile → StateFile) : Request StateFile StateError Unit :=
  .transact fun state => (.ok (), some (edit state))

/-- A transaction that is edited and dropped. -/
def StateTransaction.drop (_edit : StateFile → StateFile) : Request StateFile StateError Unit :=
  .transact fun _ => (.ok (), none)

/-- A closure whose mutation is committed, whatever it answers. -/
def mutateAsync (f : StateFile → A × StateFile) : Request StateFile StateError A :=
  .transact fun state => (.ok (f state).1, some (f state).2)

/-- A closure whose mutation is committed only when it succeeds. -/
def tryMutateAsync (f : StateFile → Except StateError A × StateFile) : Request StateFile StateError A :=
  .transact fun state => match f state with
    | (.ok a, changed) => (.ok a, some changed)
    | (.error e, _) => (.error e, none)

end AttackSharkX3
