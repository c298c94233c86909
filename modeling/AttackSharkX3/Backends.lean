import Mathlib.Algebra.Ring.Nat
import AttackSharkX3.Stored
import AttackSharkX3.Rig
/-!
# Backends — a store in a file is a store in memory

A run of requests is answered by the store in a file as by the store in memory, and either holds the document committed last.
Where a step of the file system fails the request is answered with an error, and the document is the old one or the new.
Discarding keeps a file that loads, and the bytes of one that does not.
-/
namespace AttackSharkX3

open Effects (Request Reply Store)

variable {A : Type}

/-- **A run in memory.** -/
def StateStore.inMemory (requests : List (Request StateFile StateError A)) : StateFile → List (Reply StateFile StateError A) × StateFile :=
  Store.run (requests.map fun request => (StateStore.memory, request))

section Disk

variable [serde : SerdeJson] (paths : StatePaths)

/-- **A run on disk**: each request with what the file system does during it. -/
def StateStore.onDisk (steps : List (FileSystem × Request StateFile StateError A)) :
    Directory → List (Reply StateFile StateError A) × Directory :=
  Store.run (steps.map fun step => (StateStore.disk step.1 paths, step.2))

/-- The document can be written. -/
def Encodes (state : StateFile) : Prop := ∃ bytes, serde.toVecPretty state = .ok bytes

/-- The document committed last, or the first. -/
def lastCommitted (requests : List (Request StateFile StateError A)) (state : StateFile) : StateFile :=
  (Store.commits StateFile.validate requests state).getLast?.getD state

/-- **What the store in a file promises.** -/
structure Transactional : Prop where
  /-- As long as no step fails a run is answered as in memory, and the document committed last is loaded. -/
  agrees : ∀ {A : Type} (steps : List (FileSystem × Request StateFile StateError A)) (dir : Directory) (state : StateFile),
    paths.stored dir = .ok state → (∀ step ∈ steps, step.1.Faultless) →
    (∀ changed ∈ Store.commits StateFile.validate (steps.map (·.2)) state, Encodes changed) →
    (StateStore.onDisk paths steps dir).1 = (StateStore.inMemory (steps.map (·.2)) state).1 ∧
    StateStore.memory.load (StateStore.inMemory (steps.map (·.2)) state).2 = .ok (lastCommitted (steps.map (·.2)) state) ∧
    ∀ fs : FileSystem, fs.Faultless → (StateStore.disk fs paths).load (StateStore.onDisk paths steps dir).2 =
      .ok (lastCommitted (steps.map (·.2)) state)
  /-- Whatever fails, each request is answered as in memory, or with the error of what failed; then nothing is committed,
  unless it was the sync after the rename. -/
  holds : ∀ {A : Type} (steps : List (FileSystem × Request StateFile StateError A)) (dir : Directory) (state : StateFile),
    paths.stored dir = .ok state → ∃ state', paths.stored (StateStore.onDisk paths steps dir).2 = .ok state' ∧
      Store.ServesAll StateFile.validate state (steps.map fun step => (step.1.faults, step.2))
        (StateStore.onDisk paths steps dir).1 state'
  /-- A document that is not valid is not committed. -/
  refuses : ∀ (fs : FileSystem) (dir : Directory) (state changed : StateFile), paths.stored dir = .ok state →
    changed ≠ state → changed.validate ≠ .ok () → ∀ {A : Type} (body : StateFile → Except StateError A × Option StateFile),
    (body state).2 = some changed → (∃ e, ((StateStore.disk fs paths).transact body dir).1 = .error e) ∧
      paths.stored ((StateStore.disk fs paths).transact body dir).2 = .ok state
  /-- A memory store discards nothing. -/
  memory : ∃ message, discardMemoryUnreadable = .error (.invalidState message)
  /-- A file that loads is not discarded. -/
  keeps : ∀ (fs : FileSystem) (dir : Directory) (state : StateFile), dir.contains paths.fileName = true →
    paths.stored dir = .ok state → (∃ e, ((discardDiskUnreadable fs paths).apply dir).1 = .error e) ∧
      paths.stored ((discardDiskUnreadable fs paths).apply dir).2 = .ok state
  /-- Where there is no file the default document is written. -/
  creates : ∀ (fs : FileSystem) (dir : Directory), fs.Faultless → Encodes .default → dir.contains paths.fileName = false →
    ((discardDiskUnreadable fs paths).apply dir).1 = .ok ⟨none, none⟩ ∧
      paths.stored ((discardDiskUnreadable fs paths).apply dir).2 = .ok .default
  /-- A file that does not load is replaced by the default document, and its bytes are in the backup. -/
  discards : ∀ (fs : FileSystem) (dir : Directory) (bytes : FileBytes), dir[paths.fileName]? = some bytes →
    (paths.stored dir).isOk = false → ∀ reset, ((discardDiskUnreadable fs paths).apply dir).1 = .ok reset →
    reset.discardedSchema = (serde.schemaHeader bytes).toOption ∧ ∃ name : String, reset.backup = some s!"{paths.parent}/{name}" ∧
      dir[name]? = none ∧ ((discardDiskUnreadable fs paths).apply dir).2[name]? = some bytes ∧
      paths.stored ((discardDiskUnreadable fs paths).apply dir).2 = .ok .default
  /-- It is discarded where no step fails and one of the thousand names is free. -/
  free : ∀ (fs : FileSystem) (dir : Directory) (bytes : FileBytes), dir[paths.fileName]? = some bytes →
    (paths.stored dir).isOk = false → fs.Faultless → Encodes .default →
    (∃ k, 1 ≤ k ∧ k ≤ 1000 ∧
      dir.contains (backupName (backupStem paths.fileName (serde.schemaHeader bytes).toOption) k) = false) →
    ((discardDiskUnreadable fs paths).apply dir).1.isOk = true
  /-- Whatever fails, the bytes are where they were or in a new file, and every other file is as it was. -/
  survives : ∀ (fs : FileSystem) (dir : Directory) (bytes : FileBytes), dir[paths.fileName]? = some bytes →
    (((discardDiskUnreadable fs paths).apply dir).2[paths.fileName]? = some bytes ∨
      ∃ name : String, dir[name]? = none ∧ ((discardDiskUnreadable fs paths).apply dir).2[name]? = some bytes) ∧
    ∀ other ≠ paths.fileName, ∀ found, dir[other]? = some found →
      ((discardDiskUnreadable fs paths).apply dir).2[other]? = some found

end Disk

section Files

variable [serde : SerdeJson] {fs : FileSystem} {paths : StatePaths} {dir : Directory} {state : StateFile}

theorem load_faultless (hfs : fs.Faultless) (hd : paths.stored dir = .ok state) :
    (StateStore.disk fs paths).load dir = .ok state := by
  rcases load_disk fs hd with hload | ⟨e, s, -, -, hs⟩
  · exact hload
  · rw [hfs s] at hs
    cases hs

/-- **A run on a file system that never fails.** -/
theorem onDisk_agrees (hserde : serde.RoundTrips) (hname : paths.fileName ≠ LOCK_FILE_NAME)
    {steps : List (FileSystem × Request StateFile StateError A)} (hd : paths.stored dir = .ok state)
    (hsteps : ∀ step ∈ steps, step.1.Faultless)
    (hencodes : ∀ changed ∈ Store.commits StateFile.validate (steps.map (·.2)) state, Encodes changed) :
    (StateStore.onDisk paths steps dir).1 = (StateStore.inMemory (steps.map (·.2)) state).1 ∧
      paths.stored (StateStore.onDisk paths steps dir).2 = .ok (StateStore.inMemory (steps.map (·.2)) state).2 := by
  have hexact : ∀ step ∈ steps.map fun step => (StateStore.disk step.1 paths, step.2),
      Store.Exact StateFile.validate (fun dir state => paths.stored dir = .ok state) Encodes step.1 := by
    intro step hstep
    obtain ⟨given, hgiven, rfl⟩ := List.mem_map.1 hstep
    exact exact_disk hserde hname (hsteps given hgiven)
  have hrequests : (steps.map fun step => (StateStore.disk step.1 paths, step.2)).map (·.2) = steps.map (·.2) := by
    rw [List.map_map]
    rfl
  have hrun := Store.Exact.run hexact hd (by rw [hrequests]; exact hencodes)
  rw [List.map_map] at hrun
  unfold StateStore.onDisk StateStore.inMemory
  rw [memory_eq_cell, List.map_map]
  exact hrun

omit serde in
theorem inMemory_last (requests : List (Request StateFile StateError A)) :
    (StateStore.inMemory requests state).2 = lastCommitted requests state := by
  unfold StateStore.inMemory
  rw [memory_eq_cell]
  exact Store.cell_run requests state

/-- **A run on any file system.** -/
theorem onDisk_holds (hserde : serde.RoundTrips) (hname : paths.fileName ≠ LOCK_FILE_NAME)
    (steps : List (FileSystem × Request StateFile StateError A)) (hd : paths.stored dir = .ok state) :
    ∃ state', paths.stored (StateStore.onDisk paths steps dir).2 = .ok state' ∧
      Store.ServesAll StateFile.validate state (steps.map fun step => (step.1.faults, step.2))
        (StateStore.onDisk paths steps dir).1 state' := by
  have hsound : ∀ step ∈ steps.map fun step => (step.1.faults, StateStore.disk step.1 paths, step.2),
      Store.Sound StateFile.validate (fun dir state => paths.stored dir = .ok state) step.1 step.2.1 := by
    intro step hstep
    obtain ⟨given, -, rfl⟩ := List.mem_map.1 hstep
    exact sound_disk hserde hname
  obtain ⟨state', hserves, hd'⟩ := Store.Sound.run hsound hd
  rw [List.map_map] at hserves hd'
  rw [List.map_map] at hserves
  exact ⟨state', hd', hserves⟩

/-- A commit of a document that is not valid. -/
theorem transact_refused (hserde : serde.RoundTrips) (hname : paths.fileName ≠ LOCK_FILE_NAME) {changed : StateFile}
    (hd : paths.stored dir = .ok state) (hchanged : changed ≠ state) (hinvalid : changed.validate ≠ .ok ())
    {body : StateFile → Except StateError A × Option StateFile} (hbody : (body state).2 = some changed) :
    (∃ e, ((StateStore.disk fs paths).transact body dir).1 = .error e) ∧
      paths.stored ((StateStore.disk fs paths).transact body dir).2 = .ok state := by
  obtain ⟨e, he⟩ : ∃ e, changed.validate = .error e := by
    cases hv : changed.validate with
    | ok u => exact absurd hv hinvalid
    | error e => exact ⟨e, rfl⟩
  have hcell := @Store.cell_refused _ _ _ _ StateFile.validate _ _ _ _ hbody hchanged he
  rcases (@sound_disk serde fs paths hserde hname).transact body hd with
    ⟨hreply, hd'⟩ | ⟨e', hreply, ⟨-, hd'⟩ | ⟨-, changed', hbody', hvalid, -⟩⟩
  · rw [hcell] at hreply hd'
    exact ⟨⟨e, hreply⟩, hd'⟩
  · exact ⟨⟨e', hreply⟩, hd'⟩
  · rw [hbody, Option.some.injEq] at hbody'
    exact absurd (hbody' ▸ hvalid) hinvalid

/-! ## Discarding -/

theorem stored_of_file {bytes : FileBytes} (hfile : dir[paths.fileName]? = some bytes) :
    paths.stored dir = isLoadableBytes bytes := by
  unfold StatePaths.stored
  rw [hfile]

/-- The default document is what is loaded where it was written. -/
theorem stored_default (hserde : serde.RoundTrips) {bytes : FileBytes} (hbytes : serde.toVecPretty .default = .ok bytes)
    (hfile : dir[paths.fileName]? = some bytes) : paths.stored dir = .ok .default := by
  rw [stored_of_file hfile]
  exact isLoadableBytes_of_roundTrips hserde StateFile.default_valid hbytes

/-- A file that was discarded is in the backup. -/
theorem Discarding.backedUp (hserde : serde.RoundTrips) {bytes : FileBytes} {reset : StateReset} {dir' : Directory}
    (h : Discarding fs paths dir bytes (.ok reset) dir') :
    reset.discardedSchema = (serde.schemaHeader bytes).toOption ∧ ∃ name : String,
      reset.backup = some s!"{paths.parent}/{name}" ∧ dir[name]? = none ∧ dir'[name]? = some bytes ∧
      paths.stored dir' = .ok .default := by
  cases h with
  | replaced answer missing backup encoded state _ =>
    rcases answer with hok | ⟨e, herror, -⟩
    · cases hok
      exact ⟨rfl, _, rfl, missing, backup, stored_default hserde encoded state⟩
    · cases herror

theorem Discarding.succeeds {bytes : FileBytes} {r : Except StateError StateReset} {dir' : Directory}
    (h : Discarding fs paths dir bytes r dir') (hfs : fs.Faultless) (hencodes : Encodes .default) {k : Nat} (hle : 1 ≤ k)
    (hlt : k ≤ 1000)
    (hfree : dir.contains (backupName (backupStem paths.fileName (serde.schemaHeader bytes).toOption) k) = false) :
    r.isOk = true := by
  cases h with
  | kept _ cause =>
    rcases cause with ⟨s, hs⟩ | herror | htaken
    · rw [hfs s] at hs
      cases hs
    · obtain ⟨written, hwritten⟩ := hencodes
      rw [hwritten] at herror
      cases herror
    · rw [htaken k hle hlt] at hfree
      cases hfree
  | replaced answer =>
    rcases answer with rfl | ⟨e, -, hsync⟩
    · rfl
    · rw [hfs .sync] at hsync
      cases hsync

/-- The bytes of the file are somewhere, and the other files are as they were. -/
theorem Discarding.survives {bytes : FileBytes} {r : Except StateError StateReset} {dir' : Directory}
    (h : Discarding fs paths dir bytes r dir') (hfile : dir[paths.fileName]? = some bytes) :
    (dir'[paths.fileName]? = some bytes ∨ ∃ name : String, dir[name]? = none ∧ dir'[name]? = some bytes) ∧
      ∀ other ≠ paths.fileName, ∀ found, dir[other]? = some found → dir'[other]? = some found := by
  cases h with
  | kept beside _ => exact ⟨.inl (beside.state.trans hfile), fun other _ found => beside.others other found⟩
  | replaced _ missing backup _ _ others => exact ⟨.inr ⟨_, missing, backup⟩, others⟩

omit serde in
theorem contains_fileName : dir.contains paths.fileName = true ↔ ∃ bytes, dir[paths.fileName]? = some bytes := by
  rw [Std.ExtTreeMap.contains_eq_isSome_getElem?, Option.isSome_iff_exists]

end Files

/-- **A store in a file is a store in memory that outlives its process.** -/
theorem stateStore_transactional (serde : SerdeJson) (paths : StatePaths) (hserde : serde.RoundTrips)
    (hname : paths.fileName ≠ LOCK_FILE_NAME) : Transactional paths where
  agrees steps dir state hd hsteps hencodes := by
    obtain ⟨hreplies, hstored⟩ := onDisk_agrees hserde hname hd hsteps hencodes
    rw [inMemory_last] at hstored
    refine ⟨hreplies, ?_, fun fs hfs => load_faultless hfs hstored⟩
    rw [inMemory_last]
    rfl
  holds steps dir state hd := onDisk_holds hserde hname steps hd
  refuses fs dir state changed hd hchanged hinvalid _ body hbody := transact_refused hserde hname hd hchanged hinvalid hbody
  memory := ⟨_, rfl⟩
  keeps fs dir state hthere hd := by
    obtain ⟨bytes, hfile⟩ := contains_fileName.1 hthere
    obtain ⟨e, dir', happly, hbeside⟩ := discard_loadable fs hname hfile ((stored_of_file hfile).symm.trans hd)
    rw [happly]
    exact ⟨⟨e, rfl⟩, (stored_of_beside hbeside).trans hd⟩
  creates fs dir hfs hencodes hmissing := by
    obtain ⟨bytes, hbytes⟩ := hencodes
    rw [Std.ExtTreeMap.contains_eq_isSome_getElem?] at hmissing
    obtain ⟨dir', happly, hstored⟩ := discard_missing hserde hname hfs
      (Option.isNone_iff_eq_none.1 (Option.isSome_eq_false_iff.1 hmissing)) hbytes
    rw [happly]
    exact ⟨rfl, hstored⟩
  discards fs dir bytes hfile hd reset hreset := by
    rw [stored_of_file hfile] at hd
    have hdiscarding := discard_unreadable fs hname hfile hd
    rw [hreset] at hdiscarding
    exact hdiscarding.backedUp hserde
  free fs dir bytes hfile hd hfs hencodes hfree := by
    obtain ⟨k, hle, hlt, hname'⟩ := hfree
    rw [stored_of_file hfile] at hd
    exact (discard_unreadable fs hname hfile hd).succeeds hfs hencodes hle hlt hname'
  survives fs dir bytes hfile := by
    cases hd : isLoadableBytes bytes with
    | ok state =>
      obtain ⟨e, dir', happly, hbeside⟩ := discard_loadable fs hname hfile hd
      rw [happly]
      exact ⟨.inl (hbeside.state.trans hfile), fun other _ found => hbeside.others other found⟩
    | error e => exact (discard_unreadable fs hname hfile (by rw [hd]; rfl)).survives hfile

end AttackSharkX3

namespace AttackSharkX3.Rig

open Effects (Request Reply Store)

theorem length_le_sum : ∀ {names : List String} {name : String}, name ∈ names → name.length ≤ (names.map String.length).sum
  | first :: rest, name, hmem => by
    rw [List.map_cons, List.sum_cons]
    rcases List.mem_cons.1 hmem with rfl | hrest
    · omega
    · have hle := length_le_sum hrest
      omega

/-- A file system with these failures, whose temporary files have names longer than all others. -/
def fileSystem (fails : FileStep → Option StateError) : FileSystem where
  fails
  stamp _ dir := String.ofList (List.replicate ((dir.keys.map String.length).sum) '0')
  torn := []
  fresh fileName dir := by
    by_contra hcontains
    rw [Bool.not_eq_false] at hcontains
    have hle := length_le_sum (Std.ExtTreeMap.mem_keys.2 hcontains)
    have htext : ∀ s : String, toString s = s := fun _ => rfl
    simp only [String.length_append, htext, String.length_ofList, List.length_replicate] at hle
    have hdot : ".".length = 1 := by decide
    omega

def faultless : FileSystem := fileSystem fun _ => none

/-- Without power after the rename. -/
def unsynced : FileSystem := fileSystem fun s => if s = .sync then some (.io "/state/state.json" "Input/output error (os error 5)") else none

/-- The document of an installation that has given out a number. -/
def numbered : StateFile := { StateFile.default with nextDeviceNumber := 2 }

def jsonOf (next : String) : FileBytes :=
  ("\x7b\n  \"schemaVersion\": 5,\n  \"nextDeviceNumber\": " ++ next ++
    ",\n  \"selectedDevice\": null,\n  \"devices\": \x7b\x7d,\n  \"identityMode\": \"legacy\",\n  \"endpointMapping\": \x7b\x7d\n\x7d").toUTF8.toList

/-- The two documents as they are written. -/
instance serde : SerdeJson where
  schemaHeader bytes := if bytes = jsonOf "1" ∨ bytes = jsonOf "2" then .ok 5
    else .error (.serde "EOF while parsing a value at line 1 column 0")
  stateFile bytes := if bytes = jsonOf "1" then .ok .default else if bytes = jsonOf "2" then .ok numbered
    else .error (.serde "EOF while parsing a value at line 1 column 0")
  toVecPretty state := if state = .default then .ok (jsonOf "1") else if state = numbered then .ok (jsonOf "2")
    else .error (.serde "key must be a string")

theorem serde_roundTrips : serde.RoundTrips := by
  intro state bytes hbytes
  have hne : jsonOf "2" ≠ jsonOf "1" := by decide +kernel
  change (if state = .default then Except.ok (jsonOf "1") else if state = numbered then .ok (jsonOf "2") else _) = _ at hbytes
  change (if bytes = jsonOf "1" ∨ bytes = jsonOf "2" then Except.ok 5 else _) = _ ∧
    (if bytes = jsonOf "1" then Except.ok .default else if bytes = jsonOf "2" then .ok numbered else _) = _
  split at hbytes
  · next hdefault =>
    cases hbytes
    rw [if_pos (.inl rfl), if_pos rfl, hdefault]
    exact ⟨rfl, rfl⟩
  · split at hbytes
    · next hnumbered =>
      cases hbytes
      rw [if_pos (.inr rfl), if_neg hne, if_pos rfl, hnumbered]
      exact ⟨rfl, rfl⟩
    · cases hbytes

def stateJson : StatePaths := ⟨"/state", "state.json"⟩

/-- A missing file is discarded although it loads; a commit fails whose document is loaded; and a file that is its own lock
does not open. -/
theorem discards_missing :
    ((StateStore.disk faultless stateJson).load ∅ = .ok .default ∧
      ((discardDiskUnreadable faultless stateJson).apply ∅).1 = .ok ⟨none, none⟩) ∧
    (((StateStore.disk unsynced stateJson).transact (fun _ => ((.ok () : Except StateError Unit), some numbered)) ∅).1 =
        .error (.io "/state/state.json" "Input/output error (os error 5)") ∧
      (StateStore.disk faultless stateJson).load
        ((StateStore.disk unsynced stateJson).transact (fun _ => ((.ok () : Except StateError Unit), some numbered)) ∅).2 =
        .ok numbered) ∧
    ((StateStore.disk faultless ⟨"/state", "state.lock"⟩).transact (fun _ => ((.ok () : Except StateError Unit), none)) ∅).1 =
        .error (.serde "EOF while parsing a value at line 1 column 0") ∧
      (StateStore.memory.transact (fun _ => ((.ok () : Except StateError Unit), none)) .default).1 = .ok () := by
  decide +kernel

/-- A load, a commit, a transaction that is dropped, one that is not valid and a load. -/
def requests : List (Request StateFile StateError Unit) :=
  [.load, StateTransaction.commit fun state => { state with nextDeviceNumber := 2 },
    StateTransaction.drop fun state => { state with nextDeviceNumber := 3 },
    StateTransaction.commit fun state => { state with nextDeviceNumber := 0 }, .load]

theorem stateStore_transactional_numbered :
    (StateStore.onDisk stateJson (requests.map fun request => (faultless, request)) ∅).1 =
      (StateStore.inMemory requests .default).1 ∧
    (StateStore.disk faultless stateJson).load
        (StateStore.onDisk stateJson (requests.map fun request => (faultless, request)) ∅).2 = .ok numbered := by
  have htransactional := stateStore_transactional serde stateJson serde_roundTrips (by decide)
  have hcommits : Store.commits StateFile.validate requests .default = [numbered] := by decide +kernel
  have hrequests : (requests.map fun request => (faultless, request)).map (·.2) = requests := rfl
  have hagrees := htransactional.agrees (requests.map fun request => (faultless, request)) ∅ .default rfl
    (by
      intro step hstep
      obtain ⟨request, -, rfl⟩ := List.mem_map.1 hstep
      exact fun _ => rfl)
    (by
      rw [hrequests, hcommits]
      intro changed hchanged
      rw [List.mem_singleton.1 hchanged]
      exact ⟨jsonOf "2", by decide +kernel⟩)
  rw [hrequests] at hagrees
  refine ⟨hagrees.1, ?_⟩
  rw [hagrees.2.2 faultless fun _ => rfl, lastCommitted, hcommits]
  rfl

end AttackSharkX3.Rig
