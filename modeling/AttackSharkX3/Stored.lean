import AttackSharkX3.Disk
import AttackSharkX3.Portable
import AttackSharkX3.Valid
/-!
# Stored — the document on disk

The file system holds a document: the one its state file decodes to, or the default one where there is no file.  Where no
step fails the store in a file does what the store in memory does; where one fails it answers with an error, and its
document is the old one or the new.
-/
namespace AttackSharkX3

open Effects (Request Reply Store)
open FileOp (apply_bind apply_get apply_modify apply_lift apply_pure apply_throw)

/-- **What is written is read back**, and its header says its schema. -/
def SerdeJson.RoundTrips (serde : SerdeJson) : Prop :=
  ∀ state bytes, serde.toVecPretty state = .ok bytes →
    serde.schemaHeader bytes = .ok state.schemaVersion ∧ serde.stateFile bytes = .ok state

section Names

variable {fs : FileSystem} {paths : StatePaths} {dir : Directory}

theorem acquire_apply : (LockGuard.acquire fs).apply dir = match fs.fails .lock with
    | some e => (.error e, dir)
    | none => (.ok (), dir.insertIfNew LOCK_FILE_NAME []) := by
  simp only [LockGuard.acquire, apply_bind, FileSystem.step_apply]
  cases fs.fails .lock <;> rfl

/-- The lock file does not change the others. -/
theorem getElem?_locked {name : String} (hname : name ≠ LOCK_FILE_NAME) :
    (dir.insertIfNew LOCK_FILE_NAME [])[name]? = dir[name]? := by
  rw [Std.ExtTreeMap.getElem?_insertIfNew, if_neg]
  rintro ⟨hcompare, -⟩
  exact hname (Std.compare_eq_iff_eq.1 hcompare).symm

/-- Nothing that was there is gone or changed, and there is no state file where there was none. -/
structure Beside (paths : StatePaths) (dir dir' : Directory) : Prop where
  state : dir'[paths.fileName]? = dir[paths.fileName]?
  others : ∀ (name : String) (bytes : FileBytes), dir[name]? = some bytes → dir'[name]? = some bytes

theorem Beside.refl : Beside paths dir dir := ⟨rfl, fun _ _ => id⟩

/-- A temporary file's name is not the state file's. -/
theorem FileSystem.tempName_ne (fs : FileSystem) (fileName : String) (dir : Directory) : fs.tempName fileName dir ≠ fileName := by
  intro heq
  have htext : ∀ s : String, toString s = s := fun _ => rfl
  have hlength : (fs.tempName fileName dir).length = fileName.length := by rw [heq]
  simp only [tempName, String.length_append, htext] at hlength
  have hdot : ".".length = 1 := by decide
  omega

theorem tempName_missing : dir[fs.tempName paths.fileName dir]? = none := by
  have hfresh := fs.fresh paths.fileName dir
  rw [Std.ExtTreeMap.contains_eq_isSome_getElem?] at hfresh
  exact Option.isNone_iff_eq_none.1 (Option.isSome_eq_false_iff.1 hfresh)

/-- A new temporary file is beside what was there. -/
theorem kept_temp (bytes : FileBytes) : Beside paths dir (dir.insert (fs.tempName paths.fileName dir) bytes) := by
  refine ⟨BTreeMap.get_insert_of_ne _ (fs.tempName_ne paths.fileName dir) _, fun name found hfound => ?_⟩
  rw [BTreeMap.get_insert_of_ne]
  · exact hfound
  · rintro rfl
    rw [tempName_missing] at hfound
    cases hfound

/-- With its temporary file removed the directory is as it was. -/
theorem erase_temp (bytes : FileBytes) : (dir.insert (fs.tempName paths.fileName dir) bytes).erase
    (fs.tempName paths.fileName dir) = dir := by
  refine Std.ExtTreeMap.ext_getElem? fun name => ?_
  rw [Std.ExtTreeMap.getElem?_erase]
  split
  · next hcompare =>
    rw [← Std.compare_eq_iff_eq.1 hcompare, tempName_missing]
  · next hcompare =>
    exact BTreeMap.get_insert_of_ne _ (fun heq => hcompare (by rw [heq]; exact Std.compare_self)) _

theorem Beside.trans {dir' dir'' : Directory} (h : Beside paths dir dir') (h' : Beside paths dir' dir'') : Beside paths dir dir'' :=
  ⟨h'.state.trans h.state, fun name bytes hname => h'.others name bytes (h.others name bytes hname)⟩

variable (fs paths dir) in
/-- A failing step after which the temporary file is removed, or left. -/
theorem stepOrRemove_apply (s : FileStep) (bytes : FileBytes) :
    ((fs.fails s = none ∧ (fs.stepOrRemove s (fs.tempName paths.fileName dir)).apply
        (dir.insert (fs.tempName paths.fileName dir) bytes) = (.ok (), dir.insert (fs.tempName paths.fileName dir) bytes)) ∨
    ∃ e dir', (fs.stepOrRemove s (fs.tempName paths.fileName dir)).apply (dir.insert (fs.tempName paths.fileName dir) bytes) =
      (.error e, dir') ∧ fs.fails s = some e ∧ Beside paths dir dir') := by
  unfold FileSystem.stepOrRemove
  cases hs : fs.fails s with
  | none => exact .inl ⟨rfl, rfl⟩
  | some e =>
    cases fs.fails .remove with
    | none =>
      refine .inr ⟨e, dir, ?_, rfl, .refl⟩
      simp [apply_bind, erase_temp]
    | some _ => exact .inr ⟨e, _, rfl, rfl, kept_temp bytes⟩

variable (fs paths dir) in
/-- **The bytes take the place of the state file, or nothing that was there changes.** -/
theorem replaceFile_cases (bytes : FileBytes) :
    (replaceFile fs paths bytes).apply dir = (.ok (), dir.insert paths.fileName bytes) ∨
    ∃ e dir', (replaceFile fs paths bytes).apply dir = (.error e, dir') ∧ (∃ s, s ≠ .sync ∧ fs.fails s = some e) ∧
      Beside paths dir dir' := by
  simp only [replaceFile, apply_bind, FileSystem.step_apply, apply_get, apply_modify]
  cases htemp : fs.fails .temp with
  | some e => exact .inr ⟨e, dir, rfl, ⟨.temp, nofun, htemp⟩, .refl⟩
  | none =>
    dsimp only
    rcases stepOrRemove_apply fs paths dir .write (if (fs.fails .write).isSome then fs.torn else bytes) with ⟨hwrite, happly⟩ | ⟨e, dir', happly, hfails, hbeside⟩
    · rw [happly]
      dsimp only
      rw [hwrite]
      rcases stepOrRemove_apply fs paths dir .rename bytes with
        ⟨-, happly⟩ | ⟨e, dir', happly, hfails, hbeside⟩
      · rw [if_neg (by simp), happly]
        dsimp only
        rw [erase_temp]
        exact .inl rfl
      · rw [if_neg (by simp), happly]
        exact .inr ⟨e, dir', rfl, ⟨.rename, nofun, hfails⟩, hbeside⟩
    · rw [happly]
      exact .inr ⟨e, dir', rfl, ⟨.write, nofun, hfails⟩, hbeside⟩

end Names

section Files

variable [serde : SerdeJson] {fs : FileSystem} {paths : StatePaths} {dir dir' : Directory} {state : StateFile}

/-- The document the directory holds. -/
def StatePaths.stored (paths : StatePaths) (dir : Directory) : Except StateError StateFile :=
  match dir[paths.fileName]? with
  | none => .ok .default
  | some bytes => isLoadableBytes bytes

theorem isLoadableBytes_of_roundTrips (hserde : serde.RoundTrips) (hv : state.validate = .ok ()) {bytes : FileBytes}
    (hbytes : SerdeJson.toVecPretty state = .ok bytes) : isLoadableBytes bytes = .ok state := by
  obtain ⟨hheader, hfile⟩ := hserde state bytes hbytes
  have hschema : state.schemaVersion = SCHEMA_VERSION := by
    have h := (StateFile.validate_ok.1 hv).1
    unfold StateFile.validateSchema at h
    by_contra hne
    rw [if_pos hne] at h
    cases h
  unfold isLoadableBytes
  rw [hheader, hfile]
  simp [bind, Except.bind, hschema, hv]
  rfl

theorem loadState_apply : (loadState fs paths).apply dir = (match dir[paths.fileName]? with
    | none => .ok .default
    | some bytes => match fs.fails .read with
      | some e => .error e
      | none => isLoadableBytes bytes, dir) := by
  simp only [loadState, readFile, apply_bind, apply_get]
  cases hfile : dir[paths.fileName]? with
  | none => rfl
  | some bytes =>
    simp only [apply_bind, FileSystem.step_apply]
    cases fs.fails .read with
    | some e => rfl
    | none => simp

variable (fs paths dir) in
/-- **How a write ends**: with the document in the state file, or with nothing changed; an error of the last step comes after
the document was put there. -/
theorem writeAtomic_cases (state : StateFile) :
    (∃ e, state.validate = .error e ∧ (writeAtomic fs paths state).apply dir = (.error e, dir)) ∨
    (state.validate = .ok () ∧ ∃ e dir', (writeAtomic fs paths state).apply dir = (.error e, dir') ∧ Beside paths dir dir' ∧
      ((∃ s, s ≠ .sync ∧ fs.fails s = some e) ∨ SerdeJson.toVecPretty state = .error e)) ∨
    (state.validate = .ok () ∧ ∃ bytes, SerdeJson.toVecPretty state = .ok bytes ∧
      (((writeAtomic fs paths state).apply dir = (.ok (), dir.insert paths.fileName bytes)) ∨
        ∃ e, (writeAtomic fs paths state).apply dir = (.error e, dir.insert paths.fileName bytes) ∧ fs.fails .sync = some e)) := by
  simp only [writeAtomic, apply_bind, apply_lift, FileSystem.step_apply]
  cases hvalid : state.validate with
  | error e => exact .inl ⟨e, rfl, rfl⟩
  | ok _ =>
    refine .inr ?_
    cases hparent : fs.fails .parent with
    | some e => exact .inl ⟨rfl, e, dir, rfl, .refl, .inl ⟨.parent, nofun, hparent⟩⟩
    | none =>
      cases hbytes : SerdeJson.toVecPretty state with
      | error e => exact .inl ⟨rfl, e, dir, rfl, .refl, .inr rfl⟩
      | ok bytes =>
        dsimp only
        rcases replaceFile_cases fs paths dir bytes with happly | ⟨e, dir', happly, hfails, hbeside⟩
        · rw [happly]
          cases hsync : fs.fails .sync with
          | none => exact .inr ⟨rfl, bytes, rfl, .inl rfl⟩
          | some e => exact .inr ⟨rfl, bytes, rfl, .inr ⟨e, rfl, rfl⟩⟩
        · rw [happly]
          exact .inl ⟨rfl, e, dir', rfl, hbeside, .inl hfails⟩

/-- A write on a file system that never fails. -/
theorem writeAtomic_faultless (hfs : fs.Faultless) (hv : state.validate = .ok ()) {bytes : FileBytes}
    (hbytes : SerdeJson.toVecPretty state = .ok bytes) :
    (writeAtomic fs paths state).apply dir = (.ok (), dir.insert paths.fileName bytes) := by
  rcases writeAtomic_cases fs paths dir state with
    ⟨e, hinvalid, -⟩ | ⟨-, e, dir', -, -, ⟨s, -, hs⟩ | hs⟩ | ⟨-, bytes', hbytes', happly | ⟨e, -, hs⟩⟩
  · rw [hv] at hinvalid
    cases hinvalid
  · rw [hfs s] at hs
    cases hs
  · rw [hbytes] at hs
    cases hs
  · rw [hbytes] at hbytes'
    cases hbytes'
    exact happly
  · rw [hfs .sync] at hs
    cases hs

theorem stored_of_beside (h : Beside paths dir dir') : paths.stored dir' = paths.stored dir := by
  unfold StatePaths.stored
  rw [h.state]

/-- **What was written is what the file system holds.** -/
theorem stored_written (hserde : serde.RoundTrips) (hv : state.validate = .ok ()) {bytes : FileBytes}
    (hbytes : SerdeJson.toVecPretty state = .ok bytes) : paths.stored (dir.insert paths.fileName bytes) = .ok state := by
  unfold StatePaths.stored
  rw [BTreeMap.get_insert_self]
  exact isLoadableBytes_of_roundTrips hserde hv hbytes

theorem stored_locked (hname : paths.fileName ≠ LOCK_FILE_NAME) :
    paths.stored (dir.insertIfNew LOCK_FILE_NAME []) = paths.stored dir := by
  unfold StatePaths.stored
  rw [getElem?_locked hname]

/-! ## The two backends -/

omit serde in
/-- The store in memory is the cell with the validator for its check. -/
theorem memory_eq_cell : StateStore.memory = Store.cell StateFile.validate := by
  unfold StateStore.memory Store.cell
  congr 1
  funext state shared
  cases state.validate <;> rfl

variable (fs) in
/-- Opening a transaction. -/
theorem begin_disk (hname : paths.fileName ≠ LOCK_FILE_NAME) (hd : paths.stored dir = .ok state) :
    paths.stored ((StateStore.disk fs paths).begin_ dir).2 = .ok state ∧
      (((StateStore.disk fs paths).begin_ dir).1 = .ok state ∨
        ∃ e s, ((StateStore.disk fs paths).begin_ dir).1 = .error e ∧ s ≠ .sync ∧ fs.fails s = some e) := by
  have hlocked : paths.stored (dir.insertIfNew LOCK_FILE_NAME []) = .ok state := (stored_locked hname).trans hd
  simp only [StateStore.disk, apply_bind, acquire_apply]
  cases hlock : fs.fails .lock with
  | some e => exact ⟨hd, .inr ⟨e, .lock, rfl, nofun, hlock⟩⟩
  | none =>
    simp only [loadState_apply]
    refine ⟨hlocked, ?_⟩
    unfold StatePaths.stored at hlocked
    split
    · next hfile =>
      rw [hfile] at hlocked
      exact .inl hlocked
    · next bytes hfile =>
      rw [hfile] at hlocked
      cases hread : fs.fails .read with
      | some e => exact .inr ⟨e, .read, rfl, nofun, hread⟩
      | none => exact .inl hlocked

variable (fs) in
theorem load_disk (hd : paths.stored dir = .ok state) : (StateStore.disk fs paths).load dir = .ok state ∨
    ∃ e s, (StateStore.disk fs paths).load dir = .error e ∧ s ≠ .sync ∧ fs.fails s = some e := by
  simp only [StateStore.disk, loadState_apply]
  unfold StatePaths.stored at hd
  split
  · next hfile =>
    rw [hfile] at hd
    exact .inl hd
  · next bytes hfile =>
    rw [hfile] at hd
    cases hread : fs.fails .read with
    | some e => exact .inr ⟨e, .read, rfl, nofun, hread⟩
    | none => exact .inl hd

/-- **Where no step fails, the store in a file does what the store in memory does**, with documents that can be written. -/
theorem exact_disk (hserde : serde.RoundTrips) (hname : paths.fileName ≠ LOCK_FILE_NAME) (hfs : fs.Faultless) :
    Store.Exact StateFile.validate (fun dir state => paths.stored dir = .ok state)
      (fun state => ∃ bytes, serde.toVecPretty state = .ok bytes) (StateStore.disk fs paths) where
  load hd := by
    rcases load_disk fs hd with hload | ⟨e, s, -, -, hs⟩
    · exact hload
    · rw [hfs s] at hs
      cases hs
  begins hd := by
    obtain ⟨hstored, hbegin | ⟨e, s, -, -, hs⟩⟩ := begin_disk fs hname hd
    · exact ⟨hbegin, hstored⟩
    · rw [hfs s] at hs
      cases hs
  replaces {dir _ _} _ hmay hv := by
    obtain ⟨bytes, hbytes⟩ := hmay
    have happly : (writeAtomic fs paths _).apply dir = _ := writeAtomic_faultless hfs hv hbytes
    exact ⟨congrArg Prod.fst happly, (congrArg (paths.stored ∘ Prod.snd) happly).trans (stored_written hserde hv hbytes)⟩
  refuses hd hinvalid := by
    rcases writeAtomic_cases fs paths _ _ with ⟨e', he', happly⟩ | ⟨hv, -⟩ | ⟨hv, -⟩
    · rw [hinvalid] at he'
      cases he'
      exact ⟨congrArg Prod.fst happly, (congrArg (paths.stored ∘ Prod.snd) happly).trans hd⟩
    · rw [hinvalid] at hv
      cases hv
    · rw [hinvalid] at hv
      cases hv

/-- **The errors of a request on disk**: a step that fails before the rename, or a document that cannot be written, and the
sync of the directory after it. -/
def FileSystem.faults (fs : FileSystem) : Store.Faults StateError where
  early e := (∃ s, s ≠ .sync ∧ fs.fails s = some e) ∨ ∃ state, serde.toVecPretty state = .error e
  late e := fs.fails .sync = some e

/-- **Whatever fails, the store in a file holds the old document, or the new one where its sync failed.** -/
theorem sound_disk (hserde : serde.RoundTrips) (hname : paths.fileName ≠ LOCK_FILE_NAME) :
    Store.Sound StateFile.validate (fun dir state => paths.stored dir = .ok state) fs.faults (StateStore.disk fs paths) where
  load hd := by
    rcases load_disk fs hd with hload | ⟨e, s, hload, hs⟩
    · exact .inl hload
    · exact .inr ⟨e, .inl ⟨s, hs⟩, hload⟩
  begins hd := by
    obtain ⟨hstored, hbegin | ⟨e, s, hbegin, hs⟩⟩ := begin_disk fs hname hd
    · exact ⟨hstored, .inl hbegin⟩
    · exact ⟨hstored, .inr ⟨e, .inl ⟨s, hs⟩, hbegin⟩⟩
  replaces {dir state} changed hd := by
    have hreplace : (StateStore.disk fs paths).replace changed dir = (writeAtomic fs paths changed).apply dir := rfl
    rw [hreplace]
    rcases writeAtomic_cases fs paths dir changed with
      ⟨e, hinvalid, happly⟩ | ⟨hv, e, dir', happly, hbeside, hwhy⟩ | ⟨hv, bytes, hbytes, happly | ⟨e, happly, hsync⟩⟩
    · rw [happly]
      simp only [Store.cell, hinvalid]
      exact .inl ⟨trivial, hd⟩
    · rw [happly]
      exact .inr ⟨e, rfl, .inl ⟨hwhy.imp_right fun h => ⟨changed, h⟩, (stored_of_beside hbeside).trans hd⟩⟩
    · rw [happly]
      simp only [Store.cell, hv]
      exact .inl ⟨trivial, stored_written hserde hv hbytes⟩
    · rw [happly]
      exact .inr ⟨e, rfl, .inr ⟨hsync, hv, stored_written hserde hv hbytes⟩⟩

/-! ## Discarding -/

omit serde in
theorem readFile_apply (name : String) : (readFile fs name).apply dir = (match dir[name]? with
    | none => .ok none
    | some bytes => match fs.fails .read with
      | some e => .error e
      | none => .ok (some bytes), dir) := by
  simp only [readFile, apply_bind, apply_get]
  cases dir[name]? with
  | none => rfl
  | some bytes =>
    simp only [apply_bind, FileSystem.step_apply]
    cases fs.fails .read <;> rfl

omit serde in
/-- A backup's name is not the state file's. -/
theorem backupName_ne (fileName : String) (schema : Option Nat) (counter : Nat) :
    backupName (backupStem fileName schema) counter ≠ fileName := by
  have htext : ∀ s : String, toString s = s := fun _ => rfl
  have hstem : fileName.length < (backupStem fileName schema).length := by
    have hmark : ".unsupported-v".length = 14 := by decide
    have hmark' : ".unreadable".length = 11 := by decide
    cases schema with
    | none =>
      simp only [backupStem, String.length_append, htext]
      omega
    | some found =>
      simp only [backupStem, String.length_append, htext]
      omega
  intro heq
  have hlength : (backupName (backupStem fileName schema) counter).length = fileName.length := by rw [heq]
  unfold backupName at hlength
  split at hlength
  · simp only [String.length_append, htext] at hlength
    omega
  · simp only [String.length_append, htext] at hlength
    omega

omit serde in
theorem beside_insert {name : String} (hname : name ≠ paths.fileName) (hmissing : dir[name]? = none) (bytes : FileBytes) :
    Beside paths dir (dir.insert name bytes) := by
  refine ⟨BTreeMap.get_insert_of_ne _ hname _, fun other found hfound => ?_⟩
  rw [BTreeMap.get_insert_of_ne]
  · exact hfound
  · rintro rfl
    rw [hmissing] at hfound
    cases hfound

omit serde in
variable (fs paths dir) in
/-- **A backup gets the first free name**, or everything is left as it was. -/
theorem createBackupFrom_cases (schema : Option Nat) (bytes : FileBytes) : ∀ tries counter,
    (∃ k, counter ≤ k ∧ k < counter + tries ∧ dir[backupName (backupStem paths.fileName schema) k]? = none ∧
      (createBackupFrom fs paths (backupStem paths.fileName schema) bytes tries counter).apply dir =
        (.ok s!"{paths.parent}/{backupName (backupStem paths.fileName schema) k}",
          dir.insert (backupName (backupStem paths.fileName schema) k) bytes)) ∨
    ∃ e dir', (createBackupFrom fs paths (backupStem paths.fileName schema) bytes tries counter).apply dir = (.error e, dir') ∧
      Beside paths dir dir' ∧ ((∃ s, fs.fails s = some e) ∨ ∀ k, counter ≤ k → k < counter + tries →
        dir.contains (backupName (backupStem paths.fileName schema) k) = true)
  | 0, counter => .inr ⟨_, dir, rfl, .refl, .inr fun k hle hlt => by omega⟩
  | tries + 1, counter => by
    simp only [createBackupFrom, apply_bind, FileSystem.step_apply, apply_get]
    cases hbackup : fs.fails .backup with
    | some e => exact .inr ⟨e, dir, rfl, .refl, .inl ⟨_, hbackup⟩⟩
    | none =>
      dsimp only
      by_cases htaken : dir.contains (backupName (backupStem paths.fileName schema) counter) = true
      · rw [if_pos htaken]
        have hrest := createBackupFrom_cases schema bytes tries (counter + 1)
        by_cases hlast : tries = 0
        · rw [if_pos hlast]
          refine .inr ⟨_, dir, rfl, .refl, .inr fun k hle hlt => ?_⟩
          have hk : k = counter := by omega
          rw [hk]
          exact htaken
        · rw [if_neg hlast]
          rcases hrest with ⟨k, hle, hlt, hmissing, happly⟩ | ⟨e, dir', happly, hbeside, hwhy⟩
          · exact .inl ⟨k, by omega, by omega, hmissing, happly⟩
          · refine .inr ⟨e, dir', happly, hbeside, hwhy.imp_right fun hall k hle hlt => ?_⟩
            rcases Nat.eq_or_lt_of_le hle with rfl | hlt'
            · exact htaken
            · exact hall k hlt' (by omega)
      · rw [if_neg htaken]
        have hmissing : dir[backupName (backupStem paths.fileName schema) counter]? = none := by
          rw [Bool.not_eq_true, Std.ExtTreeMap.contains_eq_isSome_getElem?] at htaken
          exact Option.isNone_iff_eq_none.1 (Option.isSome_eq_false_iff.1 htaken)
        simp only [apply_bind, apply_modify, FileSystem.step_apply]
        cases hwrite : fs.fails .backupWrite with
        | some e =>
          exact .inr ⟨e, _, rfl, beside_insert (backupName_ne paths.fileName schema counter) hmissing _, .inl ⟨_, hwrite⟩⟩
        | none => exact .inl ⟨counter, Nat.le_refl _, by omega, hmissing, rfl⟩

omit serde in
/-- A backup's name is not the lock file's. -/
theorem backupName_ne_lock (stem : String) (counter : Nat) : backupName stem counter ≠ LOCK_FILE_NAME := by
  have hlast : ∀ s : String, s ++ ".bak" ≠ LOCK_FILE_NAME := by
    intro s heq
    have htext : s.toList ++ ".bak".toList = "state.lock".toList := by
      rw [← String.toList_append, heq]
      rfl
    have hrev := congrArg (fun l => l.reverse.take 2) htext
    simp at hrev
  unfold backupName
  split
  · exact hlast _
  · exact hlast _

omit serde in
/-- The lock file is beside what was there. -/
theorem beside_locked (hname : paths.fileName ≠ LOCK_FILE_NAME) : Beside paths dir (dir.insertIfNew LOCK_FILE_NAME []) := by
  refine ⟨getElem?_locked hname, fun name bytes hfound => ?_⟩
  rw [Std.ExtTreeMap.getElem?_insertIfNew, if_neg]
  · exact hfound
  · rintro ⟨hcompare, hmissing⟩
    rw [Std.compare_eq_iff_eq.1 hcompare] at hmissing
    rw [Std.ExtTreeMap.mem_iff_isSome_getElem?, hfound] at hmissing
    exact hmissing rfl

variable (fs) in
/-- **A file that loads is not discarded.** -/
theorem discard_loadable (hname : paths.fileName ≠ LOCK_FILE_NAME) {bytes : FileBytes} (hfile : dir[paths.fileName]? = some bytes)
    (hload : isLoadableBytes bytes = .ok state) :
    ∃ e dir', (discardDiskUnreadable fs paths).apply dir = (.error e, dir') ∧ Beside paths dir dir' := by
  simp only [discardDiskUnreadable, apply_bind, acquire_apply]
  cases fs.fails .lock with
  | some e => exact ⟨e, dir, rfl, .refl⟩
  | none =>
    have hbeside : Beside paths dir (dir.insertIfNew LOCK_FILE_NAME []) := beside_locked hname
    simp only [readFile_apply, hbeside.state, hfile]
    cases fs.fails .read with
    | some e => exact ⟨e, _, rfl, hbeside⟩
    | none =>
      simp only [hload]
      exact ⟨_, _, rfl, hbeside⟩

omit serde in
theorem StateFile.default_valid : StateFile.default.validate = .ok () := by decide +kernel

/-- Where there is no file the default document is written. -/
theorem discard_missing (hserde : serde.RoundTrips) (hname : paths.fileName ≠ LOCK_FILE_NAME) (hfs : fs.Faultless)
    (hfile : dir[paths.fileName]? = none) {bytes : FileBytes} (hdefault : SerdeJson.toVecPretty .default = .ok bytes) :
    ∃ dir', (discardDiskUnreadable fs paths).apply dir = (.ok ⟨none, none⟩, dir') ∧ paths.stored dir' = .ok .default := by
  have hbeside : Beside paths dir (dir.insertIfNew LOCK_FILE_NAME []) := beside_locked hname
  simp only [discardDiskUnreadable, apply_bind, acquire_apply, hfs .lock, readFile_apply, hbeside.state, hfile,
    writeAtomic_faultless hfs StateFile.default_valid hdefault]
  exact ⟨_, rfl, stored_written hserde StateFile.default_valid hdefault⟩

variable (fs paths dir) in
/-- **How the discarding of a file that does not load may end.** -/
inductive Discarding (bytes : FileBytes) : Except StateError StateReset → Directory → Prop where
  /-- The file is where it was. -/
  | kept {e : StateError} {dir' : Directory} (beside : Beside paths dir dir')
      (cause : (∃ s, fs.fails s = some e) ∨ serde.toVecPretty .default = .error e ∨ ∀ k, 1 ≤ k → k ≤ 1000 →
        dir.contains (backupName (backupStem paths.fileName (serde.schemaHeader bytes).toOption) k) = true) :
      Discarding bytes (.error e) dir'
  /-- The default document is in its place and its bytes are in a new file. -/
  | replaced {r : Except StateError StateReset} {dir' : Directory} {name : String} {written : FileBytes}
      (answer : r = .ok ⟨some s!"{paths.parent}/{name}", (serde.schemaHeader bytes).toOption⟩ ∨
        ∃ e, r = .error e ∧ fs.fails .sync = some e)
      (missing : dir[name]? = none) (backup : dir'[name]? = some bytes) (encoded : serde.toVecPretty .default = .ok written)
      (state : dir'[paths.fileName]? = some written)
      (others : ∀ other ≠ paths.fileName, ∀ found, dir[other]? = some found → dir'[other]? = some found) :
      Discarding bytes r dir'

variable (fs paths dir) in
/-- The default document takes the place of a file that has a backup. -/
theorem discarding_backedUp {bytes : FileBytes} {middle : Directory} {name : String} (hne : name ≠ paths.fileName)
    (hmiddle : Beside paths dir middle) (hmissing : dir[name]? = none) (hbackup : middle[name]? = some bytes) :
    Discarding fs paths dir bytes
      ((do writeAtomic fs paths .default
           return ⟨some s!"{paths.parent}/{name}", (serde.schemaHeader bytes).toOption⟩ : FileOp StateReset).apply middle).1
      ((do writeAtomic fs paths .default
           return ⟨some s!"{paths.parent}/{name}", (serde.schemaHeader bytes).toOption⟩ : FileOp StateReset).apply middle).2 := by
  have hothers : ∀ written : FileBytes, ∀ other ≠ paths.fileName, ∀ found, dir[other]? = some found →
      (middle.insert paths.fileName written)[other]? = some found := by
    intro written other hother found hfound
    rw [BTreeMap.get_insert_of_ne _ hother.symm]
    exact hmiddle.others other found hfound
  have hbackup' : ∀ written : FileBytes, (middle.insert paths.fileName written)[name]? = some bytes := by
    intro written
    rw [BTreeMap.get_insert_of_ne _ hne.symm]
    exact hbackup
  rw [apply_bind]
  rcases writeAtomic_cases fs paths middle .default with
    ⟨e, hinvalid, -⟩ | ⟨-, e, dir', happly, hbeside, hwhy⟩ | ⟨-, written, hwritten, happly | ⟨e, happly, hsync⟩⟩
  · rw [StateFile.default_valid] at hinvalid
    cases hinvalid
  · rw [happly]
    exact .kept (hmiddle.trans hbeside) (hwhy.imp (fun ⟨s, _, hs⟩ => ⟨s, hs⟩) .inl)
  · rw [happly]
    exact .replaced (.inl rfl) hmissing (hbackup' written) hwritten (BTreeMap.get_insert_self ..) (hothers written)
  · rw [happly]
    exact .replaced (.inr ⟨e, rfl, hsync⟩) hmissing (hbackup' written) hwritten (BTreeMap.get_insert_self ..) (hothers written)

variable (fs) in
/-- **A file that does not load is kept where it is, or in a backup.** -/
theorem discard_unreadable (hname : paths.fileName ≠ LOCK_FILE_NAME) {bytes : FileBytes} (hfile : dir[paths.fileName]? = some bytes)
    (hload : (isLoadableBytes bytes).isOk = false) : Discarding fs paths dir bytes
      ((discardDiskUnreadable fs paths).apply dir).1 ((discardDiskUnreadable fs paths).apply dir).2 := by
  simp only [discardDiskUnreadable]
  rw [apply_bind, acquire_apply]
  cases hlock : fs.fails .lock with
  | some e => exact .kept .refl (.inl ⟨_, hlock⟩)
  | none =>
    have hlocked : Beside paths dir (dir.insertIfNew LOCK_FILE_NAME []) := beside_locked hname
    dsimp only
    rw [apply_bind, readFile_apply, hlocked.state, hfile]
    cases hread : fs.fails .read with
    | some e => exact .kept hlocked (.inl ⟨_, hread⟩)
    | none =>
      dsimp only
      rw [if_neg (by simp [hload]), apply_bind]
      have hbackups := createBackupFrom_cases fs paths (dir.insertIfNew LOCK_FILE_NAME []) (serde.schemaHeader bytes).toOption bytes 1000 1
      rw [createBackupExclusive]
      rcases hbackups with ⟨k, hle, hlt, hmissing, happly⟩ | ⟨e, dir', happly, hbeside, hwhy⟩
      · rw [happly]
        refine discarding_backedUp fs paths dir (backupName_ne _ _ k) ?_ ?_ (BTreeMap.get_insert_self ..)
        · exact hlocked.trans (beside_insert (backupName_ne _ _ k) hmissing _)
        · rw [← getElem?_locked (backupName_ne_lock _ k)]
          exact hmissing
      · rw [happly]
        refine .kept (hlocked.trans hbeside) (hwhy.imp_right fun htaken => .inr fun k hle hlt => ?_)
        have hcontains := htaken k hle (by omega)
        rw [Std.ExtTreeMap.contains_eq_isSome_getElem?] at hcontains ⊢
        rw [← getElem?_locked (backupName_ne_lock _ k)]
        exact hcontains

end Files

end AttackSharkX3
