import AttackSharkX3.Log.Rotating
/-!
# Kept — what the log files hold

Whatever fails, the files hold what was written in the order it was written.  As long as a write that fails leaves nothing
behind and a logger sees the length of the file it opens, no file grows past its cap and a line; and as long as files can be
moved besides, only the oldest lines go, and only while both generations are full.  Processes log one after another: each
counts what it wrote itself, so that two at once would let the file grow past its cap.
-/
namespace AttackSharkX3

open Effects (Ended Fallible Leads Prog)
open Effects.Prog (Ends History Only)

/-! ## The disk -/

/-- The files by their paths, and everything that was ever written to them. -/
structure LogDisk where
  files : String → Option (List UInt8)
  written : List UInt8

namespace LogDisk

/-- Bytes at the end of a file. -/
def append (disk : LogDisk) (path : String) (bytes : List UInt8) : LogDisk :=
  ⟨Function.update disk.files path (some ((disk.files path).getD [] ++ bytes)), disk.written ++ bytes⟩

/-- A file with nothing but these bytes. -/
def create (disk : LogDisk) (path : String) (bytes : List UInt8) : LogDisk :=
  ⟨Function.update disk.files path (some bytes), disk.written ++ bytes⟩

def remove (disk : LogDisk) (path : String) : LogDisk := { disk with files := Function.update disk.files path none }

/-- The file at `source` at `target` instead. -/
def move (disk : LogDisk) (source target : String) : LogDisk :=
  { disk with files := Function.update (Function.update disk.files target (disk.files source)) source none }

end LogDisk

/-- **How the file system may fail**, besides that a file cannot be opened for appending. -/
structure Weather where
  /-- A write may stop halfway, and a file may not be emptied. -/
  tears : Prop
  /-- The length of a file may not be read, and the counter then begins at zero. -/
  blinds : Prop
  /-- A file may be held by another program, so that it is not moved, removed or seen. -/
  holds : Prop

/-- A logger's counter is right: writes that fail leave nothing, and the file's length was seen. -/
def Weather.Counts (weather : Weather) : Prop := ¬ weather.tears ∧ ¬ weather.blinds

/-- **What the surroundings answer**, and do. -/
def LogOp.step (weather : Weather) : (op : LogOp) → LogDisk → LogFiles.Res op → LogDisk → Prop
  | .now, disk, _, disk' => disk' = disk
  | .eprintln _, disk, _, disk' => disk' = disk
  | .length path, disk, r, disk' => disk' = disk ∧
      (r = .ok ((disk.files path).getD []).length ∨ r = .error .other ∧ (disk.files path = none ∨ weather.blinds))
  | .append path bytes, disk, r, disk' => (r = .ok () ∧ disk' = disk.append path bytes) ∨
      r = .error .other ∧ (disk' = disk ∨ weather.tears ∧ ∃ part, part <+: bytes ∧ disk' = disk.append path part)
  | .create path bytes, disk, r, disk' => (r = .ok () ∧ disk' = disk.create path bytes) ∨
      r = .error .other ∧ weather.tears ∧ (disk' = disk ∨ ∃ part, part <+: bytes ∧ disk' = disk.create path part)
  | .removeFile path, disk, r, disk' => (r = .ok () ∧ disk' = disk.remove path) ∨
      r = .error .other ∧ disk' = disk ∧ (disk.files path = none ∨ weather.holds)
  | .exists_ path, disk, r, disk' => disk' = disk ∧ (r = (disk.files path).isSome ∨ r = false ∧ weather.holds)
  | .rename source target, disk, r, disk' =>
      (r = .ok () ∧ (disk.files source).isSome ∧ disk' = disk.move source target) ∨
      r = .error .other ∧ disk' = disk ∧ (disk.files source = none ∨ weather.holds)

/-! ## Three files -/

/-- A log file and its generations. -/
structure Shelf where
  two : Option (List UInt8)
  one : Option (List UInt8)
  base : Option (List UInt8)

/-- What is left of the log, from its oldest byte. -/
def Shelf.kept (shelf : Shelf) : List UInt8 := shelf.two.getD [] ++ shelf.one.getD [] ++ shelf.base.getD []

namespace LogDisk

variable (disk : LogDisk) (path : String) (bytes : List UInt8)

def shelf : Shelf :=
  ⟨disk.files (generationPath path ".2"), disk.files (generationPath path ".1"), disk.files path⟩

theorem one_ne_base : generationPath path ".1" ≠ path := by
  intro h
  have hlength := congrArg String.length h
  simp [generationPath] at hlength

theorem two_ne_base : generationPath path ".2" ≠ path := by
  intro h
  have hlength := congrArg String.length h
  simp [generationPath] at hlength

theorem two_ne_one : generationPath path ".2" ≠ generationPath path ".1" := by
  simp [generationPath]

theorem shelf_append : (disk.append path bytes).shelf path =
    { disk.shelf path with base := some ((disk.shelf path).base.getD [] ++ bytes) } := by
  simp [shelf, append, one_ne_base, two_ne_base]

theorem shelf_create : (disk.create path bytes).shelf path = { disk.shelf path with base := some bytes } := by
  simp [shelf, create, one_ne_base, two_ne_base]

theorem shelf_remove : (disk.remove (generationPath path ".2")).shelf path = { disk.shelf path with two := none } := by
  simp [shelf, remove, (two_ne_one path).symm, (two_ne_base path).symm]

theorem shelf_moveOne : (disk.move (generationPath path ".1") (generationPath path ".2")).shelf path =
    { disk.shelf path with two := (disk.shelf path).one, one := none } := by
  simp [shelf, move, two_ne_one, (two_ne_base path).symm, (one_ne_base path).symm]

theorem shelf_moveBase : (disk.move path (generationPath path ".1")).shelf path =
    { disk.shelf path with one := (disk.shelf path).base, base := none } := by
  simp [shelf, move, two_ne_one, two_ne_base, one_ne_base]

end LogDisk

/-! ## In order, whatever fails -/

/-- The operations of the log at a path. -/
def LogOp.At (path : String) : LogOp → Prop
  | .append target _ | .create target _ => target = path
  | .removeFile target => target = generationPath path ".2"
  | .rename source target => (source = generationPath path ".1" ∧ target = generationPath path ".2") ∨
      source = path ∧ target = generationPath path ".1"
  | .now | .length _ | .exists_ _ | .eprintln _ => True

/-- **The files hold what was written, in order**, and nothing twice. -/
def LogDisk.InOrder (path : String) (disk : LogDisk) : Prop := (disk.shelf path).kept.Sublist disk.written

namespace LogDisk.InOrder

variable {weather : Weather} {path : String} {disk disk' : LogDisk} {bytes part : List UInt8}

theorem append (h : disk.InOrder path) : (disk.append path bytes).InOrder path := by
  rw [InOrder, shelf_append, Shelf.kept]
  rw [InOrder, Shelf.kept] at h
  simp only [Option.getD_some, ← List.append_assoc]
  exact h.append (List.Sublist.refl bytes)

theorem create (h : disk.InOrder path) : (disk.create path bytes).InOrder path := by
  rw [InOrder, shelf_create, Shelf.kept]
  rw [InOrder, Shelf.kept] at h
  exact ((List.sublist_append_left _ _).trans h).append (List.Sublist.refl bytes)

/-- What an operation of the log leaves in order. -/
theorem step {op : LogOp} {r : LogFiles.Res op} (hop : op.At path) (h : disk.InOrder path) (hstep : op.step weather disk r disk') :
    disk'.InOrder path := by
  cases op with
  | now | eprintln _ => exact hstep ▸ h
  | length _ | exists_ _ => exact hstep.1 ▸ h
  | append target bytes =>
    cases hop
    rcases hstep with ⟨-, rfl⟩ | ⟨-, rfl | ⟨-, part, -, rfl⟩⟩
    · exact h.append
    · exact h
    · exact h.append
  | create target bytes =>
    cases hop
    rcases hstep with ⟨-, rfl⟩ | ⟨-, -, rfl | ⟨part, -, rfl⟩⟩
    · exact h.create
    · exact h
    · exact h.create
  | removeFile target =>
    cases hop
    rcases hstep with ⟨-, rfl⟩ | ⟨-, rfl, -⟩
    · rw [InOrder, shelf_remove]
      refine List.Sublist.trans ?_ h
      simp only [Shelf.kept, Option.getD_none, List.nil_append, List.append_assoc]
      exact List.sublist_append_right _ _
    · exact h
  | rename source target =>
    rcases hstep with ⟨-, -, rfl⟩ | ⟨-, rfl, -⟩
    · rcases hop with ⟨rfl, rfl⟩ | ⟨rfl, rfl⟩
      · rw [InOrder, shelf_moveOne]
        refine List.Sublist.trans ?_ h
        simp only [Shelf.kept, Option.getD_none, List.append_nil]
        exact (List.sublist_append_right _ _).append (List.Sublist.refl _)
      · rw [InOrder, shelf_moveBase]
        refine List.Sublist.trans ?_ h
        simp only [Shelf.kept, Option.getD_none, List.append_nil]
        exact (List.sublist_append_left _ _).append (List.Sublist.refl _)
    · exact h

end LogDisk.InOrder

/-! ## What the logger does is at its path -/

namespace RotatingFile

theorem only_moveUp (file : RotatingFile) : Fallible.Only (LogOp.At file.path.text) file.moveUp := by
  have hremove : Only (LogOp.At file.path.text) (LogFiles.removeFile file.gen2) := ⟨rfl, fun _ => trivial⟩
  have hexists : Only (LogOp.At file.path.text) (LogFiles.exists_ file.gen1) := ⟨trivial, fun _ => trivial⟩
  have hrenameOne : Fallible.Only (E := IoError) (LogOp.At file.path.text) (.mk (LogFiles.rename file.gen1 file.gen2)) :=
    ⟨.inl ⟨rfl, rfl⟩, fun _ => trivial⟩
  have hrename : Fallible.Only (E := IoError) (LogOp.At file.path.text) (.mk (LogFiles.rename file.path.text file.gen1)) :=
    ⟨.inr ⟨rfl, rfl⟩, fun _ => trivial⟩
  have hnow : Only (LogOp.At file.path.text) LogFiles.now := ⟨trivial, fun _ => trivial⟩
  have happend (bytes : List UInt8) :
      Fallible.Only (E := IoError) (LogOp.At file.path.text) (.mk (LogFiles.append file.path.text bytes)) :=
    ⟨rfl, fun _ => trivial⟩
  refine .bind (.lift hremove) fun _ => .bind (.lift hexists) fun there => .bind ?_ fun _ => .bind hrename fun _ => ?_
  · cases there with
    | true => exact hrenameOne
    | false => exact .pure
  · exact .bind (.lift hnow) fun _ => .bind (happend _) fun _ => .pure

theorem only_rotate (file : RotatingFile) : Only (LogOp.At file.path.text) file.rotate := by
  refine .bind (fun r => ?_) _ file.only_moveUp
  cases r with
  | ok size => trivial
  | error e =>
    refine ⟨trivial, fun secs => ⟨rfl, fun r => ?_⟩⟩
    cases r <;> trivial

theorem only_appendLine (file : RotatingFile) (line : String) : Only (LogOp.At file.path.text) (file.appendLine line) := by
  refine ⟨rfl, fun r => ?_⟩
  cases r with
  | error e => trivial
  | ok =>
    show Only _ (if _ then _ else _)
    split
    · exact only_rotate _
    · trivial

end RotatingFile

/-! ## What a rotation does -/

/-- A text with no line in it but itself. -/
def OneLine (line : String) : Prop := '\n' ∉ line.toList

theorem singleLine_oneLine (text : String) : OneLine (singleLine text) := by
  unfold OneLine singleLine
  split
  · simp only [String.toList_ofList, List.mem_map, not_exists, not_and]
    intro c _ hc
    split at hc
    · cases hc
    · next hkept =>
      subst hc
      exact hkept rfl
  · next hnone =>
    intro hmem
    exact hnone (List.any_eq_true.2 ⟨'\n', hmem, rfl⟩)

theorem toDigits_oneLine (n : Nat) : '\n' ∉ Nat.toDigits 10 n := fun hmem =>
  absurd (Nat.isDigit_of_mem_toDigits (by decide) (by decide) hmem) (by decide)

theorem zeroPadded_oneLine {digits : String} (width : Nat) (h : OneLine digits) : OneLine (zeroPadded width digits) := by
  unfold OneLine zeroPadded
  rw [String.toList_append, String.toList_ofList, List.mem_append, not_or]
  exact ⟨fun hmem => absurd (List.eq_of_mem_replicate hmem) (by decide), h⟩

theorem nat_oneLine (n : Nat) : OneLine (toString n) := by
  show '\n' ∉ (Nat.repr n).toList
  rw [Nat.repr, String.toList_ofList]
  exact toDigits_oneLine n

theorem int_oneLine (n : Int) : OneLine (toString n) := by
  cases n with
  | ofNat n => exact nat_oneLine n
  | negSucc n =>
    show '\n' ∉ ("-" ++ Nat.repr (n + 1)).toList
    rw [String.toList_append, List.mem_append, not_or]
    exact ⟨by decide, nat_oneLine (n + 1)⟩

theorem asStr_oneLine (level : LogLevel) : OneLine level.asStr := by cases level <;> simp [OneLine, LogLevel.asStr]

theorem timestamp_oneLine (secs : Nat) : OneLine (formatUnixTimestamp secs) := by
  have hnat (n : Nat) : '\n' ∉ (zeroPadded 2 (toString n)).toList := zeroPadded_oneLine _ (nat_oneLine n)
  have hint (n : Int) : '\n' ∉ (zeroPadded 4 (toString n)).toList := zeroPadded_oneLine _ (int_oneLine n)
  unfold formatUnixTimestamp OneLine
  simp only [String.toList_append, List.mem_append, not_or, and_assoc]
  exact ⟨hint _, by decide, hnat _, by decide, hnat _, by decide, hnat _, by decide, hnat _, by decide, hnat _, by decide⟩

theorem formatLine_oneLine (secs : Nat) (level : LogLevel) (target message : String) :
    OneLine (formatLine secs level target message) := by
  have hstamp : '\n' ∉ (formatUnixTimestamp secs).toList := timestamp_oneLine secs
  have hlevel : '\n' ∉ level.asStr.toList := asStr_oneLine level
  have htext (text : String) : '\n' ∉ (singleLine text).toList := singleLine_oneLine text
  unfold formatLine OneLine
  simp only [String.toList_append, List.mem_append, not_or, and_assoc]
  exact ⟨hstamp, by decide, hlevel, by decide, htext _, by decide, htext _⟩

theorem length_lineBytes (line : String) : (RotatingFile.lineBytes line).length = (asBytes line).length + 1 := by
  rw [RotatingFile.lineBytes, asBytes_eq, asBytes_eq, String.toList_append, List.flatMap_append, List.length_append]
  rfl

/-- **The generations after they moved**, or as far as they could be moved. -/
inductive Shelf.Moved (weather : Weather) (s : Shelf) : Shelf → Prop where
  | raised (hone : s.one.isSome) : Moved weather s ⟨s.one, s.base, none⟩
  | replaced (two) (htwo : two = none ∨ two = s.two ∧ weather.holds) (hone : s.one = none ∨ weather.holds) :
      Moved weather s ⟨two, s.base, none⟩
  | heldOne (two) (htwo : two = none ∨ two = s.two) (hheld : weather.holds) : Moved weather s ⟨two, s.one, s.base⟩
  | heldBase (hheld : weather.holds) : Moved weather s ⟨s.one, none, s.base⟩

/-- A line in a new file, after the generations moved. -/
def LogDisk.Heads (weather : Weather) (path : String) (s : Shelf) (written : List UInt8) (line : String) (disk : LogDisk) : Prop :=
  OneLine line ∧ (∃ moved, Shelf.Moved weather s moved ∧
    disk.shelf path = { moved with base := some (RotatingFile.lineBytes line) }) ∧
  disk.written = written ++ RotatingFile.lineBytes line

/-- **A rotation, as the files see it.** -/
def LogDisk.Rotated (weather : Weather) (path : String) (disk : LogDisk) (line : String) (disk' : LogDisk) : Prop :=
  disk'.Heads weather path (disk.shelf path) disk.written line

namespace RotatingFile

variable {weather : Weather} {file : RotatingFile}

/-- The shelf of the file, and what was written so far. -/
def Stands (file : RotatingFile) (s : Shelf) (written : List UInt8) (disk : LogDisk) (_ : History LogFiles) : Prop :=
  disk.shelf file.path.text = s ∧ disk.written = written

/-- The oldest generation is removed, unless it is held. -/
def Swept (weather : Weather) (file : RotatingFile) (s : Shelf) (written : List UInt8) (disk : LogDisk)
    (h : History LogFiles) : Prop :=
  ∃ two, (two = none ∨ two = s.two ∧ weather.holds) ∧ file.Stands ⟨two, s.one, s.base⟩ written disk h

/-- And the first has become the second, if it was seen. -/
def Raised (weather : Weather) (file : RotatingFile) (s : Shelf) (written : List UInt8) (disk : LogDisk)
    (h : History LogFiles) : Prop :=
  (s.one.isSome ∧ file.Stands ⟨s.one, none, s.base⟩ written disk h) ∨
    (s.one = none ∨ weather.holds) ∧ file.Swept weather s written disk h

/-- And the file has become the first. -/
def Cleared (weather : Weather) (file : RotatingFile) (s : Shelf) (written : List UInt8) (disk : LogDisk)
    (h : History LogFiles) : Prop :=
  ∃ moved, Shelf.Moved weather s moved ∧ moved.base = none ∧ file.Stands moved written disk h

/-- Some of it, until a step failed. -/
def Stuck (weather : Weather) (file : RotatingFile) (s : Shelf) (written : List UInt8) (_ : IoError) (disk : LogDisk)
    (h : History LogFiles) : Prop :=
  ∃ moved, Shelf.Moved weather s moved ∧ file.Stands moved written disk h

variable {s : Shelf} {bytes : List UInt8}

theorem leads_sweep : Leads (LogOp.step weather) (file.Stands s bytes) (ExceptT.lift (LogFiles.removeFile file.gen2))
    (fun _ => file.Swept weather s bytes) (file.Stuck weather s bytes) := by
  refine .lift fun disk h r disk' h' hs he => ?_
  obtain ⟨hshelf, hwritten⟩ := hs
  rcases he.of_op with ⟨-, rfl⟩ | ⟨-, rfl, hkept⟩
  · refine ⟨none, .inl rfl, ?_, hwritten⟩
    rw [gen2, LogDisk.shelf_remove, hshelf]
  · refine ⟨s.two, hkept.imp (fun hnone => ?_) (fun hheld => ⟨rfl, hheld⟩), hshelf, hwritten⟩
    rw [← hshelf]
    exact hnone

/-- The generations are moved unless one is missing, or held. -/
theorem leads_rename {source target : String} {pre : LogDisk → History LogFiles → Prop}
    {post : Unit → LogDisk → History LogFiles → Prop} {fails : IoError → LogDisk → History LogFiles → Prop}
    (moves : ∀ disk h h', pre disk h → (disk.files source).isSome → post () (disk.move source target) h')
    (stays : ∀ disk h h', pre disk h → disk.files source = none ∨ weather.holds → fails .other disk h') :
    Leads (LogOp.step weather) pre (ExceptT.mk (LogFiles.rename source target)) post fails := by
  show Leads _ _ (Fallible.perform (S := LogFiles) (.rename source target) fun r => r) _ _
  refine .perform fun disk h r disk' hpre hstep => ?_
  rcases hstep with ⟨rfl, hthere, rfl⟩ | ⟨rfl, rfl, hstays⟩
  · exact moves _ _ _ hpre hthere
  · exact stays _ _ _ hpre hstays

/-- Whether the first is seen. -/
def Seen (weather : Weather) (file : RotatingFile) (s : Shelf) (written : List UInt8) (there : Bool) (disk : LogDisk)
    (h : History LogFiles) : Prop :=
  (there = s.one.isSome ∨ there = false ∧ weather.holds) ∧ file.Swept weather s written disk h

theorem leads_see : Leads (LogOp.step weather) (file.Swept weather s bytes) (ExceptT.lift (LogFiles.exists_ file.gen1))
    (file.Seen weather s bytes) (file.Stuck weather s bytes) := by
  refine .lift fun disk h there disk' h' hs he => ?_
  obtain ⟨two, htwo, hshelf, hwritten⟩ := hs
  obtain ⟨rfl, hthere⟩ := he.of_op
  refine ⟨?_, two, htwo, hshelf, hwritten⟩
  rwa [show disk'.files file.gen1 = s.one from congrArg Shelf.one hshelf] at hthere

theorem leads_raise (there : Bool) : Leads (LogOp.step weather) (file.Seen weather s bytes there)
    (if there then ExceptT.mk (LogFiles.rename file.gen1 file.gen2) else pure ())
    (fun _ => file.Raised weather s bytes) (file.Stuck weather s bytes) := by
  cases there with
  | false =>
    refine .pure fun disk h hs => .inr ⟨?_, hs.2⟩
    rcases hs.1 with hnone | ⟨-, hheld⟩
    · exact .inl (Option.not_isSome_iff_eq_none.1 (hnone ▸ Bool.false_ne_true))
    · exact .inr hheld
  | true =>
    refine leads_rename (fun disk h _ hs hthere => ?_) fun disk h _ hs hstays => ?_
    · obtain ⟨-, two, -, hshelf, hwritten⟩ := hs
      refine .inl ⟨?_, ?_, hwritten⟩
      · rwa [show disk.files file.gen1 = s.one from congrArg Shelf.one hshelf] at hthere
      · rw [gen1, gen2, LogDisk.shelf_moveOne, hshelf]
    · obtain ⟨hthere, two, htwo, hshelf, hwritten⟩ := hs
      rw [show disk.files file.gen1 = s.one from congrArg Shelf.one hshelf] at hstays
      have hheld : weather.holds := by
        rcases hstays with hnone | hheld
        · rw [hnone] at hthere
          rcases hthere with hthere | ⟨hthere, -⟩ <;> cases hthere
        · exact hheld
      exact ⟨_, .heldOne two (htwo.imp_right And.left) hheld, hshelf, hwritten⟩

theorem leads_clear (hbase : s.base.isSome) : Leads (LogOp.step weather) (file.Raised weather s bytes)
    (ExceptT.mk (LogFiles.rename file.path.text file.gen1)) (fun _ => file.Cleared weather s bytes)
    (file.Stuck weather s bytes) := by
  refine leads_rename (fun disk h _ hs _ => ?_) fun disk h _ hs hstays => ?_
  · rcases hs with ⟨hone, hshelf, hwritten⟩ | ⟨hone, two, htwo, hshelf, hwritten⟩
    · refine ⟨_, .raised hone, rfl, ?_, hwritten⟩
      rw [gen1, LogDisk.shelf_moveBase, hshelf]
    · refine ⟨_, .replaced two htwo hone, rfl, ?_, hwritten⟩
      rw [gen1, LogDisk.shelf_moveBase, hshelf]
  · have hheld : disk.files file.path.text = s.base → weather.holds := fun hfile => by
      rcases hstays with hnone | hheld
      · rw [← hfile, hnone] at hbase
        cases hbase
      · exact hheld
    rcases hs with ⟨hone, hshelf, hwritten⟩ | ⟨hone, two, htwo, hshelf, hwritten⟩
    · exact ⟨_, .heldBase (hheld (congrArg Shelf.base hshelf)), hshelf, hwritten⟩
    · exact ⟨_, .heldOne two (htwo.imp_right And.left) (hheld (congrArg Shelf.base hshelf)), hshelf, hwritten⟩

/-- A line in a new file, after the generations moved. -/
def Headed (weather : Weather) (file : RotatingFile) (s : Shelf) (written : List UInt8) (line : String) (disk : LogDisk)
    (_ : History LogFiles) : Prop := disk.Heads weather file.path.text s written line

theorem leads_head (hwhole : ¬ weather.tears) {line : String} (hline : OneLine line) :
    Leads (LogOp.step weather) (file.Cleared weather s bytes) (ExceptT.mk (LogFiles.append file.path.text (lineBytes line)))
      (fun _ => file.Headed weather s bytes line) (file.Stuck weather s bytes) := by
  show Leads _ _ (Fallible.perform (S := LogFiles) (.append file.path.text (lineBytes line)) fun r => r) _ _
  refine .perform fun disk h r disk' hs hstep => ?_
  obtain ⟨moved, hmoved, hbase, hshelf, hwritten⟩ := hs
  rcases hstep with ⟨rfl, rfl⟩ | ⟨rfl, rfl | ⟨htears, -⟩⟩
  · refine ⟨hline, ⟨moved, hmoved, ?_⟩, ?_⟩
    · rw [LogDisk.shelf_append, hshelf, hbase]
      rfl
    · rw [LogDisk.append, hwritten]
  · exact ⟨moved, hmoved, hshelf, hwritten⟩
  · exact absurd htears hwhole

theorem leads_moveUp (hwhole : ¬ weather.tears) (hbase : s.base.isSome) :
    Leads (LogOp.step weather) (file.Stands s bytes) file.moveUp
      (fun size disk h => ∃ banner, size = (lineBytes banner).length ∧ file.Headed weather s bytes banner disk h)
      (file.Stuck weather s bytes) := by
  refine .bind leads_sweep fun _ => .bind leads_see fun there => .bind (leads_raise there) fun _ => .bind (leads_clear hbase) fun _ =>
    .bind (Q := fun _ => file.Cleared weather s bytes) (.lift fun disk h secs disk' h' hs he => ?_) fun secs =>
    .bind (leads_head hwhole (formatLine_oneLine _ _ _ _)) fun _ => .pure fun disk h hs => ⟨_, (length_lineBytes _).symm, hs⟩
  cases he.of_op
  exact hs

/-- A rotation counts anew. -/
theorem rotate_counts {disk disk' : LogDisk} {h h' : History LogFiles} {file' : RotatingFile}
    (he : Ends (LogOp.step weather) file.rotate disk h file' disk' h') : ∃ size, file' = { file with currentSize := size } := by
  obtain ⟨r, disk₁, h₁, hmove, hrest⟩ := Ends.of_bind he
  cases r with
  | ok size =>
    cases hrest
    exact ⟨size, rfl⟩
  | error e =>
    obtain ⟨secs, disk₂, h₂, hnow, hrest⟩ := Ends.of_bind hrest
    obtain ⟨r, disk₃, h₃, hcreate, hrest⟩ := Ends.of_bind hrest
    cases r with
    | ok | error =>
      cases hrest
      exact ⟨_, rfl⟩

theorem appendLine_counts {line : String} {disk disk' : LogDisk} {h h' : History LogFiles} {file' : RotatingFile}
    (he : Ends (LogOp.step weather) (file.appendLine line) disk h file' disk' h') :
    ∃ size, file' = { file with currentSize := size } := by
  obtain ⟨r, disk₁, h₁, happend, hrest⟩ := Ends.of_bind he
  cases r with
  | error e =>
    cases hrest
    exact ⟨_, rfl⟩
  | ok =>
    dsimp only at hrest
    split at hrest
    · obtain ⟨size, rfl⟩ := rotate_counts hrest
      exact ⟨size, rfl⟩
    · cases hrest
      exact ⟨_, rfl⟩

/-- **What a rotation leaves**, whatever is held: a line in a new file, and the size of that line. -/
theorem rotate_ends (hwhole : ¬ weather.tears) {disk disk' : LogDisk} {h h' : History LogFiles} {file' : RotatingFile}
    (hbase : (disk.shelf file.path.text).base.isSome) (he : Ends (LogOp.step weather) file.rotate disk h file' disk' h') :
    ∃ line, file' = { file with currentSize := (lineBytes line).length } ∧
      file.Headed weather (disk.shelf file.path.text) disk.written line disk' h' := by
  obtain ⟨r, disk₁, h₁, hmove, hrest⟩ := Ends.of_bind he
  have hend := leads_moveUp hwhole hbase disk h r disk₁ h₁ ⟨rfl, rfl⟩ hmove
  cases r with
  | ok size =>
    cases hrest
    obtain ⟨banner, rfl, hheaded⟩ := hend
    exact ⟨banner, rfl, hheaded⟩
  | error e =>
    obtain ⟨moved, hmoved, hshelf, hwritten⟩ := hend
    obtain ⟨secs, disk₂, h₂, hnow, hrest⟩ := Ends.of_bind hrest
    cases hnow.of_op
    obtain ⟨r, disk₃, h₃, hcreate, hrest⟩ := Ends.of_bind hrest
    rcases hcreate.of_op with ⟨rfl, rfl⟩ | ⟨-, htears, -⟩
    · cases hrest
      refine ⟨_, by rw [length_lineBytes], formatLine_oneLine _ _ _ _, ⟨moved, hmoved, ?_⟩, ?_⟩
      · rw [LogDisk.shelf_create, hshelf]
      · rw [LogDisk.create, hwritten]
    · exact absurd htears hwhole

theorem appendLine_ends (hwhole : ¬ weather.tears) {line : String} {disk disk' : LogDisk} {h h' : History LogFiles}
    {file' : RotatingFile} (he : Ends (LogOp.step weather) (file.appendLine line) disk h file' disk' h') :
    (disk' = disk ∧ file' = file) ∨
    (disk' = disk.append file.path.text (lineBytes line) ∧ file.currentSize + (lineBytes line).length ≤ file.maxBytes ∧
      file' = { file with currentSize := file.currentSize + (lineBytes line).length }) ∨
    file.maxBytes < file.currentSize + (lineBytes line).length ∧
      ∃ note, file' = { file with currentSize := (lineBytes note).length } ∧
        (disk.append file.path.text (lineBytes line)).Rotated weather file.path.text note disk' := by
  obtain ⟨r, disk₁, h₁, happend, hrest⟩ := Ends.of_bind he
  rcases happend.of_op with ⟨rfl, rfl⟩ | ⟨rfl, rfl | ⟨htears, -⟩⟩
  · dsimp only at hrest
    split at hrest
    · next hover =>
      obtain ⟨note, rfl, hheaded⟩ := rotate_ends hwhole (by rw [LogDisk.shelf_append]; rfl) hrest
      exact .inr (.inr ⟨hover, note, rfl, hheaded⟩)
    · next hwithin =>
      cases hrest
      exact .inr (.inl ⟨rfl, Nat.not_lt.1 hwithin, rfl⟩)
  · cases hrest
    exact .inl ⟨rfl, rfl⟩
  · exact absurd htears hwhole

end RotatingFile

/-! ## Within bounds, and nothing lost too soon -/

/-- **A log file between two lines**: within its cap, or a line alone. -/
def Within (cap : Nat) (content : List UInt8) : Prop :=
  content.length ≤ cap ∨ ∃ line, OneLine line ∧ content = RotatingFile.lineBytes line

/-- **A file that has become a generation**: it was within its cap before its last line. -/
def WithinLine (cap : Nat) (content : List UInt8) : Prop :=
  ∃ before line, Within cap before ∧ OneLine line ∧ content = before ++ RotatingFile.lineBytes line

namespace Shelf

/-- **No file grows past the cap and a line.** -/
structure Bounded (cap : Nat) (s : Shelf) : Prop where
  base : Within cap (s.base.getD [])
  one : ∀ content, s.one = some content → WithinLine cap content
  two : ∀ content, s.two = some content → WithinLine cap content

/-- Both generations are over the cap. -/
def Full (cap : Nat) (s : Shelf) : Prop := ∃ one two, s.one = some one ∧ s.two = some two ∧ cap < one.length ∧ cap < two.length

/-- **Only the oldest bytes are gone**, and none before both generations are full. -/
structure Retained (cap : Nat) (s : Shelf) (written : List UInt8) : Prop where
  latest : s.kept <:+ written
  all : s.kept = written ∨ s.Full cap
  one : ∀ content, s.one = some content → cap < content.length
  two : s.two.isSome → s.one.isSome

variable {weather : Weather} {cap : Nat} {s moved : Shelf} {written bytes : List UInt8} {line note : String}

theorem Bounded.rotated (h : s.Bounded cap) (hline : OneLine line) (hnote : OneLine note)
    (hmoved : Moved weather { s with base := some (s.base.getD [] ++ RotatingFile.lineBytes line) } moved) :
    Bounded cap { moved with base := some (RotatingFile.lineBytes note) } := by
  have hbase : ∀ content, some (s.base.getD [] ++ RotatingFile.lineBytes line) = some content → WithinLine cap content := by
    rintro content ⟨⟩
    exact ⟨_, line, h.base, hline, rfl⟩
  have htwo : ∀ two : Option (List UInt8), two = none ∨ two = s.two → ∀ content, two = some content → WithinLine cap content := by
    rintro two (rfl | rfl) content hcontent
    · cases hcontent
    · exact h.two content hcontent
  refine ⟨.inr ⟨note, hnote, rfl⟩, ?_, ?_⟩
  · cases hmoved with
    | raised | replaced => exact hbase
    | heldOne => exact h.one
    | heldBase => exact nofun
  · cases hmoved with
    | raised | heldBase => exact h.one
    | replaced two hkept => exact htwo two (hkept.imp_right And.left)
    | heldOne two hkept => exact htwo two hkept

/-- A line that is appended. -/
theorem Retained.append (h : s.Retained cap written) :
    Retained cap { s with base := some (s.base.getD [] ++ bytes) } (written ++ bytes) := by
  have hkept : kept { s with base := some (s.base.getD [] ++ bytes) } = s.kept ++ bytes := by
    simp only [kept, Option.getD_some, List.append_assoc]
  refine ⟨?_, ?_, h.one, h.two⟩
  · rw [hkept]
    exact List.suffix_append_self_iff.2 h.latest
  · rw [hkept]
    exact h.all.imp (congrArg (· ++ bytes)) id

/-- **A rotation of a file that is over its cap drops the second generation at most**, when the first took its place. -/
theorem Retained.rotated (h : s.Retained cap written) (hmoves : ¬ weather.holds) {content : List UInt8}
    (hbase : s.base = some content) (hover : cap < content.length) (hmoved : Moved weather s moved) :
    Retained cap { moved with base := some bytes } (written ++ bytes) := by
  cases hmoved with
  | raised hone =>
    obtain ⟨one, hsome⟩ := Option.isSome_iff_exists.1 hone
    have hkept : kept ⟨s.one, s.base, some bytes⟩ = s.one.getD [] ++ s.base.getD [] ++ bytes := rfl
    have hsuffix : s.one.getD [] ++ s.base.getD [] <:+ s.kept := by
      rw [kept, List.append_assoc]
      exact List.suffix_append _ _
    refine ⟨?_, ?_, ?_, fun _ => by rw [hbase]; rfl⟩
    · rw [hkept]
      exact List.suffix_append_self_iff.2 (hsuffix.trans h.latest)
    · by_cases htwo : s.two = none
      · rcases h.all with hall | ⟨-, two, -, hfull, -⟩
        · left
          rw [hkept, ← hall, kept, htwo, Option.getD_none, List.nil_append]
        · rw [htwo] at hfull
          cases hfull
      · exact .inr ⟨content, one, hbase, hsome, hover, h.one one hsome⟩
    · rintro other hother
      rw [hbase] at hother
      cases hother
      exact hover
  | replaced two htwo hone =>
    have hnone : s.one = none := hone.resolve_right hmoves
    have hnoTwo : s.two = none := by
      cases hsome : s.two with
      | none => rfl
      | some two =>
        have hthere := h.two (by rw [hsome]; rfl)
        rw [hnone] at hthere
        cases hthere
    have htwo : two = none := htwo.resolve_right fun hheld => hmoves hheld.2
    have hall : s.kept = written := h.all.resolve_right fun ⟨_, _, hfull, _⟩ => by
      rw [hnone] at hfull
      cases hfull
    have hkept : kept ⟨two, s.base, some bytes⟩ = written ++ bytes := by
      rw [← hall, kept, kept, htwo, hnone, hnoTwo]
      simp
    refine ⟨hkept ▸ List.suffix_refl _, .inl hkept, ?_, fun hsome => ?_⟩
    · rintro other hother
      rw [hbase] at hother
      cases hother
      exact hover
    · rw [htwo] at hsome
      cases hsome
  | heldOne _ _ hheld | heldBase hheld => exact absurd hheld hmoves

end Shelf

/-! ## Runs -/

/-- **What processes that log to one file do**, one after the other: a logger is installed, and logs what it is given. -/
inductive LogRun (weather : Weather) (path : String) : LogDisk → Logger → Prop where
  | start {disk : LogDisk} (hempty : disk.shelf path = ⟨none, none, none⟩) (hwritten : disk.written = []) :
      LogRun weather path disk .none
  | restart {disk : LogDisk} {logger : Logger} (run : LogRun weather path disk logger) : LogRun weather path disk .none
  | init {disk disk' : LogDisk} {logger logger' : Logger} {h h' : History LogFiles} (run : LogRun weather path disk logger)
      (session : LogSession) (config : LoggerConfig) (hpath : ∀ file, config.filePath = some file → file.text = path)
      (ends : Ends (LogOp.step weather) (logger.init session config) disk h logger' disk' h') : LogRun weather path disk' logger'
  | log {disk disk' : LogDisk} {logger logger' : Logger} {h h' : History LogFiles} (run : LogRun weather path disk logger)
      (level : LogLevel) (target message : String)
      (ends : Ends (LogOp.step weather) (logger.log level target message) disk h logger' disk' h') : LogRun weather path disk' logger'

/-- **What holds of the files and the open one** between two lines. -/
structure Logged (weather : Weather) (path : String) (disk : LogDisk) (file : Option RotatingFile) : Prop where
  inOrder : disk.InOrder path
  at_path : ∀ f, file = some f → f.path.text = path ∧ f.maxBytes = RotatingFile.DEFAULT_MAX_BYTES
  counted : weather.Counts → ∀ f, file = some f → f.currentSize = ((disk.shelf path).base.getD []).length
  bounded : weather.Counts → (disk.shelf path).Bounded RotatingFile.DEFAULT_MAX_BYTES
  retained : weather.Counts → ¬ weather.holds → (disk.shelf path).Retained RotatingFile.DEFAULT_MAX_BYTES disk.written

namespace Logged

variable {weather : Weather} {path : String} {disk disk' : LogDisk} {file : Option RotatingFile} {h h' : History LogFiles}

theorem closed (hl : Logged weather path disk file) : Logged weather path disk none where
  inOrder := hl.inOrder
  at_path _ hnone := nomatch hnone
  counted _ _ hnone := nomatch hnone
  bounded := hl.bounded
  retained := hl.retained

theorem opened (hl : Logged weather path disk file) {at_ : LogPath} (hat : at_.text = path) {f : RotatingFile}
    (he : Ends (LogOp.step weather) (RotatingFile.open_ at_) disk h f disk' h') : Logged weather path disk' (some f) := by
  obtain ⟨r, disk₁, h₁, hlength, hrest⟩ := Ends.of_bind he
  obtain ⟨rfl, hr⟩ := hlength.of_op
  cases hrest
  refine ⟨hl.inOrder, ?_, fun hwhole => ?_, hl.bounded, hl.retained⟩
  · rintro _ ⟨⟩
    exact ⟨hat, rfl⟩
  · rintro _ ⟨⟩
    subst hat
    rcases hr with rfl | ⟨rfl, hnone | hblinds⟩
    · rfl
    · rw [show (LogDisk.shelf _ at_.text).base = none from hnone]
      rfl
    · exact absurd hblinds hwhole.2

/-- **A line is appended**, and the files are rotated when they are over the cap. -/
theorem lined {f f' : RotatingFile} {line : String} (hl : Logged weather path disk (some f)) (hline : OneLine line)
    (he : Ends (LogOp.step weather) (f.appendLine line) disk h f' disk' h') : Logged weather path disk' (some f') := by
  obtain ⟨rfl, hcap⟩ := hl.at_path f rfl
  obtain ⟨size, hsize⟩ := RotatingFile.appendLine_counts he
  have hends := fun hwhole : weather.Counts => RotatingFile.appendLine_ends hwhole.1 he
  have hgrown : (disk.append f.path.text (RotatingFile.lineBytes line)).shelf f.path.text =
      { disk.shelf f.path.text with base := some (((disk.shelf f.path.text).base.getD []) ++ RotatingFile.lineBytes line) } :=
    LogDisk.shelf_append ..
  refine ⟨?_, ?_, fun hwhole => ?_, fun hwhole => ?_, fun hwhole hmoves => ?_⟩
  · exact Prog.Only.ends (P := fun disk _ => disk.InOrder f.path.text) (fun _ _ _ _ _ hop hP hstep => hP.step hop hstep) he
      (f.only_appendLine line) hl.inOrder
  · rintro _ ⟨⟩
    rw [hsize]
    exact ⟨rfl, hcap⟩
  · rintro _ ⟨⟩
    rcases hends hwhole with ⟨rfl, rfl⟩ | ⟨rfl, -, rfl⟩ | ⟨-, note, rfl, -, ⟨moved, -, hshelf⟩, -⟩
    · exact hl.counted hwhole _ rfl
    · rw [hgrown, hl.counted hwhole f rfl]
      simp
    · rw [hshelf]
      rfl
  · have hbounded := hl.bounded hwhole
    rcases hends hwhole with ⟨rfl, -⟩ | ⟨rfl, hwithin, -⟩ | ⟨-, note, -, hnote, ⟨moved, hmoved, hshelf⟩, -⟩
    · exact hbounded
    · rw [hgrown]
      refine ⟨.inl ?_, hbounded.one, hbounded.two⟩
      rw [hl.counted hwhole f rfl, hcap] at hwithin
      simpa using hwithin
    · rw [hgrown] at hmoved
      rw [hshelf]
      exact hbounded.rotated hline hnote hmoved
  · have hretained := hl.retained hwhole hmoves
    rcases hends hwhole with ⟨rfl, -⟩ | ⟨rfl, -, -⟩ | ⟨hover, note, -, -, ⟨moved, hmoved, hshelf⟩, hwritten⟩
    · exact hretained
    · rw [hgrown]
      exact hretained.append
    · rw [hshelf, hwritten]
      rw [hgrown] at hmoved
      refine hretained.append.rotated hmoves rfl ?_ hmoved
      rw [hl.counted hwhole f rfl, hcap] at hover
      simpa using hover

/-- What a logger writes is a line. -/
theorem appended {logger logger' : Logger} {level : LogLevel} {target message : String}
    (hl : Logged weather path disk logger.sink.file)
    (he : Ends (LogOp.step weather) (logger.append level target message) disk h logger' disk' h') :
    Logged weather path disk' logger'.sink.file := by
  obtain ⟨secs, disk₁, h₁, hnow, hrest⟩ := Ends.of_bind he
  cases hnow.of_op
  obtain ⟨file, disk₂, h₂, hfile, hrest⟩ := Ends.of_bind hrest
  have hwritten : Logged weather path disk₂ file := by
    unfold SinkState.writeFile at hfile
    cases hopen : logger.sink.file with
    | none =>
      rw [hopen] at hl hfile
      cases hfile
      exact hl
    | some f =>
      rw [hopen] at hl hfile
      obtain ⟨f', disk₃, h₃, happend, hend⟩ := Ends.of_bind hfile
      cases hend
      exact hl.lined (formatLine_oneLine _ _ _ _) happend
  obtain ⟨_, disk₃, h₃, hmirror, hend⟩ := Ends.of_bind hrest
  have hsame : disk₃ = disk₂ := by
    split at hmirror
    · exact hmirror.of_op
    · cases hmirror
      rfl
  cases hend
  rw [hsame]
  exact hwritten

theorem of_run {logger : Logger} (run : LogRun weather path disk logger) : Logged weather path disk logger.sink.file := by
  induction run with
  | start hempty hwritten =>
    refine ⟨?_, nofun, fun _ => nofun, fun _ => ?_, fun _ _ => ?_⟩
    · rw [LogDisk.InOrder, hempty, hwritten]
      exact List.Sublist.refl _
    · rw [hempty]
      exact ⟨.inl (Nat.zero_le _), nofun, nofun⟩
    · rw [hempty, hwritten]
      exact ⟨List.suffix_refl _, .inl rfl, nofun, nofun⟩
  | restart _ ih => exact ih.closed
  | @init disk disk' logger logger' h h' _ session config hpath he ih =>
    unfold Logger.init at he
    split at he
    · cases he
      exact ih
    · obtain ⟨file, disk₁, h₁, hopen, hrest⟩ := Ends.of_bind he
      have hopened : Logged weather path disk₁ file := by
        unfold LoggerConfig.openFile at hopen
        cases hconfig : config.filePath with
        | none =>
          rw [hconfig] at hopen
          cases hopen
          exact ih.closed
        | some at_ =>
          rw [hconfig] at hopen
          dsimp only at hopen
          split at hopen
          · cases hopen
            exact ih.closed
          · obtain ⟨f, disk₂, h₂, hopen, hend⟩ := Ends.of_bind hopen
            cases hend
            exact ih.opened (hpath at_ hconfig) hopen
      dsimp only at hrest
      split at hrest
      · exact appended hopened hrest
      · cases hrest
        exact hopened
  | log _ level target message he ih =>
    unfold Logger.log at he
    split at he
    · exact appended ih he
    · cases he
      exact ih

end Logged

/-- **What the log files hold**, after any run of processes that log there one after the other.  Whatever fails, the second
generation, the first and the file hold what was written in the order it was written.  If a write that fails leaves nothing
and the file's length can be read, no file is past its cap and a line.  If files can be moved besides, only the oldest bytes
are gone, and none unless both generations are over the cap. -/
theorem log_files_kept {weather : Weather} {path : String} {disk : LogDisk} {logger : Logger}
    (run : LogRun weather path disk logger) :
    (disk.shelf path).kept.Sublist disk.written ∧
    (¬ weather.tears → ¬ weather.blinds → (disk.shelf path).Bounded RotatingFile.DEFAULT_MAX_BYTES) ∧
    (¬ weather.tears → ¬ weather.blinds → ¬ weather.holds → (disk.shelf path).kept <:+ disk.written ∧
      ((disk.shelf path).kept = disk.written ∨ (disk.shelf path).Full RotatingFile.DEFAULT_MAX_BYTES)) := by
  have hlogged := Logged.of_run run
  refine ⟨hlogged.inOrder, fun hwhole hsees => hlogged.bounded ⟨hwhole, hsees⟩, fun hwhole hsees hmoves => ?_⟩
  have hretained := hlogged.retained ⟨hwhole, hsees⟩ hmoves
  exact ⟨hretained.latest, hretained.all⟩

namespace Rig

def emptyDisk : LogDisk := ⟨fun _ => none, []⟩

def guiLog : LogPath := ⟨"gui.log", some "gui.log"⟩

/-- Nothing fails. -/
def calm : Weather := ⟨False, False, False⟩

def guiFile : RotatingFile := ⟨guiLog, RotatingFile.DEFAULT_MAX_BYTES, 0⟩

def errorLogger : Logger := ⟨true, .error, ⟨some guiFile, false⟩⟩

theorem installed : LogRun calm "gui.log" emptyDisk errorLogger := by
  have begun : LogRun calm "gui.log" emptyDisk Logger.none := .start rfl rfl
  have hinit : Ends (LogOp.step calm) (Logger.none.init ⟨"x3ctl", "0", none, none⟩ ⟨.error, some guiLog, false⟩) emptyDisk []
      errorLogger emptyDisk [⟨.length "gui.log", .error .other⟩] := .call ⟨rfl, .inr ⟨rfl, .inl rfl⟩⟩ .pure
  refine begun.init _ _ ?_ hinit
  rintro _ ⟨⟩
  rfl

def rotationBanner : String := formatLine 0 .info "manager" s!"rotated log after exceeding {guiFile.maxBytes} bytes"

/-- The disk after a first line that is over the cap: the line has become the first generation. -/
def afterLong (line : String) : LogDisk :=
  ((emptyDisk.append "gui.log" (RotatingFile.lineBytes line)).move "gui.log" (generationPath "gui.log" ".1")).append "gui.log"
    (RotatingFile.lineBytes rotationBanner)

/-- The logger that has rotated its file. -/
def rotatedLogger : Logger :=
  ⟨true, .error, ⟨some { guiFile with currentSize := (asBytes rotationBanner).length + 1 }, false⟩⟩

/-- The first line is over the cap; there is no generation yet, and the file becomes the first. -/
theorem ends_long {message line : String} (hline : line = formatLine 0 .error "cli" message)
    (hover : guiFile.maxBytes < guiFile.currentSize + (RotatingFile.lineBytes line).length) :
    ∃ h, Ends (LogOp.step calm) (errorLogger.log .error "cli" message) emptyDisk [] rotatedLogger (afterLong line) h := by
  subst hline
  refine ⟨[⟨.append "gui.log" (RotatingFile.lineBytes rotationBanner), .ok ()⟩, ⟨.now, (0 : Nat)⟩,
    ⟨.rename "gui.log" (generationPath "gui.log" ".1"), .ok ()⟩, ⟨.exists_ (generationPath "gui.log" ".1"), false⟩,
    ⟨.removeFile (generationPath "gui.log" ".2"), .error .other⟩, ⟨.append "gui.log" (RotatingFile.lineBytes (formatLine 0 .error "cli" message)), .ok ()⟩,
    ⟨.now, (0 : Nat)⟩], .call (r := (0 : Nat)) rfl (.call (.inl ⟨rfl, rfl⟩) ?_)⟩
  dsimp only
  rw [if_pos hover]
  exact .call (.inr ⟨rfl, rfl, .inl rfl⟩) (.call ⟨rfl, .inl rfl⟩ (.call (.inl ⟨rfl, rfl, rfl⟩)
    (.call rfl (.call (.inl ⟨rfl, rfl⟩) .pure))))

/-- A line with so many letters is so long. -/
theorem long_line (n : Nat) :
    n < (RotatingFile.lineBytes (formatLine 0 .error "cli" (String.ofList (List.replicate n 'a')))).length := by
  have hkept : singleLine (String.ofList (List.replicate n 'a')) = String.ofList (List.replicate n 'a') := by
    refine if_neg fun hany => ?_
    obtain ⟨c, hc, hbreak⟩ := List.any_eq_true.1 hany
    rw [String.toList_ofList] at hc
    rw [List.eq_of_mem_replicate hc] at hbreak
    exact absurd hbreak (by decide)
  have hletter : Char.utf8Size 'a' = 1 := by decide
  have hletters : ((toString (String.ofList (List.replicate n 'a'))).toList.flatMap String.utf8EncodeChar).length = n := by
    show ((String.ofList (List.replicate n 'a')).toList.flatMap String.utf8EncodeChar).length = n
    simp [hletter]
  rw [length_lineBytes]
  unfold formatLine
  rw [hkept, asBytes_eq, String.toList_append, List.flatMap_append, List.length_append, hletters]
  omega

/-- A line over the cap is kept in the first generation, and nothing is lost. -/
theorem rotation_kept : ∃ disk : LogDisk, (∃ one, (disk.shelf "gui.log").one = some one ∧
      RotatingFile.DEFAULT_MAX_BYTES < one.length) ∧ (disk.shelf "gui.log").kept.Sublist disk.written ∧
    (disk.shelf "gui.log").Bounded RotatingFile.DEFAULT_MAX_BYTES ∧ (disk.shelf "gui.log").kept <:+ disk.written := by
  have hlong := long_line RotatingFile.DEFAULT_MAX_BYTES
  obtain ⟨h, hends⟩ := ends_long rfl (by rwa [show guiFile.currentSize = 0 from rfl, Nat.zero_add])
  obtain ⟨hinOrder, hbounded, hretained⟩ := log_files_kept (installed.log .error "cli" _ hends)
  refine ⟨_, ⟨_, ?_, hlong⟩, hinOrder, hbounded id id, (hretained id id id).1⟩
  rw [afterLong, LogDisk.shelf_append, LogDisk.shelf_moveBase, LogDisk.shelf_append]
  rfl

end Rig
end AttackSharkX3
