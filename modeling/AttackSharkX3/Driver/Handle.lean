import AttackSharkX3.Driver.Verified
import AttackSharkX3.Effects.Server
/-!
# Handle — the requests of a mouse's clients, and the worker's loop

A handle is cloned freely: its clients submit commands to one bounded queue, and the worker serves them one at a time.
What is known of a command served alone is then known of it among the others.
-/
namespace AttackSharkX3

open Effects (Fallible Tries Server)
open Effects.Prog (Event History Keeps Kept Left)
open Told

/-! ## The worker's commands -/

/-- **A command of the worker.**  Its reply channel is the number it is accepted under. -/
inductive Worker.Command where
  | profileMetadata
  | dpi (profile : ProfileId)
  | preferences (profile : ProfileId)
  | buttons (profile : ProfileId)
  | livePollingRate (alias_ : ProfileId)
  | writeDpi (state : DpiState)
  | writePreferences (state : PreferencesState)
  | writeButtons (state : ButtonsState)
  | sendDpi (state : DpiState)
  | sendPreferences (state : PreferencesState)
  | sendButtons (state : ButtonsState)
  | sendPollingRateUnchecked (profile : ProfileId) (rate : PollingRate)
  | writePollingRateUnchecked (profile : ProfileId) (rate : PollingRate)
  | setMaximumProfile (maximum : ProfileId)
  | activateProfile (profile : ProfileId)
  | profile (targetProfile : ProfileId)
  | rawReadback (request : ReadbackRequest)
  | sendRawFeatureReport (bytes : List UInt8)

/-- What a command is answered with. -/
abbrev Worker.Command.Value : Worker.Command → Type
  | profileMetadata | setMaximumProfile _ | activateProfile _ => ProfileMetadata
  | dpi _ | writeDpi _ => DpiState
  | preferences _ | writePreferences _ => PreferencesState
  | buttons _ | writeButtons _ => ButtonsState
  | livePollingRate _ | writePollingRateUnchecked .. => PollingRate
  | sendDpi _ | sendPreferences _ | sendButtons _ | sendPollingRateUnchecked .. | sendRawFeatureReport _ => Unit
  | profile _ => ProfileSnapshot
  | rawReadback _ => List UInt8

namespace Worker

/-- The bytes as they were reported. -/
def readRawReadback (worker : Worker) (polls : Nat) (request : ReadbackRequest) : Driver (List UInt8) :=
  worker.armedRead polls request fun packet => .ok packet

def readProfile (worker : Worker) (polls : Nat) (targetProfile : ProfileId) : Driver ProfileSnapshot := do
  let persistentMetadata ← worker.readProfileMetadata polls
  let dpi ← worker.readDpi polls targetProfile
  let preferences ← worker.readPreferences polls targetProfile
  let buttons ← worker.readButtons polls targetProfile
  return ⟨persistentMetadata, targetProfile, dpi, preferences, buttons⟩

/-- **What the worker's loop does for a command.** -/
def perform (worker : Worker) (polls : Nat) : (command : Command) → Driver command.Value
  | .profileMetadata => worker.readProfileMetadata polls
  | .dpi profile => worker.readDpi polls profile
  | .preferences profile => worker.readPreferences polls profile
  | .buttons profile => worker.readButtons polls profile
  | .livePollingRate alias_ => worker.readLivePollingRate polls alias_
  | .writeDpi state => worker.writeDpi polls state
  | .writePreferences state => worker.writePreferences polls state
  | .writeButtons state => worker.writeButtons polls state
  | .sendDpi state => worker.sendDpi state
  | .sendPreferences state => sendPreferences state
  | .sendButtons state => sendButtons state
  | .sendPollingRateUnchecked profile rate => sendPollingRateUnchecked profile rate
  | .writePollingRateUnchecked profile rate => worker.writePollingRateUnchecked polls profile rate
  | .setMaximumProfile maximum => worker.setMaximumProfile polls maximum
  | .activateProfile profile => worker.activateProfile polls profile
  | .profile targetProfile => worker.readProfile polls targetProfile
  | .rawReadback request => worker.readRawReadback polls request
  | .sendRawFeatureReport bytes => Driver.sendFeatureReport bytes

end Worker

/-- How many commands may wait: `mpsc::sync_channel(32)`. -/
def COMMAND_QUEUE_CAPACITY : Nat := 32

/-- **The handle of a mouse.**  A command that finds no room is refused as busy; a client that no longer waits leaves its
reply unread. -/
abbrev MouseHandle (worker : Worker) (polls : Nat) : Server Feature Worker.Command where
  Value command := Except DriverError command.Value
  body command := (worker.perform polls command).run
  capacity := COMMAND_QUEUE_CAPACITY

/-! ## What a command sends, and what it answers -/

namespace Worker

variable {T : Type} {worker : Worker} {polls : Nat} {request : ReadbackRequest}
  {decode : List UInt8 → Except ProtocolError T}

/-- The value was fetched by a read that sent nothing but its own selectors. -/
def Reads (worker : Worker) (request : ReadbackRequest) (decode : List UInt8 → Except ProtocolError T) (value : T)
    (h : History Feature) : Prop :=
  worker.Fetched request decode value h ∧ OnlySelectors request h

/-- The report was sent first, and the value asked for was read back after it. -/
def Writes (worker : Worker) (report : Except ProtocolError (List UInt8)) (request : ReadbackRequest)
    (decode : List UInt8 → Except ProtocolError T) (requested actual : T) (h : History Feature) : Prop :=
  actual = requested ∧ ∃ bytes readback, report = .ok bytes ∧ h = readback ++ [sent bytes (.ok ())] ∧
    worker.Reads request decode actual readback

/-- The report was sent, and that was all. -/
def Sends (report : Except ProtocolError (List UInt8)) (h : History Feature) : Prop :=
  ∃ bytes, report = .ok bytes ∧ h = [sent bytes (.ok ())]

/-- **The profile numbers answer what was asked**: they did when they were read, or a control report asked for them and they
were read back after it. -/
def Changes (worker : Worker) (already : ProfileMetadata → Prop) (asked : ProfileMetadata → ProfileMetadata → Prop)
    (actual : ProfileMetadata) (h : History Feature) : Prop :=
  (already actual ∧ worker.Reads .profileMetadata worker.decodeMetadata actual h) ∨
    ∃ current before readback, h = readback ++ sent (worker.controlReport actual) (.ok ()) :: before ∧ asked current actual ∧
      worker.Reads .profileMetadata worker.decodeMetadata current before ∧
      worker.Reads .profileMetadata worker.decodeMetadata actual readback

/-- A guard refused the change for the profile numbers it read. -/
def Refused (worker : Worker) (guards : ProfileMetadata → DriverError → Prop) (e : DriverError) (h : History Feature) : Prop :=
  ∃ current, guards current e ∧ worker.Reads .profileMetadata worker.decodeMetadata current h

/-- **What a command that succeeded did**, from its own history. -/
def Command.Meets (worker : Worker) : (command : Command) → command.Value → History Feature → Prop
  | .profileMetadata, value, h => worker.Reads .profileMetadata worker.decodeMetadata value h
  | .dpi target, value, h => worker.Reads (.dpi target) (worker.decodeDpi target) value h
  | .preferences target, value, h => worker.Reads (.preferences target) (worker.decodePreferences target) value h
  | .buttons target, value, h => worker.Reads (.buttons target) (worker.decodeButtons target) value h
  | .livePollingRate alias_, value, h => worker.Reads (.pollingRate alias_) (worker.decodeRate alias_) value h
  | .writeDpi state, value, h =>
      worker.Writes (worker.dpiReport state) (.dpi state.profile) (worker.decodeDpi state.profile) state value h
  | .writePreferences state, value, h => worker.Writes (.ok (preferencesReport state)) (.preferences state.profile)
      (worker.decodePreferences state.profile) state value h
  | .writeButtons state, value, h => worker.Writes (.ok (ButtonsReport.encode state)) (.buttons state.profile)
      (worker.decodeButtons state.profile) state value h
  | .writePollingRateUnchecked target rate, value, h => worker.Writes (.ok (PollingRateReport.encode target rate))
      (.pollingRate target) (worker.decodeRate target) rate value h
  | .sendDpi state, _, h => Sends (worker.dpiReport state) h
  | .sendPreferences state, _, h => Sends (.ok (preferencesReport state)) h
  | .sendButtons state, _, h => Sends (.ok (ButtonsReport.encode state)) h
  | .sendPollingRateUnchecked target rate, _, h => Sends (.ok (PollingRateReport.encode target rate)) h
  | .sendRawFeatureReport bytes, _, h => Sends (.ok bytes) h
  | .setMaximumProfile maximum, value, h => worker.Changes (·.maximum = maximum) (AsksMaximum maximum) value h
  | .activateProfile target, value, h => worker.Changes (fun _ => False) (AsksProfile target) value h
  | .profile targetProfile, value, h => value.targetProfile = targetProfile ∧ ∃ h₁ h₂ h₃ h₄, h = h₄ ++ (h₃ ++ (h₂ ++ h₁)) ∧
      worker.Reads .profileMetadata worker.decodeMetadata value.persistentMetadata h₁ ∧
      worker.Reads (.dpi targetProfile) (worker.decodeDpi targetProfile) value.dpi h₂ ∧
      worker.Reads (.preferences targetProfile) (worker.decodePreferences targetProfile) value.preferences h₃ ∧
      worker.Reads (.buttons targetProfile) (worker.decodeButtons targetProfile) value.buttons h₄
  | .rawReadback request, value, h => worker.Reads request (fun packet => .ok packet) value h

/-- **The reports a command may send**: selectors of its own reads, and its own report. -/
def Command.MaySend (worker : Worker) : Command → List UInt8 → Prop
  | .profileMetadata, report => report = ReadSelector.encode .profileMetadata
  | .dpi target, report => report = ReadSelector.encode (.dpi target)
  | .preferences target, report => report = ReadSelector.encode (.preferences target)
  | .buttons target, report => report = ReadSelector.encode (.buttons target)
  | .livePollingRate alias_, report => report = ReadSelector.encode (.pollingRate alias_)
  | .writeDpi state, report => worker.dpiReport state = .ok report ∨ report = ReadSelector.encode (.dpi state.profile)
  | .writePreferences state, report =>
      report = preferencesReport state ∨ report = ReadSelector.encode (.preferences state.profile)
  | .writeButtons state, report =>
      report = ButtonsReport.encode state ∨ report = ReadSelector.encode (.buttons state.profile)
  | .writePollingRateUnchecked target rate, report =>
      report = PollingRateReport.encode target rate ∨ report = ReadSelector.encode (.pollingRate target)
  | .sendDpi state, report => worker.dpiReport state = .ok report
  | .sendPreferences state, report => report = preferencesReport state
  | .sendButtons state, report => report = ButtonsReport.encode state
  | .sendPollingRateUnchecked target rate, report => report = PollingRateReport.encode target rate
  | .sendRawFeatureReport bytes, report => report = bytes
  | .setMaximumProfile maximum, report => report = ReadSelector.encode .profileMetadata ∨
      ∃ expected : ProfileMetadata, expected.maximum = maximum ∧ report = worker.controlReport expected
  | .activateProfile target, report => report = ReadSelector.encode .profileMetadata ∨
      ∃ expected : ProfileMetadata, expected.current = target ∧ report = worker.controlReport expected
  | .profile targetProfile, report => ∃ request ∈ [.profileMetadata, .dpi targetProfile, .preferences targetProfile,
      .buttons targetProfile], report = ReadSelector.encode request
  | .rawReadback request, report => report = ReadSelector.encode request

/-- The guards of a command, by the profile numbers they refuse it for. -/
def Command.Guards : Command → ProfileMetadata → DriverError → Prop
  | .setMaximumProfile maximum, current, e =>
      maximum.get < current.current.get ∧ e = .maximumProfileBelowCurrent maximum current.current
  | .activateProfile target, current, e => (current.current = target ∧ e = .profileAlreadyActive target) ∨
      (current.maximum.get < target.get ∧ e = .profileNotEnabled target current.maximum)
  | _, _, _ => False

/-- **The specification of a call**: the reports it may send, what its value says of its history, and that a guard's error
is the guard's. -/
def Does (worker : Worker) (maySend : List UInt8 → Prop) (guards : ProfileMetadata → DriverError → Prop) (x : Driver T)
    (meets : T → History Feature → Prop) : Prop :=
  Tries (fun _ (o : FeatureOp) => ∀ report, o.report = some report → maySend report) (· = []) x meets
    fun e h => e.Guards → worker.Refused guards e h

/-! ## Commands served alone -/

variable {guards : ProfileMetadata → DriverError → Prop} {maySend : List UInt8 → Prop}

theorem does_read : worker.Does (· = ReadSelector.encode request) guards (worker.armedRead polls request decode)
    (worker.Reads request decode) :=
  tries_read.mono (fun _ => id) (fun _ _ => id) fun _ _ he hg => (he.2 hg).elim

theorem does_send {report : Except ProtocolError (List UInt8)} {x : Driver Unit} (hs : SendsOnce report x)
    (hmay : ∀ bytes, report = .ok bytes → maySend bytes) : worker.Does maySend guards x fun _ => Sends report :=
  (hs.mono (fun _ => id) (fun _ _ => id) fun _ _ he hg => (he hg).elim).allow fun _ _ ho bytes hb =>
    hmay bytes (ho bytes hb).2

theorem does_write [DecidableEq T] {report : Except ProtocolError (List UInt8)} {requested : T} {x : Driver T}
    (hv : worker.Verifies report request decode requested x)
    (hmay : ∀ bytes, report = .ok bytes ∨ bytes = ReadSelector.encode request → maySend bytes) :
    worker.Does maySend guards x (worker.Writes report request decode requested) := by
  refine (hv.mono (fun _ => id) ?_ fun _ _ he hg => (he hg).elim).allow fun _ _ ho bytes hb => ?_
  · rintro actual h ⟨heq, bytes, readback, hreport, hh, honly, hfetched⟩
    exact ⟨heq, bytes, readback, hreport, hh, hfetched, honly⟩
  · rcases ho bytes hb with ⟨-, hreport⟩ | ⟨-, hselector⟩
    · exact hmay bytes (.inl hreport)
    · exact hmay bytes (.inr hselector)

/-- A read after others. -/
theorem tries_next {P : History Feature → Prop} (hmay : maySend (ReadSelector.encode request)) :
    Tries (fun _ (o : FeatureOp) => ∀ report, o.report = some report → maySend report) P
      (worker.armedRead polls request decode)
      (fun value h => ∃ own before, h = own ++ before ∧ worker.Reads request decode value own ∧ P before)
      fun e h => e.Guards → worker.Refused guards e h := by
  refine Tries.of_own tries_read ?_ ?_ fun _ _ _ _ he hg => (he.2 hg).elim
  · intro _ h o _ ho report hr
    rw [ho report hr]
    exact hmay
  · rintro before own value hP ⟨hfetched, honly⟩
    exact ⟨own, before, rfl, ⟨hfetched, honly⟩, hP⟩

/-- The control report after the profile numbers were read, and its readback. -/
theorem tries_change {already : ProfileMetadata → Prop} {asked : ProfileMetadata → ProfileMetadata → Prop}
    {current expected : ProfileMetadata} {profile : ProfileId} (hasked : asked current expected)
    (hselector : maySend (ReadSelector.encode .profileMetadata)) (hcontrol : maySend (worker.controlReport expected)) :
    Tries (fun _ (o : FeatureOp) => ∀ report, o.report = some report → maySend report)
      (worker.Reads .profileMetadata worker.decodeMetadata current) (worker.writeMetadata polls expected profile)
      (worker.Changes already asked) fun e h => e.Guards → worker.Refused guards e h := by
  have hwrite : worker.Verifies (.ok (worker.controlReport expected)) .profileMetadata worker.decodeMetadata expected
      (worker.writeMetadata polls expected profile) := verified_verifies (sendFeatureReport_once _) _ _ _
  refine Tries.of_own hwrite ?_ ?_ fun _ _ _ _ he hg => (he hg).elim
  · intro _ h o _ ho report hr
    rcases ho report hr with ⟨-, hreport⟩ | ⟨-, hreport⟩
    · cases hreport
      exact hcontrol
    · rw [hreport]
      exact hselector
  · rintro before _ actual hread ⟨rfl, bytes, readback, hbytes, rfl, honly, hfetched⟩
    cases hbytes
    exact .inr ⟨current, before, readback, List.append_assoc .., hasked, hread, hfetched, honly⟩

theorem does_setMaximumProfile (maximum : ProfileId) : worker.Does (Command.MaySend worker (.setMaximumProfile maximum))
    (Command.Guards (.setMaximumProfile maximum)) (worker.setMaximumProfile polls maximum)
    (worker.Changes (·.maximum = maximum) (AsksMaximum maximum)) := by
  have hread : worker.Does (Command.MaySend worker (.setMaximumProfile maximum))
      (Command.Guards (.setMaximumProfile maximum)) (worker.readProfileMetadata polls) _ :=
    does_read.allow fun _ _ ho report hr => .inl (ho report hr)
  refine .bind hread fun current => .bind (Q := fun _ => worker.Reads .profileMetadata worker.decodeMetadata current)
    (.ensure (fun _ _ hh => hh) ?_) fun _ => ?_
  · exact fun hbelow h hh _ => ⟨current, ⟨Classical.not_not.1 hbelow, rfl⟩, hh⟩
  split
  · next hsame => exact .pure fun h hh => .inl ⟨hsame.symm, hh⟩
  · next hne =>
    refine .bind (Q := fun expected h => AsksMaximum maximum current expected ∧
        worker.Reads .profileMetadata worker.decodeMetadata current h)
      (.ofExcept ?_ fun _ _ _ _ => nofun) fun expected => .of_pure fun hasked =>
        tries_change hasked (.inl rfl) (.inr ⟨expected, hasked.2.1, rfl⟩)
    intro expected hnew h hh
    obtain ⟨hcurrent, hmaximum⟩ := metadata_new_ok hnew
    exact ⟨⟨hcurrent, hmaximum, hne⟩, hh⟩

theorem does_activateProfile (target : ProfileId) : worker.Does (Command.MaySend worker (.activateProfile target))
    (Command.Guards (.activateProfile target)) (worker.activateProfile polls target)
    (worker.Changes (fun _ => False) (AsksProfile target)) := by
  have hread : worker.Does (Command.MaySend worker (.activateProfile target)) (Command.Guards (.activateProfile target))
      (worker.readProfileMetadata polls) _ := does_read.allow fun _ _ ho report hr => .inl (ho report hr)
  refine .bind hread fun current =>
    .bind (Q := fun _ h => current.current ≠ target ∧ worker.Reads .profileMetadata worker.decodeMetadata current h)
      (.ensure (fun hne _ hh => ⟨hne, hh⟩) ?_) fun _ => .of_pure fun hne =>
    .bind (Q := fun _ => worker.Reads .profileMetadata worker.decodeMetadata current) (.ensure (fun _ _ hh => hh) ?_)
      fun _ => ?_
  · exact fun hsame h hh _ => ⟨current, .inl ⟨Classical.not_not.1 hsame, rfl⟩, hh⟩
  · exact fun hbelow h hh _ => ⟨current, .inr ⟨Classical.not_not.1 hbelow, rfl⟩, hh⟩
  refine .bind (Q := fun expected h => AsksProfile target current expected ∧
      worker.Reads .profileMetadata worker.decodeMetadata current h)
    (.ofExcept ?_ fun _ _ _ _ => nofun) fun expected => .of_pure fun hasked =>
      tries_change hasked (.inl rfl) (.inr ⟨expected, hasked.1, rfl⟩)
  intro expected hnew h hh
  obtain ⟨hcurrent, hmaximum⟩ := metadata_new_ok hnew
  exact ⟨⟨hcurrent, hmaximum, hne⟩, hh⟩

theorem does_readProfile (targetProfile : ProfileId) : worker.Does (Command.MaySend worker (.profile targetProfile)) guards
    (worker.readProfile polls targetProfile) (Command.Meets worker (.profile targetProfile)) := by
  refine .bind (tries_next ⟨_, by simp, rfl⟩) fun metadata => .bind (tries_next ⟨_, by simp, rfl⟩) fun dpi =>
    .bind (tries_next ⟨_, by simp, rfl⟩) fun preferences => .bind (tries_next ⟨_, by simp, rfl⟩) fun buttons => .pure ?_
  rintro _ ⟨h₄, _, rfl, hbuttons, h₃, _, rfl, hpreferences, h₂, _, rfl, hdpi, h₁, _, rfl, hmetadata, rfl⟩
  refine ⟨rfl, h₁, h₂, h₃, h₄, ?_, hmetadata, hdpi, hpreferences, hbuttons⟩
  rw [List.append_nil]

/-- **Every command served alone** sends its own reports only, a value of it tells what it did, and a guard refuses it for
the profile numbers it read. -/
theorem perform_does (worker : Worker) (polls : Nat) : ∀ command : Command,
    worker.Does (command.MaySend worker) command.Guards (worker.perform polls command) (command.Meets worker)
  | .profileMetadata | .dpi _ | .preferences _ | .buttons _ | .livePollingRate _ | .rawReadback _ => does_read
  | .writeDpi state => does_write (verified_verifies (sendDpi_once state) _ _ _) fun _ => id
  | .writePreferences _ | .writeButtons _ | .writePollingRateUnchecked .. =>
    does_write (verified_verifies (sendFeatureReport_once _) _ _ _) fun _ hb =>
      hb.imp_left fun hreport => (Except.ok.inj hreport).symm
  | .sendDpi state => does_send (sendDpi_once state) fun _ => id
  | .sendPreferences _ | .sendButtons _ | .sendPollingRateUnchecked .. | .sendRawFeatureReport _ =>
    does_send (sendFeatureReport_once _) fun _ hb => (Except.ok.inj hb).symm
  | .setMaximumProfile maximum => does_setMaximumProfile maximum
  | .activateProfile target => does_activateProfile target
  | .profile targetProfile => does_readProfile targetProfile

/-- **What a command did, and what it was answered**, as far as they are known of it alone. -/
structure Alone (worker : Worker) (command : Command) (r : Except DriverError command.Value) (h : History Feature) : Prop where
  sends : ∀ report ∈ sentReports h, command.MaySend worker report
  meets : ∀ value, r = .ok value → command.Meets worker value h
  guarded : ∀ e, r = .error e → e.Guards → worker.Refused command.Guards e h

/-- The reports of a history that kept to them. -/
theorem sentReports_kept {maySend : List UInt8 → Prop} : ∀ {h : History Feature},
    Kept (fun _ (o : FeatureOp) => ∀ report, o.report = some report → maySend report) h →
      ∀ report ∈ sentReports h, maySend report
  | [], _, report, hr => nomatch hr
  | ev :: h, hk, report, hr => by
    rw [sentReports, List.filterMap_cons] at hr
    split at hr
    · exact sentReports_kept hk.2 report hr
    · next sentReport hsent =>
      rcases List.mem_cons.1 hr with rfl | hr
      · exact hk.1 report hsent
      · exact sentReports_kept hk.2 report hr

/-- A command that came to its end did what is known of it alone. -/
theorem Alone.of_left {command : Command} {r : Except DriverError command.Value} {h : History Feature}
    (hl : Left (worker.perform polls command).run h (.pure r)) : worker.Alone command r h := by
  have hdoes := worker.perform_does polls command [] rfl
  have hended := hl.ended hdoes
  refine ⟨sentReports_kept (hl.kept hdoes), fun value hvalue => ?_, fun e he => ?_⟩
  · rw [hvalue] at hended
    exact hended
  · rw [he] at hended
    exact hended

end Worker

/-! ## Commands served among others -/

section Served

variable {worker : Worker} {polls : Nat} {c : Server.Config (MouseHandle worker polls)}

/-- **A command stands alone among the others**: what was done for it is one stretch of the log, before it are whole
commands that were accepted earlier, its reports are its own, and its value tells what it did. -/
structure ServedAlone (c : Server.Config (MouseHandle worker polls)) (s : Server.Served (MouseHandle worker polls)) :
    Prop where
  stretch : ∃ later earlier : List (Server.Served (MouseHandle worker polls)), c.served = later ++ s :: earlier ∧
    c.log = (c.running.elim [] (·.own) ++ later.flatMap (·.own)) ++ (s.own ++ earlier.flatMap (·.own))
  alone : worker.Alone s.ticket.request s.value s.own

/-- **Whatever its clients do, and in whatever order, a handle serves every command once, as it was accepted, and alone.** -/
theorem handle_serves_alone (run : Server.Reaches (MouseHandle worker polls) .idle c) :
    c.line.map (·.number) = List.range c.accepted ∧ c.waiting.length ≤ COMMAND_QUEUE_CAPACITY ∧
      (c.served.map (·.ticket.number)).Nodup ∧ ∀ s ∈ c.served, ServedAlone c s := by
  have hserial := run.serial
  exact ⟨hserial.numbers, hserial.room, hserial.once, fun s hs => ⟨hserial.stretch hs, .of_left (hserial.served s hs)⟩⟩

end Served

namespace Rig

def wiredWorker : Worker where
  policy := ⟨3, by decide, 1000000000, 5000000, 0⟩
  transportKind := .wired

/-- Two raw reports are submitted; the first is refused and the second accepted. -/
theorem serves_both : ∃ (c : Server.Config (MouseHandle wiredWorker 9)) (first second : Server.Served (MouseHandle wiredWorker 9)),
    c.served = [second, first] ∧ first.own = [sent [0x04] (.error "busy")] ∧ second.own = [sent [0x05] (.ok ())] ∧
      ServedAlone c first ∧ ServedAlone c second := by
  have begun : Server.Reaches (MouseHandle wiredWorker 9) .idle _ := .step (.step .refl
    (.submit (.sendRawFeatureReport [0x04]) rfl)) (.submit (.sendRawFeatureReport [0x05]) rfl)
  have first := Server.Reaches.step (.step (.step begun (.take rfl rfl)) (.op rfl (Except.error "busy"))) (.reply rfl)
  have both := Server.Reaches.step (.step (.step first (.take rfl rfl)) (.op rfl (Except.ok ()))) (.reply rfl)
  obtain ⟨-, -, -, halone⟩ := handle_serves_alone both
  exact ⟨_, _, _, rfl, rfl, rfl, halone _ (.tail _ (.head _)), halone _ (.head _)⟩

end Rig
end AttackSharkX3
