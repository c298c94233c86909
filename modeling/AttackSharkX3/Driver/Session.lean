import AttackSharkX3.Driver.Atomic
import AttackSharkX3.Mice
import AttackSharkX3.Report.DpiCodec
/-!
# Session — a device session over USB

A session turns each of the manager's calls into commands of its mouse's handle.  Over a mouse that stores the images it is
sent it is the honest hardware that the manager's results speak of, but for the images of profiles that were named for their
polling rate.
-/
namespace AttackSharkX3

open Effects (Sig Fallible Server Leads Ended)
open Effects.Prog (Event History Ends Left)
open Effects.Server (Through InTurn)
open Told

/-! ## The session -/

/-- The errors a client of a handle meets: those of its command, of the queue, and of the battery's cache. -/
inductive HandleError where
  | driver (source : DriverError)
  | workerBusy
  | workerUnavailable
  | batteryUnavailable
  | batteryTimeout
  | inputUnavailable
deriving DecidableEq

/-- What a client asks of a handle. -/
inductive HandleOp where
  | request (command : Worker.Command)
  | readBattery

abbrev HandleOp.Res : HandleOp → Type
  | request command => Except HandleError command.Value
  | readBattery => Except HandleError UInt8

abbrev Handle : Sig := ⟨HandleOp, HandleOp.Res⟩

/-- A call of a session. -/
abbrev UsbCall := Fallible Handle HandleError

namespace UsbSession

def request (command : Worker.Command) : UsbCall command.Value := .perform (S := Handle) (.request command) id

def readBattery : UsbCall UInt8 := .perform (S := Handle) .readBattery id

def writeDpi (state : DpiState) : VerificationMethod → UsbCall (SessionWrite DpiState)
  | .transport => do
    let () ← request (.sendDpi state)
    return .acknowledged
  | .readback => return .readbackVerified (← request (.writeDpi state))

def writePreferences (state : PreferencesState) : VerificationMethod → UsbCall (SessionWrite PreferencesState)
  | .transport => do
    let () ← request (.sendPreferences state)
    return .acknowledged
  | .readback => return .readbackVerified (← request (.writePreferences state))

def writeButtons (state : ButtonsState) : VerificationMethod → UsbCall (SessionWrite ButtonsState)
  | .transport => do
    let () ← request (.sendButtons state)
    return .acknowledged
  | .readback => return .readbackVerified (← request (.writeButtons state))

def writePollingRateUnchecked (profile : ProfileId) (rate : PollingRate) :
    VerificationMethod → UsbCall (SessionWrite PollingRate)
  | .transport => do
    let () ← request (.sendPollingRateUnchecked profile rate)
    return .acknowledged
  | .readback => return .readbackVerified (← request (.writePollingRateUnchecked profile rate))

/-- A command that is needed, or what is known without it. -/
def requestIf (needed : Prop) [Decidable needed] (command : Worker.Command) (actual : command.Value) : UsbCall command.Value :=
  if needed then request command else return actual

/-- The maximum is raised before a profile is activated that is not enabled yet, and lowered once that profile is the
current one. -/
def writeProfileMetadata (metadata : ProfileMetadata) : UsbCall (SessionWrite ProfileMetadata) := do
  let actual ← request .profileMetadata
  let actual ← requestIf (actual.maximum.get < metadata.maximum.get) (.setMaximumProfile metadata.maximum) actual
  let actual ← requestIf (metadata.current ≠ actual.current) (.activateProfile metadata.current) actual
  let actual ← requestIf (metadata.maximum ≠ actual.maximum) (.setMaximumProfile metadata.maximum) actual
  return .readbackVerified actual

/-- **What the session does for a call of the manager.** -/
def call : (call : SessionCall) → UsbCall call.Value
  | .readProfileMetadata => request .profileMetadata
  | .readProfile profile => request (.profile profile)
  | .readDpi profile => request (.dpi profile)
  | .readPreferences profile => request (.preferences profile)
  | .readButtons profile => request (.buttons profile)
  | .readLivePollingRate alias_ => request (.livePollingRate alias_)
  | .readBattery => readBattery
  | .writeDpi state verification => writeDpi state verification
  | .writePreferences state verification => writePreferences state verification
  | .writeButtons state verification => writeButtons state verification
  | .writePollingRateUnchecked profile rate verification => writePollingRateUnchecked profile rate verification
  | .writeProfileMetadata metadata => writeProfileMetadata metadata

end UsbSession

/-! ## A mouse that stores what it is sent -/

/-- The same with one DPI image stored. -/
def Onboard.store (held : Onboard) (image : DpiState) : Onboard := Function.update held (.dpi image.profile) image

/-- An image is stored, or not if no value is answered. -/
def Onboard.Stores {E T : Type} (named : ProfileId → Prop) (image : DpiState) (r : Except E T) (held held' : Onboard) : Prop :=
  (held.Same named held' ∨ (held.store image).Same named held') ∧ ∀ value, r = .ok value → (held.store image).Same named held'

/-- **A mouse that stores a DPI report it took**, and one it refused or not; for the profiles that are named for their rate
it may store anything. -/
def UsbMouse.storing (worker : Worker) (named : ProfileId → Prop) (o : FeatureOp) (mouse : UsbMouse) (r : o.Res)
    (mouse' : UsbMouse) : Prop :=
  UsbMouse.step worker named o mouse r mouse' ∧ ∀ report (answer : Except String Unit) image,
    (⟨o, r⟩ : Event Feature) = sent report answer → worker.dpiReport image = .ok report → ¬ named image.profile →
      (answer = .ok () → mouse'.held (.dpi image.profile) = image) ∧
      (mouse'.held (.dpi image.profile) = mouse.held (.dpi image.profile) ∨ mouse'.held (.dpi image.profile) = image)

/-- What is known further of the commands that send a DPI image. -/
def Worker.Command.Stores (named : ProfileId → Prop) : (command : Worker.Command) → Except DriverError command.Value →
    Onboard → Onboard → Prop
  | .writeDpi image, r => Onboard.Stores named image r
  | .sendDpi image, r => Onboard.Stores named image r
  | _, _ => fun _ _ => True

section Storing

variable {named : ProfileId → Prop} {held held' : Onboard} {image : DpiState}

theorem Onboard.store_self : held.store image (.dpi image.profile) = image := Function.update_self ..

theorem Onboard.store_elsewhere : held.Elsewhere named (.dpi image.profile) (held.store image) :=
  fun _ _ hne => Function.update_of_ne hne _ _

/-- What is the same stays so when an image is stored in both. -/
theorem Onboard.Same.store (hsame : held.Same named held') : (held.store image).Same named (held'.store image) :=
  Onboard.Elsewhere.update (hsame.elsewhere.trans store_elsewhere) fun _ => store_self

theorem Onboard.store_store : (held.store image).store image = held.store image := Function.update_idem ..

namespace Worker

variable {worker : Worker} {mouse mouse' : UsbMouse} {h : History Feature}

theorem storing_report {report : List UInt8} {r : Except String Unit}
    (hs : UsbMouse.storing worker named (.send report) mouse r mouse') (hreport : worker.dpiReport image = .ok report) :
    (r = .ok () → (mouse.held.store image).Same named mouse'.held) ∧
      (mouse.held.Same named mouse'.held ∨ (mouse.held.store image).Same named mouse'.held) := by
  obtain ⟨hstep, hstores⟩ := hs
  have helsewhere := hstep.2 (.dpi hreport) _ (addressed_dpi hreport)
  refine ⟨fun hr => helsewhere.update fun hfree => (hstores report r image rfl hreport hfree).1 hr, ?_⟩
  by_cases hnamed : named image.profile
  · exact .inl (helsewhere.same fun hfree => absurd hnamed hfree)
  · rcases (hstores report r image rfl hreport hnamed).2 with hsame | himage
    · exact .inl (helsewhere.same fun _ => hsame)
    · exact .inr (helsewhere.update fun _ => himage)

/-- A history that sends one image and selectors leaves the image stored or not. -/
theorem stored_or_not (ht : Through (UsbMouse.storing worker named) mouse h mouse')
    (hsends : ∀ sent ∈ sentReports h, worker.dpiReport image = .ok sent ∨ ∃ request, sent = ReadSelector.encode request) :
    mouse.held.Same named mouse'.held ∨ (mouse.held.store image).Same named mouse'.held := by
  refine through_reports (R := fun held => mouse.held.Same named held ∨ (mouse.held.store image).Same named held)
    (fun _ _ _ _ hs => hs.1) (fun _ _ hsame hm => hm.imp (·.trans hsame) (·.trans hsame)) ht (.inl .refl) ?_
  intro report hr m m' r hs hm
  rcases hsends report hr with hreport | ⟨request, hselector⟩
  · rcases (storing_report hs hreport).2 with hsame | hstored
    · exact hm.imp (·.trans hsame) (·.trans hsame)
    · rcases hm with hm | hm
      · exact .inr (hm.store.trans hstored)
      · have hagain : ((mouse.held.store image).store image).Same named (_ : Onboard) := hm.store
        rw [Onboard.store_store] at hagain
        exact .inr (hagain.trans hstored)
  · have hsame := (hs.1.1 request hselector).1
    exact hm.imp (·.trans hsame) (·.trans hsame)

theorem stores {command : Command} {r : Except DriverError command.Value}
    (ht : Through (UsbMouse.storing worker named) mouse h mouse') (halone : worker.Alone command r h) :
    command.Stores named r mouse.held mouse'.held := by
  have hacts : command.Acts worker named r mouse.held mouse'.held := acts (ht.mono fun _ _ _ _ => And.left) halone
  obtain ⟨hsends, hmeets, -⟩ := halone
  cases command with
  | writeDpi image =>
    refine ⟨stored_or_not ht fun report hr => (hsends report hr).imp_right fun hs => ⟨_, hs⟩, fun value hvalue => ?_⟩
    exact hacts.1.update (hacts.2 value hvalue).2
  | sendDpi image =>
    refine ⟨stored_or_not ht fun report hr => .inl (hsends report hr), fun value hvalue => ?_⟩
    obtain ⟨bytes, hreport, rfl⟩ := hmeets value hvalue
    rcases ht with - | ⟨- | _, hs⟩
    exact (storing_report hs hreport).1 rfl
  | _ => trivial

end Worker
end Storing

/-! ## The handle as a session meets it -/

/-- A command is served as one step; it is not served when there is no room for it; and when the worker is gone it may have
been served. -/
def AnsweredBy {T : Type} (served : Except DriverError T → Onboard → Onboard → Prop) : Except HandleError T → Onboard → Onboard → Prop
  | .ok value => served (.ok value)
  | .error (.driver e) => served (.error e)
  | .error .workerUnavailable => fun held held' => held' = held ∨ ∃ r, served r held held'
  | .error _ => fun held held' => held' = held

/-- **One command served** over a mouse that stores what it is sent. -/
structure Worker.Command.Serves (worker : Worker) (named : ProfileId → Prop) (command : Worker.Command)
    (r : Except DriverError command.Value) (held held' : Onboard) : Prop where
  acts : command.Acts worker named r held held'
  stores : command.Stores named r held held'
  guarded : ∀ e, r = .error e → e.Guards → command.Guards (held .profileMetadata) e

/-- **What a handle answers a session that is its only client, and what becomes of the mouse.** -/
def HandleOp.step (worker : Worker) (named : ProfileId → Prop) : (o : HandleOp) → Onboard → o.Res → Onboard → Prop
  | .request command, held, r, held' => AnsweredBy (command.Serves worker named) r held held'
  | .readBattery, held, _, held' => held' = held

section Handed

variable {worker : Worker} {named : ProfileId → Prop} {polls : Nat} {c : Server.Config (MouseHandle worker polls)}
  {mouse mouse' : UsbMouse}

end Handed

/-! ## The profile numbers -/

/-- The same with other profile numbers. -/
def Onboard.renumber (held : Onboard) (numbers : ProfileMetadata) : Onboard := Function.update held .profileMetadata numbers

namespace UsbSession

variable {worker : Worker} {named : ProfileId → Prop} {start : Onboard}

/-- The profile numbers are these, and all else is as it was. -/
def Numbered (named : ProfileId → Prop) (start : Onboard) (actual : ProfileMetadata) (held : Onboard) (_ : History Handle) : Prop :=
  (start.renumber actual).Same named held

end UsbSession

/-! ## Honest hardware -/

/-- One mouse, attached at one place. -/
def Mouse.alone (mouse : Mouse) (key : AttachmentKey) : Mice Unit :=
  ⟨fun _ => mouse, Function.update (fun _ => none) key (some ())⟩

/-- The mouse with everything that is held. -/
def Onboard.mouse (held : Onboard) : Mouse := ⟨held .profileMetadata, fun profile => held (.dpi profile)⟩

/-- **The mouse that the manager's results speak of**: its profile numbers and its DPI images are those that are held, but
for the images of the profiles that are named for their rate. -/
structure Onboard.Shows (named : ProfileId → Prop) (held : Onboard) (mouse : Mouse) : Prop where
  metadata : mouse.metadata = held .profileMetadata
  dpi : ∀ profile, ¬ named profile → mouse.dpi profile = held (.dpi profile)

section Shows

variable {named : ProfileId → Prop} {held held' : Onboard} {mouse : Mouse} {key : AttachmentKey}

namespace Onboard

theorem Same.shows (hsame : held.Same named held') (hshows : held.Shows named mouse) : held'.Shows named mouse where
  metadata := hshows.metadata.trans (hsame .profileMetadata trivial).symm
  dpi profile hfree := (hshows.dpi profile hfree).trans (hsame (.dpi profile) hfree).symm

end Onboard
end Shows

namespace UsbSession

variable {worker : Worker} {named : ProfileId → Prop} {held held' : Onboard} {h h' : History Handle} {T U : Type}

variable {display : HandleError → String} {endpoint : DeviceEndpoint}

/-- The error a session's call ends with. -/
def result (display : HandleError → String) (r : Except HandleError T) : Except ManagerError T :=
  r.mapError fun e => .driver (display e)

end UsbSession

namespace Rig

end Rig
end AttackSharkX3
