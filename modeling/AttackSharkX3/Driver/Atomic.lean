import AttackSharkX3.Driver.Handle
/-!
# Atomic — the handle of a mouse that tells the truth

A truthful mouse answers an armed read with what it holds, and a report of the driver's own changes the section it
addresses only; it may drop a report, refuse it, or answer with noise.  A polling-rate report is a save alias: the profile it
names may be overwritten with the live image at any time, and nothing is supposed of the one live rate.  Behind its handle
such a mouse is an atomic object: every run is one of commands that are each one step of what the mouse holds.
-/
namespace AttackSharkX3

open Effects (Prog Server)
open Effects.Prog (Event History)
open Effects.Server (Through InTurn)
open Told

/-! ## What a mouse holds -/

/-- What is read by one request.  Nothing is decoded from the version, and the rate that is answered is the live one,
whatever profile it is asked under. -/
abbrev ReadbackRequest.Held : ReadbackRequest → Type
  | version | pollingRate _ => Unit
  | profileMetadata => ProfileMetadata
  | dpi _ => DpiState
  | preferences _ => PreferencesState
  | buttons _ => ButtonsState

/-- **What a mouse holds**, section by section. -/
abbrev Onboard : Type := (request : ReadbackRequest) → request.Held

/-- A section that changes only when a report says so: it is of no profile that was named for its polling rate. -/
def ReadbackRequest.Settled (named : ProfileId → Prop) : ReadbackRequest → Prop
  | version | profileMetadata | pollingRate _ => True
  | dpi profile | preferences profile | buttons profile => ¬ named profile

namespace Onboard

/-- The settled sections are the same. -/
def Same (named : ProfileId → Prop) (held held' : Onboard) : Prop :=
  ∀ section_, section_.Settled named → held' section_ = held section_

/-- The settled sections are the same, but for one. -/
def Elsewhere (named : ProfileId → Prop) (section_ : ReadbackRequest) (held held' : Onboard) : Prop :=
  ∀ other, other.Settled named → other ≠ section_ → held' other = held other

variable {named : ProfileId → Prop} {section_ : ReadbackRequest} {held held' held'' : Onboard}

theorem Same.refl : Same named held held := fun _ _ => rfl

theorem Same.trans (first : Same named held held') (last : Same named held' held'') : Same named held held'' :=
  fun other hother => (last other hother).trans (first other hother)

theorem Same.elsewhere (hsame : Same named held held') : Elsewhere named section_ held held' :=
  fun other hother _ => hsame other hother

theorem Elsewhere.trans (first : Elsewhere named section_ held held') (last : Elsewhere named section_ held' held'') :
    Elsewhere named section_ held held'' :=
  fun other hother hne => (last other hother hne).trans (first other hother hne)

/-- The one section holds a value, if it is settled. -/
theorem Elsewhere.update {value : section_.Held} (helsewhere : Elsewhere named section_ held held')
    (hvalue : section_.Settled named → held' section_ = value) : Same named (Function.update held section_ value) held' := by
  intro other hother
  by_cases hsection : other = section_
  · subst hsection
    rw [Function.update_self]
    exact hvalue hother
  · rw [Function.update_of_ne hsection]
    exact helsewhere other hother hsection

theorem Elsewhere.same (helsewhere : Elsewhere named section_ held held')
    (hvalue : section_.Settled named → held' section_ = held section_) : Same named held held' := by
  have hsame := helsewhere.update hvalue
  rwa [Function.update_eq_self] at hsame

/-- The profile that is read in one go. -/
def snapshot (held : Onboard) (targetProfile : ProfileId) : ProfileSnapshot :=
  ⟨held .profileMetadata, targetProfile, held (.dpi targetProfile), held (.preferences targetProfile),
    held (.buttons targetProfile)⟩

end Onboard

/-- **The section a report addresses**: by its id and, but for the profile numbers, by its profile byte. -/
def addressed : List UInt8 → Option ReadbackRequest
  | reportId :: _ :: number :: _ =>
    if reportId = PROFILE_REPORT_ID then some .profileMetadata
    else match ProfileId.tryFrom number with
      | .ok profile =>
        if reportId = DPI_REPORT_ID then some (.dpi profile)
        else if reportId = PREFERENCES_REPORT_ID then some (.preferences profile)
        else if reportId = POLLING_RATE_REPORT_ID then some (.pollingRate profile)
        else if reportId = BUTTON_REPORT_ID then some (.buttons profile)
        else none
      | .error _ => none
  | _ => none

/-! ## A truthful mouse -/

/-- What the worker decodes the answer to a request to. -/
def Worker.decodeHeld (worker : Worker) : (request : ReadbackRequest) → List UInt8 → Except ProtocolError request.Held
  | .version => fun _ => .ok ()
  | .profileMetadata => worker.decodeMetadata
  | .dpi profile => worker.decodeDpi profile
  | .preferences profile => worker.decodePreferences profile
  | .buttons profile => worker.decodeButtons profile
  | .pollingRate _ => fun _ => .ok ()

/-- **A report of the driver's own**: one that its typed writes send. -/
inductive Worker.Builds (worker : Worker) : List UInt8 → Prop where
  | dpi {state report} (encodes : worker.dpiReport state = .ok report) : Builds worker report
  | preferences (state) : Builds worker (preferencesReport state)
  | buttons (state) : Builds worker (ButtonsReport.encode state)
  | pollingRate (profile rate) : Builds worker (PollingRateReport.encode profile rate)
  | control (expected) : Builds worker (worker.controlReport expected)

/-- A mouse at the other end of the transport: the read it is armed for, and what it holds. -/
structure UsbMouse where
  armed : Option ReadbackRequest
  held : Onboard

/-- **What a truthful mouse answers, and what becomes of it.**  A selector that was taken arms its read.  A report of the
driver's own changes the section it addresses at most, in any way; a report of another form may do anything.  What it holds
for the profiles that are named for their rate may change at any time. -/
def UsbMouse.step (worker : Worker) (named : ProfileId → Prop) : (o : FeatureOp) → UsbMouse → o.Res → UsbMouse → Prop
  | .send report, mouse, r, mouse' =>
      (∀ request, report = ReadSelector.encode request →
        mouse.held.Same named mouse'.held ∧ (r = .ok () → mouse'.armed = some request)) ∧
      (worker.Builds report → ∀ section_, addressed report = some section_ → mouse.held.Elsewhere named section_ mouse'.held)
  | .get reportId capacity, mouse, r, mouse' => (mouse.held.Same named mouse'.held ∧ mouse'.armed = mouse.armed) ∧
      ∀ request (answer : Nat × Bytes capacity) value, request.Settled named → mouse.armed = some request →
        reportId = request.reportId → r = .ok answer → Worker.decodeAnswer (worker.decodeHeld request) answer = .ok value →
        value = mouse.held request
  | .elapsed, mouse, _, mouse' | .sleep _, mouse, _, mouse' | .spin, mouse, _, mouse' =>
      mouse.held.Same named mouse'.held ∧ mouse'.armed = mouse.armed

/-! ## What reports address -/

@[simp] theorem ProfileId.tryFrom_get (profile : ProfileId) : ProfileId.tryFrom profile.get = .ok profile :=
  dif_pos profile.range

/-- A section's report starts with its id, a length and its profile. -/
theorem addressed_section {reportId declared : UInt8} {profile : ProfileId} {rest : List UInt8}
    (hid : reportId ≠ PROFILE_REPORT_ID) : addressed (reportId :: declared :: profile.get :: rest) =
      if reportId = DPI_REPORT_ID then some (.dpi profile)
      else if reportId = PREFERENCES_REPORT_ID then some (.preferences profile)
      else if reportId = POLLING_RATE_REPORT_ID then some (.pollingRate profile)
      else if reportId = BUTTON_REPORT_ID then some (.buttons profile)
      else none := by
  rw [addressed, if_neg hid, ProfileId.tryFrom_get]

theorem addressed_dpi {worker : Worker} {state : DpiState} {bytes : List UInt8} (h : worker.dpiReport state = .ok bytes) :
    addressed bytes = some (.dpi state.profile) := by
  unfold Worker.dpiReport DpiReport.encode DpiReport.encodeFramed at h
  cases hv : validateStageSelection state.stages.length state.activeStage with
  | error e =>
    rw [hv] at h
    cases h
  | ok =>
    rw [hv] at h
    cases h
    exact addressed_section (by decide)

theorem addressed_preferences (state : PreferencesState) :
    addressed (Worker.preferencesReport state) = some (.preferences state.profile) :=
  addressed_section (by decide)

theorem addressed_buttons (state : ButtonsState) : addressed (ButtonsReport.encode state) = some (.buttons state.profile) :=
  addressed_section (by decide)

theorem addressed_rate (profile : ProfileId) (rate : PollingRate) :
    addressed (PollingRateReport.encode profile rate) = some (.pollingRate profile) :=
  addressed_section (by decide)

theorem addressed_control (worker : Worker) (expected : ProfileMetadata) :
    addressed (worker.controlReport expected) = some .profileMetadata := by
  unfold Worker.controlReport ProfileControlReport.asBytes
  rcases worker.controlFraming with - | -
  · rfl
  · rfl

/-! ## What a history says of the mouse -/

namespace Worker

variable {worker : Worker} {named : ProfileId → Prop} {request : ReadbackRequest} {mouse mouse' : UsbMouse}
  {h : History Feature}

/-- Nothing but reports changes the settled sections, or what the mouse is armed for. -/
theorem step_quiet {o : FeatureOp} {m m' : UsbMouse} {r : o.Res} (hs : UsbMouse.step worker named o m r m')
    (hquiet : o.report = none) : m.held.Same named m'.held ∧ m'.armed = m.armed := by
  cases o with
  | send => cases hquiet
  | get => exact hs.1
  | elapsed | sleep | spin => exact hs

/-- An attempt under way has armed the mouse. -/
theorem Polling.armed_mouse {k : Nat} (hp : worker.Polling request k h) : ∀ {mouse' : UsbMouse},
    Through (UsbMouse.step worker named) mouse h mouse' → mouse'.armed = some request := by
  induction hp with
  | armed =>
    rintro _ (- | ⟨-, hstep⟩)
    exact (hstep.1 request rfl).2 rfl
  | slept duration _ ih =>
    rintro _ (- | ⟨hbefore, hstep⟩)
    rw [(step_quiet hstep rfl).2, ih hbefore]
  | waited _ _ _ ih =>
    rintro _ (- | ⟨- | ⟨hbefore, hstatus⟩, hstep⟩)
    rw [(step_quiet hstep rfl).2, (step_quiet hstatus rfl).2, ih hbefore]

/-- **A fetched value is what the mouse holds.** -/
theorem Fetched.held {value : request.Held} (hsettled : request.Settled named)
    (hf : worker.Fetched request (worker.decodeHeld request) value h)
    (ht : Through (UsbMouse.step worker named) mouse h mouse') : value = mouse'.held request := by
  obtain ⟨answer, before, rfl, ⟨k, status, first, rfl, hp, -⟩, hd⟩ := hf
  rcases ht with - | ⟨- | ⟨hbefore, hstatus⟩, ⟨hsame, -⟩, htells⟩
  have harmed := (step_quiet hstatus rfl).2.trans (hp.armed_mouse hbefore)
  rw [htells request answer value hsettled harmed rfl rfl hd]
  exact (hsame request hsettled).symm

/-- What every report of a history leaves true of the settled sections, the history does. -/
theorem through_reports {step : (o : FeatureOp) → UsbMouse → o.Res → UsbMouse → Prop} {R : Onboard → Prop}
    (hsub : ∀ o m r m', step o m r m' → UsbMouse.step worker named o m r m')
    (hquiet : ∀ held held', held.Same named held' → R held → R held') (ht : Through step mouse h mouse') (hstart : R mouse.held)
    (hsend : ∀ report ∈ sentReports h, ∀ (m m' : UsbMouse) (r : Except String Unit),
      step (.send report) m r m' → R m.held → R m'.held) : R mouse'.held := by
  induction ht with
  | refl => exact hstart
  | @op h m m' o r _ hstep ih =>
    have hbefore : R m.held := by
      refine ih fun report hr => hsend report ?_
      cases o with
      | send => exact List.mem_cons_of_mem _ hr
      | _ => exact hr
    cases o with
    | send report => exact hsend report List.mem_cons_self m m' r hstep hbefore
    | get | elapsed | sleep | spin => exact hquiet _ _ (step_quiet (hsub _ _ _ _ hstep) rfl).1 hbefore

/-- Selectors change nothing that is settled. -/
theorem held_of_selectors (ht : Through (UsbMouse.step worker named) mouse h mouse')
    (hselectors : ∀ report ∈ sentReports h, ∃ request, report = ReadSelector.encode request) :
    mouse.held.Same named mouse'.held := by
  refine through_reports (R := mouse.held.Same named) (fun _ _ _ _ => id) (fun _ _ hsame hm => hm.trans hsame) ht .refl ?_
  intro report hr m m' r hstep hm
  obtain ⟨request, hreport⟩ := hselectors report hr
  exact hm.trans (hstep.1 request hreport).1

/-- Reports of the driver's own that address one section change that one at most. -/
theorem elsewhere_of_addressed {section_ : ReadbackRequest} (ht : Through (UsbMouse.step worker named) mouse h mouse')
    (haddressed : ∀ report ∈ sentReports h, (∃ request, report = ReadSelector.encode request) ∨
      (worker.Builds report ∧ addressed report = some section_)) : mouse.held.Elsewhere named section_ mouse'.held := by
  refine through_reports (R := mouse.held.Elsewhere named section_) (fun _ _ _ _ => id)
    (fun _ _ hsame hm => hm.trans hsame.elsewhere) ht Onboard.Same.refl.elsewhere ?_
  intro report hr m m' r hstep hm
  rcases haddressed report hr with ⟨request, hreport⟩ | ⟨hbuilds, hsection⟩
  · exact hm.trans (hstep.1 request hreport).1.elsewhere
  · exact hm.trans (hstep.2 hbuilds section_ hsection)

/-- **A read tells what is held**, and changes nothing. -/
theorem Reads.held (request : ReadbackRequest) {value : request.Held} (hsettled : request.Settled named)
    (hr : worker.Reads request (worker.decodeHeld request) value h)
    (ht : Through (UsbMouse.step worker named) mouse h mouse') :
    value = mouse.held request ∧ mouse.held.Same named mouse'.held := by
  have hheld := held_of_selectors ht fun report hreport => ⟨request, hr.2 report hreport⟩
  exact ⟨(hr.1.held hsettled ht).trans (hheld request hsettled), hheld⟩

/-- **A verified write leaves what was asked for.** -/
theorem Writes.held {report : Except ProtocolError (List UInt8)} {requested actual : request.Held}
    (hsettled : request.Settled named)
    (hw : worker.Writes report request (worker.decodeHeld request) requested actual h)
    (ht : Through (UsbMouse.step worker named) mouse h mouse') : mouse'.held request = requested := by
  obtain ⟨rfl, bytes, readback, -, rfl, hread⟩ := hw
  obtain ⟨sentTo, -, hafter⟩ := ht.split
  obtain ⟨hactual, hheld⟩ := Reads.held request hsettled hread hafter
  rw [hheld request hsettled, hactual]

/-- **A change of the profile numbers**: they were as asked already, or are the pair that was asked for in place of them. -/
theorem Changes.held {already : ProfileMetadata → Prop} {asked : ProfileMetadata → ProfileMetadata → Prop}
    {actual : ProfileMetadata} (hc : worker.Changes already asked actual h)
    (ht : Through (UsbMouse.step worker named) mouse h mouse') : mouse'.held .profileMetadata = actual ∧
      ((already actual ∧ actual = mouse.held .profileMetadata) ∨ asked (mouse.held .profileMetadata) actual) := by
  rcases hc with ⟨halready, hread⟩ | ⟨current, before, readback, rfl, hasked, hfirst, hread⟩
  · obtain ⟨hactual, hheld⟩ := Reads.held .profileMetadata trivial hread ht
    exact ⟨by rw [hheld .profileMetadata trivial, hactual], .inl ⟨halready, hactual⟩⟩
  · obtain ⟨sentTo, hbefore, hafter⟩ := ht.split
    obtain ⟨hactual, hheld⟩ := Reads.held .profileMetadata trivial hread hafter
    rcases hbefore with - | ⟨hbefore, -⟩
    obtain ⟨hcurrent, -⟩ := Reads.held .profileMetadata trivial hfirst hbefore
    refine ⟨by rw [hheld .profileMetadata trivial, hactual], .inr ?_⟩
    rw [← hcurrent]
    exact hasked

end Worker

/-! ## Commands as steps -/

namespace Onboard

variable {E : Type}

/-- A section is looked at. -/
def Looks (named : ProfileId → Prop) (section_ : ReadbackRequest) (r : Except E section_.Held) (held held' : Onboard) : Prop :=
  held.Same named held' ∧ (section_.Settled named → ∀ value, r = .ok value → value = held section_)

/-- A section is written, and known to be if a value is answered. -/
def Overwrites (named : ProfileId → Prop) (section_ : ReadbackRequest) (requested : section_.Held)
    (r : Except E section_.Held) (held held' : Onboard) : Prop :=
  held.Elsewhere named section_ held' ∧
    ∀ value, r = .ok value → value = requested ∧ (section_.Settled named → held' section_ = requested)

/-- The profile numbers and a profile are read in one go. -/
def Snapshots (named : ProfileId → Prop) (target : ProfileId) (r : Except E ProfileSnapshot) (held held' : Onboard) : Prop :=
  held.Same named held' ∧ ∀ value, r = .ok value → value.targetProfile = target ∧
    value.persistentMetadata = held .profileMetadata ∧ (¬ named target → value = held.snapshot target)

/-- The maximum is the one asked for, and the current profile stays. -/
def Raised (maximum : ProfileId) (before after : ProfileMetadata) : Prop :=
  after.maximum = maximum ∧ after.current = before.current

/-- Another profile became the current one, and the maximum stays. -/
def Activated (target : ProfileId) (before after : ProfileMetadata) : Prop :=
  before.current ≠ target ∧ after.current = target ∧ after.maximum = before.maximum

/-- The profile numbers are changed, or a guard refuses for them. -/
def Renumbers (named : ProfileId → Prop) (answers : ProfileMetadata → ProfileMetadata → Prop)
    (guards : ProfileMetadata → DriverError → Prop) (r : Except DriverError ProfileMetadata) (held held' : Onboard) : Prop :=
  held.Elsewhere named .profileMetadata held' ∧
    (∀ value, r = .ok value → held' .profileMetadata = value ∧ answers (held .profileMetadata) value) ∧
    ∀ e, r = .error e → e.Guards → guards (held .profileMetadata) e ∧ held.Same named held'

end Onboard

/-- **What a command does to what the mouse holds**, in one step, and what it answers. -/
def Worker.Command.Acts (worker : Worker) (named : ProfileId → Prop) : (command : Worker.Command) →
    Except DriverError command.Value → Onboard → Onboard → Prop
  | .profileMetadata, r => Onboard.Looks named .profileMetadata r
  | .dpi target, r => Onboard.Looks named (.dpi target) r
  | .preferences target, r => Onboard.Looks named (.preferences target) r
  | .buttons target, r => Onboard.Looks named (.buttons target) r
  | .livePollingRate _, _ => Onboard.Same named
  | .writeDpi state, r => Onboard.Overwrites named (.dpi state.profile) state r
  | .writePreferences state, r => Onboard.Overwrites named (.preferences state.profile) state r
  | .writeButtons state, r => Onboard.Overwrites named (.buttons state.profile) state r
  | .writePollingRateUnchecked _ rate, r => fun held held' => held.Same named held' ∧ ∀ value, r = .ok value → value = rate
  | .sendDpi state, _ => Onboard.Elsewhere named (.dpi state.profile)
  | .sendPreferences state, _ => Onboard.Elsewhere named (.preferences state.profile)
  | .sendButtons state, _ => Onboard.Elsewhere named (.buttons state.profile)
  | .sendPollingRateUnchecked .., _ => Onboard.Same named
  | .sendRawFeatureReport bytes, _ => fun held held' =>
      worker.Builds bytes → ∀ section_, addressed bytes = some section_ → held.Elsewhere named section_ held'
  | .profile target, r => Onboard.Snapshots named target r
  | .rawReadback request, r => fun held held' => held.Same named held' ∧ (request.Settled named → ∀ packet value,
      r = .ok packet → worker.decodeHeld request packet = .ok value → value = held request)
  | .setMaximumProfile maximum, r =>
      Onboard.Renumbers named (Onboard.Raised maximum) (Command.Guards (.setMaximumProfile maximum)) r
  | .activateProfile target, r =>
      Onboard.Renumbers named (Onboard.Activated target) (Command.Guards (.activateProfile target)) r

namespace Worker

variable {worker : Worker} {named : ProfileId → Prop} {mouse mouse' : UsbMouse} {h : History Feature} {E : Type}

theorem looks {request : ReadbackRequest} {r : Except E request.Held}
    (ht : Through (UsbMouse.step worker named) mouse h mouse')
    (hsends : ∀ report ∈ sentReports h, report = ReadSelector.encode request)
    (hmeets : ∀ value, r = .ok value → worker.Reads request (worker.decodeHeld request) value h) :
    Onboard.Looks named request r mouse.held mouse'.held :=
  ⟨held_of_selectors ht fun report hr => ⟨request, hsends report hr⟩,
    fun hsettled value hvalue => (Reads.held request hsettled (hmeets value hvalue) ht).1⟩

theorem overwrites {report : Except ProtocolError (List UInt8)} {request : ReadbackRequest} {requested : request.Held}
    {r : Except E request.Held} (ht : Through (UsbMouse.step worker named) mouse h mouse')
    (hsends : ∀ sent ∈ sentReports h, report = .ok sent ∨ sent = ReadSelector.encode request)
    (haddressed : ∀ bytes, report = .ok bytes → worker.Builds bytes ∧ addressed bytes = some request)
    (hmeets : ∀ value, r = .ok value → worker.Writes report request (worker.decodeHeld request) requested value h) :
    Onboard.Overwrites named request requested r mouse.held mouse'.held := by
  refine ⟨elsewhere_of_addressed ht fun sent hr => ?_, fun value hvalue => ?_⟩
  · rcases hsends sent hr with hreport | hselector
    · exact .inr (haddressed sent hreport)
    · exact .inl ⟨request, hselector⟩
  · exact ⟨(hmeets value hvalue).1, fun hsettled => (hmeets value hvalue).held hsettled ht⟩

/-- The same for a report that always encodes. -/
theorem overwrites_ok {report : List UInt8} {request : ReadbackRequest} {requested : request.Held} {r : Except E request.Held}
    (haddressed : worker.Builds report ∧ addressed report = some request)
    (ht : Through (UsbMouse.step worker named) mouse h mouse')
    (hsends : ∀ sent ∈ sentReports h, sent = report ∨ sent = ReadSelector.encode request)
    (hmeets : ∀ value, r = .ok value → worker.Writes (.ok report) request (worker.decodeHeld request) requested value h) :
    Onboard.Overwrites named request requested r mouse.held mouse'.held := by
  refine overwrites ht (fun sent hs => (hsends sent hs).imp_left fun heq => congrArg Except.ok heq.symm) ?_ hmeets
  rintro _ ⟨⟩
  exact haddressed

/-- One report of the driver's own that addresses a section. -/
theorem elsewhere_of_one {report : List UInt8} {request : ReadbackRequest} (hbuilds : worker.Builds report)
    (haddressed : addressed report = some request) (ht : Through (UsbMouse.step worker named) mouse h mouse')
    (hsends : ∀ sent ∈ sentReports h, sent = report) : mouse.held.Elsewhere named request mouse'.held := by
  refine elsewhere_of_addressed ht fun sent hs => ?_
  rw [hsends sent hs]
  exact .inr ⟨hbuilds, haddressed⟩

/-- A guard refuses for what the mouse holds, and leaves it as it is. -/
theorem Refused.held {guards : ProfileMetadata → DriverError → Prop} {e : DriverError} (hr : worker.Refused guards e h)
    (ht : Through (UsbMouse.step worker named) mouse h mouse') :
    guards (mouse.held .profileMetadata) e ∧ mouse.held.Same named mouse'.held := by
  obtain ⟨current, hguard, hread⟩ := hr
  obtain ⟨rfl, hheld⟩ := Reads.held .profileMetadata trivial hread ht
  exact ⟨hguard, hheld⟩

theorem renumbers {already answers' : ProfileMetadata → Prop} {asked answers : ProfileMetadata → ProfileMetadata → Prop}
    {guards : ProfileMetadata → DriverError → Prop} {r : Except DriverError ProfileMetadata}
    (ht : Through (UsbMouse.step worker named) mouse h mouse')
    (hsends : ∀ report ∈ sentReports h, report = ReadSelector.encode .profileMetadata ∨
      ∃ expected, answers' expected ∧ report = worker.controlReport expected)
    (hmeets : ∀ value, r = .ok value → worker.Changes already asked value h)
    (hguarded : ∀ e, r = .error e → e.Guards → worker.Refused guards e h) (hsame : ∀ numbers, already numbers → answers numbers numbers)
    (hasked : ∀ before after, asked before after → answers before after) :
    Onboard.Renumbers named answers guards r mouse.held mouse'.held where
  left := by
    refine elsewhere_of_addressed ht fun report hr => ?_
    rcases hsends report hr with hselector | ⟨expected, -, rfl⟩
    · exact .inl ⟨_, hselector⟩
    · exact .inr ⟨.control expected, addressed_control worker expected⟩
  right := by
    refine ⟨fun value hvalue => ?_, fun e he hg => (hguarded e he hg).held ht⟩
    obtain ⟨hheld, ⟨halready, hactual⟩ | hchanged⟩ := (hmeets value hvalue).held ht
    · exact ⟨hheld, hactual ▸ hsame value halready⟩
    · exact ⟨hheld, hasked _ _ hchanged⟩

theorem looks_snapshot {target : ProfileId} {r : Except E ProfileSnapshot} (ht : Through (UsbMouse.step worker named) mouse h mouse')
    (hsends : ∀ report ∈ sentReports h, Command.MaySend worker (.profile target) report)
    (hmeets : ∀ value, r = .ok value → Command.Meets worker (.profile target) value h) :
    Onboard.Snapshots named target r mouse.held mouse'.held := by
  refine ⟨held_of_selectors ht fun report hr => ?_, fun value hvalue => ?_⟩
  · obtain ⟨request, -, hreport⟩ := hsends report hr
    exact ⟨request, hreport⟩
  obtain ⟨htarget, h₁, h₂, h₃, h₄, rfl, hmetadata, hdpi, hpreferences, hbuttons⟩ := hmeets _ hvalue
  obtain ⟨m₃, ht, hfour⟩ := ht.split
  obtain ⟨m₂, ht, hthree⟩ := ht.split
  obtain ⟨m₁, hone, htwo⟩ := ht.split
  obtain ⟨hmetadata, hsame₁⟩ := Reads.held .profileMetadata trivial hmetadata hone
  refine ⟨htarget, hmetadata, fun hfree => ?_⟩
  -- each section is the one held at the start: the reads before it changed nothing that is settled
  obtain ⟨hdpi, hsame₂⟩ := Reads.held (.dpi target) hfree hdpi htwo
  obtain ⟨hpreferences, hsame₃⟩ := Reads.held (.preferences target) hfree hpreferences hthree
  obtain ⟨hbuttons, -⟩ := Reads.held (.buttons target) hfree hbuttons hfour
  rw [hsame₁ (.dpi target) hfree] at hdpi
  rw [(hsame₁.trans hsame₂) (.preferences target) hfree] at hpreferences
  rw [((hsame₁.trans hsame₂).trans hsame₃) (.buttons target) hfree] at hbuttons
  rw [Onboard.snapshot, ← hmetadata, ← hdpi, ← hpreferences, ← hbuttons, ← htarget]

/-- What was fetched as bytes was fetched as what they decode to. -/
theorem Reads.decoded {request : ReadbackRequest} {packet : List UInt8} {value : request.Held}
    (hr : worker.Reads request (fun packet => .ok packet) packet h) (hd : worker.decodeHeld request packet = .ok value) :
    worker.Reads request (worker.decodeHeld request) value h := by
  obtain ⟨⟨answer, before, rfl, hready, hpacket⟩, honly⟩ := hr
  refine ⟨⟨answer, before, rfl, hready, ?_⟩, honly⟩
  unfold decodeAnswer at hpacket ⊢
  split at hpacket
  · cases hpacket
  · next hfits =>
    cases hpacket
    rw [if_neg hfits, hd]
    rfl

/-- **Every command is one step** of what a truthful mouse holds. -/
theorem acts {command : Command} {r : Except DriverError command.Value} (ht : Through (UsbMouse.step worker named) mouse h mouse')
    (halone : worker.Alone command r h) : command.Acts worker named r mouse.held mouse'.held := by
  obtain ⟨hsends, hmeets, hguarded⟩ := halone
  cases command with
  | profileMetadata | dpi | preferences | buttons => exact looks ht hsends hmeets
  | livePollingRate alias_ => exact held_of_selectors ht fun report hr => ⟨_, hsends report hr⟩
  | writeDpi state => exact overwrites ht hsends (fun _ hreport => ⟨.dpi hreport, addressed_dpi hreport⟩) hmeets
  | writePreferences state => exact overwrites_ok ⟨.preferences state, addressed_preferences state⟩ ht hsends hmeets
  | writeButtons state => exact overwrites_ok ⟨.buttons state, addressed_buttons state⟩ ht hsends hmeets
  | writePollingRateUnchecked target rate =>
    have helsewhere : mouse.held.Elsewhere named (.pollingRate target) mouse'.held := by
      refine elsewhere_of_addressed ht fun report hr => ?_
      rcases hsends report hr with rfl | hselector
      · exact .inr ⟨.pollingRate target rate, addressed_rate target rate⟩
      · exact .inl ⟨_, hselector⟩
    -- no profile holds the live rate
    exact ⟨helsewhere.same fun _ => rfl, fun value hvalue => (hmeets value hvalue).1⟩
  | sendDpi state =>
    exact elsewhere_of_addressed ht fun sent hs => .inr ⟨.dpi (hsends sent hs), addressed_dpi (hsends sent hs)⟩
  | sendPreferences state => exact elsewhere_of_one (.preferences state) (addressed_preferences state) ht hsends
  | sendButtons state => exact elsewhere_of_one (.buttons state) (addressed_buttons state) ht hsends
  | sendPollingRateUnchecked target rate =>
    exact (elsewhere_of_one (.pollingRate target rate) (addressed_rate target rate) ht hsends).same fun _ => rfl
  | sendRawFeatureReport bytes => exact fun hbuilds section_ haddressed => elsewhere_of_one hbuilds haddressed ht hsends
  | profile target => exact looks_snapshot ht hsends hmeets
  | rawReadback request =>
    refine ⟨held_of_selectors ht fun report hr => ⟨request, hsends report hr⟩, fun hsettled packet value hpacket hvalue => ?_⟩
    exact (Reads.held request hsettled ((hmeets packet hpacket).decoded hvalue) ht).1
  | setMaximumProfile maximum =>
    have hasked : ∀ before after, AsksMaximum maximum before after → Onboard.Raised maximum before after :=
      fun _ _ ⟨hcurrent, hmaximum, _⟩ => ⟨hmaximum, hcurrent⟩
    exact renumbers ht hsends hmeets hguarded (fun _ hsame => ⟨hsame, rfl⟩) hasked
  | activateProfile target =>
    have hasked : ∀ before after, AsksProfile target before after → Onboard.Activated target before after :=
      fun _ _ ⟨hcurrent, hmaximum, hne⟩ => ⟨hne, hcurrent, hmaximum⟩
    exact renumbers ht hsends hmeets hguarded (fun _ => False.elim) hasked

end Worker

/-! ## The handle -/

section Handle

variable {worker : Worker} {polls : Nat} {c : Server.Config (MouseHandle worker polls)} {mouse mouse' : UsbMouse}

namespace Worker.Command

variable {named : ProfileId → Prop} {command : Worker.Command} {section_ : ReadbackRequest} {held held' : Onboard}

end Worker.Command

end Handle

namespace Rig

def firstProfile : ProfileId := .MIN_ID
/-- Its light at another mode. -/
def relit (profile : ProfileId) : PreferencesState := ⟨profile, 1, 0, 0, ⟨[0, 255, 0], rfl⟩, 0, 0⟩

def readyStatus : Nat × Bytes READINESS_LENGTH := (8, ⟨[0xa0, 1, 0, 0, 0, 0, 0, 0], rfl⟩)
def relitPacket : Nat × Bytes 15 := (13, ⟨Worker.preferencesReport (relit firstProfile) ++ [0, 0], rfl⟩)

/-- The mailbox is armed, found ready, and read. -/
def relitRead : History Feature :=
  [got 5 15 (.ok relitPacket), status readyStatus, sent (ReadSelector.encode (.preferences firstProfile)) (.ok ())]

/-- The light is changed and read back. -/
def written : Server.Served (MouseHandle wiredWorker 9) :=
  ⟨⟨0, .writePreferences (relit firstProfile)⟩, .ok (relit firstProfile),
    relitRead ++ [sent (Worker.preferencesReport (relit firstProfile)) (.ok ())]⟩

end Rig
end AttackSharkX3
