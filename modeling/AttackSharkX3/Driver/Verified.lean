import AttackSharkX3.Driver.Armed
/-!
# Verified writes — what a write puts on the wire, and what it answers

A section write sends its report once and answers what the readback decoded.  A change of the profile numbers sends its
control report at most once, after the numbers were read.
-/
namespace AttackSharkX3

open Effects (Prog Fallible Tries)
open Effects.Prog (Event History Keeps Only)
open Told

/-- Every report sent armed the read of `request`. -/
def OnlySelectors (request : ReadbackRequest) (h : History Feature) : Prop :=
  ∀ report ∈ sentReports h, report = ReadSelector.encode request

theorem OnlySelectors.append {request : ReadbackRequest} {h h₁ : History Feature} (hh : OnlySelectors request h)
    (hh₁ : OnlySelectors request h₁) : OnlySelectors request (h ++ h₁) := by
  intro report hr
  unfold sentReports at hr
  rw [List.filterMap_append, List.mem_append] at hr
  rcases hr with hr | hr
  · exact hh report hr
  · exact hh₁ report hr

/-- The errors a change of the profile numbers is refused with. -/
def DriverError.Guards : DriverError → Prop
  | .profileAlreadyActive _ | .profileNotEnabled .. | .maximumProfileBelowCurrent .. => True
  | _ => False

/-- The operation sends nothing but the selector of `request`. -/
def FeatureOp.Selects (request : ReadbackRequest) (o : FeatureOp) : Prop :=
  ∀ report, o.report = some report → report = ReadSelector.encode request

theorem OnlySelectors.event {request : ReadbackRequest} {h : History Feature} {o : FeatureOp} {r : o.Res}
    (hh : OnlySelectors request h) (ho : o.Selects request) : OnlySelectors request (⟨o, r⟩ :: h) := by
  intro report hr
  rcases hq : o.report with - | selector
  · have hsame : sentReports (⟨o, r⟩ :: h) = sentReports h := List.filterMap_cons_none hq
    rw [hsame] at hr
    exact hh report hr
  · have hmore : sentReports (⟨o, r⟩ :: h) = selector :: sentReports h := List.filterMap_cons_some hq
    rw [hmore] at hr
    rcases List.mem_cons.1 hr with rfl | hr
    · exact ho report hq
    · exact hh report hr

namespace Worker

variable {T : Type} {worker : Worker} {polls : Nat} {request : ReadbackRequest}
  {decode : List UInt8 → Except ProtocolError T}

/-! ## Reads within a call -/

theorem Polling.append {k : Nat} {h : History Feature} (hp : worker.Polling request k h) (h₁ : History Feature) :
    worker.Polling request k (h ++ h₁) := by
  induction hp with
  | armed => exact .armed
  | slept duration _ ih => exact .slept duration ih
  | waited _ hread htime ih => exact .waited ih hread htime

theorem Fetched.append {value : T} {h : History Feature} (hf : worker.Fetched request decode value h)
    (h₁ : History Feature) : worker.Fetched request decode value (h ++ h₁) := by
  obtain ⟨answer, before, rfl, ⟨k, status, first, rfl, hp, hready⟩, hd⟩ := hf
  exact ⟨answer, _, rfl, ⟨k, status, first ++ h₁, rfl, hp.append h₁, hready⟩, hd⟩

theorem ArmedMay.selects {h : History Feature} {o : FeatureOp} (hm : worker.ArmedMay polls request decode h o) :
    o.Selects request := by
  intro report hr
  cases o with
  | send sent =>
    cases hr
    exact hm.2.1
  | _ => cases hr

/-- A read sends its own selectors only, and ends at the report it fetched. -/
theorem tries_read : Tries (fun _ (o : FeatureOp) => o.Selects request) (· = []) (worker.armedRead polls request decode)
    (fun value h => worker.Fetched request decode value h ∧ OnlySelectors request h)
    (fun e h => OnlySelectors request h ∧ ¬ e.Guards) := by
  intro h hnil
  have hread : Keeps (worker.ArmedMay polls request decode) _ (worker.armedRead polls request decode).run h :=
    tries_armedRead h hnil
  have honly : Only (FeatureOp.Selects request) (worker.armedRead polls request decode).run :=
    Keeps.only (fun _ o (ho : worker.ArmedMay polls request decode _ o) => ho.selects) _ h hread
  have hstart : OnlySelectors request h := by
    subst hnil
    nofun
  have hframe : Keeps (fun _ _ => True) _ (worker.armedRead polls request decode).run h :=
    Only.keeps (fun _ _ _ _ => trivial) (fun before o r ho hb => hb.event (h := before) (o := o) (r := r) ho) _ h honly hstart
  refine Keeps.mono (fun _ _ hm => hm.1.selects) (fun r h' hr => ?_) _ h
    (hread.and _ _ hframe)
  cases r with
  | ok value => exact ⟨hr.1.2, hr.2⟩
  | error e =>
    refine ⟨hr.2, ?_⟩
    rcases hr.1 with ⟨text, rfl, -⟩ | ⟨last, rfl, -⟩
    · exact id
    · exact id

/-! ## One section -/

/-- The call sends the report, if it encodes, and nothing else. -/
def SendsOnce (report : Except ProtocolError (List UInt8)) (x : Driver Unit) : Prop :=
  Tries (fun h (o : FeatureOp) => ∀ bytes, o.report = some bytes → h = [] ∧ report = .ok bytes) (· = []) x
    (fun _ h => ∃ bytes, report = .ok bytes ∧ h = [sent bytes (.ok ())]) fun e _ => ¬ e.Guards

theorem sendFeatureReport_once (bytes : List UInt8) : SendsOnce (.ok bytes) (Driver.sendFeatureReport bytes) := by
  refine .perform ?_ ?_
  · intro h hnil bytes' hb
    cases hb
    exact ⟨hnil, rfl⟩
  · intro h r hnil
    subst hnil
    cases r with
    | ok u => exact ⟨bytes, rfl, rfl⟩
    | error text => exact id

theorem sendDpi_once (state : DpiState) : SendsOnce (worker.dpiReport state) (worker.sendDpi state) := by
  unfold sendDpi
  refine .bind (Q := fun bytes h => h = [] ∧ worker.dpiReport state = .ok bytes) (.ofExcept ?_ ?_) fun bytes => ?_
  · intro bytes hb h hnil
    exact ⟨hnil, hb⟩
  · exact fun _ _ _ _ => id
  · intro h hh
    obtain ⟨hnil, hb⟩ := hh
    rw [hb]
    exact sendFeatureReport_once bytes h hnil

/-- **A verified write**: its report is the first thing sent, and afterwards only selectors of the readback are; its value
is the requested one, as the readback decoded it. -/
def Verifies (worker : Worker) (report : Except ProtocolError (List UInt8)) (request : ReadbackRequest)
    (decode : List UInt8 → Except ProtocolError T) (requested : T) (x : Driver T) : Prop :=
  Tries (fun h (o : FeatureOp) => ∀ bytes, o.report = some bytes →
      (h = [] ∧ report = .ok bytes) ∨ (h ≠ [] ∧ bytes = ReadSelector.encode request)) (· = []) x
    (fun actual h => actual = requested ∧ ∃ bytes readback, report = .ok bytes ∧
      h = readback ++ [sent bytes (.ok ())] ∧ OnlySelectors request readback ∧
      worker.Fetched request decode actual readback) fun e _ => ¬ e.Guards

theorem verified_verifies [DecidableEq T] {report : Except ProtocolError (List UInt8)} {sending : Driver Unit}
    (hs : SendsOnce report sending) (sectionName : String) (profile : ProfileId) (requested : T) :
    worker.Verifies report request decode requested
      (worker.verified sending (worker.armedRead polls request decode) sectionName profile requested) := by
  let Sent (h : History Feature) : Prop := ∃ bytes rest, report = .ok bytes ∧ h = rest ++ [sent bytes (.ok ())] ∧
    OnlySelectors request rest
  have hne : ∀ h own : History Feature, Sent h → own ++ h ≠ [] := by
    rintro _ own ⟨bytes, rest, -, rfl, -⟩
    simp
  refine .bind (Q := fun _ => Sent) ?_ fun _ => .bind (Q := fun _ => Sent) ?_ fun _ =>
    .bind (Q := fun actual h => ∃ bytes readback, report = .ok bytes ∧ h = readback ++ [sent bytes (.ok ())] ∧
      OnlySelectors request readback ∧ worker.Fetched request decode actual readback) ?_ fun actual => ?_
  · refine (hs.then_ ?_).allow fun h o ho bytes hb => .inl (ho bytes hb)
    rintro _ _ ⟨bytes, hb, rfl⟩
    exact ⟨bytes, [], hb, rfl, nofun⟩
  · refine tries_sleepUnlessZero (fun _ _ => nofun) ?_
    rintro _ ⟨bytes, rest, hb, rfl, hrest⟩
    exact ⟨bytes, slept _ :: rest, hb, rfl, hrest⟩
  · refine tries_read.of_own ?_ ?_ fun _ _ _ _ herr => herr.2
    · intro h₁ h o hsent ho bytes hb
      exact .inr ⟨hne h₁ h hsent, ho bytes hb⟩
    · rintro _ own value ⟨bytes, rest, hb, rfl, hrest⟩ ⟨hfetched, honly⟩
      exact ⟨bytes, own ++ rest, hb, (List.append_assoc ..).symm, honly.append hrest, hfetched.append rest⟩
  · refine .bind (Q := fun _ h => actual = requested ∧ ∃ bytes readback, report = .ok bytes ∧
      h = readback ++ [sent bytes (.ok ())] ∧ OnlySelectors request readback ∧
      worker.Fetched request decode actual readback) (.ensure ?_ ?_) fun _ => .pure fun _ hh => hh
    · exact fun heq h hh => ⟨heq, hh⟩
    · exact fun _ _ _ => id

/-! ## The profile numbers -/

/-- What a change of the profile numbers may send: selectors, and one control report right after the numbers were read, of
a pair that is asked for in place of them. -/
def ControlMay (worker : Worker) (asked : ProfileMetadata → ProfileMetadata → Prop) (h : History Feature)
    (o : FeatureOp) : Prop :=
  ∀ bytes, o.report = some bytes → bytes = ReadSelector.encode .profileMetadata ∨
    (OnlySelectors .profileMetadata h ∧ ∃ current expected,
      worker.Fetched .profileMetadata worker.decodeMetadata current h ∧ asked current expected ∧
      bytes = worker.controlReport expected)

/-- **A change of the profile numbers.**  A guard's error leaves the control report unsent, and the value is the pair read
last. -/
def Controls (worker : Worker) (asked : ProfileMetadata → ProfileMetadata → Prop) (answers : ProfileMetadata → Prop)
    (x : Driver ProfileMetadata) : Prop :=
  Tries (worker.ControlMay asked) (· = []) x
    (fun actual h => answers actual ∧ worker.Fetched .profileMetadata worker.decodeMetadata actual h)
    fun e h => e.Guards → OnlySelectors .profileMetadata h

section Control

variable {asked : ProfileMetadata → ProfileMetadata → Prop} {answers : ProfileMetadata → Prop}

/-- The numbers were read, and nothing was sent but selectors. -/
def MetadataRead (worker : Worker) (current : ProfileMetadata) (h : History Feature) : Prop :=
  worker.Fetched .profileMetadata worker.decodeMetadata current h ∧ OnlySelectors .profileMetadata h

theorem tries_readMetadata : Tries (worker.ControlMay asked) (· = []) (worker.readProfileMetadata polls)
    worker.MetadataRead fun e h => e.Guards → OnlySelectors .profileMetadata h := by
  have hread : Tries (fun _ (o : FeatureOp) => o.Selects .profileMetadata) (· = []) (worker.readProfileMetadata polls)
      worker.MetadataRead fun e h => e.Guards → OnlySelectors .profileMetadata h :=
    tries_read.mono (fun _ => id) (fun _ _ => id) fun _ _ hh _ => hh.1
  exact hread.allow fun _ _ ho bytes hb => .inl (ho bytes hb)

/-- The control report of a pair that is asked for, and its readback. -/
theorem tries_writeMetadata {current expected : ProfileMetadata} {profile : ProfileId} (hasked : asked current expected)
    (hanswers : answers expected) :
    Tries (worker.ControlMay asked) (worker.MetadataRead current) (worker.writeMetadata polls expected profile)
      (fun actual h => answers actual ∧ worker.Fetched .profileMetadata worker.decodeMetadata actual h)
      fun e h => e.Guards → OnlySelectors .profileMetadata h := by
  have hwrite : worker.Verifies (.ok (worker.controlReport expected)) .profileMetadata worker.decodeMetadata expected
      (worker.writeMetadata polls expected profile) := verified_verifies (sendFeatureReport_once _) _ _ _
  refine Tries.of_own hwrite ?_ ?_ fun _ _ e _ herr hg => (herr hg).elim
  · rintro h₁ h o ⟨hfetched, honly⟩ ho bytes hb
    rcases ho bytes hb with ⟨rfl, hbytes⟩ | ⟨-, hbytes⟩
    · cases hbytes
      exact .inr ⟨honly, current, expected, hfetched, hasked, rfl⟩
    · exact .inl hbytes
  · rintro h₁ _ actual - ⟨rfl, bytes, readback, -, rfl, -, hfetched⟩
    exact ⟨hanswers, (hfetched.append _).append h₁⟩

end Control

/-- The pair a new maximum asks for. -/
def AsksMaximum (maximum : ProfileId) (current expected : ProfileMetadata) : Prop :=
  expected.current = current.current ∧ expected.maximum = maximum ∧ maximum ≠ current.maximum

/-- The pair an activation asks for. -/
def AsksProfile (profile : ProfileId) (current expected : ProfileMetadata) : Prop :=
  expected.current = profile ∧ expected.maximum = current.maximum ∧ current.current ≠ profile

theorem metadata_new_ok {current maximum : ProfileId} {metadata : ProfileMetadata}
    (h : ProfileMetadata.new current maximum = .ok metadata) : metadata.current = current ∧ metadata.maximum = maximum := by
  unfold ProfileMetadata.new at h
  split at h
  · cases h
    exact ⟨rfl, rfl⟩
  · cases h

theorem setMaximumProfile_controls (maximum : ProfileId) :
    worker.Controls (AsksMaximum maximum) (·.maximum = maximum) (worker.setMaximumProfile polls maximum) := by
  refine .bind (Q := worker.MetadataRead) tries_readMetadata fun current =>
    .bind (Q := fun _ => worker.MetadataRead current) (.ensure (fun _ _ hh => hh) fun _ _ hh _ => hh.2) fun _ => ?_
  split
  · next hsame => exact .pure fun h hh => ⟨hsame.symm, hh.1⟩
  · next hne =>
    refine .bind (Q := fun expected h => AsksMaximum maximum current expected ∧ worker.MetadataRead current h)
      (.ofExcept ?_ fun _ _ _ _ => nofun) fun expected => .of_pure fun hasked => ?_
    · intro expected hnew h hh
      obtain ⟨hcurrent, hmaximum⟩ := metadata_new_ok hnew
      exact ⟨⟨hcurrent, hmaximum, hne⟩, hh⟩
    · exact tries_writeMetadata hasked hasked.2.1

theorem activateProfile_controls (profile : ProfileId) :
    worker.Controls (AsksProfile profile) (·.current = profile) (worker.activateProfile polls profile) := by
  refine .bind (Q := worker.MetadataRead) tries_readMetadata fun current =>
    .bind (Q := fun _ h => current.current ≠ profile ∧ worker.MetadataRead current h)
      (.ensure (fun hne _ hh => ⟨hne, hh⟩) fun _ _ hh _ => hh.2) fun _ => .of_pure fun hne =>
    .bind (Q := fun _ => worker.MetadataRead current) (.ensure (fun _ _ hh => hh) fun _ _ hh _ => hh.2) fun _ => ?_
  refine .bind (Q := fun expected h => AsksProfile profile current expected ∧ worker.MetadataRead current h)
    (.ofExcept ?_ fun _ _ _ _ => nofun) fun expected => .of_pure fun hasked => ?_
  · intro expected hnew h hh
    obtain ⟨hcurrent, hmaximum⟩ := metadata_new_ok hnew
    exact ⟨⟨hcurrent, hmaximum, hne⟩, hh⟩
  · exact tries_writeMetadata hasked hasked.1

/-- **Writes answer what they read back.**  Each section write sends the report of the requested state once and answers a
readback equal to it; a change of the profile numbers sends at most one control report, of the pair asked for, and answers
the pair it read last. -/
theorem writes_verified (worker : Worker) (polls : Nat) :
    (∀ state, worker.Verifies (worker.dpiReport state) (.dpi state.profile) (worker.decodeDpi state.profile) state
      (worker.writeDpi polls state)) ∧
    (∀ state, worker.Verifies (.ok (preferencesReport state)) (.preferences state.profile)
      (worker.decodePreferences state.profile) state (worker.writePreferences polls state)) ∧
    (∀ state, worker.Verifies (.ok (ButtonsReport.encode state)) (.buttons state.profile)
      (worker.decodeButtons state.profile) state (worker.writeButtons polls state)) ∧
    (∀ profile rate, worker.Verifies (.ok (PollingRateReport.encode profile rate)) (.pollingRate profile)
      (worker.decodeRate profile) rate (worker.writePollingRateUnchecked polls profile rate)) ∧
    (∀ maximum, worker.Controls (AsksMaximum maximum) (·.maximum = maximum) (worker.setMaximumProfile polls maximum)) ∧
    ∀ profile, worker.Controls (AsksProfile profile) (·.current = profile) (worker.activateProfile polls profile) := by
  refine ⟨fun state => ?_, fun state => ?_, fun state => ?_, fun profile rate => ?_, ?_, ?_⟩
  · exact verified_verifies (sendDpi_once state) _ _ _
  · exact verified_verifies (sendFeatureReport_once _) _ _ _
  · exact verified_verifies (sendFeatureReport_once _) _ _ _
  · exact verified_verifies (sendFeatureReport_once _) _ _ _
  · exact setMaximumProfile_controls
  · exact activateProfile_controls

end Worker
end AttackSharkX3
