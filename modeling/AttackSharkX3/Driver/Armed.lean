import AttackSharkX3.Driver.Feature
/-!
# Armed reads — what one read does to the transport

An attempt is a selector, polls of the mailbox while there is time, and the report once the mailbox is ready.  The read
repeats attempts that failed on a packet, and nothing follows an error of the transport.
-/
namespace AttackSharkX3

open Effects (Prog Fallible Tries Either)
open Effects.Prog (Event History Keeps)

/-! ## Events -/

namespace Told

abbrev sent (report : List UInt8) (r : Except String Unit) : Event Feature := ⟨FeatureOp.send report, r⟩
abbrev got (reportId : UInt8) (capacity : Nat) (r : Except String (Nat × Bytes capacity)) : Event Feature :=
  ⟨FeatureOp.get reportId capacity, r⟩
abbrev elapsed (time : Nat) : Event Feature := ⟨FeatureOp.elapsed, time⟩
abbrev slept (duration : Nat) : Event Feature := ⟨FeatureOp.sleep duration, ()⟩
abbrev status (answer : Nat × Bytes READINESS_LENGTH) : Event Feature :=
  got READINESS_REPORT_ID READINESS_LENGTH (.ok answer)

end Told

open Told

def FeatureOp.report : FeatureOp → Option (List UInt8)
  | .send report => some report
  | _ => none

/-- The reports sent, the newest first. -/
def sentReports (h : History Feature) : List (List UInt8) := h.filterMap fun ev => ev.1.report

/-- What happened since the last report was sent. -/
def thisAttempt (h : History Feature) : History Feature := h.takeWhile fun ev => ev.1.report.isNone

/-- The transport answered with an error. -/
inductive Refused (text : String) : Event Feature → Prop where
  | send (report : List UInt8) : Refused text (sent report (.error text))
  | get (reportId : UInt8) (capacity : Nat) : Refused text (got reportId capacity (.error text))

/-- No call was answered with an error. -/
def Calm (h : History Feature) : Prop := ∀ ev ∈ h, ∀ text, ¬ Refused text ev

/-- The last call was answered with an error, and none before it was. -/
def RefusedLast (text : String) (h : History Feature) : Prop := ∃ ev before, h = ev :: before ∧ Refused text ev ∧ Calm before

namespace Worker

variable {T : Type} (worker : Worker) (polls : Nat) (request : ReadbackRequest)
  (decode : List UInt8 → Except ProtocolError T)

/-! ## Attempts -/

/-- **An attempt under way**: its selector was sent, and since then the mailbox was not ready so many times, each time
before the deadline. -/
inductive Polling : Nat → History Feature → Prop where
  | armed {h} : Polling 0 (sent (ReadSelector.encode request) (.ok ()) :: h)
  | slept {k h} (duration : Nat) : Polling k h → Polling k (slept duration :: h)
  | waited {k h answer time} : Polling k h → decodeAnswer ReadinessStatus.decode answer = .ok .notReady →
      time < worker.policy.readinessTimeout → Polling (k + 1) (elapsed time :: status answer :: h)

/-- The last poll read `status`. -/
def Polled (k : Nat) (read : ReadinessStatus) (h : History Feature) : Prop :=
  ∃ answer before, h = status answer :: before ∧ worker.Polling request k before ∧
    decodeAnswer ReadinessStatus.decode answer = .ok read

/-- The last poll found the mailbox ready. -/
def Ready (h : History Feature) : Prop := ∃ k, worker.Polled request k .ready h

/-- **The report was fetched** when the mailbox was ready, and decodes to `value`. -/
def Fetched (value : T) (h : History Feature) : Prop :=
  ∃ answer before, h = got request.reportId request.reportLength.toNat (.ok answer) :: before ∧
    worker.Ready request before ∧ decodeAnswer decode answer = .ok value

/-- **The attempt failed on a packet**, or on the deadline. -/
inductive AttemptFailed : ReadFailure → History Feature → Prop where
  | status {k h answer failure} : worker.Polling request k h →
      decodeAnswer ReadinessStatus.decode answer = .error failure → AttemptFailed failure (status answer :: h)
  | deadline {k h time} : worker.Polled request k .notReady h → worker.policy.readinessTimeout ≤ time →
      AttemptFailed .readinessTimeout (elapsed time :: h)
  | report {h answer failure} : worker.Ready request h → decodeAnswer decode answer = .error failure →
      AttemptFailed failure (got request.reportId request.reportLength.toNat (.ok answer) :: h)

/-- **What a read may do next.**  A selector starts an attempt when the one before it failed, and at most as many as the
policy allows; the report is fetched when the mailbox is ready, and not yet in this attempt. -/
def ArmedMay (h : History Feature) (o : FeatureOp) : Prop :=
  Calm h ∧ match o with
  | .send report => report = ReadSelector.encode request ∧
      (sentReports h).length < worker.policy.maxAttempts.toNat ∧
      (h = [] ∨ ∃ failure, worker.AttemptFailed request decode failure h)
  | .get reportId capacity =>
      (reportId = READINESS_REPORT_ID ∧ capacity = READINESS_LENGTH ∧ ∃ k, worker.Polling request k h) ∨
      (reportId = request.reportId ∧ capacity = request.reportLength.toNat ∧ worker.Ready request h ∧
        ∀ ev ∈ thisAttempt h, ev.1 ≠ .get request.reportId request.reportLength.toNat)
  | .elapsed => ∃ k, worker.Polled request k .notReady h
  | .sleep _ => ∃ k, worker.Polling request k h
  | .spin => worker.Polling request polls h

/-- **How a read ends.** -/
structure ArmedEnds (result : Except DriverError T) (h : History Feature) : Prop where
  value : ∀ value, result = .ok value → Calm h ∧ worker.Fetched request decode value h
  refused : ∀ text, RefusedLast text h → result = .error (.transport text)
  exhausted : ∀ last, worker.AttemptFailed request decode last h →
    (sentReports h).length = worker.policy.maxAttempts.toNat ∧
      result = .error (.readAttemptsExhausted request.sectionName request.targetProfile worker.policy.maxAttempts last)
  ends : (∃ value, result = .ok value) ∨ (∃ text, RefusedLast text h) ∨
    ∃ last, worker.AttemptFailed request decode last h

end Worker

/-! ## Calm histories -/

theorem Calm.nil : Calm [] := nofun

theorem Calm.cons {h : History Feature} {ev : Event Feature} (hc : Calm h) (he : ∀ text, ¬ Refused text ev) :
    Calm (ev :: h) := by
  intro ev' hmem
  rcases List.mem_cons.1 hmem with rfl | hmem
  · exact he
  · exact hc ev' hmem

theorem Calm.not_refusedLast {h : History Feature} {text : String} (hc : Calm h) : ¬ RefusedLast text h := by
  rintro ⟨ev, before, rfl, hr, -⟩
  exact hc ev List.mem_cons_self text hr

theorem not_refused_ok {text : String} {reportId : UInt8} {capacity : Nat} {answer : Nat × Bytes capacity} :
    ¬ Refused text (got reportId capacity (.ok answer)) := nofun

/-- So many reports were sent, without an error, and the last of it is as `P` says. -/
structure Calmly (count : Nat) (P : History Feature → Prop) (h : History Feature) : Prop where
  calm : Calm h
  count : (sentReports h).length = count
  last : P h

/-- One more event that sends nothing and is no error. -/
theorem Calmly.cons {count : Nat} {P Q : History Feature → Prop} {h : History Feature} {ev : Event Feature}
    (hh : Calmly count P h) (he : ∀ text, ¬ Refused text ev) (hq : ev.1.report = none) (hP : Q (ev :: h)) :
    Calmly count Q (ev :: h) := by
  refine ⟨hh.calm.cons he, ?_, hP⟩
  have hsame : sentReports (ev :: h) = sentReports h := List.filterMap_cons_none hq
  rw [hsame]
  exact hh.count

/-- The error a call ends with is the transport's. -/
def Refuses (e : DriverError) (h : History Feature) : Prop := ∃ text, e = .transport text ∧ RefusedLast text h

section Transport

variable {rule : History Feature → FeatureOp → Prop} {pre : History Feature → Prop}

theorem tries_send {report : List UInt8} {post : Unit → History Feature → Prop}
    (may : ∀ h, pre h → rule h (.send report)) (calm : ∀ h, pre h → Calm h)
    (gives : ∀ h, pre h → post () (sent report (.ok ()) :: h)) :
    Tries rule pre (Driver.sendFeatureReport report) post Refuses := by
  refine .perform may fun h r hpre => ?_
  cases r with
  | ok u => exact gives h hpre
  | error text => exact ⟨text, rfl, _, h, rfl, .send report, calm h hpre⟩

theorem tries_get {reportId : UInt8} {capacity : Nat} {post : Nat × Bytes capacity → History Feature → Prop}
    (may : ∀ h, pre h → rule h (.get reportId capacity)) (calm : ∀ h, pre h → Calm h)
    (gives : ∀ h answer, pre h → post answer (got reportId capacity (.ok answer) :: h)) :
    Tries rule pre (Driver.getFeatureReport reportId capacity) post Refuses := by
  refine .perform may fun h r hpre => ?_
  cases r with
  | ok answer => exact gives h answer hpre
  | error text => exact ⟨text, rfl, _, h, rfl, .get reportId capacity, calm h hpre⟩

theorem tries_sleepUnlessZero {setting duration : Nat} {fails : DriverError → History Feature → Prop}
    (may : ∀ h, pre h → rule h (.sleep duration)) (stable : ∀ h, pre h → pre (slept duration :: h)) :
    Tries rule pre (Driver.sleepUnlessZero setting duration) (fun _ => pre) fails := by
  unfold Driver.sleepUnlessZero
  split
  · exact .pure fun _ hpre => hpre
  · exact .perform may fun h _ hpre => stable h hpre

end Transport

/-! ## One attempt -/

namespace Worker

variable {T : Type} {worker : Worker} {polls count : Nat} {request : ReadbackRequest}
  {decode : List UInt8 → Except ProtocolError T}

theorem reportId_ne (request : ReadbackRequest) : request.reportId ≠ READINESS_REPORT_ID := by
  cases request <;> simp [ReadbackRequest.reportId, READINESS_REPORT_ID, PROFILE_REPORT_ID]

/-- While the mailbox is polled, nothing else was read in the attempt. -/
theorem Polling.unfetched {k : Nat} {h : History Feature} (hp : worker.Polling request k h) :
    ∀ ev ∈ thisAttempt h, ev.1 ≠ .get request.reportId request.reportLength.toNat := by
  induction hp with
  | armed => nofun
  | slept duration _ ih =>
    intro ev hev
    rcases List.mem_cons.1 hev with rfl | hev
    · nofun
    · exact ih ev hev
  | waited _ _ _ ih =>
    intro ev hev
    rcases List.mem_cons.1 hev with rfl | hev
    · nofun
    rcases List.mem_cons.1 hev with rfl | hev
    · intro heq
      injection heq with hid
      exact reportId_ne request hid.symm
    · exact ih ev hev

theorem Ready.unfetched {h : History Feature} (hr : worker.Ready request h) :
    ∀ ev ∈ thisAttempt h, ev.1 ≠ .get request.reportId request.reportLength.toNat := by
  obtain ⟨k, answer, before, rfl, hp, -⟩ := hr
  intro ev hev
  rcases List.mem_cons.1 hev with rfl | hev
  · intro heq
    injection heq with hid
    exact reportId_ne request hid.symm
  · exact hp.unfetched ev hev

/-- What a poll says of the history it ends. -/
def PollEnds (worker : Worker) (request : ReadbackRequest) (decode : List UInt8 → Except ProtocolError T) (k : Nat) :
    Except ReadFailure ReadinessStatus → History Feature → Prop
  | .ok read => worker.Polled request k read
  | .error failure => worker.AttemptFailed request decode failure

theorem tries_status {k : Nat} :
    Tries (worker.ArmedMay polls request decode) (Calmly count (worker.Polling request k)) readReadinessStatus
      (fun read => Calmly count (worker.PollEnds request decode k read)) Refuses := by
  refine .bind (Q := fun answer h => ∃ before, h = status answer :: before ∧
    Calmly count (worker.Polling request k) before) (tries_get ?_ (fun h hh => hh.calm) ?_) fun answer => .pure ?_
  · intro h hh
    exact ⟨hh.calm, .inl ⟨rfl, rfl, k, hh.last⟩⟩
  · intro h answer hh
    exact ⟨h, rfl, hh⟩
  · rintro _ ⟨before, rfl, hh⟩
    refine hh.cons (fun _ => not_refused_ok) rfl ?_
    cases hd : decodeAnswer ReadinessStatus.decode answer with
    | ok read => exact ⟨answer, before, rfl, hh.last, hd⟩
    | error failure => exact .status hh.last hd

/-- How the readiness loop ends. -/
def AwaitEnds (worker : Worker) (request : ReadbackRequest) (decode : List UInt8 → Except ProtocolError T) :
    Except ReadFailure Unit → History Feature → Prop
  | .ok () => worker.Ready request
  | .error failure => worker.AttemptFailed request decode failure

theorem tries_awaitReady : ∀ {left k : Nat}, k + left = polls →
    Tries (worker.ArmedMay polls request decode) (Calmly count (worker.Polling request k)) (worker.awaitReady left)
      (fun ended => Calmly count (worker.AwaitEnds request decode ended)) Refuses
  | 0, k, hk => by
    refine .perform (fun h hh => ⟨hh.calm, ?_⟩) fun _ r => nomatch r
    subst hk
    exact hh.last
  | left + 1, k, hk => by
    refine .bind (tries_status (k := k)) fun read => ?_
    match read with
    | .ok .ready =>
      refine .pure fun h hh => ⟨hh.calm, hh.count, ?_⟩
      exact ⟨k, hh.last⟩
    | .error failure => exact .pure fun h hh => hh
    | .ok .notReady =>
      refine .bind (Q := fun time h => ∃ before, h = elapsed time :: before ∧
        Calmly count (worker.Polled request k .notReady) before) (.perform ?_ ?_) fun time => ?_
      · intro h hh
        exact ⟨hh.calm, k, hh.last⟩
      · intro h time hh
        exact ⟨h, rfl, hh⟩
      split
      · next htime =>
        -- one more poll in time
        refine .bind (Q := fun _ => Calmly count (worker.Polling request (k + 1))) ?_ fun _ => tries_awaitReady (by omega)
        refine (show Tries _ (Calmly count (worker.Polling request (k + 1))) _ _ _ from
          tries_sleepUnlessZero ?_ ?_).before ?_
        · intro h hh
          exact ⟨hh.calm, k + 1, hh.last⟩
        · intro h hh
          exact hh.cons nofun rfl (.slept _ hh.last)
        · rintro _ ⟨before, rfl, hh⟩
          obtain ⟨answer, first, rfl, hpolling, hread⟩ := hh.last
          exact hh.cons nofun rfl (.waited hpolling hread htime)
      · next htime =>
        refine .pure ?_
        rintro _ ⟨before, rfl, hh⟩
        exact hh.cons nofun rfl (.deadline hh.last (Nat.le_of_not_lt htime))

/-- How an attempt ends. -/
def AttemptEnds (worker : Worker) (request : ReadbackRequest) (decode : List UInt8 → Except ProtocolError T) :
    Except ReadFailure T → History Feature → Prop
  | .ok value => worker.Fetched request decode value
  | .error failure => worker.AttemptFailed request decode failure

theorem tries_fetch : Tries (worker.ArmedMay polls request decode) (Calmly count (worker.Ready request))
    (fetch request decode) (fun ended => Calmly count (worker.AttemptEnds request decode ended)) Refuses := by
  refine .bind (Q := fun answer h => ∃ before, h = got request.reportId request.reportLength.toNat (.ok answer) :: before ∧
    Calmly count (worker.Ready request) before) (tries_get ?_ (fun h hh => hh.calm) ?_) fun answer => .pure ?_
  · intro h hh
    exact ⟨hh.calm, .inr ⟨rfl, rfl, hh.last, hh.last.unfetched⟩⟩
  · intro h answer hh
    exact ⟨h, rfl, hh⟩
  · rintro _ ⟨before, rfl, hh⟩
    refine hh.cons (fun _ => not_refused_ok) rfl ?_
    cases hd : decodeAnswer decode answer with
    | ok value => exact ⟨answer, before, rfl, hh.last, hd⟩
    | error failure => exact .report hh.last hd

/-- An attempt may start: none was made yet, or the last one failed. -/
def Fails (worker : Worker) (request : ReadbackRequest) (decode : List UInt8 → Except ProtocolError T)
    (h : History Feature) : Prop :=
  h = [] ∨ ∃ failure, worker.AttemptFailed request decode failure h

/-- **One attempt** keeps to the protocol, and ends with a fetched value, a failure of its own, or the transport's error. -/
theorem tries_readAttempt (hcount : count < worker.policy.maxAttempts.toNat) :
    Tries (worker.ArmedMay polls request decode) (Calmly count (worker.Fails request decode))
      (worker.readAttempt polls request decode)
      (fun ended => Calmly (count + 1) (worker.AttemptEnds request decode ended)) Refuses := by
  refine .bind (Q := fun _ => Calmly (count + 1) (worker.Polling request 0)) (tries_send ?_ (fun h hh => hh.calm) ?_) ?_
  · intro h hh
    refine ⟨hh.calm, rfl, ?_, hh.last⟩
    rw [hh.count]
    exact hcount
  · intro h hh
    refine ⟨hh.calm.cons nofun, ?_, .armed⟩
    show (sentReports h).length + 1 = count + 1
    rw [hh.count]
  intro _
  refine .bind (Q := fun _ => Calmly (count + 1) (worker.Polling request 0)) ?_ fun _ => ?_
  · unfold readinessDelay
    split
    · refine .perform (fun h hh => ⟨hh.calm, 0, hh.last⟩) fun h _ hh => ?_
      exact hh.cons nofun rfl (.slept _ hh.last)
    · exact .pure fun _ hh => hh
  refine .bind (tries_awaitReady (Nat.zero_add polls)) fun ended => ?_
  match ended with
  | .ok () => exact tries_fetch
  | .error failure => exact .pure fun h hh => hh

/-! ## The whole read -/

/-- What is left of a read's result once no attempt is. -/
def Exhausted (worker : Worker) (request : ReadbackRequest) (decode : List UInt8 → Except ProtocolError T)
    (e : DriverError) (h : History Feature) : Prop :=
  ∃ last, e = .readAttemptsExhausted request.sectionName request.targetProfile worker.policy.maxAttempts last ∧
    Calmly worker.policy.maxAttempts.toNat (worker.AttemptFailed request decode last) h

/-- The attempts that are left, by induction on their number: the last failure is carried from one to the next. -/
theorem tries_attempts : ∀ {left count : Nat} {last : ReadFailure} {P : History Feature → Prop},
    count + left = worker.policy.maxAttempts.toNat →
    (∀ h, P h → if left = 0 then worker.AttemptFailed request decode last h else worker.Fails request decode h) →
    Tries (worker.ArmedMay polls request decode) (Calmly count P) (worker.attempts polls request decode left last)
      (fun value h => Calm h ∧ worker.Fetched request decode value h)
      (fun e h => Refuses e h ∨ worker.Exhausted request decode e h)
  | 0, count, last, P, hcount, hP => by
    refine .throw fun h hh => .inr ⟨last, rfl, hh.calm, ?_, ?_⟩
    · rw [hh.count]
      omega
    · simpa using hP h hh.last
  | left + 1, count, last, P, hcount, hP => by
    refine .bind (Q := fun ended => Calmly (count + 1) (worker.AttemptEnds request decode ended)) ?_ fun ended => ?_
    · refine (tries_readAttempt (by omega)).mono (fun h hh => ⟨hh.calm, hh.count, ?_⟩) (fun _ _ => id) fun _ _ => .inl
      simpa using hP h hh.last
    match ended with
    | .ok value => exact .pure fun h hh => ⟨hh.calm, hh.last⟩
    | .error failure =>
      refine tries_attempts (by omega) fun h hh => ?_
      split
      · exact hh
      · exact .inr ⟨failure, hh⟩

theorem tries_armedRead : Tries (worker.ArmedMay polls request decode) (· = []) (worker.armedRead polls request decode)
    (fun value h => Calm h ∧ worker.Fetched request decode value h)
    (fun e h => Refuses e h ∨ worker.Exhausted request decode e h) := by
  have hpos : worker.policy.maxAttempts.toNat ≠ 0 := by
    intro hzero
    exact worker.policy.nonzero (UInt8.toNat.inj hzero)
  refine (show Tries _ (Calmly 0 (· = [])) _ _ _ from tries_attempts (Nat.zero_add _) ?_).before ?_
  · rintro _ rfl
    rw [if_neg hpos]
    exact .inl rfl
  · rintro _ rfl
    exact ⟨.nil, rfl, rfl⟩

/-! ## How a read ends -/

/-- What the last event of an attempt makes of it: the report's value, or the failure. -/
def shows (decode : List UInt8 → Except ProtocolError T) : Event Feature → Option (Except ReadFailure T)
  | ⟨.get reportId _, .ok answer⟩ =>
    if reportId = READINESS_REPORT_ID then
      match decodeAnswer ReadinessStatus.decode answer with
      | .ok _ => none
      | .error failure => some (.error failure)
    else some (decodeAnswer decode answer)
  | ⟨.elapsed, _⟩ => some (.error .readinessTimeout)
  | _ => none

theorem Fetched.shows {value : T} {h : History Feature} (hf : worker.Fetched request decode value h) :
    h.head?.bind (shows decode) = some (.ok value) := by
  obtain ⟨answer, before, rfl, -, hd⟩ := hf
  simp [Worker.shows, reportId_ne, hd]

theorem AttemptFailed.shows {failure : ReadFailure} {h : History Feature}
    (hf : worker.AttemptFailed request decode failure h) : h.head?.bind (shows decode) = some (.error failure) := by
  cases hf with
  | status _ hd => simp [Worker.shows, hd]
  | deadline _ _ => rfl
  | report _ hd => simp [Worker.shows, reportId_ne, hd]

theorem AttemptFailed.not_refusedLast {failure : ReadFailure} {h : History Feature}
    (hf : worker.AttemptFailed request decode failure h) {text : String} : ¬ RefusedLast text h := by
  rintro ⟨ev, before, rfl, hr, -⟩
  have hs := hf.shows
  cases hr <;> cases hs

/-- **The protocol of an armed read.**  Whatever the transport answers and the clock shows, each operation is one the
protocol allows, and the read ends with a value fetched by its last attempt, with the transport's error, or with the last
of as many failures as the policy allows.  The readiness loop outlasts `polls` only while the mailbox is not ready and
there is time. -/
theorem armedRead_protocol (worker : Worker) (polls : Nat) (request : ReadbackRequest)
    (decode : List UInt8 → Except ProtocolError T) :
    Keeps (worker.ArmedMay polls request decode) (worker.ArmedEnds request decode)
      (worker.armedRead polls request decode).run [] := by
  refine Keeps.mono (fun _ _ => id) (fun result h hr => ?_) _ [] (tries_armedRead [] rfl)
  match result with
  | .ok value =>
    obtain ⟨hcalm, hfetched⟩ := hr
    refine ⟨?_, fun text ht => (hcalm.not_refusedLast ht).elim, ?_, .inl ⟨value, rfl⟩⟩
    · intro found hfound
      cases hfound
      exact ⟨hcalm, hfetched⟩
    · intro last hlast
      have hs := hlast.shows
      rw [hfetched.shows] at hs
      cases hs
  | .error e =>
    rcases hr with ⟨text, rfl, hrefused⟩ | ⟨last, rfl, hcalm, hcount, hfailed⟩
    · refine ⟨nofun, ?_, fun last hlast => (hlast.not_refusedLast hrefused).elim, .inr (.inl ⟨text, hrefused⟩)⟩
      rintro text' ⟨ev, before, rfl, hr', -⟩
      obtain ⟨ev', before', heq, hr, -⟩ := hrefused
      cases heq
      cases hr <;> cases hr' <;> rfl
    · refine ⟨nofun, fun text ht => (hcalm.not_refusedLast ht).elim, ?_, .inr (.inr ⟨last, hfailed⟩)⟩
      intro last' hlast'
      have hs := hlast'.shows
      rw [hfailed.shows] at hs
      cases hs
      exact ⟨hcount, rfl⟩

end Worker
end AttackSharkX3
