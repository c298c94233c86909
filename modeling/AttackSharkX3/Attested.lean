import AttackSharkX3.Carries
import AttackSharkX3.Journal
/-!
# Attested — the mouse an ordinary USB write reaches

A manager caches the watermark of an attachment and trusts it until a scan no longer sees the attachment.  While no mouse
is attached at a path a watermark is cached for, or a session is open on, a DPI write reaches a mouse that was read as the
token's since it was attached.
-/
namespace AttackSharkX3

open Effects (Prog Move Machine)
open Effects.Prog (Event History)
open Effects.Machine (Config Entry Step Reaches running history)

/-! ## Ordinary transactions keep every token -/

theorem physicalIdOf_insert {state : StateFile} {d d' : DeviceId} {mouse : DeviceState}
    (h : d' = d → mouse.identity.physicalId = physicalIdOf state d) :
    physicalIdOf { state with devices := state.devices.insert d' mouse } d = physicalIdOf state d := by
  by_cases hd : d' = d
  · subst hd
    simpa [physicalIdOf] using h rfl
  · simp [physicalIdOf, BTreeMap.get_insert_of_ne _ hd]

theorem ordinarilyKept_token (d : DeviceId) : OrdinarilyKept (physicalIdOf · d) where
  attached state device mouse endpoint now h := by
    refine physicalIdOf_insert fun heq => ?_
    subst heq
    simp [physicalIdOf, h, DeviceIdentity.upsertEndpoint]
  evidence state device mouse profileMetadata profiles h := by
    refine physicalIdOf_insert fun heq => ?_
    subst heq
    simp [physicalIdOf, h]
  relocated state device mouse endpoint h := by
    refine physicalIdOf_insert fun heq => ?_
    subst heq
    simp [physicalIdOf, h, DeviceIdentity.upsertEndpoint]
  synced state rows selection := by
    simp only [physicalIdOf, Std.ExtTreeMap.getElem?_map]
    cases state.devices[d]? with
    | none => rfl
    | some mouse =>
      simp only [Option.map_some, Option.bind_some, Txn.syncDevice]
      split <;> rfl
  allocated _ _ := rfl
  made state id identity hempty hnone := by
    refine physicalIdOf_insert fun heq => ?_
    have hdevice : state.devices[d]? = none := by
      rw [Std.ExtTreeMap.isEmpty_iff.1 hempty]
      exact Std.ExtTreeMap.getElem?_empty
    simpa [physicalIdOf, hdevice, DeviceState.new] using hnone

/-! ## What is read at a path -/

variable [Crc32fast] {U ι : Type} [DecidableEq U] [DecidableEq ι] {owner : ι → Unit}

/-- A mouse is attached at the path. -/
def attachesAt (key : AttachmentKey) : Move Backend ι Call Outcome (Hand U) → Bool
  | .env (.attach key' _) => key' = key
  | _ => false

/-- The moves since a mouse was last attached at the path. -/
def since (key : AttachmentKey) (log : List (Entry (machine (mice U) owner))) : List (Entry (machine (mice U) owner)) :=
  log.takeWhile fun entry => !attachesAt key entry.move

/-- **A client read a watermark at the path as `A`**: the metadata, and then the DPI image of the profile in use. -/
def Reads (key : AttachmentKey) (A : PhysicalId) (dpiRead metadataRead : Entry (machine (mice U) owner)) : Prop :=
  ∃ i endpoint metadata dpi, endpoint.key = key ∧
    dpiRead.move = .op i (.session endpoint (.readDpi metadata.current)) (.ok dpi) ∧
    metadataRead.move = .op i (.session endpoint .readProfileMetadata) (.ok metadata) ∧ dpi.physicalId = .valid A

/-- The watermark at the path was read as `A` since a mouse was last attached there. -/
def ReadSince (key : AttachmentKey) (A : PhysicalId) (log : List (Entry (machine (mice U) owner))) : Prop :=
  ∃ dpiRead metadataRead, [dpiRead, metadataRead].Sublist (since key log) ∧ Reads key A dpiRead metadataRead

/-- **No mouse is attached where a watermark is cached for the path, or a session is open on it**, and no ceremony runs. -/
structure AttachesUnread (c : Config (machine (mice U) owner)) (m : Move Backend ι Call Outcome (Hand U)) : Prop where
  ordinary : ∀ i call, m = .enter i call → call.isCeremony = false
  uncached : ∀ key u, m = .env (.attach key u) → ∀ A endpoint, c.world.cache () key ≠ some (.valid A, endpoint)
  closed : ∀ key u, m = .env (.attach key u) → ∀ i endpoint, Did.open_ endpoint (.ok ()) ∈ history i c.log →
    endpoint.key ≠ key

/-- The move, if it is an ordinary DPI write over USB for a mouse with a token, reaches a mouse read as that token. -/
def WritesAttested (c : Config (machine (mice U) owner)) (m : Move Backend ι Call Outcome (Hand U)) : Prop :=
  ∀ i endpoint image verification r, m = .op i (.session endpoint (.writeDpi image verification)) r →
    isUsbTransport endpoint.transport = true → ∀ call d A, running i c.log = some call → call.device = some d →
    physicalIdOf c.world.store d = some A → ∀ u, c.world.mice.attached endpoint.key = some u →
    ∃ dpiRead metadataRead, [dpiRead, metadataRead].Sublist (since endpoint.key c.log) ∧
      Reads endpoint.key A dpiRead metadataRead ∧ (World.mice dpiRead.before).attached endpoint.key = some u ∧
      (World.mice metadataRead.before).attached endpoint.key = some u

section Since

variable {key : AttachmentKey} {A : PhysicalId} {w : (machine (mice U) owner).World}
  {m : Move Backend ι Call Outcome (Hand U)} {log : List (Entry (machine (mice U) owner))}

theorem since_cons (hm : attachesAt key m = false) :
    since key ((⟨w, m⟩ : Entry (machine (mice U) owner)) :: log) = ⟨w, m⟩ :: since key log := by
  simp [since, hm]

theorem since_attach (hm : attachesAt key m = true) :
    since key ((⟨w, m⟩ : Entry (machine (mice U) owner)) :: log) = [] := by
  simp [since, hm]

theorem ReadSince.cons (h : ReadSince key A log) (hm : attachesAt key m = false) :
    ReadSince key A ((⟨w, m⟩ : Entry (machine (mice U) owner)) :: log) := by
  obtain ⟨dpiRead, metadataRead, hs, hr⟩ := h
  exact ⟨dpiRead, metadataRead, by rw [since_cons hm]; exact hs.cons _, hr⟩

end Since

omit [Crc32fast] in
/-- A cache entry is an old one, or was just inserted. -/
theorem cache_of_step {w w' : World (mice U) ι Unit} {m} (h : World.step owner w m w') {key : AttachmentKey} {entry}
    (he : w'.cache () key = some entry) : w.cache () key = some entry ∨
      ∃ i endpoint decode r, m = .op i (.cacheInsert endpoint decode) r ∧ endpoint.key = key ∧
        entry = (decode, endpoint) := by
  have same : w'.cache = w.cache → w.cache () key = some entry := fun hs => by rw [← hs, he]
  cases m with
  | op i o r =>
    cases o with
    | cacheInsert endpoint decode =>
      cases h
      by_cases hkey : endpoint.key = key
      · subst hkey
        refine .inr ⟨i, endpoint, decode, r, rfl, rfl, ?_⟩
        simpa [World.setCache] using he.symm
      · exact .inl (by simpa [World.setCache, Function.update_of_ne (Ne.symm hkey)] using he)
    | cacheRetain discovered =>
      cases h
      have hr : (w.cache ()).retain discovered key = some entry := by simpa [World.setCache] using he
      exact .inl (Option.filter_eq_some_iff.1 hr).1
    | load | cached => exact .inl (same (by rw [h.2]))
    | commit t | list selection | open_ endpoint | session endpoint call =>
      obtain ⟨_, -, rfl⟩ := h
      exact .inl he
    | acquire device operation => rcases h with ⟨-, -, rfl⟩ | ⟨-, rfl⟩ <;> exact .inl he
    | now | random => cases h; exact .inl he
    | abort site => exact h.elim
  | enter i call => cases h; exact .inl he
  | leave i result =>
    cases result with
    | some a => cases h; exact .inl he
    | none =>
      rcases h with rfl | rfl
      · exact .inl he
      · simp [World.setCache] at he
  | env e => obtain ⟨_, -, rfl⟩ := h; exact .inl he

omit [Crc32fast] in
/-- A mouse at a path was there, or was just attached. -/
theorem attached_of_step {w w' : World (mice U) ι Unit} {m} (h : World.step owner w m w') {key : AttachmentKey} {u : U}
    (hu : w'.mice.attached key = some u) : w.mice.attached key = some u ∨ m = .env (.attach key u) := by
  rcases mice_of_step h with hs | ⟨i, endpoint, call, r, rfl, hs⟩ | ⟨hand, rfl, hs⟩
  · exact .inl (by rw [← hs, hu])
  · exact .inl (by rw [← Mice.answers_attached hs, hu])
  · rw [hs] at hu
    cases hand with
    | attach key' v =>
      by_cases hkey : key = key'
      · subst hkey
        simp [Mice.after] at hu
        exact .inr (by rw [hu])
      · exact .inl (by simpa [Mice.after, Function.update_of_ne hkey] using hu)
    | detach key' =>
      by_cases hkey : key = key'
      · subst hkey
        simp [Mice.after] at hu
      · exact .inl (by simpa [Mice.after, Function.update_of_ne hkey] using hu)
    | turn v metadata => exact .inl hu

/-! ## Every run -/

/-- **What the manager trusts was read since the mouse was attached.** -/
structure Trusted (c : Config (machine (mice U) owner)) : Prop where
  calls : ∀ i call, running i c.log = some call → call.isCeremony = false
  here : ∀ key u entry, c.world.mice.attached key = some u → entry ∈ since key c.log →
    (World.mice entry.before).attached key = some u
  opened : ∀ i endpoint ev h₀, (ev :: h₀) <:+ history i c.log → Did.open_ endpoint (.ok ()) ∈ h₀ →
    ∃ w, ⟨w, .op i ev.1 ev.2⟩ ∈ since endpoint.key c.log
  cached : ∀ key A endpoint, c.world.cache () key = some (.valid A, endpoint) → ReadSince key A c.log
  authenticated : ∀ i endpoint A, Authenticated (history i c.log) endpoint A → ReadSince endpoint.key A c.log

/-- What is authenticated was opened in the same call. -/
theorem Authenticated.isOpen {h : History Backend} {endpoint : DeviceEndpoint} {A : PhysicalId}
    (ha : Authenticated h endpoint A) : Did.open_ endpoint (.ok ()) ∈ h := by
  rcases ha with ⟨metadata, dpi, h₀, hs, -, hopen⟩ | ⟨cache, h₀, hs, -, hopen⟩
  · exact hs.subset (List.mem_cons_of_mem _ (List.mem_cons_of_mem _ hopen))
  · exact hs.subset (List.mem_cons_of_mem _ hopen)

namespace Trusted

variable {c c' : Config (machine (mice U) owner)} {m : Move Backend ι Call Outcome (Hand U)}

/-- No mouse is attached where a session is open. -/
theorem not_attachesAt (meets : AttachesUnread c m) {i : ι} {endpoint : DeviceEndpoint}
    (hopen : Did.open_ endpoint (.ok ()) ∈ history i c.log) : attachesAt endpoint.key m = false := by
  refine Bool.eq_false_iff.2 fun hat => ?_
  unfold attachesAt at hat
  split at hat
  · next key u => exact meets.closed key u rfl i endpoint hopen (of_decide_eq_true hat).symm
  · cases hat

theorem step_here (hc : Trusted c) (next : Step (machine (mice U) owner) c m c') {key : AttachmentKey} {u : U}
    {entry : Entry (machine (mice U) owner)} (hu : c'.world.mice.attached key = some u)
    (hentry : entry ∈ since key c'.log) : (World.mice entry.before).attached key = some u := by
  rw [next.log] at hentry
  have hold := attached_of_step next.moves hu
  cases hat : attachesAt key m with
  | true =>
    rw [since_attach hat] at hentry
    cases hentry
  | false =>
    have hbefore : c.world.mice.attached key = some u := by
      rcases hold with h | rfl
      · exact h
      · simp [attachesAt] at hat
    rw [since_cons hat] at hentry
    rcases List.mem_cons.1 hentry with rfl | hentry
    · exact hbefore
    · exact hc.here key u entry hbefore hentry

theorem step_opened (hc : Trusted c) (meets : AttachesUnread c m) (next : Step (machine (mice U) owner) c m c') {i : ι}
    {endpoint : DeviceEndpoint} {ev : Event Backend} {h₀ : History Backend} (hs : (ev :: h₀) <:+ history i c'.log)
    (hopen : Did.open_ endpoint (.ok ()) ∈ h₀) : ∃ w, ⟨w, .op i ev.1 ev.2⟩ ∈ since endpoint.key c'.log := by
  have old (hs : (ev :: h₀) <:+ history i c.log) : ∃ w, ⟨w, .op i ev.1 ev.2⟩ ∈ since endpoint.key c'.log := by
    obtain ⟨w, hw⟩ := hc.opened i endpoint ev h₀ hs hopen
    refine ⟨w, ?_⟩
    rw [next.log, since_cons (not_attachesAt meets (hs.subset (List.mem_cons_of_mem _ hopen)))]
    exact List.mem_cons_of_mem _ hw
  rcases next.client i with ⟨o, r, rfl, hh, -⟩ | ⟨hh, -⟩ | hh
  · rw [hh] at hs
    rcases List.suffix_cons_iff.1 hs with heq | hs
    · cases heq
      exact ⟨c.world, by rw [next.log, since_cons rfl]; exact List.mem_cons_self⟩
    · exact old hs
  · exact old (hh ▸ hs)
  · rw [hh] at hs
    cases List.suffix_nil.1 hs

theorem step_cached (hc : Trusted c) (meets : AttachesUnread c m) (next : Step (machine (mice U) owner) c m c')
    (rule : ∀ i endpoint decode r, m = .op i (.cacheInsert endpoint decode) r → ∀ A, decode = .valid A →
      ReadAs (history i c.log) endpoint A) {key : AttachmentKey} {A : PhysicalId} {endpoint : DeviceEndpoint}
    (he : c'.world.cache () key = some (.valid A, endpoint)) : ReadSince key A c'.log := by
  rw [next.log]
  rcases cache_of_step next.moves he with hold | ⟨i, endpoint', decode, r, rfl, rfl, heq⟩
  · refine (hc.cached key A endpoint hold).cons (Bool.eq_false_iff.2 fun hat => ?_)
    unfold attachesAt at hat
    split at hat
    · next key' u =>
      rw [decide_eq_true_eq] at hat
      subst hat
      exact meets.uncached key' u rfl A endpoint hold
    · cases hat
  · rw [Prod.mk.injEq] at heq
    exact (hc.authenticated i endpoint' A (.inl (rule i endpoint' decode r rfl A heq.1.symm))).cons rfl

theorem step_authenticated (hc : Trusted c) (meets : AttachesUnread c m) (next : Step (machine (mice U) owner) c m c')
    {i : ι} {endpoint : DeviceEndpoint} {A : PhysicalId} (ha : Authenticated (history i c'.log) endpoint A) :
    ReadSince endpoint.key A c'.log := by
  have old (ha : Authenticated (history i c.log) endpoint A) : ReadSince endpoint.key A c'.log := by
    rw [next.log]
    exact (hc.authenticated i endpoint A ha).cons (not_attachesAt meets ha.isOpen)
  rcases next.client i with ⟨o, r, rfl, hh, -⟩ | ⟨hh, -⟩ | hh
  · rw [hh] at ha
    rcases ha with ⟨metadata, dpi, h₀, hs, hvalid, hopen⟩ | ⟨cache, h₀, hs, hlookup, hopen⟩
    · rcases List.suffix_cons_iff.1 hs with heq | hs
      · -- The image is read now; the metadata was read after the session was opened.
        obtain ⟨hev, hrest⟩ := List.cons.inj heq
        cases hev
        obtain ⟨w, hw⟩ := hc.opened i endpoint _ h₀ ⟨[], hrest⟩ hopen
        refine ⟨⟨c.world, .op i (.session endpoint (.readDpi metadata.current)) (.ok dpi)⟩,
          ⟨w, .op i (.session endpoint .readProfileMetadata) (.ok metadata)⟩, ?_, i, endpoint, metadata, dpi, rfl, rfl, rfl, hvalid⟩
        · rw [next.log, since_cons rfl]
          exact (List.singleton_sublist.2 hw).cons_cons _
      · exact old (.inl ⟨metadata, dpi, h₀, hs, hvalid, hopen⟩)
    · rcases List.suffix_cons_iff.1 hs with heq | hs
      · obtain ⟨hev, -⟩ := List.cons.inj heq
        cases hev
        obtain ⟨hcache, -⟩ := next.moves
        have hentry : c.world.cache () endpoint.key = some (.valid A, endpoint) := by
          rw [show cache = c.world.cache () from hcache] at hlookup
          obtain ⟨⟨decode, endpoint'⟩, hfound, hdecode⟩ := Option.map_eq_some_iff.1 hlookup
          obtain ⟨hfound, heq⟩ := Option.filter_eq_some_iff.1 hfound
          rw [hfound]
          cases of_decide_eq_true heq
          cases hdecode
          rfl
        rw [next.log]
        exact (hc.cached _ A endpoint hentry).cons rfl
      · exact old (.inr ⟨cache, h₀, hs, hlookup, hopen⟩)
  · exact old (hh ▸ ha)
  · rw [hh] at ha
    cases ha.isOpen

theorem step (hc : Trusted c) (meets : AttachesUnread c m) (next : Step (machine (mice U) owner) c m c')
    (rule : ∀ i endpoint decode r, m = .op i (.cacheInsert endpoint decode) r → ∀ A, decode = .valid A →
      ReadAs (history i c.log) endpoint A) : Trusted c' where
  calls i call hcall := by
    rw [next.log] at hcall
    cases m with
    | op j o r => exact hc.calls i call hcall
    | env hand => exact hc.calls i call hcall
    | enter j call' =>
      by_cases hj : j = i
      · subst hj
        rw [Machine.running_enter, Option.some.injEq] at hcall
        exact hcall ▸ meets.ordinary j call' rfl
      · rw [Machine.running_enter_of_ne hj] at hcall
        exact hc.calls i call hcall
    | leave j result =>
      by_cases hj : j = i
      · subst hj
        rw [Machine.running_leave] at hcall
        cases hcall
      · rw [Machine.running_leave_of_ne hj] at hcall
        exact hc.calls i call hcall
  here _ _ _ := hc.step_here next
  opened _ _ _ _ := hc.step_opened meets next
  cached _ _ _ := hc.step_cached meets next rule
  authenticated _ _ _ := hc.step_authenticated meets next

/-- An operation of a run without ceremonies keeps the ordinary rule. -/
theorem rule (hc : Trusted c) {ok} {w : World (mice U) ι Unit} (run : Reaches (machine (mice U) owner) ok (.idle w) c)
    {i : ι} {o : Op} {r : o.Res} (next : Step (machine (mice U) owner) c (.op i o r) c') :
    ∃ call, running i c.log = some call ∧ ordinaryRule call.device (history i c.log) o := by
  obtain ⟨call, hcall, hrule⟩ := run.issued Call.keeps next
  refine ⟨call, hcall, ?_⟩
  cases call with
  | ceremony => cases hc.calls i _ hcall
  | _ => exact hrule

theorem reaches {w : World (mice U) ι Unit} (hw : w.cache () = fun _ => none)
    (run : Reaches (machine (mice U) owner) AttachesUnread (.idle w) c) : Trusted c := by
  induction run with
  | refl =>
    refine ⟨fun i call h => (nomatch h), fun key u entry _ h => (nomatch h), fun i endpoint ev h₀ hs _ => ?_,
      fun key A endpoint he => ?_, fun i endpoint A ha => ?_⟩
    · cases List.suffix_nil.1 hs
    · rw [show (Config.idle w : Config (machine (mice U) owner)).world = w from rfl, hw] at he
      cases he
    · cases ha.isOpen
  | step before meets next ih =>
    refine ih.step meets next ?_
    rintro i endpoint decode r rfl
    obtain ⟨call, -, hrule⟩ := ih.rule before next
    exact hrule

end Trusted

/-- **Ordinary USB writes reach attested mice**: in every run of one manager's ordinary calls that starts with nothing
cached and attaches no mouse where a watermark is cached or a session is open. -/
theorem usb_writes_reach_attested_mice {w : World (mice U) ι Unit} (hw : w.cache () = fun _ => none)
    {c c' : Config (machine (mice U) owner)} {m} (run : Reaches (machine (mice U) owner) AttachesUnread (.idle w) c)
    (next : Step (machine (mice U) owner) c m c') : WritesAttested c m := by
  rintro i endpoint image verification r rfl husb call d A hcall hd hA u hu
  have htrusted := Trusted.reaches hw run
  obtain ⟨call', hcall', state, d', mouse, hfirst, hd', hmouse, hwrote, htail⟩ := htrusted.rule run next
  cases hcall.symm.trans hcall'
  cases hd.symm.trans hd'
  -- Nothing but ordinary calls: the stored token is still the loaded one.
  have hleaves : Reaches (machine (mice U) owner) LeavesInFlight (.idle w) c := by
    refine run.strengthen fun c₁ c₂ m₁ before meets next₁ => ?_
    rintro j t r rfl k d' -
    obtain ⟨_, -, hordinary⟩ := (Trusted.reaches hw before).rule before next₁
    exact Retains.ordinary (ordinarilyKept_token d') hordinary c₁.world.store
  obtain ⟨state', hfirst', htoken⟩ := HasToken.reaches hleaves i d ⟨⟨call, hcall, hd⟩, by rw [hfirst]; rfl, hwrote⟩
  cases hfirst.symm.trans hfirst'
  rw [hA] at htoken
  have hmouseA : mouse.identity.physicalId = some A := by simpa [physicalIdOf, hmouse] using htoken.symm
  obtain ⟨dpiRead, metadataRead, hsub, hreads⟩ := htrusted.authenticated i endpoint A ((htail A hmouseA).2 husb)
  refine ⟨dpiRead, metadataRead, hsub, hreads, ?_, ?_⟩
  · exact htrusted.here _ u _ hu (hsub.subset (List.mem_cons_self ..))
  · exact htrusted.here _ u _ hu (hsub.subset (List.mem_cons_of_mem _ (List.mem_singleton_self _)))

end AttackSharkX3

namespace AttackSharkX3.Rig

open Effects.Machine (Config Entry Step Reaches running history)

/-- The saved mouse on its cable, and another one. -/
def savedMouse : World (mice Bool) Unit Unit :=
  world (saved [(mouse1, token 1, wired "a")]) (fun u => unit fun _ => some (if u then token 2 else token 1))
    [(wired "a", false)]

/-- A scan sees the connection. -/
def scanning : Rig Unit := ⟨listing [wired "a"], fun _ => (token 3).token, ⟨0⟩⟩

def scan : Call := .discover .auto
def writeFirst : Call := .updateDpi mouse1 first (image none first) {}

/-- Ordinary calls, and mice attached where nothing is cached, while no call runs. -/
def attachesUnread (c : Config (machine (mice Bool) (id : Unit → Unit)))
    (m : Effects.Move Backend Unit Call Outcome (Hand Bool)) : Bool :=
  match m with
  | .enter _ call => !call.isCeremony
  | .env (.attach key _) => (c.world.cache () key).isNone && (history () c.log).isEmpty
  | _ => true

theorem attachesUnread_meets (c : Config (machine (mice Bool) (id : Unit → Unit))) (m) (h : attachesUnread c m = true) :
    AttachesUnread c m where
  ordinary := by
    rintro i call rfl
    simpa [attachesUnread] using h
  uncached := by
    rintro key u rfl A endpoint hcached
    have hnone := (Bool.and_eq_true_iff.1 h).1
    rw [hcached] at hnone
    cases hnone
  closed := by
    rintro key u rfl i endpoint hopen
    have hempty := List.isEmpty_iff.1 (Bool.and_eq_true_iff.1 h).2
    cases i
    rw [hempty] at hopen
    cases hopen

/-- The other mouse is attached in the place of the saved one and exchanged for it again; then it is scanned, and written
to. -/
theorem writes_scanned_mouse : ∃ c c' r, Reaches (machine (mice Bool) id) AttachesUnread (.idle savedMouse) c ∧
    Step (machine (mice Bool) id) c
      (.op () (.session (wired "a") (.writeDpi (image (some (token 1)) first) .transport)) r) c' ∧
    WritesAttested c (.op () (.session (wired "a") (.writeDpi (image (some (token 1)) first) .transport)) r) := by
  obtain ⟨c, run, htest⟩ := scanning.checked id savedMouse attachesUnread attachesUnread_meets
    [.env (.attach (wired "a").key true), .env (.detach (wired "a").key), .env (.attach (wired "a").key false),
      .enter () scan, .finish (), .enter () writeFirst, .goOn () Op.writesDpi]
    (fun c => c.next () = some (.session (wired "a") (.writeDpi (image (some (token 1)) first) .transport)) ∧
      (c.world.mice.attached (wired "a").key).isSome = true) (by decide +kernel)
  obtain ⟨hnext, hattached⟩ := of_decide_eq_true htest
  obtain ⟨r, c', next⟩ := scanning.session_step hnext hattached
  exact ⟨c, c', r, run, next, usb_writes_reach_attested_mice rfl run next⟩

/-- The move starts no ceremony action. -/
def EntersOrdinary (_ : Config (machine (mice Bool) (id : Unit → Unit)))
    (m : Effects.Move Backend Unit Call Outcome (Hand Bool)) : Prop :=
  ∀ i call, m = .enter i call → call.isCeremony = false

def entersOrdinary (_ : Config (machine (mice Bool) (id : Unit → Unit)))
    (m : Effects.Move Backend Unit Call Outcome (Hand Bool)) : Bool :=
  match m with
  | .enter _ call => !call.isCeremony
  | _ => true

theorem entersOrdinary_meets (c : Config (machine (mice Bool) (id : Unit → Unit))) (m)
    (h : entersOrdinary c m = true) : EntersOrdinary c m := by
  rintro i call rfl
  simpa [entersOrdinary] using h

/-- The move reads a DPI image. -/
def readsDpi : Effects.Move Backend Unit Call Outcome (Hand Bool) → Bool
  | .op _ (.session _ (.readDpi _)) _ => true
  | _ => false

/-- **An unread mouse is written to**: it was attached in the place of the scanned one, and no scan came after. -/
theorem writes_unread_mouse : ∃ c c' m,
    Reaches (machine (mice Bool) id) EntersOrdinary (.idle savedMouse) c ∧
    Step (machine (mice Bool) id) c m c' ∧ ¬ WritesAttested c m := by
  obtain ⟨c, run, htest⟩ := scanning.checked id savedMouse entersOrdinary entersOrdinary_meets
    [.enter () scan, .finish (), .env (.attach (wired "a").key true), .enter () writeFirst, .goOn () Op.writesDpi]
    (fun c => c.next () = some (.session (wired "a") (.writeDpi (image (some (token 1)) first) .transport)) ∧
      c.world.mice.attached (wired "a").key = some true ∧ running () c.log = some writeFirst ∧
      physicalIdOf c.world.store mouse1 = some (token 1) ∧
      (since (wired "a").key c.log).all fun entry => !readsDpi entry.move)
    (by decide +kernel)
  obtain ⟨hnext, hattached, hrunning, htoken, hunread⟩ := of_decide_eq_true htest
  obtain ⟨r, c', next⟩ := scanning.session_step hnext (Option.isSome_iff_exists.2 ⟨true, hattached⟩)
  refine ⟨c, c', _, run, next, fun hattested => ?_⟩
  obtain ⟨dpiRead, metadataRead, hsub, ⟨i, endpoint, metadata, dpi, -, hread, -⟩, -⟩ :=
    hattested _ _ _ _ _ rfl rfl _ mouse1 _ hrunning rfl htoken true hattached
  have hall := List.all_eq_true.1 hunread dpiRead (hsub.subset (List.mem_cons_self ..))
  rw [hread] at hall
  cases hall

end AttackSharkX3.Rig
