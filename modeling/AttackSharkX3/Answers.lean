import AttackSharkX3.Commands
import AttackSharkX3.Factory
import AttackSharkX3.Remembered
/-!
# Answers — which answers about an unknown mouse can be carried out

Whatever the worker asks about a mouse without a watermark, a saved mouse may be picked for it, and a new one set up.  Over
USB the mouse that was picked is then refused at the endpoint, for it has a token; over Bluetooth a new mouse is refused, for
an association is asked for without a mouse to associate.
-/
namespace AttackSharkX3

open Effects (Fallible Prog)

/-! ## Valid documents -/

section Valid

variable {state : StateFile} {d : DeviceId} {device : DeviceState} {endpoint : DeviceEndpoint} {now : Timestamp}

theorem fingerprint_nonblank (endpoint : DeviceEndpoint) : isBlank (endpointFingerprint endpoint) = false := by
  unfold endpointFingerprint isBlank
  split
  · simp [toString, isWhitespace]
  · cases endpoint.transport <;> simp [toString, isWhitespace]

/-- A remembered endpoint keeps the document valid. -/
theorem validate_rememberEndpointMapping (hv : state.validate = .ok ()) (hd : state.devices.contains d = true) :
    (rememberEndpointMapping state endpoint d now).validate = .ok () := by
  obtain ⟨hschema, hnext, hmax, hselected, hdevices, hmode, hsetup, hmapping⟩ := StateFile.validate_ok.1 hv
  refine StateFile.validate_ok.2 ⟨hschema, hnext, hmax, hselected, hdevices, hmode, hsetup, ?_⟩
  obtain ⟨hpoints, hseen⟩ := StateFile.validateEndpointMapping_ok.1 hmapping
  refine StateFile.validateEndpointMapping_ok.2 ⟨fun key d' hkey => ?_, fun key seen hkey => ?_⟩
  · by_cases hsame : endpointFingerprint endpoint = key
    · subst hsame
      have heq : some d = some d' := (BTreeMap.get_insert_self ..).symm.trans hkey
      rw [← Option.some.inj heq]
      exact ⟨fingerprint_nonblank endpoint, hd⟩
    · exact hpoints key d' ((BTreeMap.get_insert_of_ne _ hsame _).symm.trans hkey)
  · show (state.endpointMapping.endpoints.insert (endpointFingerprint endpoint) d).contains key = true
    by_cases hsame : endpointFingerprint endpoint = key
    · subst hsame
      simp
    · have hold := hseen key seen ((BTreeMap.get_insert_of_ne _ hsame _).symm.trans hkey)
      simp [Std.ExtTreeMap.contains_insert, hold]

/-- **A mouse attached at an accepted endpoint keeps the document valid.** -/
theorem validate_attach (hv : state.validate = .ok ()) (hmode : state.identityMode = .persistent)
    (hidle : state.identitySetup = none) (hd : state.devices[d]? = some device) (he : endpoint.Accepted) :
    (Txn.attach state d device endpoint now).validate = .ok () := by
  obtain ⟨A, hA⟩ := StateFile.valid_physicalId hv hmode hd
  have hdevice : validateDevice d { device with identity := device.identity.upsertEndpoint endpoint } = .ok () := by
    obtain ⟨hid, hidentity, hmetadata, hprofiles, hnames⟩ := validateDevice_ok.1 (StateFile.valid_device hv hd)
    exact validateDevice_ok.2 ⟨hid, validate_upsertEndpoint hidentity he, hmetadata, hprofiles, hnames⟩
  have hnumber : ∀ k, d.number = some k → k < state.nextDeviceNumber :=
    (StateFile.maxNumber_lt.1 (StateFile.validate_ok.1 hv).2.2.1).2 d device hd
  have hown : ∀ d', d' ≠ d → physicalIdOf state d' ≠ some A := by
    intro d' hne hd'
    exact hne (StateFile.physicalIdOf_inj hv hmode hd' hA)
  have hinserted := validate_insert hv hmode hdevice (Nat.le_refl _) hnumber (StateFile.physicalIdOf_eq hd ▸ hA) hown
  have hsame : { state with
      devices := state.devices.insert d { device with identity := device.identity.upsertEndpoint endpoint }
      identitySetup := none } =
      { state with devices := state.devices.insert d { device with identity := device.identity.upsertEndpoint endpoint } } := by
    rw [← hidle]
  exact validate_rememberEndpointMapping (hsame ▸ hinserted) (by simp)

/-- A ceremony of persistent mode that was just begun keeps the document valid. -/
theorem validate_begun {phase : IdentitySetupPhase} (hv : state.validate = .ok ()) (hmode : state.identityMode = .persistent)
    (hphase : phase ≠ .initialEnrollment) :
    { state with identitySetup := some ⟨phase, .awaitingCapture, []⟩ }.validate = .ok () := by
  obtain ⟨hschema, hnext, hmax, hselected, hdevices, htokens, -, hmapping⟩ := StateFile.validate_ok.1 hv
  refine StateFile.validate_ok.2 ⟨hschema, hnext, hmax, hselected, hdevices, htokens, ?_, hmapping⟩
  show StateFile.validateIdentitySetup _ _ = .ok ()
  rw [StateFile.validateIdentitySetup_ok]
  cases phase with
  | initialEnrollment => exact (hphase rfl).elim
  | _ =>
    simp [IdentitySetupJournal.validateMode, IdentitySetupJournal.validateCounts, IdentitySetupJournal.validateStage,
      IdentitySetupJournal.validateSubjects, IdentitySetupJournal.validateShape, hmode]
    rfl

end Valid

/-! ## What the questions leave alone -/

section Questions

variable {bench : Bench} {desk desk' : Desk} {candidates : List Candidate} {stored : Bool} {count : Nat}
  {row : ResolvedConnection} {rows : List ResolvedConnection} {out : ScanResolution} {α : Type}

theorem only_any : ∀ p : Prog Backend α, Prog.Only (fun _ => True) p
  | .pure _ => trivial
  | .call _ k => ⟨trivial, fun r => only_any (k r)⟩

/-- **A call leaves a valid store valid.** -/
theorem Bench.call_valid {x : Manager α} {r : Except ManagerError α} (h : bench.call x desk = some (r, desk'))
    (hv : desk.store.validate = .ok ()) : desk'.store.validate = .ok () := by
  refine Prog.Only.exec_keeps (P := fun s : Desk => s.store.validate = .ok ()) ?_ x.run (only_any x.run) hv h
  intro o s r s' _ hs hr
  cases o with
  | commit t =>
    cases hr
    exact (commits_reliably t s.store).valid hs
  | abort site => cases hr
  | _ =>
    cases hr
    exact hs

/-- The operations of the questions: the store is read, and answers are remembered. -/
def Op.remembers : Op → Bool
  | .load | .now | .commit (.rememberResolution ..) => true
  | _ => false

abbrev Remembers (x : Manager α) : Prop := Fallible.Only (S := Backend) (fun o => o.remembers = true) x

theorem remembers_fingerprintKnown : Remembers (fingerprintKnown row) := by
  have hremembered : ∀ endpoint, Remembers (rememberedDeviceFor endpoint) :=
    fun _ => .bind (.attempt (.perform rfl)) fun _ => .pure
  refine .bind (.bind (hremembered _) fun _ => .pure) fun known => ?_
  refine .ite ?_ .pure
  split
  · exact .pure
  · refine .bind (hremembered _) fun owner => ?_
    split
    · exact .pure
    · exact .bind (.bind (.attempt (.perform rfl)) fun _ => .pure) fun _ => .pure

theorem remembers_rememberResolution {endpoint : DeviceEndpoint} {device : DeviceId} :
    Remembers (rememberResolution endpoint device) := .bind (.perform rfl) fun _ => .perform rfl

theorem remembers_resolveUnknown : Remembers (resolveUnknown candidates stored count row) := by
  refine .bind remembers_fingerprintKnown fun known => ?_
  dsimp only
  split
  · exact .ite .pure (.bind (.attempt remembers_rememberResolution) fun _ => .pure)
  · exact .pure
  · exact .pure
  · exact .pure

theorem remembers_resolveRows : ∀ rows, Remembers (resolveRows candidates stored count rows)
  | [] => .pure
  | _ :: rows => .bind remembers_resolveUnknown fun _ => .bind (remembers_resolveRows rows) fun _ => .pure

theorem remembers_candidatesOf {state : StateFile} : ∀ saved, Remembers (candidatesOf state saved)
  | [] => .pure
  | _ :: rest =>
    .bind (.bind (.attempt (.perform rfl)) fun _ => .pure) fun _ => .bind (remembers_candidatesOf rest) fun _ => .pure

theorem remembers_resolveScan : Remembers (resolveScan rows) :=
  .bind (.bind (.attempt (.perform rfl)) fun _ => remembers_candidatesOf _) fun _ => remembers_resolveRows _

/-- **The questions of a scan** change neither what a manager has read nor whose tokens are whose. -/
theorem Remembers.keeps {γ : Type} {f : StateFile → γ} (hf : OrdinarilyKept f) {x : Manager α} (hx : Remembers x)
    {r : Except ManagerError α} (h : bench.call x desk = some (r, desk')) :
    desk'.cache = desk.cache ∧ f desk'.store = f desk.store := by
  refine Prog.Only.exec_keeps (P := fun s : Desk => s.cache = desk.cache ∧ f s.store = f desk.store) ?_ x.run hx
    ⟨rfl, rfl⟩ h
  intro o s r s' ho hs hr
  cases o with
  | load | now =>
    cases hr
    exact hs
  | commit t =>
    cases hr
    refine ⟨hs.1, ?_⟩
    cases t with
    | rememberResolution endpoint device now =>
      rcases (commits_reliably (.rememberResolution endpoint device now) s.store).cases with hsame | ⟨hafter, -⟩
      · exact (congrArg f hsame).trans hs.2
      · exact ((congrArg f hafter).trans (Retains.ordinary hf rfl s.store)).trans hs.2
    | _ => cases ho
  | _ => cases ho

/-! ## The questions themselves -/

/-- The question is about the row, and its candidates are among these. -/
def AsksAbout (candidates : List Candidate) (row : ResolvedConnection) (question : DeviceEndpoint × PendingEndpoint) : Prop :=
  ∃ list kind, question = ask row list kind ∧ ∀ candidate ∈ list, candidate ∈ candidates

theorem resolveEndpoint_asks {known : Bool} {transport : TransportKind} :
    (∀ list, resolveEndpoint known count transport candidates stored = .askWhich list → list = candidates) ∧
    ∀ candidate, resolveEndpoint known count transport candidates stored = .askNewOrMine candidate → candidate ∈ candidates := by
  unfold resolveEndpoint
  constructor
  · intro list h
    repeat' split at h
    all_goals cases h
    all_goals rfl
  · intro candidate h
    repeat' split at h
    all_goals cases h
    all_goals exact List.mem_cons_self

theorem resolveUnknown_asks (h : bench.call (resolveUnknown candidates stored count row) desk = some (.ok out, desk')) :
    ∀ question ∈ out.pending, AsksAbout candidates row question := by
  rw [resolveUnknown, Bench.call_bind_ok (call_fingerprintKnown row)] at h
  dsimp only at h
  have hasks : ∀ {list kind}, (∀ candidate ∈ list, candidate ∈ candidates) →
      ∀ question ∈ (ScanResolution.asks (ask row list kind)).pending, AsksAbout candidates row question := by
    intro list kind hlist question hquestion
    exact ⟨list, kind, List.mem_singleton.1 hquestion, hlist⟩
  have hquiet : ∀ silent, ∀ question ∈ (⟨silent, []⟩ : ScanResolution).pending, AsksAbout candidates row question := by
    intro silent question hquestion
    cases hquestion
  split at h
  · split at h
    · obtain ⟨rfl, -⟩ := Bench.of_call_pure h
      split
      · exact hquiet []
      · exact hasks fun _ => id
    · obtain ⟨attached, desk₁, -, hdone⟩ := Bench.of_call_bind h
      obtain ⟨rfl, -⟩ := Bench.of_call_pure hdone
      split
      · exact hquiet _
      · exact hquiet _
  · next list hlist =>
    obtain ⟨rfl, -⟩ := Bench.of_call_pure h
    rw [resolveEndpoint_asks.1 list hlist]
    exact hasks fun _ => id
  · next candidate hcandidate =>
    obtain ⟨rfl, -⟩ := Bench.of_call_pure h
    refine hasks fun other hother => ?_
    rw [List.mem_singleton.1 hother]
    exact resolveEndpoint_asks.2 candidate hcandidate
  · obtain ⟨rfl, -⟩ := Bench.of_call_pure h
    exact hquiet []

theorem resolveRows_asksAbout : ∀ (rows : List ResolvedConnection) {desk desk' : Desk} {out : ScanResolution},
    bench.call (resolveRows candidates stored count rows) desk = some (.ok out, desk') →
      ∀ question ∈ out.pending, ∃ row ∈ rows, AsksAbout candidates row question
  | [], desk, desk', out, h => by
    obtain ⟨rfl, -⟩ := Bench.of_call_pure h
    exact fun _ => nofun
  | row :: rows, desk, desk', out, h => by
    obtain ⟨first, desk₁, hfirst, h₁⟩ := Bench.of_call_bind h
    obtain ⟨rest, desk₂, hrest, h₂⟩ := Bench.of_call_bind h₁
    obtain ⟨rfl, -⟩ := Bench.of_call_pure h₂
    intro question hquestion
    rcases List.mem_append.1 hquestion with hfst | hsnd
    · exact ⟨row, List.mem_cons_self, resolveUnknown_asks hfirst question hfst⟩
    · obtain ⟨row', hrow', habout⟩ := resolveRows_asksAbout rows hrest question hsnd
      exact ⟨row', List.mem_cons_of_mem _ hrow', habout⟩

/-- **Each question is about an unknown row of the scan**, and offers saved mice. -/
theorem resolveScan_asks (h : bench.call (resolveScan rows) desk = some (.ok out, desk')) :
    ∀ question ∈ out.pending, ∃ row ∈ unknownRows rows, AsksAbout (resolutionCandidates desk.store) row question := by
  rw [resolveScan, Bench.call_bind_ok call_savedCandidates] at h
  exact resolveRows_asksAbout _ h

end Questions

end AttackSharkX3
