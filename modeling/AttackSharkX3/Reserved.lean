import AttackSharkX3.Finalized
import AttackSharkX3.Rig
import AttackSharkX3.Stages
/-!
# Reserved — the tokens of a valid state

The validator walks the saved mice, and then the subjects of the journal one after the other.  Together its checks make
every token in use the token of one mouse or of one subject, and tie the stamps of a subject to what was captured of it.
-/
namespace AttackSharkX3

/-- The tokens in use: those of the saved mice, and those the running ceremony reserves. -/
def StateFile.tokensInUse (state : StateFile) : List PhysicalId :=
  state.devices.values.filterMap (·.identity.physicalId) ++
    (state.identitySetup.toList.flatMap (·.subjects)).filterMap (·.token)

/-- **The tokens of a state are reserved soundly.** -/
structure StateFile.ReservesSoundly (state : StateFile) : Prop where
  /-- No token is in use twice. -/
  distinct : state.tokensInUse.Nodup
  /-- A token that is given up is the one of the subject's own mouse, and no other subject has to do with it. -/
  rotated : ∀ journal before subject after old, state.identitySetup = some journal →
    journal.subjects = before ++ subject :: after → subject.oldToken = some old →
      (∃ d, subject.deviceId = some d ∧ physicalIdOf state d = some old) ∧ subject.token ≠ some old ∧
      ∀ other ∈ before ++ after, other.token ≠ some old ∧ other.oldToken ≠ some old ∧
        ∀ d, other.deviceId = some d → physicalIdOf state d ≠ some old
  /-- While a mouse is stamped, a captured profile of it is not stamped yet. -/
  stamping : ∀ journal, state.identitySetup = some journal → journal.stage = .stamping →
    ∃ subject captured p, journal.subjects.getLast? = some subject ∧ subject.captured = some captured ∧
      captured.profiles.contains p = true ∧ subject.isStamped p = false
  /-- Once a ceremony is finalized, every captured profile of every subject is stamped, and the subject has its token. -/
  finalizing : ∀ journal, state.identitySetup = some journal → journal.stage = .finalizing → journal.phase ≠ .bleAssociation →
    ∀ subject ∈ journal.subjects, subject.token.isSome ∧ ∃ captured, subject.captured = some captured ∧
      ∀ p, subject.stampProgress[p]? = if captured.profiles.contains p then some .stamped else none
  /-- Progress is kept of exactly the captured profiles, if it is kept at all. -/
  tracked : ∀ journal, state.identitySetup = some journal → ∀ subject ∈ journal.subjects, subject.stampProgress ≠ ∅ →
    ∃ captured, subject.captured = some captured ∧ ∀ p, subject.stampProgress.contains p = captured.profiles.contains p

/-! ## Stamps -/

section Subject

variable {subject : IdentitySetupSubject} {captured : CapturedProfileImage}

/-- **Fully stamped**: each captured profile is stamped, and no progress is kept of any other. -/
theorem IdentitySetupSubject.stampProgress_of_isFullyStamped (hfull : subject.isFullyStamped = true)
    (hcaptured : subject.captured = some captured) (p : ProfileId) :
    subject.stampProgress[p]? = if captured.profiles.contains p then some .stamped else none := by
  have hall := hfull
  simp only [isFullyStamped, hcaptured, Bool.and_eq_true, decide_eq_true_eq] at hall
  obtain ⟨⟨hsize, hkeys⟩, -⟩ := hall
  have hsame := BTreeMap.contains_eq hsize hkeys p
  cases hcontains : captured.profiles.contains p with
  | true =>
    rw [Std.ExtTreeMap.contains_eq_isSome_getElem?] at hcontains
    obtain ⟨profile, hprofile⟩ := Option.isSome_iff_exists.1 hcontains
    have hstamped := isStamped_of_isFullyStamped hfull hcaptured hprofile
    simpa [isStamped] using hstamped
  | false =>
    rw [hcontains, Std.ExtTreeMap.contains_eq_isSome_getElem?] at hsame
    rw [if_neg Bool.false_ne_true]
    exact Option.isSome_eq_false_iff.1 hsame |> Option.isNone_iff_eq_none.1

/-- **Not fully stamped**: some captured profile is not stamped. -/
theorem IdentitySetupSubject.unstamped_of_tracked (hcaptured : subject.captured = some captured)
    (hsome : captured.profiles.isEmpty = false) (hunfinished : subject.isFullyStamped = false)
    (htracked : subject.stampProgress.isEmpty ∨ (subject.stampProgress.size = captured.profiles.size ∧
      subject.stampProgress.keys.all captured.profiles.contains)) :
    ∃ p, captured.profiles.contains p = true ∧ subject.isStamped p = false := by
  rcases htracked with hempty | ⟨hsize, hkeys⟩
  · have hkeys : captured.profiles.keys ≠ [] := by
      intro hnil
      rw [← List.isEmpty_iff, Std.ExtTreeMap.isEmpty_keys, hsome] at hnil
      cases hnil
    obtain ⟨p, hp⟩ := List.exists_mem_of_ne_nil _ hkeys
    have hnone : subject.stampProgress[p]? = none := by
      rw [Std.ExtTreeMap.isEmpty_iff.1 hempty]
      simp
    exact ⟨p, by simpa using hp, by simp [isStamped, hnone]⟩
  · have hvalues : subject.stampProgress.values.all (· = .stamped) = false := by
      simpa [isFullyStamped, hcaptured, hsize, hkeys] using hunfinished
    obtain ⟨progress, hmem, hother⟩ := List.all_eq_false.1 hvalues
    obtain ⟨p, hp⟩ := BTreeMap.mem_values.1 hmem
    have hcontains : subject.stampProgress.contains p = true := by
      rw [Std.ExtTreeMap.contains_eq_isSome_getElem?, hp]
      rfl
    refine ⟨p, (BTreeMap.contains_eq hsize hkeys p).symm.trans hcontains, ?_⟩
    simpa [isStamped, hp] using hother

end Subject

/-! ## Tokens -/

namespace IdentitySetupJournal

variable {devices : BTreeMap DeviceId DeviceState}

/-- What the walk over the subjects found of each: its own checks, against the tokens before it. -/
theorem validateSubjects_mem {subject : IdentitySetupSubject} {subjects : List IdentitySetupSubject} :
    ∀ {reserved : List PhysicalId}, validateSubjects devices subjects reserved = .ok () → subject ∈ subjects →
      ∃ before, validateSubject devices subject before = .ok () := by
  induction subjects with
  | nil =>
    intro reserved _ hmem
    cases hmem
  | cons first rest ih =>
    intro reserved h hmem
    rw [validateSubjects, StateFile.then_ok] at h
    rcases List.mem_cons.1 hmem with rfl | hmem
    · exact ⟨reserved, h.1⟩
    · exact ih h.2 hmem

/-- **The subjects reserve different tokens**, none of them reserved before and none a saved mouse's. -/
theorem validateSubjects_tokens : ∀ {subjects : List IdentitySetupSubject} {reserved : List PhysicalId},
    validateSubjects devices subjects reserved = .ok () → (subjects.filterMap (·.token)).Nodup ∧
      ∀ token ∈ subjects.filterMap (·.token), token ∉ reserved ∧ ∀ (d : DeviceId) (device : DeviceState),
        devices[d]? = some device → device.identity.physicalId ≠ some token
  | [], _, _ => ⟨List.nodup_nil, nofun⟩
  | subject :: rest, reserved, h => by
    rw [validateSubjects, StateFile.then_ok] at h
    obtain ⟨hsubject, hrest⟩ := h
    obtain ⟨hnodup, hfresh⟩ := validateSubjects_tokens hrest
    obtain ⟨-, -, -, -, -, htokens, -⟩ := validateSubject_ok.1 hsubject
    cases htoken : subject.token with
    | none =>
      rw [List.filterMap_cons_none htoken]
      refine ⟨hnodup, fun token hmem => ?_⟩
      obtain ⟨hnot, hdevices⟩ := hfresh token hmem
      exact ⟨fun hold => hnot (List.mem_append_left _ hold), hdevices⟩
    | some own =>
      rw [List.filterMap_cons_some htoken]
      have hown : ∀ token ∈ rest.filterMap (·.token), token ≠ own := by
        intro token hmem heq
        refine (hfresh token hmem).1 (List.mem_append_right _ ?_)
        rw [htoken, heq]
        exact List.mem_singleton_self own
      refine ⟨List.nodup_cons.2 ⟨fun hmem => hown own hmem rfl, hnodup⟩, fun token hmem => ?_⟩
      rcases List.mem_cons.1 hmem with rfl | hmem
      · exact htokens token htoken
      · obtain ⟨hnot, hdevices⟩ := hfresh token hmem
        exact ⟨fun hold => hnot (List.mem_append_left _ hold), hdevices⟩

/-- **Only a restore gives a token up.** -/
theorem validateShape_rotates {journal : IdentitySetupJournal} (h : journal.validateShape devices = .ok ())
    {subject : IdentitySetupSubject} (hmem : subject ∈ journal.subjects) (hold : subject.oldToken ≠ none) :
    journal.phase = .restore := by
  unfold validateShape at h
  cases hphase : journal.phase with
  | restore => rfl
  | bleAssociation =>
    simp only [hphase, forM_ok, StateFile.then_ok, check_ok] at h
    exact absurd (h subject hmem).1.2 hold
  | initialEnrollment | addMouse | foreignAdoption =>
    simp only [hphase, forM_ok, check_ok] at h
    exact absurd (h subject hmem) hold

end IdentitySetupJournal

namespace StateFile

variable {state : StateFile}

theorem mem_physicalIds {A : PhysicalId} : A ∈ state.devices.values.filterMap (·.identity.physicalId) ↔
    ∃ (d : DeviceId) (device : DeviceState), state.devices[d]? = some device ∧ device.identity.physicalId = some A := by
  constructor
  · intro hmem
    obtain ⟨device, hdevice, hA⟩ := List.mem_filterMap.1 hmem
    obtain ⟨d, hd⟩ := BTreeMap.mem_values.1 hdevice
    exact ⟨d, device, hd, hA⟩
  · rintro ⟨d, device, hd, hA⟩
    exact List.mem_filterMap.2 ⟨device, BTreeMap.mem_values.2 ⟨d, hd⟩, hA⟩

/-- **No two saved mice have the same token.** -/
theorem nodup_physicalIds (hmode : state.validateIdentityMode = .ok ()) :
    (state.devices.values.filterMap (·.identity.physicalId)).Nodup := by
  unfold validateIdentityMode at hmode
  cases hm : state.identityMode with
  | legacy =>
    simp only [hm, then_ok, check_ok, forM_toList_ok] at hmode
    have hnone : state.devices.values.filterMap (·.identity.physicalId) = [] := by
      rw [List.filterMap_eq_nil_iff]
      intro device hdevice
      obtain ⟨d, hd⟩ := BTreeMap.mem_values.1 hdevice
      exact hmode.2 d device hd
    rw [hnone]
    exact List.nodup_nil
  | persistent =>
    simp only [hm] at hmode
    obtain ⟨-, hdistinct⟩ := validatePhysicalIds_ok.1 hmode
    have hvalues : state.devices.values.Pairwise fun a b => a.identity.physicalId ≠ b.identity.physicalId :=
      List.pairwise_map.2 hdistinct
    refine List.Pairwise.filterMap _ ?_ hvalues
    intro a b hne A hA B hB heq
    exact hne (hA.trans (heq ▸ hB.symm))

/-- **A valid state reserves its tokens soundly.** -/
theorem reservesSoundly (state : StateFile) (hv : state.validate = .ok ()) : state.ReservesSoundly := by
  have hmode := (validate_ok.1 hv).2.2.2.2.2.1
  constructor
  · unfold tokensInUse
    refine List.nodup_append.2 ⟨nodup_physicalIds hmode, ?_, ?_⟩
    · cases hj : state.identitySetup with
      | none => exact List.nodup_nil
      | some journal =>
        obtain ⟨-, -, -, hsubjects, -⟩ := validateIdentitySetup_ok.1 (valid_setup hv hj)
        simpa using (IdentitySetupJournal.validateSubjects_tokens hsubjects).1
    · intro A hsaved B hreserved hsame
      subst hsame
      obtain ⟨d, device, hd, hA⟩ := mem_physicalIds.1 hsaved
      cases hj : state.identitySetup with
      | none => simp [hj] at hreserved
      | some journal =>
        obtain ⟨-, -, -, hsubjects, -⟩ := validateIdentitySetup_ok.1 (valid_setup hv hj)
        have hmem : A ∈ journal.subjects.filterMap (·.token) := by simpa [hj] using hreserved
        exact ((IdentitySetupJournal.validateSubjects_tokens hsubjects).2 A hmem).2 d device hd hA
  · intro journal before subject after old hj hsplit hold
    obtain ⟨-, hcounts, -, hsubjects, hshape⟩ := validateIdentitySetup_ok.1 (valid_setup hv hj)
    have hmem : subject ∈ journal.subjects := by simp [hsplit]
    have hphase := IdentitySetupJournal.validateShape_rotates hshape hmem (by simp [hold])
    have hcount := IdentitySetupJournal.validateCounts_ok.1 hcounts
    rw [hphase, if_neg (by decide), hsplit, List.length_append, List.length_cons] at hcount
    obtain ⟨reserved, hsubject⟩ := IdentitySetupJournal.validateSubjects_mem hsubjects hmem
    obtain ⟨-, -, -, -, -, -, hrotates⟩ := IdentitySetupJournal.validateSubject_ok.1 hsubject
    obtain ⟨-, d, device, hd, hdevice, hcurrent, hne⟩ := IdentitySetupJournal.validateOldToken_ok.1 (hrotates old hold)
    refine ⟨⟨d, hd, by rw [physicalIdOf_eq hdevice, hcurrent]⟩, hne, fun other hother => ?_⟩
    have hbefore : before = [] := List.length_eq_zero_iff.1 (by omega)
    have hafter : after = [] := List.length_eq_zero_iff.1 (by omega)
    simp [hbefore, hafter] at hother
  · intro journal hj hstage
    obtain ⟨-, subject, captured, hlast, hcaptured, hsome, hunfinished⟩ :=
      (IdentitySetupJournal.validateStage_stamping hstage).1 (valid_stage hv hj)
    obtain ⟨-, -, -, hsubjects, -⟩ := validateIdentitySetup_ok.1 (valid_setup hv hj)
    obtain ⟨reserved, hsubject⟩ :=
      IdentitySetupJournal.validateSubjects_mem hsubjects (List.mem_of_getLast? hlast)
    obtain ⟨-, -, htracked, -⟩ := IdentitySetupJournal.validateSubject_ok.1 hsubject
    obtain ⟨p, hp, hunstamped⟩ := subject.unstamped_of_tracked hcaptured hsome hunfinished (htracked captured hcaptured)
    exact ⟨subject, captured, p, hlast, hcaptured, hp, hunstamped⟩
  · intro journal hj hstage hble subject hmem
    obtain ⟨-, hready⟩ := (IdentitySetupJournal.validateStage_finalizing hstage).1 (valid_stage hv hj)
    obtain ⟨htoken, hfull⟩ := hready hble subject hmem
    cases hcaptured : subject.captured with
    | none => simp [IdentitySetupSubject.isFullyStamped, hcaptured] at hfull
    | some captured => exact ⟨htoken, captured, rfl, subject.stampProgress_of_isFullyStamped hfull hcaptured⟩
  · intro journal hj subject hmem hsome
    obtain ⟨-, -, -, hsubjects, -⟩ := validateIdentitySetup_ok.1 (valid_setup hv hj)
    obtain ⟨reserved, hsubject⟩ := IdentitySetupJournal.validateSubjects_mem hsubjects hmem
    obtain ⟨-, hcaptured, htracked, -⟩ := IdentitySetupJournal.validateSubject_ok.1 hsubject
    have hnotempty : subject.stampProgress.isEmpty = false := by
      rw [Bool.eq_false_iff]
      exact fun hempty => hsome (Std.ExtTreeMap.isEmpty_iff.1 hempty)
    rw [hnotempty] at hcaptured
    obtain ⟨captured, hc⟩ := Option.isSome_iff_exists.1 (hcaptured.resolve_left Bool.false_ne_true)
    rcases htracked captured hc with hempty | ⟨hsize, hkeys⟩
    · rw [hnotempty] at hempty
      cases hempty
    · exact ⟨captured, hc, BTreeMap.contains_eq hsize hkeys⟩

end StateFile

namespace Rig

/-- A mouse that is half stamped, next to no other. -/
theorem reservesSoundly_halfStamped : (persistentWith halfStamped).ReservesSoundly :=
  (persistentWith halfStamped).reservesSoundly (by decide +kernel)

end Rig
end AttackSharkX3
