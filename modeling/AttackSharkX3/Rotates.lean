import AttackSharkX3.Finalized
import AttackSharkX3.Rig
import AttackSharkX3.Steps
/-!
# Rotates — the mouse a restore rotates

Begin looks for the mouse a restore is for and writes an empty journal.  The journal is given a target again with the
mouse that is presented, and the finalizer rotates that one.
-/
namespace AttackSharkX3

open Effects (Fallible)
open Script

variable {script : Script} {s s' : Solo} {target : DeviceId} {state state₀ : StateFile} {given : List (Option DeviceId)}

/-! ## What begin checks -/

/-- **No endpoint of the mouse was connected** when begin listed the two USB transports. -/
def ConfirmedAbsent (script : Script) (s : Solo) (d : DeviceId) : Prop :=
  ∃ device wired receiver, s.store.devices[d]? = some device ∧ script.list (s.turn + 1) (.exact .wired) = .ok wired ∧
    script.list (s.turn + 2) (.exact .receiver) = .ok receiver ∧
    ¬ ∃ locator ∈ connectedLocators wired ++ connectedLocators receiver,
      ∃ endpoint ∈ device.identity.endpoints.values, endpoint.locator = locator

theorem of_call_list {selection : TransportSelection} {listed : List DiscoveredEndpoint}
    (h : script.call (Manager.list selection) s = some (.ok listed, s')) :
    script.list s.turn selection = .ok listed ∧ s' = s.next := by
  have hlist : script.call (Manager.list selection) s = some (script.list s.turn selection, s.next) := rfl
  rw [hlist, Option.some.injEq, Prod.mk.injEq] at h
  exact ⟨h.1, h.2.symm⟩

theorem begin_checked {progress : IdentityCeremonyProgress}
    (h : script.call (beginIdentityCeremony .restore (some target)) s = some (.ok progress, s')) :
    ConfirmedAbsent script s target := by
  obtain ⟨state, s₁, hload, h₁⟩ := of_call_bind h
  obtain ⟨rfl, rfl⟩ := of_call_load hload
  obtain ⟨_, s₂, hfree, h₂⟩ := of_call_bind h₁
  obtain rfl : s₂ = s.next := by
    split at hfree
    · cases hfree
    · exact (of_call_pure hfree).2
  obtain ⟨_, s₃, hmode, h₃⟩ := of_call_bind h₂
  obtain ⟨-, rfl⟩ := of_call_ensure hmode
  obtain ⟨_, s₄, htarget, h₄⟩ := of_call_bind h₃
  obtain rfl : s₄ = s.next := by
    obtain ⟨targetId, s₅, hsome, htarget⟩ := of_call_bind htarget
    obtain ⟨-, rfl⟩ := of_call_ofOption hsome
    obtain ⟨device, s₆, hdevice, htarget⟩ := of_call_bind htarget
    obtain ⟨-, rfl⟩ := of_call_ofOption hdevice
    exact (of_call_ensure htarget).2
  obtain ⟨_, s₅, habsent, -⟩ := of_call_bind h₄
  obtain ⟨targetId, s₆, hsome, habsent⟩ := of_call_bind habsent
  obtain ⟨heq, rfl⟩ := of_call_expect hsome
  obtain rfl : target = targetId := Option.some.inj heq
  obtain ⟨device, s₇, hsaved, habsent⟩ := of_call_bind habsent
  obtain ⟨hdevice, rfl⟩ := of_call_expect hsaved
  obtain ⟨wired, s₈, hlist, habsent⟩ := of_call_bind habsent
  obtain ⟨hwired, rfl⟩ := of_call_list hlist
  obtain ⟨receiver, s₉, hlist, habsent⟩ := of_call_bind habsent
  obtain ⟨hreceiver, rfl⟩ := of_call_list hlist
  obtain ⟨hnone, -⟩ := of_call_ensure habsent
  exact ⟨device, wired, receiver, hdevice, hwired, hreceiver, hnone⟩

/-! ## How far a restore is -/

/-- **How far a restore is**: it awaits its mouse, it has captured one for a target, or it is done with that target. -/
inductive Rotation (state₀ : StateFile) : List (Option DeviceId) → StateFile → Prop where
  | awaiting {state : StateFile} (valid : state.validate = .ok ())
      (begun : state = { state₀ with identitySetup := some ⟨.restore, .awaitingCapture, []⟩ }) : Rotation state₀ [] state
  | captured {state : StateFile} {d subject} (valid : state.validate = .ok ()) (devices : state.devices = state₀.devices)
      (was : state.identitySetup = some ⟨.restore, .stamping, [subject]⟩) (bound : subject.deviceId = some d) :
      Rotation state₀ [some d] state
  | done {state : StateFile} {d device subject token old} (saved : state₀.devices[d]? = some device)
      (had : device.identity.physicalId = some old) (other : some token ≠ some old)
      (devices : state.devices = state₀.devices.insert d (restoredDevice device subject token))
      (ended : state.identitySetup = none) : Rotation state₀ [some d] state

theorem Rotation.phase {journal : IdentitySetupJournal} (h : Rotation state₀ given state)
    (hj : state.identitySetup = some journal) : journal.phase = .restore := by
  cases h with
  | awaiting valid begun =>
    rw [begun] at hj
    cases hj
    rfl
  | captured valid devices was bound =>
    rw [was] at hj
    cases hj
    rfl
  | done saved had other devices ended =>
    rw [ended] at hj
    cases hj

/-- The mouse that was bound is the one that is rotated. -/
theorem finalizeCeremony_restore {final : IdentitySetupJournal} {subject : IdentitySetupSubject} {d : DeviceId}
    {device : DeviceState} (hphase : final.phase = .restore) (hsubjects : final.subjects = [subject])
    (hbound : subject.deviceId = some d) (hdevice : state.devices[d]? = some device) :
    (∃ e, subject.token = none ∧ (finalizeCeremony false).apply { state with identitySetup := some final } =
      (.error e, { state with identitySetup := some final })) ∨
    ∃ token, subject.token = some token ∧ (finalizeCeremony false).apply { state with identitySetup := some final } =
      (.ok (), { state with
        devices := state.devices.insert d (restoredDevice device subject token), identitySetup := none }) := by
  cases htoken : subject.token with
  | none =>
    refine .inl ⟨.identityCeremonyRefused .restore "no-token" "restore finalization requires the rotated-in token", rfl, ?_⟩
    simp [finalizeCeremony, finalizePhase, finalizeRestore, onlySubject, Mutation.apply_bind, hphase, hsubjects, hbound,
      htoken]
  | some token =>
    refine .inr ⟨token, rfl, ?_⟩
    simp [finalizeCeremony, finalizePhase, finalizeRestore, onlySubject, Mutation.apply_bind, hphase, hsubjects, hbound,
      htoken, hdevice]

/-- **A transaction that stamps keeps to the target.** -/
theorem Rotation.stamp {t : Txn} (h : Rotation state₀ given state) (ht : t.stamps .restore) :
    Rotation state₀ given (commitReliably t state).2 := by
  cases h with
  | awaiting valid begun =>
    have hafter : t.after state = state := Txn.after_stamps ht (by rw [begun]; rfl)
    rw [commitReliably, if_pos hafter]
    exact .awaiting valid begun
  | done saved had other devices ended =>
    have hafter : t.after state = state := Txn.after_stamps ht (by rw [ended]; rfl)
    rw [commitReliably, if_pos hafter]
    exact .done saved had other devices ended
  | @captured _ d subject valid devices was bound =>
    rcases (commits_reliably t state).cases with hsame | ⟨hafter, hvalid⟩
    · rw [hsame]
      exact .captured valid devices was bound
    rw [hafter]
    have changed {f : IdentitySetupSubject → IdentitySetupSubject} (hf : (f subject).deviceId = subject.deviceId)
        (hrun : t.after state = ((Txn.changeLastSubject f).apply state).2) : Rotation state₀ [some d] (t.after state) := by
      rw [hrun] at hvalid ⊢
      rcases Txn.changeLastSubject_apply f state with hsame | ⟨journal, last, hj, hlast, hchanged⟩
      · rw [hsame]
        exact .captured valid devices was bound
      · rw [was, Option.some.injEq] at hj
        subst hj
        cases hlast
        rw [hchanged] at hvalid ⊢
        exact .captured hvalid devices rfl (hf.trans bound)
    cases t with
    | reserveToken token | markStamped profile => exact changed rfl rfl
    | finishStamping phase awaitSecond pendingLast =>
      obtain ⟨rfl, hawait⟩ := ht
      obtain rfl : awaitSecond = false := by
        cases awaitSecond with
        | false => rfl
        | true => cases hawait rfl
      obtain ⟨d', device, old, hbound, hdevice, hold, hne⟩ := StateFile.valid_restoring valid was rfl rfl
      rw [bound, Option.some.injEq] at hbound
      subst hbound
      have hends := @Txn.advance_finalizes _ _ _ was (show _ = some subject from rfl) .restore nofun pendingLast
      have hlast : (pendingLast.elim subject subject.mark).deviceId = some d ∧
          (pendingLast.elim subject subject.mark).token = subject.token := by
        cases pendingLast <;> exact ⟨bound, rfl⟩
      have hafter : (Txn.finishStamping .restore false pendingLast).after state = _ := congrArg Prod.snd hends
      rw [hafter] at hvalid ⊢
      rcases @finalizeCeremony_restore state ((IdentitySetupJournal.withLast ⟨.restore, .stamping, [subject]⟩
        (pendingLast.elim subject subject.mark)).withStage .finalizing) _ _ _ rfl rfl hlast.1 hdevice with
        ⟨e, hnone, hfails⟩ | ⟨token, htoken, hok⟩
      · rw [hfails] at hvalid
        obtain ⟨-, hready⟩ := (IdentitySetupJournal.validateStage_finalizing rfl).1 (StateFile.valid_stage hvalid rfl)
        have hsome := (hready nofun _ (List.mem_singleton_self _)).1
        rw [hnone] at hsome
        cases hsome
      · rw [hok]
        rw [devices] at hdevice
        rw [← hlast.2, htoken] at hne
        exact .done hdevice hold hne (by rw [devices]) rfl
    | _ => cases ht

/-! ## The mouse that is rotated -/

/-- The mouse's token is rotated, and no other's. -/
def RotatesOnly (state₀ state : StateFile) (d : DeviceId) : Prop :=
  ∀ d', physicalIdOf state d' ≠ physicalIdOf state₀ d' ↔ d' = d

theorem RotatesOnly.unique {d d' : DeviceId} (h : RotatesOnly state₀ state d) (h' : RotatesOnly state₀ state d') : d = d' :=
  (h' d).1 ((h d).2 rfl)

/-- A finished restore rotates the mouse it accepted a unit for. -/
theorem Rotation.rotates (h : Rotation state₀ given state) (hended : state.identitySetup = none) :
    ∃ d, given = [some d] ∧ RotatesOnly state₀ state d := by
  cases h with
  | awaiting valid begun =>
    rw [begun] at hended
    cases hended
  | captured valid devices was bound =>
    rw [was] at hended
    cases hended
  | @done _ d device subject token old saved had other devices ended =>
    refine ⟨d, rfl, fun d' => ?_⟩
    rw [physicalIdOf, physicalIdOf, devices]
    by_cases heq : d' = d
    · rw [heq, BTreeMap.get_insert_self, saved]
      simp only [Option.bind_some, (restoredDevice_made device subject token).1, had]
      exact ⟨fun _ => trivial, fun _ => other⟩
    · rw [BTreeMap.get_insert_of_ne _ (Ne.symm heq)]
      exact ⟨fun hne => absurd rfl hne, fun h => absurd h heq⟩

/-! ## The run -/

section Run

variable [Crc32fast]

/-- **A restore**: begun for a target, then mice presented under any targets and stamps tried, in any order.  The targets
of the mice that were accepted are kept. -/
inductive Restoring (script : Script) (target : DeviceId) (s₀ : Solo) : List (Option DeviceId) → Solo → Prop where
  | begun {s : Solo} {endpoint progress} (valid : s₀.store.validate = .ok ())
      (began : script.call (identityCeremonyAction (.begin .restore) endpoint (some target)) s₀ = some (.ok progress, s)) :
      Restoring script target s₀ [] s
  | accepted {s s' : Solo} {given action endpoint d progress} (before : Restoring script target s₀ given s)
      (presents : action = .reconnected ∨ action = .capture)
      (call : script.call (identityCeremonyAction action endpoint d) s = some (.ok progress, s')) :
      Restoring script target s₀ (given ++ [d]) s'
  | refused {s s' : Solo} {given action endpoint d e} (before : Restoring script target s₀ given s)
      (presents : action = .reconnected ∨ action = .capture)
      (call : script.call (identityCeremonyAction action endpoint d) s = some (.error e, s')) :
      Restoring script target s₀ given s'
  | stamped {s s' : Solo} {given endpoint d r} (before : Restoring script target s₀ given s)
      (call : script.call (identityCeremonyAction .stamp endpoint d) s = some (r, s')) :
      Restoring script target s₀ given s'

/-- A presented mouse is accepted once, under one target. -/
theorem Rotation.accepted {endpoint : DeviceEndpoint} {d : Option DeviceId} {progress : IdentityCeremonyProgress}
    (h : Rotation state₀ given s.store)
    (hcall : script.call (ceremonyReconnected endpoint d) s = some (.ok progress, s')) :
    Rotation state₀ (given ++ [d]) s'.store := by
  obtain ⟨journal, subject, haccepts, -⟩ := reconnected_ok hcall
  have hphase := h.phase haccepts.was
  have hpushed := haccepts.becomes.resolve_left fun ⟨hadoption, _⟩ => by
    rw [hphase] at hadoption
    cases hadoption
  obtain ⟨hbound, hsome⟩ := haccepts.bound hphase
  obtain ⟨target, rfl⟩ := Option.isSome_iff_exists.1 hsome
  have hwas := haccepts.was
  cases h with
  | awaiting valid begun =>
    rw [begun, Option.some.injEq] at hwas
    subst hwas
    refine .captured haccepts.valid ?_ (congrArg StateFile.identitySetup hpushed) hbound
    rw [hpushed, begun]
  | captured valid devices was bound =>
    rw [was, Option.some.injEq] at hwas
    subst hwas
    have hstage := (IdentitySetupJournal.admits_reconnected.1 haccepts.admitted).1
    cases hstage
  | done saved had other devices ended =>
    rw [ended] at hwas
    cases hwas

theorem Rotation.refused {endpoint : DeviceEndpoint} {d : Option DeviceId} {e : ManagerError}
    (h : Rotation state₀ given s.store)
    (hcall : script.call (ceremonyReconnected endpoint d) s = some (.error e, s')) : s'.store = s.store := by
  rcases reconnected_error hcall with hsame | ⟨subject, hafter, hanswer⟩
  · exact hsame
  rcases Txn.pushSubject_error hanswer with hsame | ⟨-, journal, hj, hphase, -⟩
  · exact hafter.trans hsame
  · rw [h.phase hj] at hphase
    cases hphase

/-- **A restore keeps to the target of the mouse it accepted.** -/
theorem Restoring.rotation {s₀ : Solo} (h : Restoring script target s₀ given s) :
    ConfirmedAbsent script s₀ target ∧ Rotation s₀.store given s.store := by
  induction h with
  | begun valid began =>
    obtain ⟨-, hvalid, hstore, -⟩ := begin_ok began
    exact ⟨begin_checked began, .awaiting hvalid hstore⟩
  | @accepted s s' given action endpoint d progress before presents hcall ih =>
    obtain ⟨hchecked, hrotation⟩ := ih
    refine ⟨hchecked, ?_⟩
    cases endpoint with
    | none => rcases presents with rfl | rfl <;> cases hcall
    | some endpoint => rcases presents with rfl | rfl <;> exact hrotation.accepted hcall
  | @refused s s' given action endpoint d e before presents hcall ih =>
    obtain ⟨hchecked, hrotation⟩ := ih
    refine ⟨hchecked, ?_⟩
    have hstore : s'.store = s.store := by
      cases endpoint with
      | none => rcases presents with rfl | rfl <;> cases hcall <;> rfl
      | some endpoint => rcases presents with rfl | rfl <;> exact hrotation.refused hcall
    rw [hstore]
    exact hrotation
  | stamped before hcall ih =>
    obtain ⟨hchecked, hrotation⟩ := ih
    refine ⟨hchecked, stamp_keeps (P := Rotation s₀.store _) ?_ hrotation hcall⟩
    rintro t state ⟨journal, hj, hstamps⟩ hkept
    rw [hrotation.phase hj] at hstamps
    exact hkept.stamp hstamps

/-- **A finished restore rotates the mouse begin looked for** exactly when the unit was presented for that mouse. -/
theorem rotates_checked_iff {s₀ : Solo} (h : Restoring script target s₀ given s) (hended : s.store.identitySetup = none) :
    ConfirmedAbsent script s₀ target ∧ (RotatesOnly s₀.store s.store target ↔ given = [some target]) := by
  obtain ⟨hchecked, hrotation⟩ := h.rotation
  obtain ⟨d, hgiven, hrotates⟩ := hrotation.rotates hended
  refine ⟨hchecked, ?_⟩
  rw [hgiven]
  constructor
  · intro htarget
    rw [hrotates.unique htarget]
  · intro heq
    rw [List.cons.injEq, Option.some.injEq] at heq
    rw [← heq.1]
    exact hrotates

end Run

namespace Rig

/-- Two saved mice. -/
def two : StateFile := saved [(mouse1, token 1, wired "a"), (mouse2, token 2, wired "b")]

/-- A blank unit, and a token no saved mouse has. -/
def drawingThree : Script := { scripted (unit fun _ => none) with random := fun _ => .ok (token 3).token }

/-- A restore of the first mouse is begun, and a unit is presented for a mouse and stamped. -/
def restored (d : DeviceId) : Solo :=
  let s₁ := left drawingThree (identityCeremonyAction (.begin .restore) none (some mouse1)) (solo two)
  let s₂ := left drawingThree (identityCeremonyAction .reconnected (some (wired "c")) (some d)) s₁
  left drawingThree (identityCeremonyAction .stamp none none) s₂

theorem restoring_restored {d : DeviceId} (hd : d = mouse1 ∨ d = mouse2) :
    Restoring drawingThree mouse1 (solo two) [some d] (restored d) := by
  obtain ⟨_, hbegin⟩ := @call_left _ drawingThree
    (identityCeremonyAction (.begin .restore) none (some mouse1)) (solo two) (by decide +kernel)
  obtain ⟨_, hpresent⟩ := @call_left _ drawingThree
    (identityCeremonyAction .reconnected (some (wired "c")) (some d))
    (left drawingThree (identityCeremonyAction (.begin .restore) none (some mouse1)) (solo two))
    (by rcases hd with rfl | rfl <;> decide +kernel)
  obtain ⟨_, hstamp⟩ := @call_left _ drawingThree (identityCeremonyAction .stamp none none)
    (left drawingThree (identityCeremonyAction .reconnected (some (wired "c")) (some d))
      (left drawingThree (identityCeremonyAction (.begin .restore) none (some mouse1)) (solo two)))
    (by rcases hd with rfl | rfl <;> decide +kernel)
  exact .stamped (.accepted (.begun (by decide +kernel) hbegin) (.inl rfl) hpresent) hstamp

/-- The unit is presented for the mouse begin looked for. -/
theorem rotates_checked_mouse : RotatesOnly two (restored mouse1).store mouse1 := by
  have hrun := restoring_restored (d := mouse1) (.inl rfl)
  exact (rotates_checked_iff hrun (by decide +kernel)).2.2 rfl

/-- **The unit is presented for another mouse**, whose token is rotated though begin never looked for it. -/
theorem rotates_another_mouse : Restoring drawingThree mouse1 (solo two) [some mouse2] (restored mouse2) ∧
    (restored mouse2).store.identitySetup = none ∧ physicalIdOf two mouse2 = some (token 2) ∧
    physicalIdOf (restored mouse2).store mouse2 = some (token 3) ∧ ¬ RotatesOnly two (restored mouse2).store mouse1 := by
  have hbefore : physicalIdOf two mouse2 = some (token 2) := by decide +kernel
  have hafter : physicalIdOf (restored mouse2).store mouse2 = some (token 3) := by decide +kernel
  refine ⟨restoring_restored (.inr rfl), by decide +kernel, hbefore, hafter, fun honly => ?_⟩
  have hsame : mouse2 = mouse1 := (honly mouse2).1 (by rw [hbefore, hafter]; decide)
  exact absurd hsame (by decide)

end Rig
end AttackSharkX3
