import AttackSharkX3.Handed
import Mathlib.Data.List.Nodup
/-!
# Shown — what the draft shows is what is written

An image shows a draft when every value the draft can express is the draft's and every other is the loaded one.  A delta
over the loaded image makes such an image; over another baseline it does exactly when the two agree where the draft leaves
the loaded value.
-/
namespace AttackSharkX3

open Effects (Fallible Tries Either ends_bind ends_stop ends_pure ends_perform ends_ensure)
open Effects.Prog (Event History Ends Kept)

/-! ## Images -/

/-- **The DPI image a draft shows**: its stages and options, and the loaded tail or the mouse's own watermark. -/
structure ShowsDpi [Crc32fast] (loaded : DpiState) (draft : Draft) (own : PhysicalId → Prop) (image : DpiState) : Prop where
  profile : image.profile = loaded.profile
  stages : image.stages.map (·.get) = draft.requestedDpi
  activeStage : image.activeStage.get = draft.activeStage
  sensor : image.sensor = draft.sensor
  tail : image.preservedTail = loaded.preservedTail ∨ ∃ token, own token ∧ image.preservedTail = token.toWatermarkBytes

/-- The preferences a draft shows: its four bytes, and the loaded profile, light mode and colour. -/
def shownPreferences (loaded : PreferencesState) (draft : Draft) : PreferencesState :=
  { loaded with configuration := draft.rawConfiguration, deepSleep := draft.rawDeepSleep
                sleepTimer := draft.rawSleepTimer, debounce := draft.rawDebounce }

/-- The names a draft gives the slots. -/
def Draft.slots (draft : Draft) : List (SafeButtonSlot × String) := SAFE_BUTTON_SLOTS.zip draft.buttons

/-- **The button table a draft shows**: a slot whose name it keeps is the loaded one, and one it renames is bound to the
action of that name; no other slot changes. -/
structure ShowsButtons (loaded : ButtonsState) (draft : Draft) (image : ButtonsState) : Prop where
  profile : image.profile = loaded.profile
  named : ∀ entry ∈ draft.slots, image.slots[entry.1.index]? =
    if Draft.shownAction loaded entry.1 = entry.2 then loaded.slots[entry.1.index]?
    else (safeButtonAction entry.2).map (·.toAssignment)
  others : ∀ i : Nat, (∀ entry ∈ draft.slots, entry.1.index ≠ i) → image.slots[i]? = loaded.slots[i]?

/-! ## The DPI section -/

/-- A delta made from a draft. -/
structure DpiDelta.OfDraft (delta : DpiDelta) (draft : Draft) (dpi : DpiState) : Prop where
  changed : draft.dpiChanged dpi = true → ∃ stages stage, delta.stages = some stages ∧ delta.activeStage = some stage ∧
    stages.map (·.get) = draft.requestedDpi ∧ stage.get = draft.activeStage
  unchanged : draft.dpiChanged dpi = false → delta.stages = none ∧ delta.activeStage = none
  sensor : delta.sensor = if (draft.sensorDelta dpi.sensor).isEmpty then none else some (draft.sensorDelta dpi.sensor)
  edits : draft.dpiChanged dpi = true ∨ (draft.sensorDelta dpi.sensor).isEmpty = false

theorem get_of_validDpi {value : UInt16} {dpi : DpiValue} (h : Draft.validDpi value = .ok dpi) : dpi.get = value := by
  unfold Draft.validDpi at h
  split at h
  · next found hfound =>
    cases h
    unfold DpiValue.new at hfound
    split at hfound
    · cases hfound
      rfl
    · cases hfound
  · cases h

theorem mapM_validDpi : ∀ {values : List UInt16} {stages : List DpiValue}, values.mapM Draft.validDpi = .ok stages →
    stages.map (·.get) = values
  | [], stages, h => by
    cases h
    rfl
  | value :: values, stages, h => by
    rw [List.mapM_cons] at h
    cases hvalue : Draft.validDpi value with
    | error e =>
      rw [hvalue] at h
      cases h
    | ok first =>
      cases hrest : values.mapM Draft.validDpi with
      | error e =>
        rw [hvalue, hrest] at h
        cases h
      | ok rest =>
        rw [hvalue, hrest] at h
        cases h
        rw [List.map_cons, mapM_validDpi hrest, get_of_validDpi hvalue]

theorem StageIndex.get_of_new {value : UInt8} {stage : StageIndex} (h : StageIndex.new value = some stage) :
    stage.get = value := by
  unfold StageIndex.new at h
  split at h
  · cases h
    rfl
  · cases h

/-- **What a DPI delta is made of**; there is none when nothing changed. -/
theorem dpiDelta_ok {draft : Draft} {dpi : DpiState} {part : Option DpiDelta} (h : draft.dpiDelta dpi = .ok part) :
    (part = none ∧ draft.dpiChanged dpi = false ∧ (draft.sensorDelta dpi.sensor).isEmpty = true) ∨
      ∃ delta, part = some delta ∧ delta.OfDraft draft dpi := by
  unfold Draft.dpiDelta at h
  dsimp only at h
  cases hchanged : draft.dpiChanged dpi with
  | false =>
    simp only [hchanged, Bool.not_false, Bool.true_and, Bool.false_eq_true, if_false] at h
    split at h
    · next hempty =>
      cases h
      exact .inl ⟨rfl, rfl, hempty⟩
    · next hsensor =>
      simp only [bind, Except.bind] at h
      rw [if_neg (by simpa [DpiDelta.isEmpty] using hsensor)] at h
      cases h
      refine .inr ⟨_, rfl, ⟨fun htrue => ?_, fun _ => ⟨rfl, rfl⟩, (if_neg hsensor).symm, .inr (by simpa using hsensor)⟩⟩
      rw [hchanged] at htrue
      cases htrue
  | true =>
    simp only [hchanged, Bool.not_true, Bool.false_and, Bool.false_eq_true, if_false, if_true] at h
    cases hstages : draft.requestedDpi.mapM Draft.validDpi with
    | error e =>
      rw [hstages] at h
      cases h
    | ok stages =>
      cases hstage : StageIndex.new draft.activeStage with
      | none =>
        rw [hstages, hstage] at h
        cases h
      | some stage =>
        rw [hstages, hstage] at h
        cases h
        refine .inr ⟨_, rfl, ⟨fun _ => ?_, fun hfalse => ?_, rfl, .inl hchanged⟩⟩
        · exact ⟨stages, stage, rfl, rfl, mapM_validDpi hstages, StageIndex.get_of_new hstage⟩
        · rw [hchanged] at hfalse
          cases hfalse

/-- The options merged, also where there is nothing to merge. -/
theorem merge_sensorDelta {delta : DpiDelta} {draft : Draft} {dpi baseline : DpiState} (h : delta.OfDraft draft dpi) :
    delta.sensor.elim baseline.sensor baseline.sensor.merge = baseline.sensor.merge (draft.sensorDelta dpi.sensor) := by
  rw [h.sensor]
  split
  · next hempty =>
    simp only [SensorOptionsDelta.isEmpty, Bool.and_eq_true, Option.isNone_iff_eq_none] at hempty
    obtain ⟨⟨⟨hlift, hripple⟩, hsnap⟩, hsync⟩ := hempty
    simp [SensorOptions.merge, hlift, hripple, hsnap, hsync]
  · rfl

/-- An option that is overwritten where it differs is the draft's, unless the baseline differs where it was kept. -/
theorem overwritten {T : Type} (loaded shown baseline : T) [Decidable (loaded ≠ shown)] :
    (if loaded ≠ shown then some shown else none).getD baseline = shown ↔ (loaded = shown → baseline = loaded) := by
  by_cases heq : loaded = shown
  · simp [heq]
  · simp [heq]

/-- **Where a baseline agrees with the loaded image**: wherever the draft leaves the loaded value. -/
structure AgreesDpi (loaded : DpiState) (draft : Draft) (physicalId : Option PhysicalId) (baseline : DpiState) : Prop where
  profile : baseline.profile = loaded.profile
  stages : draft.dpiChanged loaded = false → baseline.stages = loaded.stages ∧ baseline.activeStage = loaded.activeStage
  liftOff : loaded.sensor.liftOffDistance = draft.sensor.liftOffDistance →
    baseline.sensor.liftOffDistance = loaded.sensor.liftOffDistance
  ripple : loaded.sensor.rippleControl = draft.sensor.rippleControl →
    baseline.sensor.rippleControl = loaded.sensor.rippleControl
  angleSnap : loaded.sensor.angleSnap = draft.sensor.angleSnap → baseline.sensor.angleSnap = loaded.sensor.angleSnap
  motionSync : loaded.sensor.motionSync = draft.sensor.motionSync → baseline.sensor.motionSync = loaded.sensor.motionSync
  /-- A mouse with a token gets its own watermark. -/
  tail : physicalId = none → baseline.preservedTail = loaded.preservedTail

theorem sensor_merged (draft : Draft) (loaded baseline : SensorOptions) :
    baseline.merge (draft.sensorDelta loaded) = draft.sensor ↔
      (loaded.liftOffDistance = draft.sensor.liftOffDistance → baseline.liftOffDistance = loaded.liftOffDistance) ∧
      (loaded.rippleControl = draft.sensor.rippleControl → baseline.rippleControl = loaded.rippleControl) ∧
      (loaded.angleSnap = draft.sensor.angleSnap → baseline.angleSnap = loaded.angleSnap) ∧
      (loaded.motionSync = draft.sensor.motionSync → baseline.motionSync = loaded.motionSync) := by
  simp only [SensorOptions.merge, Draft.sensorDelta, Draft.sensor, SensorOptions.mk.injEq, overwritten]

theorem sensorDelta_isEmpty {draft : Draft} {sensor : SensorOptions} :
    (draft.sensorDelta sensor).isEmpty = true ↔ sensor = draft.sensor := by
  obtain ⟨lift, ripple, snap, sync⟩ := sensor
  simp [Draft.sensorDelta, SensorOptionsDelta.isEmpty, Draft.sensor, and_assoc]

/-- A stage list is known from its values. -/
theorem stages_inj {stages stages' : List DpiValue} (h : stages.map (·.get) = stages'.map (·.get)) : stages = stages' := by
  refine List.map_injective_iff.2 ?_ h
  rintro ⟨a, _⟩ ⟨b, _⟩ hab
  cases hab
  rfl

theorem StageIndex.get_inj {stage stage' : StageIndex} (h : stage.get = stage'.get) : stage = stage' := by
  cases stage
  cases stage'
  cases h
  rfl

theorem dpiChanged_false {draft : Draft} {dpi : DpiState} : draft.dpiChanged dpi = false ↔
    dpi.stages.map (·.get) = draft.requestedDpi ∧ dpi.activeStage.get = draft.activeStage := by
  simp [Draft.dpiChanged]

section Dpi

variable [Crc32fast] {draft : Draft} {loaded baseline image : DpiState} {delta : DpiDelta} {physicalId : Option PhysicalId}
  {own : PhysicalId → Prop}

/-- What is sent of a merged image. -/
theorem stampedDpi_ok (hdelta : delta.OfDraft draft loaded) (h : stampedDpi delta physicalId baseline = .ok image) :
    image.profile = baseline.profile ∧ image.stages = delta.stages.getD baseline.stages ∧
      image.activeStage = delta.activeStage.getD baseline.activeStage ∧
      image.sensor = baseline.sensor.merge (draft.sensorDelta loaded.sensor) ∧
      image.preservedTail = (physicalId.map (·.toWatermarkBytes)).getD baseline.preservedTail := by
  unfold stampedDpi mergeDpiDelta DpiState.new at h
  cases hvalid : validateStageSelection (delta.stages.getD baseline.stages).length
      (delta.activeStage.getD baseline.activeStage) with
  | error e =>
    rw [hvalid] at h
    cases h
  | ok u =>
    rw [hvalid] at h
    cases h
    rw [← merge_sensorDelta hdelta]
    cases physicalId <;> exact ⟨rfl, rfl, rfl, rfl, rfl⟩

/-- **A stamped image shows the draft exactly when its baseline agrees.** -/
theorem showsDpi_iff (hdelta : delta.OfDraft draft loaded) (h : stampedDpi delta physicalId baseline = .ok image)
    (hown : ∀ token, own token ↔ physicalId = some token) :
    ShowsDpi loaded draft own image ↔ AgreesDpi loaded draft physicalId baseline := by
  obtain ⟨hprofile, hstages, hactive, hsensor, htail⟩ := stampedDpi_ok hdelta h
  have htail' : (image.preservedTail = loaded.preservedTail ∨
      ∃ token, own token ∧ image.preservedTail = token.toWatermarkBytes) ↔
        (physicalId = none → baseline.preservedTail = loaded.preservedTail) := by
    rw [htail]
    cases physicalId with
    | none => simp [hown]
    | some token => simp [hown]
  have hselected : (image.stages.map (·.get) = draft.requestedDpi ∧ image.activeStage.get = draft.activeStage) ↔
      (draft.dpiChanged loaded = false → baseline.stages = loaded.stages ∧ baseline.activeStage = loaded.activeStage) := by
    cases hchanged : draft.dpiChanged loaded with
    | true =>
      obtain ⟨stages, stage, hs, ha, hvalues, hvalue⟩ := hdelta.changed hchanged
      rw [hstages, hactive, hs, ha]
      simp [hvalues, hvalue]
    | false =>
      obtain ⟨hs, ha⟩ := hdelta.unchanged hchanged
      obtain ⟨hvalues, hvalue⟩ := dpiChanged_false.1 hchanged
      rw [hstages, hactive, hs, ha, Option.getD_none, Option.getD_none, ← hvalues, ← hvalue]
      constructor
      · rintro ⟨hsame, hsame'⟩ -
        exact ⟨stages_inj hsame, StageIndex.get_inj hsame'⟩
      · intro hsame
        obtain ⟨hsame, hsame'⟩ := hsame rfl
        rw [hsame, hsame']
        exact ⟨rfl, rfl⟩
  have hsensor' := sensor_merged draft loaded.sensor baseline.sensor
  rw [← hsensor] at hsensor'
  constructor
  · intro hshows
    obtain ⟨hlift, hripple, hsnap, hsync⟩ := hsensor'.1 hshows.sensor
    exact ⟨hprofile.symm.trans hshows.profile, hselected.1 ⟨hshows.stages, hshows.activeStage⟩, hlift, hripple, hsnap, hsync,
      htail'.1 hshows.tail⟩
  · intro hagrees
    obtain ⟨hvalues, hvalue⟩ := hselected.2 hagrees.stages
    exact ⟨hprofile.trans hagrees.profile, hvalues, hvalue,
      hsensor'.2 ⟨hagrees.liftOff, hagrees.ripple, hagrees.angleSnap, hagrees.motionSync⟩, htail'.2 hagrees.tail⟩

omit [Crc32fast] in
theorem AgreesDpi.refl : AgreesDpi loaded draft physicalId loaded :=
  ⟨rfl, fun _ => ⟨rfl, rfl⟩, fun _ => rfl, fun _ => rfl, fun _ => rfl, fun _ => rfl, fun _ => rfl⟩

end Dpi

/-! ## Preferences -/

/-- Where a baseline agrees with the loaded preferences: wherever the draft leaves the loaded value. -/
structure AgreesPreferences (loaded : PreferencesState) (draft : Draft) (baseline : PreferencesState) : Prop where
  profile : baseline.profile = loaded.profile
  lightMode : baseline.lightMode = loaded.lightMode
  hostColor : baseline.hostColor = loaded.hostColor
  configuration : loaded.configuration = draft.rawConfiguration → baseline.configuration = loaded.configuration
  deepSleep : loaded.deepSleep = draft.rawDeepSleep → baseline.deepSleep = loaded.deepSleep
  sleepTimer : loaded.sleepTimer = draft.rawSleepTimer → baseline.sleepTimer = loaded.sleepTimer
  debounce : loaded.debounce = draft.rawDebounce → baseline.debounce = loaded.debounce

theorem AgreesPreferences.refl {loaded : PreferencesState} {draft : Draft} : AgreesPreferences loaded draft loaded :=
  ⟨rfl, rfl, rfl, fun _ => rfl, fun _ => rfl, fun _ => rfl, fun _ => rfl⟩

/-- **Merged preferences show the draft exactly when their baseline agrees.** -/
theorem showsPreferences_iff {draft : Draft} {loaded baseline : PreferencesState} {delta : PreferencesDelta}
    (hdelta : draft.preferencesDelta loaded = some delta) :
    mergePreferencesDelta baseline delta = shownPreferences loaded draft ↔ AgreesPreferences loaded draft baseline := by
  unfold Draft.preferencesDelta at hdelta
  split at hdelta
  · cases hdelta
  · cases hdelta
    simp only [Draft.changedPreferences, mergePreferencesDelta, shownPreferences, PreferencesState.mk.injEq, overwritten, Option.getD_none]
    constructor
    · rintro ⟨hprofile, hlight, hconfiguration, hdeep, hcolor, hsleep, hdebounce⟩
      exact ⟨hprofile, hlight, hcolor, hconfiguration, hdeep, hsleep, hdebounce⟩
    · intro h
      exact ⟨h.profile, h.lightMode, h.configuration, h.deepSleep, h.hostColor, h.sleepTimer, h.debounce⟩

theorem changedPreferences_isEmpty {draft : Draft} {loaded : PreferencesState} :
    (draft.changedPreferences loaded).isEmpty = true ↔ shownPreferences loaded draft = loaded := by
  obtain ⟨profile, light, configuration, deep, color, sleep, debounce⟩ := loaded
  simp only [shownPreferences, PreferencesState.mk.injEq]
  simp [Draft.changedPreferences, PreferencesDelta.isEmpty, and_assoc, eq_comm (a := draft.rawConfiguration),
    eq_comm (a := draft.rawDeepSleep), eq_comm (a := draft.rawSleepTimer), eq_comm (a := draft.rawDebounce)]

/-- There is no update exactly of preferences that are shown as they were loaded. -/
theorem preferencesDelta_none {draft : Draft} {loaded : PreferencesState} :
    draft.preferencesDelta loaded = none ↔ shownPreferences loaded draft = loaded := by
  rw [← changedPreferences_isEmpty, Draft.preferencesDelta]
  split
  · next hempty => exact iff_of_true rfl hempty
  · next hchanged => exact iff_of_false nofun hchanged

/-! ## Buttons -/

/-- Where a baseline agrees with the loaded table: at every slot whose name the draft keeps. -/
structure AgreesButtons (loaded : ButtonsState) (draft : Draft) (baseline : ButtonsState) : Prop where
  profile : baseline.profile = loaded.profile
  slots : ∀ i : Nat, (∀ entry ∈ draft.slots, entry.1.index = i → Draft.shownAction loaded entry.1 = entry.2) →
    baseline.slots[i]? = loaded.slots[i]?

theorem AgreesButtons.refl {loaded : ButtonsState} {draft : Draft} : AgreesButtons loaded draft loaded :=
  ⟨rfl, fun _ _ => rfl⟩

/-- The deltas are one for each slot that is renamed, in order. -/
theorem buttonDeltas_ok {loaded : ButtonsState} : ∀ {slots : List SafeButtonSlot} {names : List String}
    {deltas : List ButtonSlotDelta}, Draft.buttonDeltas loaded slots names = .ok deltas →
    List.Forall₂ (fun entry delta => delta.slot = entry.1 ∧ safeButtonAction entry.2 = some delta.action)
      ((slots.zip names).filter fun entry => Draft.shownAction loaded entry.1 ≠ entry.2) deltas
  | [], names, deltas, h => by
    cases names <;> (cases h; exact .nil)
  | slot :: slots, [], deltas, h => by
    cases h
    exact .nil
  | slot :: slots, requested :: rest, deltas, h => by
    unfold Draft.buttonDeltas at h
    split at h
    · next hrenamed =>
      rw [List.zip_cons_cons, List.filter_cons_of_pos (by simpa using hrenamed)]
      split at h
      · next action haction =>
        cases hrest : Draft.buttonDeltas loaded slots rest with
        | error e =>
          rw [hrest] at h
          cases h
        | ok more =>
          rw [hrest] at h
          cases h
          exact .cons ⟨rfl, haction⟩ (buttonDeltas_ok hrest)
      · cases h
    · next hkept =>
      rw [List.zip_cons_cons, List.filter_cons_of_neg (by simpa using hkept)]
      exact buttonDeltas_ok h

theorem SafeButtonSlot.index_inj {slot slot' : SafeButtonSlot} (h : slot.index = slot'.index) : slot = slot' := by
  cases slot <;> cases slot' <;> first | rfl | cases h

theorem map_fst_zip_sublist {α β : Type} : ∀ (xs : List α) (ys : List β), List.Sublist ((xs.zip ys).map Prod.fst) xs
  | [], _ => .slnil
  | _ :: _, [] => List.nil_sublist _
  | x :: xs, _ :: ys => (map_fst_zip_sublist xs ys).cons_cons x

/-- A slot is named once. -/
theorem Draft.slots_unique {draft : Draft} {entry entry' : SafeButtonSlot × String} (h : entry ∈ draft.slots)
    (h' : entry' ∈ draft.slots) (hslot : entry.1 = entry'.1) : entry = entry' := by
  have hnodup : (draft.slots.map Prod.fst).Nodup :=
    (map_fst_zip_sublist SAFE_BUTTON_SLOTS draft.buttons).nodup (by decide)
  exact List.inj_on_of_nodup_map hnodup h h' hslot

section Fold

variable {baseline : ButtonsState} {deltas : List ButtonSlotDelta}

theorem foldl_assign_profile : (deltas.foldl ButtonsState.assign baseline).profile = baseline.profile := by
  induction deltas generalizing baseline with
  | nil => rfl
  | cons delta deltas ih => exact ih

/-- A slot no delta names is the baseline's. -/
theorem foldl_assign_other {i : Nat} (h : ∀ delta ∈ deltas, delta.slot.index ≠ i) :
    (deltas.foldl ButtonsState.assign baseline).slots[i]? = baseline.slots[i]? := by
  induction deltas generalizing baseline with
  | nil => rfl
  | cons delta deltas ih =>
    rw [List.foldl_cons, ih fun other hother => h other (List.mem_cons_of_mem _ hother)]
    exact List.getElem?_set_ne (h delta List.mem_cons_self)

/-- A slot one delta names is bound to its action. -/
theorem foldl_assign_mem {delta : ButtonSlotDelta} (hnodup : (deltas.map (·.slot)).Nodup) (hdelta : delta ∈ deltas) :
    (deltas.foldl ButtonsState.assign baseline).slots[delta.slot.index]? = some delta.action.toAssignment := by
  induction deltas generalizing baseline with
  | nil => cases hdelta
  | cons first deltas ih =>
    rw [List.map_cons, List.nodup_cons] at hnodup
    rw [List.foldl_cons]
    rcases List.mem_cons.1 hdelta with rfl | hrest
    · rw [foldl_assign_other fun other hother heq => hnodup.1 ?_]
      · exact List.getElem?_set_self (by rw [baseline.slotCount]; exact delta.slot.index_lt)
      · exact List.mem_map.2 ⟨other, hother, SafeButtonSlot.index_inj heq⟩
    · exact ih hnodup.2 hrest

end Fold

section Buttons

variable {draft : Draft} {loaded baseline : ButtonsState} {deltas : List ButtonSlotDelta}

theorem exists_left {α β : Type} {R : α → β → Prop} {xs : List α} {ys : List β} (h : List.Forall₂ R xs ys) {y : β}
    (hy : y ∈ ys) : ∃ x ∈ xs, R x y := by
  induction h with
  | nil => cases hy
  | cons hfirst _ ih =>
    rcases List.mem_cons.1 hy with rfl | hrest
    · exact ⟨_, List.mem_cons_self, hfirst⟩
    · obtain ⟨x, hx, hr⟩ := ih hrest
      exact ⟨x, List.mem_cons_of_mem _ hx, hr⟩

theorem exists_right {α β : Type} {R : α → β → Prop} {xs : List α} {ys : List β} (h : List.Forall₂ R xs ys) {x : α}
    (hx : x ∈ xs) : ∃ y ∈ ys, R x y := by
  obtain ⟨y, hy, hr⟩ := exists_left h.flip hx
  exact ⟨y, hy, hr⟩

/-- A delta is one of a slot that is renamed. -/
theorem renamed_of_delta (h : Draft.buttonDeltas loaded SAFE_BUTTON_SLOTS draft.buttons = .ok deltas)
    {delta : ButtonSlotDelta} (hdelta : delta ∈ deltas) : ∃ entry ∈ draft.slots, entry.1 = delta.slot ∧
      Draft.shownAction loaded entry.1 ≠ entry.2 := by
  obtain ⟨entry, hentry, hmade, -⟩ := exists_left (buttonDeltas_ok h) hdelta
  obtain ⟨hmem, hrenamed⟩ := List.mem_filter.1 hentry
  exact ⟨entry, hmem, hmade.symm, of_decide_eq_true hrenamed⟩

/-- A slot that is renamed has a delta. -/
theorem delta_of_renamed (h : Draft.buttonDeltas loaded SAFE_BUTTON_SLOTS draft.buttons = .ok deltas)
    {entry : SafeButtonSlot × String} (hentry : entry ∈ draft.slots) (hrenamed : Draft.shownAction loaded entry.1 ≠ entry.2) :
    ∃ delta ∈ deltas, delta.slot = entry.1 ∧ safeButtonAction entry.2 = some delta.action :=
  exists_right (buttonDeltas_ok h) (List.mem_filter.2 ⟨hentry, decide_eq_true hrenamed⟩)

theorem deltas_nodup (h : Draft.buttonDeltas loaded SAFE_BUTTON_SLOTS draft.buttons = .ok deltas) :
    (deltas.map (·.slot)).Nodup := by
  have hmap : ∀ {entries : List (SafeButtonSlot × String)} {deltas : List ButtonSlotDelta},
      List.Forall₂ (fun entry delta => delta.slot = entry.1 ∧ safeButtonAction entry.2 = some delta.action) entries deltas →
      deltas.map (·.slot) = entries.map Prod.fst := by
    intro entries deltas hall
    induction hall with
    | nil => rfl
    | cons hfirst _ ih => rw [List.map_cons, List.map_cons, ih, hfirst.1]
  rw [hmap (buttonDeltas_ok h)]
  exact ((List.filter_sublist.map Prod.fst).trans (map_fst_zip_sublist SAFE_BUTTON_SLOTS draft.buttons)).nodup (by decide)

/-- **A table with its deltas shows the draft exactly when its baseline agrees.** -/
theorem showsButtons_iff (h : Draft.buttonDeltas loaded SAFE_BUTTON_SLOTS draft.buttons = .ok deltas) :
    ShowsButtons loaded draft (deltas.foldl ButtonsState.assign baseline) ↔ AgreesButtons loaded draft baseline := by
  have huntouched : ∀ {i : Nat}, (∀ entry ∈ draft.slots, entry.1.index = i → Draft.shownAction loaded entry.1 = entry.2) →
      (deltas.foldl ButtonsState.assign baseline).slots[i]? = baseline.slots[i]? := by
    intro i hkept
    refine foldl_assign_other fun delta hdelta heq => ?_
    obtain ⟨entry, hentry, hslot, hrenamed⟩ := renamed_of_delta h hdelta
    exact hrenamed (hkept entry hentry (by rw [hslot]; exact heq))
  constructor
  · intro hshows
    refine ⟨foldl_assign_profile.symm.trans hshows.profile, fun i hkept => ?_⟩
    rw [← huntouched hkept]
    by_cases hnamed : ∃ entry ∈ draft.slots, entry.1.index = i
    · obtain ⟨entry, hentry, rfl⟩ := hnamed
      rw [hshows.named entry hentry, if_pos (hkept entry hentry rfl)]
    · exact hshows.others i fun entry hentry heq => hnamed ⟨entry, hentry, heq⟩
  · intro hagrees
    refine ⟨foldl_assign_profile.trans hagrees.profile, fun entry hentry => ?_, fun i hnone => ?_⟩
    · split
      · next hkept =>
        have hsame : ∀ other ∈ draft.slots, other.1.index = entry.1.index → Draft.shownAction loaded other.1 = other.2 := by
          intro other hother heq
          rw [Draft.slots_unique hother hentry (SafeButtonSlot.index_inj heq)]
          exact hkept
        rw [huntouched hsame]
        exact hagrees.slots _ hsame
      · next hrenamed =>
        obtain ⟨delta, hdelta, hslot, haction⟩ := delta_of_renamed h hentry hrenamed
        rw [← hslot, haction]
        exact foldl_assign_mem (deltas_nodup h) hdelta
    · have hkept : ∀ entry ∈ draft.slots, entry.1.index = i → Draft.shownAction loaded entry.1 = entry.2 :=
        fun entry hentry heq => absurd heq (hnone entry hentry)
      rw [huntouched hkept]
      exact hagrees.slots i hkept

/-- **Read back, a table that shows a draft has the draft's names.** -/
theorem ShowsButtons.read {image : ButtonsState} (h : ShowsButtons loaded draft image)
    (hnames : ∀ entry ∈ draft.slots, Draft.shownAction loaded entry.1 ≠ entry.2 → safeButtonAction entry.2 ≠ none) :
    ∀ entry ∈ draft.slots, Draft.shownAction image entry.1 = entry.2 := by
  intro entry hentry
  have hshown : ∀ table : ButtonsState, table.slots[entry.1.index]? = some (table.slots.get ⟨entry.1.index, by
      rw [table.slotCount]; exact entry.1.index_lt⟩) := fun table => List.getElem?_eq_getElem _
  have hnamed := h.named entry hentry
  split at hnamed
  · next hkept =>
    rw [hshown, hshown, Option.some.injEq] at hnamed
    rw [← hkept]
    exact congrArg buttonActionName hnamed
  · next hrenamed =>
    obtain ⟨action, haction⟩ := Option.ne_none_iff_exists'.1 (hnames entry hentry hrenamed)
    rw [hshown, haction, Option.map_some, Option.some.injEq] at hnamed
    rw [← buttonActionName_toAssignment haction]
    exact congrArg buttonActionName hnamed

end Buttons

end AttackSharkX3
