import AttackSharkX3.Machine
/-!
# Mice — hardware that answers honestly

Mice are attached at paths, detached and exchanged in any order.  A read answers what the attached mouse holds, a write
changes that mouse and no other, and any operation may fail.  A mouse keeps its profiles across exchanges.
-/
namespace AttackSharkX3

/-- **What is on one mouse**: its current profile, and the DPI image of each. -/
structure Mouse where
  metadata : ProfileMetadata
  dpi : ProfileId → DpiState

/-- The image of the current profile. -/
def Mouse.current (mouse : Mouse) : DpiState := mouse.dpi mouse.metadata.current

/-- **The mice there are, and which is attached where.** -/
structure Mice (U : Type) where
  mouse : U → Mouse
  attached : AttachmentKey → Option U

/-- What is done by hand. -/
inductive Hand (U : Type) where
  | attach (key : AttachmentKey) (u : U)
  | detach (key : AttachmentKey)
  | turn (u : U) (metadata : ProfileMetadata)

namespace Mice

variable {U : Type} [DecidableEq U]

/-- The state with one mouse changed. -/
def change (s : Mice U) (u : U) (f : Mouse → Mouse) : Mice U := { s with mouse := Function.update s.mouse u (f (s.mouse u)) }

/-- The mouse with one DPI image written. -/
def writeDpi (s : Mice U) (u : U) (image : DpiState) : Mice U :=
  s.change u fun mouse => { mouse with dpi := Function.update mouse.dpi image.profile image }

def writeMetadata (s : Mice U) (u : U) (metadata : ProfileMetadata) : Mice U := s.change u ({ · with metadata })

/-- What a move by hand leaves. -/
def after (s : Mice U) : Hand U → Mice U
  | .attach key u => { s with attached := Function.update s.attached key (some u) }
  | .detach key => { s with attached := Function.update s.attached key none }
  | .turn u metadata => s.writeMetadata u metadata

/-- **What a session on the endpoint may answer and do.**  A polling-rate write is assumed to leave every image, though the
protocol notes call `0x06` a save alias, by which a mouse may store its live image under the profile that is named. -/
def answers (s : Mice U) (endpoint : DeviceEndpoint) : (call : SessionCall) → Except ManagerError call.Value → Mice U → Prop
  | .readProfileMetadata, r, s' => s' = s ∧ ∀ metadata : ProfileMetadata, r = .ok metadata →
      ∃ u, s.attached endpoint.key = some u ∧ metadata = (s.mouse u).metadata
  | .readDpi profile, r, s' => s' = s ∧ ∀ dpi : DpiState, r = .ok dpi →
      ∃ u, s.attached endpoint.key = some u ∧ dpi = (s.mouse u).dpi profile
  | .readProfile profile, r, s' => s' = s ∧ ∀ snapshot : ProfileSnapshot, r = .ok snapshot →
      ∃ u, s.attached endpoint.key = some u ∧ snapshot.persistentMetadata = (s.mouse u).metadata ∧
        snapshot.dpi = (s.mouse u).dpi profile
  | .writeDpi image _, r, s' => (s' = s ∧ ∃ e, r = .error e) ∨ ∃ u, s.attached endpoint.key = some u ∧
      s' = s.writeDpi u image ∧ ∀ actual, r = .ok (.readbackVerified actual) → actual = image
  | .writeProfileMetadata metadata, r, s' => (s' = s ∧ ∃ e, r = .error e) ∨ ∃ u, s.attached endpoint.key = some u ∧
      s' = s.writeMetadata u metadata ∧ ∀ actual, r = .ok (.readbackVerified actual) → actual = metadata
  | _, _, s' => s' = s

end Mice

variable {U : Type} [DecidableEq U]

/-- **The mice `U` as hardware.** -/
abbrev mice (U : Type) [DecidableEq U] : Hardware where
  State := Mice U
  Env := Hand U
  list s _ _ s' := s' = s
  open_ s endpoint r s' := s' = s ∧ (r = .ok () → (s.attached endpoint.key).isSome)
  session := Mice.answers
  moves s hand s' := s' = s.after hand

/-- The mice of a world. -/
def World.mice {ι μ : Type} (w : World (mice U) ι μ) : Mice U := w.hardware

namespace Mice

variable {s s' : Mice U}

@[simp] theorem change_attached (u : U) (f : Mouse → Mouse) : (s.change u f).attached = s.attached := rfl
@[simp] theorem writeDpi_attached (u : U) (image : DpiState) : (s.writeDpi u image).attached = s.attached := rfl
@[simp] theorem writeMetadata_attached (u : U) (m : ProfileMetadata) : (s.writeMetadata u m).attached = s.attached := rfl

@[simp] theorem writeMetadata_dpi (u v : U) (m : ProfileMetadata) : ((s.writeMetadata u m).mouse v).dpi = (s.mouse v).dpi := by
  unfold writeMetadata change
  by_cases h : v = u
  · subst h
    simp
  · simp [Function.update_of_ne h]

/-- A write changes one image of one mouse. -/
theorem writeDpi_dpi (u v : U) (image : DpiState) (p : ProfileId) :
    ((s.writeDpi u image).mouse v).dpi p = if v = u ∧ p = image.profile then image else (s.mouse v).dpi p := by
  unfold writeDpi change
  by_cases h : v = u
  · subst h
    by_cases hp : p = image.profile
    · simp [hp]
    · simp [hp]
  · simp [h]

/-- A move by hand keeps every DPI image. -/
theorem after_dpi (hand : Hand U) (v : U) : ((s.after hand).mouse v).dpi = (s.mouse v).dpi := by
  cases hand with
  | attach | detach => rfl
  | turn u metadata => exact writeMetadata_dpi u v metadata

/-- Sessions attach and detach nothing. -/
theorem answers_attached {endpoint : DeviceEndpoint} {call : SessionCall} {r} (h : s.answers endpoint call r s') :
    s'.attached = s.attached := by
  cases call with
  | readProfileMetadata | readDpi | readProfile => rw [h.1]
  | writeDpi =>
    rcases h with ⟨rfl, -⟩ | ⟨u, -, rfl, -⟩ <;> rfl
  | writeProfileMetadata =>
    rcases h with ⟨rfl, -⟩ | ⟨u, -, rfl, -⟩ <;> rfl
  | _ => rw [show s' = s from h]

/-- Only a DPI write changes a DPI image. -/
theorem answers_dpi {endpoint : DeviceEndpoint} {call : SessionCall} {r} (h : s.answers endpoint call r s') (v : U)
    (p : ProfileId) : (s'.mouse v).dpi p = (s.mouse v).dpi p ∨ ∃ image verification, call = .writeDpi image verification ∧
      s.attached endpoint.key = some v ∧ p = image.profile ∧ (s'.mouse v).dpi p = image := by
  cases call with
  | readProfileMetadata | readDpi | readProfile => exact .inl (by rw [h.1])
  | writeDpi image verification =>
    rcases h with ⟨rfl, -⟩ | ⟨u, hu, rfl, -⟩
    · exact .inl rfl
    · by_cases hv : v = u ∧ p = image.profile
      · exact .inr ⟨image, verification, rfl, hv.1 ▸ hu, hv.2, by rw [writeDpi_dpi, if_pos hv]⟩
      · exact .inl (by rw [writeDpi_dpi, if_neg hv])
  | writeProfileMetadata =>
    rcases h with ⟨rfl, -⟩ | ⟨u, -, rfl, -⟩
    · exact .inl rfl
    · exact .inl (by rw [writeMetadata_dpi])
  | _ => exact .inl (by rw [show s' = s from h])

end Mice

/-- **Only sessions and hands change the mice.** -/
theorem mice_of_step {ι μ : Type} [DecidableEq ι] [DecidableEq μ] {owner : ι → μ} {w w' : World (mice U) ι μ} {m}
    (h : World.step owner w m w') : w'.mice = w.mice ∨
      (∃ i endpoint call r, m = .op i (.session endpoint call) r ∧ w.mice.answers endpoint call r w'.mice) ∨
      ∃ hand, m = .env hand ∧ w'.mice = w.mice.after hand := by
  cases m with
  | op i o r =>
    cases o with
    | load => exact .inl (by rw [h.2])
    | commit t => obtain ⟨store, -, rfl⟩ := h; exact .inl rfl
    | acquire device operation => rcases h with ⟨-, -, rfl⟩ | ⟨-, rfl⟩ <;> exact .inl rfl
    | cached => exact .inl (by rw [h.2])
    | cacheInsert endpoint decode => cases h; exact .inl rfl
    | cacheRetain discovered => cases h; exact .inl rfl
    | list selection => obtain ⟨hardware, hs, rfl⟩ := h; exact .inl hs
    | open_ endpoint => obtain ⟨hardware, hs, rfl⟩ := h; exact .inl hs.1
    | session endpoint call => obtain ⟨hardware, hs, rfl⟩ := h; exact .inr (.inl ⟨i, endpoint, call, r, rfl, hs⟩)
    | now => cases h; exact .inl rfl
    | random => cases h; exact .inl rfl
    | abort site => exact h.elim
  | enter i call => cases h; exact .inl rfl
  | leave i result =>
    cases result with
    | some a => cases h; exact .inl rfl
    | none => rcases h with rfl | rfl <;> exact .inl rfl
  | env e => obtain ⟨hardware, hs, rfl⟩ := h; exact .inr (.inr ⟨e, rfl, hs⟩)

end AttackSharkX3
