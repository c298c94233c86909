import AttackSharkX3.Backends
import Mathlib.Data.List.DropRight
/-!
# GuiPreferences — the settings of the GUI

The GUI keeps its own settings in a file beside the state.  They are normalized when they are loaded and when they are
saved, and a save that would change nothing is skipped.  Bounds are whole numbers of DPI.
-/
namespace AttackSharkX3

def GUI_PREFERENCES_SCHEMA_VERSION : Nat := 1
def CUSTOM_NAME_DEFAULT : String := "custom mouse"
def MAX_CUSTOM_NAME_CHARS : Nat := 64
def DPI_MIN : Int := 50
def DPI_MAX : Int := 26000
def DPI_STEP : Int := 50
def DEFAULT_DPI_MIN : Int := 200
def DEFAULT_DPI_MAX : Int := 3200

structure GuiPreferences where
  schemaVersion : Nat := GUI_PREFERENCES_SCHEMA_VERSION
  /-- 0 follows the system, 1 is light and 2 dark. -/
  appearance : Int32 := 0
  /-- 0 and 1 are product names, 2 is the custom one. -/
  productNameChoice : Int32 := 0
  customProductName : String := CUSTOM_NAME_DEFAULT
  dpiMin : Int := DEFAULT_DPI_MIN
  dpiMax : Int := DEFAULT_DPI_MAX
  dpiLogScale : Bool := true
  lastPage : Int32 := 0
  /-- 1 is confirmed by the mouse. -/
  validationChoice : Int32 := 0
  /-- 1 is the stored baseline. -/
  baselineChoiceWired : Int32 := 0
  baselineChoiceReceiver : Int32 := 1
  allowExplicitDefaults : Bool := false
  warnNoLeftClick : Bool := true
deriving DecidableEq

namespace GuiPreferences

def default : GuiPreferences := {}

/-- `f32::round` of a quotient: a half goes away from zero. -/
def roundQuotient (value step : Int) : Int :=
  if 0 ≤ value then (2 * value + step) / (2 * step) else -((2 * -value + step) / (2 * step))

def clamp (value low high : Int) : Int := if value < low then low else if high < value then high else value

/-- The nearest multiple of a step; the cast to 16 bits saturates. -/
def roundDpiStep (value : Int) : UInt16 :=
  let step := clamp (roundQuotient value DPI_STEP) 0 65535
  .ofNat (clamp (step * DPI_STEP) 0 65535).toNat

def dpiBounds (low high : Int) : Int × Int :=
  let low := clamp (roundDpiStep low).toNat DPI_MIN (DPI_MAX - DPI_STEP)
  let high := clamp (roundDpiStep high).toNat (low + DPI_STEP) DPI_MAX
  (low, high)

/-- The name, trimmed, and cut after so many characters. -/
def truncatedName (name : String) : String := String.ofList ((trim name).toList.take MAX_CUSTOM_NAME_CHARS)

def normalizedName (name : String) : String :=
  if (truncatedName name).isEmpty then CUSTOM_NAME_DEFAULT else truncatedName name

/-- A choice between the default and two others. -/
def oneOrTwo (choice : Int32) : Int32 := if choice = 1 ∨ choice = 2 then choice else 0

/-- A choice between the default and another. -/
def oneOrZero (choice : Int32) : Int32 := if choice = 1 then 1 else 0

/-- A page that exists, or the first. -/
def knownPage (page : Int32) : Int32 := if 0 ≤ page ∧ page ≤ 5 then page else 0

/-- **Every setting validated and clamped.** -/
def normalized (prefs : GuiPreferences) : GuiPreferences :=
  { prefs with
    schemaVersion := GUI_PREFERENCES_SCHEMA_VERSION
    appearance := oneOrTwo prefs.appearance
    productNameChoice := oneOrTwo prefs.productNameChoice
    customProductName := normalizedName prefs.customProductName
    dpiMin := (dpiBounds prefs.dpiMin prefs.dpiMax).1
    dpiMax := (dpiBounds prefs.dpiMin prefs.dpiMax).2
    lastPage := knownPage prefs.lastPage
    validationChoice := oneOrZero prefs.validationChoice
    baselineChoiceWired := oneOrZero prefs.baselineChoiceWired
    baselineChoiceReceiver := oneOrZero prefs.baselineChoiceReceiver }

end GuiPreferences

/-! ## The file -/

/-- What `serde_json` does with the bytes of the settings file. -/
class GuiSerdeJson where
  schemaHeader : FileBytes → Option Nat
  guiPreferences : FileBytes → Option GuiPreferences
  toVecPretty : GuiPreferences → Except StateError FileBytes

/-- **What is written is read back**, with its schema, and no document is empty. -/
structure GuiSerdeJson.RoundTrips (serde : GuiSerdeJson) : Prop where
  reads : ∀ prefs bytes, serde.toVecPretty prefs = .ok bytes →
    serde.schemaHeader bytes = some prefs.schemaVersion ∧ serde.guiPreferences bytes = some prefs
  empty : serde.guiPreferences [] = none

/-- The text of an error of the file system itself. -/
def StateError.source : StateError → String
  | .io _ source => source
  | e => e.display

section Files

variable [GuiSerdeJson] (fs : FileSystem) (paths : StatePaths)

def writeAtomicGui (prefs : GuiPreferences) : FileOp Unit := do
  fs.step .parent
  let bytes ← FileOp.lift (GuiSerdeJson.toVecPretty prefs)
  replaceFile fs paths bytes
  fs.step .sync

/-- Backups of settings are named as those of the state are. -/
def createGuiBackupExclusive (bytes : FileBytes) (schema : Option Nat) : FileOp String :=
  createBackupExclusive fs paths bytes schema

/-- Settings that do not load are kept as a backup and replaced by the default ones. -/
def resetGuiPreferences (bytes : FileBytes) (schema : Option Nat) (message : String) (dir : Directory) :
    (GuiPreferences × Option String) × Directory :=
  let backup := (createGuiBackupExclusive fs paths bytes schema).apply dir
  let warning := match backup.1 with
    | .ok _ => s!"{message} — backup saved"
    | .error e => s!"{message}; the old file could not be backed up ({e.display})"
  let written := (writeAtomicGui fs paths GuiPreferences.default.normalized).apply backup.2
  let warning := match written.1 with
    | .ok () => warning
    | .error e => s!"{warning}; the reset could not be saved ({e.display})"
  ((.default, some warning), written.2)

/-- **Loads the settings**; a missing file is the default ones. -/
def loadGuiPreferencesFromPath (dir : Directory) : (GuiPreferences × Option String) × Directory :=
  match ((readFile fs paths.fileName).apply dir).1 with
  | .ok none => ((.default, none), dir)
  | .error e => ((.default, some s!"unable to read GUI preferences — using defaults ({e.source})"), dir)
  | .ok (some bytes) =>
    if bytes = [] then
      resetGuiPreferences fs paths bytes none "GUI preferences were empty and have been reset to defaults" dir
    else match GuiSerdeJson.schemaHeader bytes with
      | none =>
        resetGuiPreferences fs paths bytes none "GUI preferences were unreadable and have been reset to defaults" dir
      | some schema =>
        if schema ≠ GUI_PREFERENCES_SCHEMA_VERSION then
          resetGuiPreferences fs paths bytes (some schema)
            s!"GUI preferences use an unsupported local-data format (version {schema}) — reset to defaults" dir
        else match GuiSerdeJson.guiPreferences bytes with
          | some prefs => ((prefs.normalized, none), dir)
          | none =>
            resetGuiPreferences fs paths bytes none "GUI preferences were unreadable and have been reset to defaults" dir

/-- The file can be read, and its document is these settings once normalized; its schema is not looked at. -/
def holdsNormalized (normalized : GuiPreferences) (dir : Directory) : Bool :=
  match ((readFile fs paths.fileName).apply dir).1 with
  | .ok (some bytes) => (GuiSerdeJson.guiPreferences bytes).any (·.normalized = normalized)
  | _ => false

/-- **Saves the settings**, and answers whether it wrote. -/
def saveGuiPreferencesToPath (prefs : GuiPreferences) : FileOp Bool := do
  let normalized := prefs.normalized
  let dir ← get
  if holdsNormalized fs paths normalized dir then return false
  writeAtomicGui fs paths normalized
  return true

end Files

/-! ## Names -/

/-- No whitespace at either end. -/
def Trimmed (chars : List Char) : Prop :=
  (∀ c ∈ chars.head?, isWhitespace c = false) ∧ ∀ c ∈ chars.getLast?, isWhitespace c = false

theorem toList_trim (name : String) : (trim name).toList = (name.toList.dropWhile isWhitespace).rdropWhile isWhitespace := by
  rw [trim, String.toList_ofList, List.rdropWhile]

theorem trimmed_trim (name : String) : Trimmed (trim name).toList := by
  rw [toList_trim]
  refine ⟨fun c hc => ?_, fun c hc => ?_⟩
  · obtain ⟨rest, hrest⟩ := List.rdropWhile_prefix isWhitespace (name.toList.dropWhile isWhitespace)
    have hhead : c ∈ (name.toList.dropWhile isWhitespace).head? := by
      rw [← hrest, List.head?_append, hc]
      rfl
    have hnot := List.head?_dropWhile_not isWhitespace name.toList
    rw [Option.mem_def.1 hhead] at hnot
    simpa using hnot
  · obtain ⟨hne, hlast⟩ := List.mem_getLast?_eq_getLast hc
    rw [hlast]
    simpa using List.rdropWhile_last_not isWhitespace _ hne

theorem trim_of_trimmed {name : String} (h : Trimmed name.toList) : trim name = name := by
  obtain ⟨hhead, hlast⟩ := h
  rw [← String.toList_inj, toList_trim]
  have hdrop : name.toList.dropWhile isWhitespace = name.toList := by
    cases hchars : name.toList with
    | nil => rfl
    | cons c rest =>
      rw [hchars] at hhead
      rw [List.dropWhile_cons_of_neg]
      simpa using hhead c rfl
  rw [hdrop, List.rdropWhile_eq_self_iff]
  intro hne
  simpa using hlast _ (List.getLast?_eq_some_getLast hne)

/-- **A trimmed text that is cut is trimmed still**, unless it is cut after whitespace. -/
theorem trimmed_take {chars : List Char} (h : Trimmed chars) : Trimmed (chars.take MAX_CUSTOM_NAME_CHARS) ↔
    ∀ c, chars[63]? = some c → isWhitespace c = false := by
  obtain ⟨hhead, hlast⟩ := h
  have hsame : (chars.take MAX_CUSTOM_NAME_CHARS).head? = chars.head? := by
    cases chars <;> rfl
  have hend : (chars.take MAX_CUSTOM_NAME_CHARS).getLast? = chars[63]?.or chars.getLast? := List.getLast?_take
  rw [Trimmed, hsame, hend]
  constructor
  · rintro ⟨-, hcut⟩ c hc
    refine hcut c ?_
    rw [hc]
    rfl
  · intro hcut
    refine ⟨hhead, fun c hc => ?_⟩
    cases hchar : chars[63]? with
    | none =>
      rw [hchar] at hc
      exact hlast c hc
    | some d =>
      rw [hchar] at hc
      obtain rfl : d = c := Option.some.inj hc
      exact hcut d hchar

namespace GuiPreferences

/-- The name is not cut after whitespace. -/
def NameKept (name : String) : Prop := ∀ c, (trim name).toList[63]? = some c → isWhitespace c = false

theorem toList_truncatedName (name : String) :
    (truncatedName name).toList = (trim name).toList.take MAX_CUSTOM_NAME_CHARS := by
  rw [truncatedName, String.toList_ofList]

/-- A trimmed name that is not too long is kept. -/
theorem truncatedName_of_trimmed {name : String} (h : Trimmed name.toList) (hlength : name.toList.length ≤ MAX_CUSTOM_NAME_CHARS) :
    truncatedName name = name := by
  rw [← String.toList_inj, toList_truncatedName, trim_of_trimmed h, List.take_of_length_le hlength]

theorem length_truncatedName (name : String) : (truncatedName name).toList.length ≤ MAX_CUSTOM_NAME_CHARS := by
  rw [toList_truncatedName]
  exact List.length_take_le ..

/-- What is left of a name is trimmed, if cutting it changes nothing. -/
theorem trimmed_of_truncatedName {name : String} (h : truncatedName name = name) : Trimmed name.toList := by
  have hchars := congrArg String.toList h
  rw [toList_truncatedName] at hchars
  have hsame : (trim name).toList = name.toList := by
    have hprefix : (trim name).toList.length ≤ name.toList.length := by
      rw [toList_trim]
      exact (List.rdropWhile_prefix isWhitespace _).length_le.trans (List.dropWhile_suffix isWhitespace).length_le
    rw [← hchars, List.take_of_length_le]
    have hcount := congrArg List.length hchars
    rw [List.length_take] at hcount
    omega
  rw [← hsame]
  exact trimmed_trim name

theorem trimmed_default : Trimmed CUSTOM_NAME_DEFAULT.toList := by
  have hchars : CUSTOM_NAME_DEFAULT.toList = ['c', 'u', 's', 't', 'o', 'm', ' ', 'm', 'o', 'u', 's', 'e'] := by decide +kernel
  rw [hchars]
  refine ⟨fun c hc => ?_, fun c hc => ?_⟩
  · cases hc
    decide
  · cases hc
    decide

/-- **A normalized name is normalized again to itself** exactly if it was not cut after whitespace. -/
theorem normalizedName_idem_iff (name : String) :
    normalizedName (normalizedName name) = normalizedName name ↔ NameKept name := by
  have hkept : Trimmed (truncatedName name).toList ↔ NameKept name := by
    rw [toList_truncatedName]
    exact trimmed_take (trimmed_trim name)
  by_cases hempty : (truncatedName name).isEmpty = true
  · have hnormal : normalizedName name = CUSTOM_NAME_DEFAULT := if_pos hempty
    rw [hnormal, ← hkept]
    have hnil : (truncatedName name).toList = [] := by
      rw [String.isEmpty_iff.1 hempty]
      rfl
    refine ⟨fun _ => ?_, fun _ => by decide⟩
    rw [hnil]
    exact ⟨nofun, nofun⟩
  · have hnormal : normalizedName name = truncatedName name := if_neg hempty
    rw [hnormal, ← hkept]
    constructor
    · intro hsame
      unfold normalizedName at hsame
      split at hsame
      · rw [← hsame]
        exact trimmed_default
      · exact trimmed_of_truncatedName hsame
    · intro htrimmed
      rw [normalizedName, truncatedName_of_trimmed htrimmed (length_truncatedName name), if_neg hempty]

/-! ## Bounds -/

theorem clamp_mem {value low high : Int} (h : low ≤ high) : low ≤ clamp value low high ∧ clamp value low high ≤ high := by
  unfold clamp
  split
  · exact ⟨Int.le_refl _, h⟩
  split <;> omega

theorem clamp_of_mem {value low high : Int} (hlow : low ≤ value) (hhigh : value ≤ high) : clamp value low high = value := by
  rw [clamp, if_neg (Int.not_lt.2 hlow), if_neg (Int.not_lt.2 hhigh)]

/-- Clamped between multiples of the step, a multiple of it is one, and so is what lies beyond. -/
theorem clamp_step {value low high : Int} (hvalue : value % DPI_STEP = 0 ∨ high < value) (hlow : low % DPI_STEP = 0)
    (hhigh : high % DPI_STEP = 0) : clamp value low high % DPI_STEP = 0 := by
  unfold clamp
  split
  · exact hlow
  split
  · exact hhigh
  · next hnot =>
    exact hvalue.resolve_right hnot

/-- The rounded value, without its type. -/
theorem toNat_roundDpiStep (value : Int) : ((roundDpiStep value).toNat : Int) =
    clamp (clamp (roundQuotient value DPI_STEP) 0 65535 * DPI_STEP) 0 65535 := by
  obtain ⟨hlow, hhigh⟩ := @clamp_mem (clamp (roundQuotient value DPI_STEP) 0 65535 * DPI_STEP) 0 65535 (by decide)
  simp only [roundDpiStep, UInt16.toNat_ofNat']
  omega

/-- A rounded value is a multiple of the step, or the largest one. -/
theorem roundDpiStep_step (value : Int) : ((roundDpiStep value).toNat : Int) % DPI_STEP = 0 ∨
    ((roundDpiStep value).toNat : Int) = 65535 := by
  rw [toNat_roundDpiStep]
  obtain ⟨hlow, -⟩ := @clamp_mem (roundQuotient value DPI_STEP) 0 65535 (by decide)
  generalize clamp (roundQuotient value DPI_STEP) 0 65535 = step at hlow
  unfold clamp
  split
  · exact .inl rfl
  split
  · exact .inr rfl
  · exact .inl (Int.mul_emod_left _ _)

/-- **A multiple of the step is not rounded.** -/
theorem roundDpiStep_of_step {value : Int} (hlow : 0 ≤ value) (hhigh : value ≤ DPI_MAX) (hstep : value % DPI_STEP = 0) :
    ((roundDpiStep value).toNat : Int) = value := by
  simp only [DPI_MAX, DPI_STEP] at hhigh hstep
  have hquotient : roundQuotient value DPI_STEP = value / 50 := by
    rw [roundQuotient, if_pos hlow, DPI_STEP]
    omega
  have hclamped : clamp (value / 50) 0 65535 = value / 50 := clamp_of_mem (by omega) (by omega)
  have hproduct : value / 50 * DPI_STEP = value := by
    rw [DPI_STEP]
    omega
  rw [toNat_roundDpiStep, hquotient, hclamped, hproduct]
  exact clamp_of_mem hlow (by omega)

/-- The bounds of a range, as multiples of the step at least a step apart. -/
structure Bounds (low high : Int) : Prop where
  above : DPI_MIN ≤ low
  apart : low + DPI_STEP ≤ high
  below : high ≤ DPI_MAX
  lowStep : low % DPI_STEP = 0
  highStep : high % DPI_STEP = 0

theorem dpiBounds_bounds (low high : Int) : Bounds (dpiBounds low high).1 (dpiBounds low high).2 := by
  have hlow := @clamp_mem (roundDpiStep low).toNat DPI_MIN (DPI_MAX - DPI_STEP) (by decide)
  have hlowStep : clamp (roundDpiStep low).toNat DPI_MIN (DPI_MAX - DPI_STEP) % DPI_STEP = 0 := by
    refine clamp_step ((roundDpiStep_step low).imp_right fun heq => ?_) (by decide) (by decide)
    rw [heq]
    decide
  simp only [dpiBounds]
  generalize clamp (roundDpiStep low).toNat DPI_MIN (DPI_MAX - DPI_STEP) = first at hlow hlowStep
  have hle : first + DPI_STEP ≤ DPI_MAX := Int.add_le_of_le_sub_right hlow.2
  have hhigh := @clamp_mem (roundDpiStep high).toNat (first + DPI_STEP) DPI_MAX hle
  refine ⟨hlow.1, hhigh.1, hhigh.2, hlowStep, ?_⟩
  refine clamp_step ((roundDpiStep_step high).imp_right fun heq => ?_) ?_ (by decide)
  · rw [heq]
    decide
  · rw [Int.add_emod_right]
    exact hlowStep

/-- **Bounds are kept.** -/
theorem Bounds.dpiBounds {low high : Int} (h : Bounds low high) : GuiPreferences.dpiBounds low high = (low, high) := by
  obtain ⟨hlow, hapart, hhigh, hlowStep, hhighStep⟩ := h
  have hmin : (0 : Int) ≤ DPI_MIN := by decide
  have hstep : (0 : Int) ≤ DPI_STEP := by decide
  simp only [GuiPreferences.dpiBounds]
  rw [roundDpiStep_of_step (by omega) (by omega) hlowStep, clamp_of_mem hlow (by omega),
    roundDpiStep_of_step (by omega) hhigh hhighStep, clamp_of_mem hapart hhigh]

/-! ## Settings -/

/-- **Settings are normalized once**, exactly if their name is not cut after whitespace. -/
theorem normalized_idem_iff (prefs : GuiPreferences) : prefs.normalized.normalized = prefs.normalized ↔
    NameKept prefs.customProductName := by
  rw [← normalizedName_idem_iff]
  have hcustom (prefs : GuiPreferences) : prefs.normalized.customProductName = normalizedName prefs.customProductName := by
    rw [normalized]
  refine ⟨fun h => ?_, fun hname => ?_⟩
  · rw [← hcustom, ← hcustom, h]
  have honeOrTwo (choice : Int32) : oneOrTwo (oneOrTwo choice) = oneOrTwo choice := by
    unfold oneOrTwo
    split
    · rfl
    · rfl
  have honeOrZero (choice : Int32) : oneOrZero (oneOrZero choice) = oneOrZero choice := by
    unfold oneOrZero
    split <;> rfl
  have hpage (page : Int32) : knownPage (knownPage page) = knownPage page := by
    unfold knownPage
    split
    · rfl
    · exact ite_self 0
  have hbounds := (dpiBounds_bounds prefs.dpiMin prefs.dpiMax).dpiBounds
  simp only [normalized, hname, honeOrTwo, honeOrZero, hpage, hbounds]

end GuiPreferences

/-! ## What is saved is loaded -/

section Saved

open FileOp (apply_bind apply_get apply_lift apply_pure)

variable [serde : GuiSerdeJson] {fs : FileSystem} {paths : StatePaths} {prefs existing : GuiPreferences}
  {dir dir' : Directory} {bytes : FileBytes}

omit serde in
theorem readFile_of_reads {name : String} (hread : fs.fails .read = none) : ((readFile fs name).apply dir).1 = .ok dir[name]? := by
  simp only [readFile, apply_bind, apply_get]
  cases dir[name]? with
  | none => rfl
  | some bytes => simp only [apply_bind, FileSystem.step_apply, hread, apply_pure]

/-- What a save compares with is what the file holds. -/
theorem holdsNormalized_iff {normalized : GuiPreferences} : holdsNormalized fs paths normalized dir = true ↔
    ∃ bytes existing, dir[paths.fileName]? = some bytes ∧ fs.fails .read = none ∧
      serde.guiPreferences bytes = some existing ∧ existing.normalized = normalized := by
  simp only [holdsNormalized, readFile, apply_bind, apply_get]
  cases dir[paths.fileName]? with
  | none => simp
  | some bytes =>
    simp only [apply_bind, FileSystem.step_apply]
    cases fs.fails .read with
    | some e => simp
    | none => simp [Option.any_eq_true]

/-- **How a save ends**: with nothing written, or with the normalized settings in the file. -/
theorem of_saveGuiPreferences {wrote : Bool} (h : (saveGuiPreferencesToPath fs paths prefs).apply dir = (.ok wrote, dir')) :
    (wrote = false ∧ dir' = dir ∧ holdsNormalized fs paths prefs.normalized dir = true) ∨
    (wrote = true ∧ ∃ bytes, serde.toVecPretty prefs.normalized = .ok bytes ∧ dir' = dir.insert paths.fileName bytes) := by
  simp only [saveGuiPreferencesToPath, apply_bind, apply_get] at h
  by_cases hholds : holdsNormalized fs paths prefs.normalized dir = true
  · rw [if_pos hholds] at h
    cases h
    exact .inl ⟨rfl, rfl, hholds⟩
  · rw [if_neg hholds] at h
    simp only [writeAtomicGui, apply_bind, apply_lift, FileSystem.step_apply] at h
    cases hparent : fs.fails .parent with
    | some e => simp [hparent] at h
    | none =>
      cases hbytes : serde.toVecPretty prefs.normalized with
      | error e => simp [hparent, hbytes] at h
      | ok bytes =>
        rw [hparent, hbytes] at h
        dsimp only at h
        rcases replaceFile_cases fs paths dir bytes with happly | ⟨e, dir'', happly, -⟩
        · rw [happly] at h
          cases hsync : fs.fails .sync with
          | some e => simp [hsync] at h
          | none =>
            simp [hsync] at h
            exact .inr ⟨h.1, bytes, rfl, h.2.symm⟩
        · rw [happly] at h
          cases h

/-- A save that finds what it would write. -/
theorem saveGuiPreferences_holds (h : holdsNormalized fs paths prefs.normalized dir = true) :
    (saveGuiPreferencesToPath fs paths prefs).apply dir = (.ok false, dir) := by
  simp [saveGuiPreferencesToPath, apply_bind, h]

/-- Settings that had to be reset come with a warning. -/
theorem resetGuiPreferences_warns (schema : Option Nat) (message : String) :
    (resetGuiPreferences fs paths bytes schema message dir).1.2 ≠ none := nofun

/-- A document of this schema is loaded. -/
theorem load_of_current (hserde : serde.RoundTrips) (hread : fs.fails .read = none) (hfile : dir[paths.fileName]? = some bytes)
    (hheader : serde.schemaHeader bytes = some GUI_PREFERENCES_SCHEMA_VERSION)
    (hprefs : serde.guiPreferences bytes = some existing) :
    loadGuiPreferencesFromPath fs paths dir = ((existing.normalized, none), dir) := by
  have hne : bytes ≠ [] := by
    rintro rfl
    rw [hserde.empty] at hprefs
    cases hprefs
  simp [loadGuiPreferencesFromPath, readFile_of_reads hread, hfile, hne, hheader, hprefs]

/-- A document of another schema, or of none, is not. -/
theorem load_of_foreign (hserde : serde.RoundTrips) (hread : fs.fails .read = none) (hfile : dir[paths.fileName]? = some bytes)
    (hheader : serde.schemaHeader bytes ≠ some GUI_PREFERENCES_SCHEMA_VERSION)
    (hprefs : serde.guiPreferences bytes = some existing) : (loadGuiPreferencesFromPath fs paths dir).1.2 ≠ none := by
  have hne : bytes ≠ [] := by
    rintro rfl
    rw [hserde.empty] at hprefs
    cases hprefs
  simp only [loadGuiPreferencesFromPath, readFile_of_reads hread, hfile, hne, if_false]
  cases hschema : serde.schemaHeader bytes with
  | none => exact resetGuiPreferences_warns _ _
  | some schema =>
    have hother : schema ≠ GUI_PREFERENCES_SCHEMA_VERSION := by
      rintro rfl
      exact hheader hschema
    dsimp only
    rw [if_pos hother]
    exact resetGuiPreferences_warns _ _

variable (fs paths prefs dir) in
/-- **Settings are normalized once, their bounds are in order, and what is saved is loaded** and not written again. -/
structure SavedExactly : Prop where
  once : prefs.normalized.normalized = prefs.normalized
  above : DPI_MIN ≤ prefs.normalized.dpiMin
  apart : prefs.normalized.dpiMin + DPI_STEP ≤ prefs.normalized.dpiMax
  below : prefs.normalized.dpiMax ≤ DPI_MAX
  loaded : ∀ wrote dir', (saveGuiPreferencesToPath fs paths prefs).apply dir = (.ok wrote, dir') →
    ∀ fs' : FileSystem, fs'.fails .read = none →
      loadGuiPreferencesFromPath fs' paths dir' = ((prefs.normalized, none), dir') ∧
      (saveGuiPreferencesToPath fs' paths prefs).apply dir' = (.ok false, dir')

variable (fs paths prefs dir) in
/-- The file can be read, and holds these settings under another schema, or without one. -/
def HeldForeign : Prop := ∃ bytes existing, dir[paths.fileName]? = some bytes ∧ fs.fails .read = none ∧
  serde.guiPreferences bytes = some existing ∧ existing.normalized = prefs.normalized ∧
  serde.schemaHeader bytes ≠ some GUI_PREFERENCES_SCHEMA_VERSION

/-- **Settings are saved exactly** unless their name is cut after whitespace, or the file held them under another schema. -/
theorem saved_exactly_iff (hserde : serde.RoundTrips) : SavedExactly fs paths prefs dir ↔
    GuiPreferences.NameKept prefs.customProductName ∧ ¬ HeldForeign fs paths prefs dir := by
  constructor
  · intro h
    refine ⟨(GuiPreferences.normalized_idem_iff prefs).1 h.once, ?_⟩
    rintro ⟨bytes, existing, hfile, hread, hprefs, hsame, hheader⟩
    have hholds : holdsNormalized fs paths prefs.normalized dir = true :=
      holdsNormalized_iff.2 ⟨bytes, existing, hfile, hread, hprefs, hsame⟩
    have hloaded := (h.loaded false dir (saveGuiPreferences_holds hholds) fs hread).1
    refine load_of_foreign hserde hread hfile hheader hprefs ?_
    rw [hloaded]
  · rintro ⟨hname, hforeign⟩
    have honce := (GuiPreferences.normalized_idem_iff prefs).2 hname
    obtain ⟨habove, hapart, hbelow, -, -⟩ := GuiPreferences.dpiBounds_bounds prefs.dpiMin prefs.dpiMax
    refine ⟨honce, habove, hapart, hbelow, fun wrote dir' hsave fs' hread' => ?_⟩
    rcases of_saveGuiPreferences hsave with ⟨-, rfl, hholds⟩ | ⟨-, bytes, hbytes, rfl⟩
    · -- the file held the settings before: under this schema, since it is not a foreign one
      obtain ⟨bytes, existing, hfile, hread, hprefs, hsame⟩ := holdsNormalized_iff.1 hholds
      have hheader : serde.schemaHeader bytes = some GUI_PREFERENCES_SCHEMA_VERSION := by
        by_contra hother
        exact hforeign ⟨bytes, existing, hfile, hread, hprefs, hsame, hother⟩
      refine ⟨?_, saveGuiPreferences_holds (holdsNormalized_iff.2 ⟨bytes, existing, hfile, hread', hprefs, hsame⟩)⟩
      rw [load_of_current hserde hread' hfile hheader hprefs, hsame]
    · have hfile : (dir.insert paths.fileName bytes)[paths.fileName]? = some bytes := BTreeMap.get_insert_self ..
      obtain ⟨hheader, hprefs⟩ := hserde.reads _ bytes hbytes
      refine ⟨?_, saveGuiPreferences_holds (holdsNormalized_iff.2 ⟨bytes, _, hfile, hread', hprefs, honce⟩)⟩
      rw [load_of_current hserde hread' hfile hheader hprefs, honce]

end Saved

namespace Rig

def guiJson : StatePaths := ⟨"/state", "gui-preferences.json"⟩

/-- The default settings, written under the schema version with this digit. -/
def guiJsonOf (version : UInt8) : FileBytes :=
  "\x7b\n  \"schemaVersion\": ".toUTF8.toList ++ version ::
    (",\n  \"appearance\": 0,\n  \"productNameChoice\": 0,\n  \"customProductName\": \"custom mouse\",\n" ++
      "  \"dpiMin\": 200.0,\n  \"dpiMax\": 3200.0,\n  \"dpiLogScale\": true,\n  \"lastPage\": 0,\n" ++
      "  \"validationChoice\": 0,\n  \"baselineChoiceWired\": 0,\n  \"baselineChoiceReceiver\": 1,\n" ++
      "  \"allowExplicitDefaults\": false,\n  \"warnNoLeftClick\": true\n\x7d").toUTF8.toList

theorem guiJsonOf_inj {version version' : UInt8} (h : guiJsonOf version = guiJsonOf version') : version = version' :=
  (List.cons.inj (List.append_cancel_left h)).1

/-- The default settings as they are written, and as another schema has them. -/
instance guiSerde : GuiSerdeJson where
  schemaHeader bytes := if bytes = guiJsonOf 0x31 then some 1 else if bytes = guiJsonOf 0x32 then some 2 else none
  guiPreferences bytes := if bytes = guiJsonOf 0x31 then some .default
    else if bytes = guiJsonOf 0x32 then some { GuiPreferences.default with schemaVersion := 2 } else none
  toVecPretty prefs := if prefs = .default then .ok (guiJsonOf 0x31) else .error (.serde "key must be a string")

theorem guiSerde_roundTrips : guiSerde.RoundTrips := by
  refine ⟨fun prefs bytes hbytes => ?_, ?_⟩
  · change (if prefs = GuiPreferences.default then Except.ok (guiJsonOf 0x31) else _) = _ at hbytes
    change (if bytes = guiJsonOf 0x31 then some 1 else _) = _ ∧
      (if bytes = guiJsonOf 0x31 then some GuiPreferences.default else _) = _
    split at hbytes
    · next hdefault =>
      cases hbytes
      rw [if_pos rfl, if_pos rfl, hdefault]
      exact ⟨rfl, rfl⟩
    · cases hbytes
  · have hnil : ∀ version, ([] : FileBytes) ≠ guiJsonOf version := fun version =>
      (List.append_ne_nil_of_right_ne_nil _ (List.cons_ne_nil _ _)).symm
    exact (if_neg (hnil _)).trans (if_neg (hnil _))

theorem guiSerde_second : guiSerde.schemaHeader (guiJsonOf 0x32) = some 2 ∧
    guiSerde.guiPreferences (guiJsonOf 0x32) = some { GuiPreferences.default with schemaVersion := 2 } := by
  have hother : guiJsonOf 0x32 ≠ guiJsonOf 0x31 := fun h => absurd (guiJsonOf_inj h) (by decide)
  exact ⟨(if_neg hother).trans (if_pos rfl), (if_neg hother).trans (if_pos rfl)⟩

/-- The default settings are saved where there is no file. -/
theorem saves_default : ∃ dir, (saveGuiPreferencesToPath faultless guiJson .default).apply ∅ = (.ok true, dir) ∧
    loadGuiPreferencesFromPath faultless guiJson dir = ((GuiPreferences.default.normalized, none), dir) ∧
    (saveGuiPreferencesToPath faultless guiJson .default).apply dir = (.ok false, dir) := by
  have hexact : SavedExactly faultless guiJson .default ∅ := by
    refine (saved_exactly_iff guiSerde_roundTrips).2 ⟨fun c hc => ?_, ?_⟩
    · have hshort : (trim GuiPreferences.default.customProductName).toList[63]? = none := by decide +kernel
      rw [hshort] at hc
      cases hc
    · rintro ⟨bytes, existing, hfile, -⟩
      simp at hfile
  have hwrote : ((saveGuiPreferencesToPath faultless guiJson .default).apply ∅).1 = .ok true := by decide +kernel
  obtain ⟨hloaded, hagain⟩ := hexact.loaded true _ (Prod.ext hwrote rfl) faultless rfl
  exact ⟨_, Prod.ext hwrote rfl, hloaded, hagain⟩

/-- A name that is cut after a blank. -/
def cutName : String := String.ofList (List.replicate 63 'a' ++ [' ', 'b'])

theorem cutName_normalized : ({ GuiPreferences.default with customProductName := cutName } : GuiPreferences).normalized.normalized ≠
    ({ GuiPreferences.default with customProductName := cutName } : GuiPreferences).normalized := by
  decide +kernel

/-- **Settings with such a name are not normalized at once**; and settings held under another schema are not written, and
are lost when they are loaded. -/
theorem saves_inexactly :
    ({ GuiPreferences.default with customProductName := cutName } : GuiPreferences).normalized.normalized ≠
      ({ GuiPreferences.default with customProductName := cutName } : GuiPreferences).normalized ∧
    ((saveGuiPreferencesToPath faultless guiJson .default).apply
        ((∅ : Directory).insert "gui-preferences.json" (guiJsonOf 0x32))).1 = .ok false ∧
    (loadGuiPreferencesFromPath faultless guiJson ((∅ : Directory).insert "gui-preferences.json" (guiJsonOf 0x32))).1.2 ≠
      none := by
  have hfile : ((∅ : Directory).insert "gui-preferences.json" (guiJsonOf 0x32))[guiJson.fileName]? = some (guiJsonOf 0x32) :=
    BTreeMap.get_insert_self ..
  obtain ⟨hheader, hprefs⟩ := guiSerde_second
  have hheld : holdsNormalized faultless guiJson GuiPreferences.default.normalized
      ((∅ : Directory).insert "gui-preferences.json" (guiJsonOf 0x32)) = true :=
    holdsNormalized_iff.2 ⟨_, _, hfile, rfl, hprefs, rfl⟩
  refine ⟨cutName_normalized, ?_, ?_⟩
  · rw [saveGuiPreferences_holds hheld]
  · refine load_of_foreign guiSerde_roundTrips rfl hfile ?_ hprefs
    rw [hheader]
    decide

end Rig
end AttackSharkX3
