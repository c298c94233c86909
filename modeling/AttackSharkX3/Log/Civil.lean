import Mathlib.Tactic.Common
/-!
# Civil — the time at the front of a log line

The clock counts seconds since the epoch.  The date of a day is computed in eras of 400 years that begin on March 1, so that
a leap day is the last day of its year.
-/
namespace AttackSharkX3

/-! ## Days to dates -/

/-- **The date of a day** since the epoch, which is not negative. -/
def daysToCivil (days : Int) : Int × Nat × Nat :=
  let shifted := days + 719468
  let era := shifted / 146097
  let dayOfEra := shifted - era * 146097
  let yearOfEra := (dayOfEra - dayOfEra / 1460 + dayOfEra / 36524 - dayOfEra / 146096) / 365
  let year := yearOfEra + era * 400
  let dayOfYear := dayOfEra - (365 * yearOfEra + yearOfEra / 4 - yearOfEra / 100)
  let monthPrime := (5 * dayOfYear + 2) / 153
  let day := (dayOfYear - (153 * monthPrime + 2) / 5 + 1).toNat
  let month := (if monthPrime < 10 then monthPrime + 3 else monthPrime - 9).toNat
  (if month ≤ 2 then year + 1 else year, month, day)

/-- `{:0width}` -/
def zeroPadded (width : Nat) (digits : String) : String :=
  String.ofList (List.replicate (width - digits.length) '0') ++ digits

/-- The date and the time of day of a second since the epoch. -/
structure UtcTime where
  date : Int × Nat × Nat
  hour : Nat
  minute : Nat
  second : Nat
deriving DecidableEq

def utcTime (secs : Nat) : UtcTime :=
  let clock := secs % 86400
  ⟨daysToCivil (secs / 86400 : Nat), clock / 3600, clock % 3600 / 60, clock % 60⟩

def formatUnixTimestamp (secs : Nat) : String :=
  let time := utcTime secs
  let (year, month, day) := time.date
  s!"{zeroPadded 4 (toString year)}-{zeroPadded 2 (toString month)}-{zeroPadded 2 (toString day)}T" ++
    s!"{zeroPadded 2 (toString time.hour)}:{zeroPadded 2 (toString time.minute)}:{zeroPadded 2 (toString time.second)}Z"

example : formatUnixTimestamp 1_709_251_199 = "2024-02-29T23:59:59Z" := by decide +kernel

/-! ## The calendar -/

def isLeapYear (year : Int) : Bool := year % 4 = 0 ∧ (year % 100 ≠ 0 ∨ year % 400 = 0)

def daysInMonth (leap : Bool) : Nat → Nat
  | 2 => if leap then 29 else 28
  | 4 | 6 | 9 | 11 => 30
  | _ => 31

/-- **The day after a date.** -/
def nextDay : Int × Nat × Nat → Int × Nat × Nat
  | (year, month, day) =>
    if day < daysInMonth (isLeapYear year) month then (year, month, day + 1)
    else if month < 12 then (year, month + 1, 1)
    else (year + 1, 1, 1)

/-- **A clock's next second.** -/
def UtcTime.tick (time : UtcTime) : UtcTime :=
  if time.second < 59 then { time with second := time.second + 1 }
  else if time.minute < 59 then { time with minute := time.minute + 1, second := 0 }
  else if time.hour < 23 then { time with hour := time.hour + 1, minute := 0, second := 0 }
  else ⟨nextDay time.date, 0, 0, 0⟩

/-! ## Years of an era -/

/-- The year a day of an era is in. -/
def yearOfEra (day : Int) : Int := (day - day / 1460 + day / 36524 - day / 146096) / 365

/-- The first day of a year of an era. -/
def yearStart (year : Int) : Int := 365 * year + year / 4 - year / 100

/-- The last day of a year of an era; the last year of an era ends with a leap day. -/
def yearEnd (year : Int) : Int := if year = 399 then 146096 else yearStart (year + 1) - 1

theorem yearOfEra_succ (day : Int) : yearOfEra day ≤ yearOfEra (day + 1) := by
  unfold yearOfEra
  have hsum : day - day / 1460 + day / 36524 - day / 146096 ≤
      day + 1 - (day + 1) / 1460 + (day + 1) / 36524 - (day + 1) / 146096 := by omega
  omega

theorem yearOfEra_mono {day later : Int} (hle : day ≤ later) : yearOfEra day ≤ yearOfEra later := by
  obtain ⟨n, rfl⟩ := Int.le.dest hle
  induction n with
  | zero => simp
  | succ n ih =>
    have hstep := yearOfEra_succ (day + n)
    have hbefore := ih (by omega)
    rw [Int.natCast_add, ← Int.add_assoc]
    exact Int.le_trans hbefore hstep

/-- The formula is right on the first and the last day of each year. -/
theorem yearOfEra_bounds : ∀ year : Fin 400, yearOfEra (yearStart year) = year ∧ yearOfEra (yearEnd year) = year := by
  decide +kernel

theorem yearOfEra_eq {day year : Int} (h : 0 ≤ year) (h' : year < 400) (hfirst : yearStart year ≤ day)
    (hlast : day ≤ yearEnd year) : yearOfEra day = year := by
  obtain ⟨hstart, hend⟩ := yearOfEra_bounds ⟨year.toNat, by omega⟩
  simp only [Int.toNat_of_nonneg h] at hstart hend
  have hlow := yearOfEra_mono hfirst
  have hhigh := yearOfEra_mono hlast
  omega

/-- **Each day of an era is in its year.** -/
theorem yearOfEra_spec {day : Int} (h : 0 ≤ day) (h' : day < 146097) : 0 ≤ yearOfEra day ∧ yearOfEra day < 400 ∧
    yearStart (yearOfEra day) ≤ day ∧ day ≤ yearEnd (yearOfEra day) := by
  have hlow : 0 ≤ yearOfEra day := by unfold yearOfEra; omega
  have hhigh : yearOfEra day < 400 := by unfold yearOfEra; omega
  refine ⟨hlow, hhigh, ?_, ?_⟩
  · by_contra hlt
    have hpositive : 1 ≤ yearOfEra day := by
      unfold yearStart at hlt
      omega
    have hprevious : day ≤ yearEnd (yearOfEra day - 1) := by
      have heq : yearOfEra day - 1 + 1 = yearOfEra day := by omega
      rw [yearEnd, if_neg (by omega), heq]
      omega
    have hmono := yearOfEra_mono hprevious
    rw [yearOfEra_eq (by omega) (by omega) (by unfold yearStart yearEnd yearStart; split <;> omega) (Int.le_refl _)] at hmono
    omega
  · by_contra hlt
    have hnotLast : yearOfEra day ≠ 399 := by
      intro heq
      rw [yearEnd, if_pos heq] at hlt
      omega
    have hnext : yearStart (yearOfEra day + 1) ≤ day := by
      rw [yearEnd, if_neg hnotLast] at hlt
      omega
    have hmono := yearOfEra_mono hnext
    rw [yearOfEra_eq (by omega) (by omega) (Int.le_refl _) (by unfold yearEnd yearStart; split <;> omega)] at hmono
    omega

/-! ## Days of a year -/

/-- The month and the day of a day of a year that begins on March 1. -/
def monthDay (dayOfYear : Int) : Nat × Nat :=
  let monthPrime := (5 * dayOfYear + 2) / 153
  ((if monthPrime < 10 then monthPrime + 3 else monthPrime - 9).toNat, (dayOfYear - (153 * monthPrime + 2) / 5 + 1).toNat)

/-- A date of the year that began on March 1 of `year`. -/
def dated (year : Int) (monthDay : Nat × Nat) : Int × Nat × Nat :=
  (if monthDay.1 ≤ 2 then year + 1 else year, monthDay.1, monthDay.2)

/-- The month and the day after these, and whether a new year begins. -/
def nextMonthDay (leap : Bool) (monthDay : Nat × Nat) : Bool × Nat × Nat :=
  if monthDay.2 < daysInMonth leap monthDay.1 then (false, monthDay.1, monthDay.2 + 1)
  else if monthDay.1 < 12 then (false, monthDay.1 + 1, 1)
  else (true, 1, 1)

theorem nextDay_eq (date : Int × Nat × Nat) : nextDay date =
    (if (nextMonthDay (isLeapYear date.1) date.2).1 then date.1 + 1 else date.1, (nextMonthDay (isLeapYear date.1) date.2).2) := by
  obtain ⟨year, month, day⟩ := date
  simp only [nextDay, nextMonthDay]
  split
  · rfl
  · split <;> rfl

/-- The days of a year but the last, the leap day among them; only February asks whether the year is a leap year. -/
theorem monthDay_next : ∀ leap asked : Bool, ∀ day : Fin 365, day < 364 + leap.toNat →
    ((monthDay day).1 ≤ 2 → asked = leap) →
      nextMonthDay asked (monthDay day) =
        (decide (2 < (monthDay day).1 ∧ (monthDay (day + 1 : Int)).1 ≤ 2), monthDay (day + 1 : Int)) ∧
      ((monthDay day).1 ≤ 2 → (monthDay (day + 1 : Int)).1 ≤ 2) := by
  decide +kernel

/-- The last day of the year that began on March 1 of `year`. -/
def lastDay (year : Int) : Int := 364 + (isLeapYear (year + 1)).toNat

/-- **A day that is not its year's last** is followed by the next day of the year. -/
theorem nextDay_within {year day : Int} (h : 0 ≤ day) (hlast : day < lastDay year) :
    nextDay (dated year (monthDay day)) = dated year (monthDay (day + 1)) := by
  have hsmall : (isLeapYear (year + 1)).toNat ≤ 1 := Bool.toNat_le _
  unfold lastDay at hlast
  obtain ⟨hstep, hstays⟩ := monthDay_next (isLeapYear (year + 1)) (isLeapYear (dated year (monthDay day)).1)
    ⟨day.toNat, by omega⟩ (by dsimp only; omega) (fun hwinter => by
      simp only [Int.toNat_of_nonneg h] at hwinter
      rw [dated, if_pos hwinter])
  simp only [Int.toNat_of_nonneg h] at hstep hstays
  rw [nextDay_eq, show (dated year (monthDay day)).2 = monthDay day from rfl, hstep]
  by_cases hwinter : (monthDay day).1 ≤ 2
  · simp [dated, hwinter, hstays hwinter, Nat.not_lt.2 hwinter]
  · by_cases hnext : (monthDay (day + 1)).1 ≤ 2
    · simp [dated, hwinter, hnext, Nat.not_le.1 hwinter]
    · simp [dated, hwinter, hnext]

/-- **The last day of a year** is followed by March 1. -/
theorem nextDay_last (year : Int) : nextDay (dated year (monthDay (lastDay year))) = dated (year + 1) (monthDay 0) := by
  rw [nextDay_eq]
  cases hleap : isLeapYear (year + 1) with
  | false =>
    simp [dated, lastDay, hleap, monthDay, nextMonthDay, daysInMonth]
  | true =>
    simp [dated, lastDay, hleap, monthDay, nextMonthDay, daysInMonth]

/-- The last day of a year of an era, in the year. -/
theorem yearEnd_eq {era year : Int} (h : 0 ≤ year) (h' : year < 400) :
    yearEnd year - yearStart year = lastDay (year + era * 400) := by
  unfold lastDay yearEnd yearStart
  cases hleap : isLeapYear (year + era * 400 + 1) with
  | false =>
    have hcommon := of_decide_eq_false hleap
    simp only [Bool.toNat_false]
    split <;> omega
  | true =>
    have hleap := of_decide_eq_true hleap
    simp only [Bool.toNat_true]
    split <;> omega

/-- A day of an era by its year and its day in the year. -/
theorem daysToCivil_eq {era day : Int} (h : 0 ≤ day) (h' : day < 146097) : daysToCivil (era * 146097 + day - 719468) =
    dated (yearOfEra day + era * 400) (monthDay (day - yearStart (yearOfEra day))) := by
  have hera : (era * 146097 + day) / 146097 = era := by omega
  have hday : era * 146097 + day - era * 146097 = day := by omega
  have heq : ∀ shifted : Int, daysToCivil (shifted - 719468) =
      dated (yearOfEra (shifted - shifted / 146097 * 146097) + shifted / 146097 * 400)
        (monthDay (shifted - shifted / 146097 * 146097 - yearStart (yearOfEra (shifted - shifted / 146097 * 146097)))) := by
    intro shifted
    rw [daysToCivil, Int.sub_add_cancel]
    rfl
  rw [heq, hera, hday]

/-- **The date of the next day is the next date.** -/
theorem nextDay_daysToCivil (days : Int) : nextDay (daysToCivil days) = daysToCivil (days + 1) := by
  obtain ⟨era, day, h, h', rfl⟩ : ∃ era day : Int, 0 ≤ day ∧ day < 146097 ∧ days = era * 146097 + day - 719468 :=
    ⟨(days + 719468) / 146097, (days + 719468) % 146097, by omega, by omega, by omega⟩
  obtain ⟨hlow, hhigh, hstart, hend⟩ := yearOfEra_spec h h'
  have hlast := @yearEnd_eq era (yearOfEra day) hlow hhigh
  rw [daysToCivil_eq h h']
  by_cases hyear : day < yearEnd (yearOfEra day)
  · -- the next day is in the same year
    have hnext : yearOfEra (day + 1) = yearOfEra day := yearOfEra_eq hlow hhigh (by omega) (by omega)
    have hera : day + 1 < 146097 := by
      unfold yearEnd yearStart at hyear
      split at hyear <;> omega
    rw [nextDay_within (by omega) (by omega), show era * 146097 + day - 719468 + 1 = era * 146097 + (day + 1) - 719468 by omega,
      daysToCivil_eq (by omega) hera, hnext, show day + 1 - yearStart (yearOfEra day) = day - yearStart (yearOfEra day) + 1 by omega]
  · rw [show day - yearStart (yearOfEra day) = lastDay (yearOfEra day + era * 400) by omega, nextDay_last]
    by_cases hera : yearOfEra day = 399
    · -- the next day begins an era
      have hday : day = 146096 := by
        rw [yearEnd, if_pos hera] at hend hyear
        omega
      rw [show era * 146097 + day - 719468 + 1 = (era + 1) * 146097 + 0 - 719468 by omega, daysToCivil_eq (by omega) (by omega), hera,
        show (399 : Int) + era * 400 + 1 = yearOfEra 0 + (era + 1) * 400 by rw [show yearOfEra 0 = 0 from rfl]; omega]
      rfl
    · have hfirst : day + 1 = yearStart (yearOfEra day + 1) := by
        rw [yearEnd, if_neg hera] at hend hyear
        omega
      have hnext : yearOfEra (day + 1) = yearOfEra day + 1 := by
        refine yearOfEra_eq (by omega) (by omega) (by omega) ?_
        unfold yearEnd yearStart at *
        split <;> omega
      rw [show era * 146097 + day - 719468 + 1 = era * 146097 + (day + 1) - 719468 by omega,
        daysToCivil_eq (by omega) (by unfold yearStart at hfirst; omega), hnext, hfirst, Int.sub_self,
        show yearOfEra day + 1 + era * 400 = yearOfEra day + era * 400 + 1 by omega]

/-- **The log's clock is the calendar's**: it begins at the epoch, and from each second to the next it ticks. -/
theorem utcTime_ticks : utcTime 0 = ⟨(1970, 1, 1), 0, 0, 0⟩ ∧ ∀ secs, utcTime (secs + 1) = (utcTime secs).tick := by
  refine ⟨by decide, fun secs => ?_⟩
  unfold utcTime UtcTime.tick
  dsimp only
  split
  · rw [show (secs + 1) / 86400 = secs / 86400 by omega]
    congr 1 <;> omega
  · split
    · rw [show (secs + 1) / 86400 = secs / 86400 by omega]
      congr 1 <;> omega
    · split
      · rw [show (secs + 1) / 86400 = secs / 86400 by omega]
        congr 1 <;> omega
      · rw [show (secs + 1) / 86400 = secs / 86400 + 1 by omega, nextDay_daysToCivil]
        congr 1 <;> omega

end AttackSharkX3
