import Mathlib.Tactic.IntervalCases

namespace StellarSwipe.Compliance

def msPerDay : Int := 86400000

/-- DayFromYear: the day number of the first day of year `y`. -/
def dayFromYear (y : Int) : Int :=
  365 * (y - 1970) + (y - 1969) / 4 - (y - 1901) / 100 + (y - 1601) / 400

def daysInYear (y : Int) : Int :=
  if y % 4 ≠ 0 then 365 else if y % 100 ≠ 0 then 366 else if y % 400 ≠ 0 then 365 else 366

def inLeapYear (y : Int) : Int := daysInYear y - 365

/-- The day within the year on which month `mn` starts (0 is January, 12 the first day of the
next year): the lower bounds of MonthFromTime's table. -/
def monthStartDay (leap : Int) : Nat → Int
  | 0 => 0
  | 1 => 31
  | 2 => 59 + leap
  | 3 => 90 + leap
  | 4 => 120 + leap
  | 5 => 151 + leap
  | 6 => 181 + leap
  | 7 => 212 + leap
  | 8 => 243 + leap
  | 9 => 273 + leap
  | 10 => 304 + leap
  | 11 => 334 + leap
  | _ => 365 + leap

/-- MonthFromTime, on the day `w` within a year with `leap` leap days. -/
def monthFromDayWithinYear (leap w : Int) : Int :=
  if w < 31 then 0 else if w < 59 + leap then 1 else if w < 90 + leap then 2
  else if w < 120 + leap then 3 else if w < 151 + leap then 4 else if w < 181 + leap then 5
  else if w < 212 + leap then 6 else if w < 243 + leap then 7 else if w < 273 + leap then 8
  else if w < 304 + leap then 9 else if w < 334 + leap then 10 else 11

/-- YearFromTime on day numbers: the largest `y` with `dayFromYear y ≤ d`. The year of average
length, 146097/400 days, lands within one year of it. -/
def yearFromDay (d : Int) : Int :=
  let y := 1970 + 400 * d / 146097
  if d < dayFromYear y then y - 1 else if dayFromYear (y + 1) ≤ d then y + 1 else y

/-- MakeDay: the day number of day `date` of month `month` (from 0) of `year`; a month outside
0..11 carries into an earlier or later year. -/
def makeDay (year month date : Int) : Int :=
  let ym := year + month / 12
  dayFromYear ym + monthStartDay (inLeapYear ym) (month % 12).toNat + date - 1

def makeTime (hour min sec ms : Int) : Int := hour * 3600000 + min * 60000 + sec * 1000 + ms

def makeDate (day time : Int) : Int := day * msPerDay + time

/-- TimeClip: a time value more than 8.64e15 ms from the epoch is the invalid date. -/
def timeClip (t : Int) : Option Int := if t.natAbs ≤ 8640000000000000 then some t else none

/-- MakeFullYear: the constructor reads the years 0 to 99 as 1900 to 1999. -/
def makeFullYear (y : Int) : Int := if 0 ≤ y ∧ y ≤ 99 then 1900 + y else y

/-- `new Date(year, monthIndex, date, hours, minutes, seconds)`: the local date made into a time
value by taking off the offset `tz`. -/
def newDate (tz year month date hours minutes seconds : Int) : Option Int :=
  timeClip (makeDate (makeDay (makeFullYear year) month date) (makeTime hours minutes seconds 0) - tz)

def localDay (tz t : Int) : Int := (t + tz) / msPerDay

/-- `getFullYear()` of the time value `t`. -/
def getFullYear (tz t : Int) : Int := yearFromDay (localDay tz t)

/-- `getMonth()` of the time value `t`, from 0. -/
def getMonth (tz t : Int) : Int :=
  monthFromDayWithinYear (inLeapYear (getFullYear tz t)) (localDay tz t - dayFromYear (getFullYear tz t))

theorem dayFromYear_succ (y : Int) : dayFromYear (y + 1) = dayFromYear y + daysInYear y := by
  have h₄ : (y + 1 - 1969) / 4 = (y - 1969) / 4 + if y % 4 = 0 then 1 else 0 := by split_ifs <;> omega
  have h₁₀₀ : (y + 1 - 1901) / 100 = (y - 1901) / 100 + if y % 100 = 0 then 1 else 0 := by split_ifs <;> omega
  have h₄₀₀ : (y + 1 - 1601) / 400 = (y - 1601) / 400 + if y % 400 = 0 then 1 else 0 := by split_ifs <;> omega
  unfold dayFromYear daysInYear
  rw [h₄, h₁₀₀, h₄₀₀]
  by_cases h4 : y % 4 = 0 <;> by_cases h100 : y % 100 = 0 <;> by_cases h400 : y % 400 = 0 <;>
    simp only [h4, h100, h400, if_true, if_false, ne_eq, not_true_eq_false, not_false_eq_true] <;> omega

theorem inLeapYear_mem (y : Int) : inLeapYear y = 0 ∨ inLeapYear y = 1 := by
  unfold inLeapYear daysInYear
  split_ifs <;> simp

theorem daysInYear_eq (y : Int) : daysInYear y = 365 + inLeapYear y := by
  unfold inLeapYear
  omega

theorem inLeapYear_nonneg (y : Int) : 0 ≤ inLeapYear y := by
  rcases inLeapYear_mem y with h | h <;> omega

theorem dayFromYear_strictMono : StrictMono dayFromYear := strictMono_int_of_lt_succ fun y => by
  rw [dayFromYear_succ, daysInYear_eq]
  have := inLeapYear_nonneg y
  omega

theorem dayFromYear_estimate (d : Int) :
    dayFromYear (1970 + 400 * d / 146097 - 1) ≤ d ∧ d < dayFromYear (1970 + 400 * d / 146097 + 1 + 1) := by
  unfold dayFromYear
  constructor <;> omega

theorem yearFromDay_spec (d : Int) :
    dayFromYear (yearFromDay d) ≤ d ∧ d < dayFromYear (yearFromDay d + 1) := by
  have hest := dayFromYear_estimate d
  unfold yearFromDay
  dsimp only
  split_ifs with h₁ h₂
  · exact ⟨hest.1, by simpa using h₁⟩
  · exact ⟨h₂, hest.2⟩
  · exact ⟨not_lt.1 h₁, not_le.1 h₂⟩

theorem yearFromDay_eq {d y : Int} (h₁ : dayFromYear y ≤ d) (h₂ : d < dayFromYear (y + 1)) :
    yearFromDay d = y := by
  obtain ⟨hs₁, hs₂⟩ := yearFromDay_spec d
  have h₃ := dayFromYear_strictMono.lt_iff_lt.1 (lt_of_le_of_lt hs₁ h₂)
  have h₄ := dayFromYear_strictMono.lt_iff_lt.1 (lt_of_le_of_lt h₁ hs₂)
  omega

theorem monthFromDayWithinYear_eq {leap w : Int} (hleap : 0 ≤ leap) {mn : Nat} (hmn : mn < 12)
    (h : monthStartDay leap mn ≤ w ∧ w < monthStartDay leap (mn + 1)) :
    monthFromDayWithinYear leap w = mn := by
  obtain ⟨h₁, h₂⟩ := h
  unfold monthFromDayWithinYear
  interval_cases mn <;> simp only [monthStartDay] at h₁ h₂ <;>
    (repeat rw [if_neg (by omega)]) <;> (try rw [if_pos (by omega)]) <;> rfl

theorem monthFromDayWithinYear_mem (leap w : Int) :
    0 ≤ monthFromDayWithinYear leap w ∧ monthFromDayWithinYear leap w < 12 := by
  unfold monthFromDayWithinYear
  simp only [apply_ite (fun x : Int => 0 ≤ x ∧ x < 12), Int.reduceLE, Int.reduceLT, and_self, ite_self]

theorem monthStartDay_lt {leap : Int} (hleap : 0 ≤ leap) {mn : Nat} (hmn : mn < 12) :
    monthStartDay leap mn < monthStartDay leap (mn + 1) := by
  interval_cases mn <;> simp only [monthStartDay] <;> omega

theorem exists_month_of_dayWithinYear (leap w : Int) (h₀ : 0 ≤ w) (h₁ : w < 365 + leap) :
    ∃ mn < 12, monthStartDay leap mn ≤ w ∧ w < monthStartDay leap (mn + 1) := by
  have hsearch : ∀ n, w < monthStartDay leap n → ∃ mn < n, monthStartDay leap mn ≤ w ∧ w < monthStartDay leap (mn + 1) := by
    intro n
    induction n with
    | zero => intro h; exact absurd h (not_lt.2 h₀)
    | succ n ih =>
      intro h
      by_cases hn : w < monthStartDay leap n
      · obtain ⟨mn, hlt, hmn⟩ := ih hn
        exact ⟨mn, by omega, hmn⟩
      · exact ⟨n, by omega, not_lt.1 hn, h⟩
  exact hsearch 12 h₁

theorem monthStartDay_mem {leap : Int} (hleap : 0 ≤ leap) {mn : Nat} (hmn : mn ≤ 12) :
    0 ≤ monthStartDay leap mn ∧ monthStartDay leap mn ≤ 365 + leap := by
  interval_cases mn <;> simp only [monthStartDay] <;> omega

@[ext]
structure YearMonth where
  year : Int
  month : Int
  one_le_month : 1 ≤ month
  month_le_twelve : month ≤ 12
deriving DecidableEq

namespace YearMonth

/-- The calendar month after `p`. -/
def next (p : YearMonth) : YearMonth :=
  if h : p.month = 12 then ⟨p.year + 1, 1, le_rfl, by decide⟩
  else ⟨p.year, p.month + 1, by have := p.one_le_month; omega, by have := p.month_le_twelve; omega⟩

/-- The calendar month before `p`: January's is December of the year before. -/
def prev (p : YearMonth) : YearMonth :=
  if h : p.month = 1 then ⟨p.year - 1, 12, by decide, le_rfl⟩
  else ⟨p.year, p.month - 1, by have := p.one_le_month; omega, by have := p.month_le_twelve; omega⟩

/-- `p` with its year read as the `Date` constructor reads it. -/
def fullYear (p : YearMonth) : YearMonth := { p with year := makeFullYear p.year }

/-- The day number of the first day of `p`. -/
def startDay (p : YearMonth) : Int :=
  dayFromYear p.year + monthStartDay (inLeapYear p.year) (p.month - 1).toNat

/-- The first instant of `p`: local midnight of its first day. -/
def start (tz : Int) (p : YearMonth) : Int := p.startDay * msPerDay - tz

/-- The instants of `p`, from its first instant up to the next month's. -/
def Contains (tz : Int) (p : YearMonth) (t : Int) : Prop := p.start tz ≤ t ∧ t < p.next.start tz

instance (tz : Int) (p : YearMonth) (t : Int) : Decidable (p.Contains tz t) :=
  inferInstanceAs (Decidable (_ ∧ _))

/-- The month `getFullYear` and `getMonth` read from the day number `d`. -/
def ofDay (d : Int) : YearMonth :=
  ⟨yearFromDay d, monthFromDayWithinYear (inLeapYear (yearFromDay d)) (d - dayFromYear (yearFromDay d)) + 1,
    by have := monthFromDayWithinYear_mem (inLeapYear (yearFromDay d)) (d - dayFromYear (yearFromDay d)); omega,
    by have := monthFromDayWithinYear_mem (inLeapYear (yearFromDay d)) (d - dayFromYear (yearFromDay d)); omega⟩

/-- The month of the time value `t`. -/
def ofTime (tz t : Int) : YearMonth := ofDay (localDay tz t)

@[simp] theorem ofTime_year (tz t : Int) : (ofTime tz t).year = getFullYear tz t := rfl

@[simp] theorem ofTime_month (tz t : Int) : (ofTime tz t).month = getMonth tz t + 1 := rfl

@[simp] theorem fullYear_year (p : YearMonth) : p.fullYear.year = makeFullYear p.year := rfl

@[simp] theorem fullYear_month (p : YearMonth) : p.fullYear.month = p.month := rfl

theorem fullYear_of_not_twoDigit {p : YearMonth} (hp : p.year < 0 ∨ 99 < p.year) : p.fullYear = p := by
  ext
  · simp only [fullYear_year, makeFullYear]
    rw [if_neg (by omega)]
  · rfl

theorem next_startDay (p : YearMonth) :
    p.next.startDay = dayFromYear p.year + monthStartDay (inLeapYear p.year) p.month.toNat := by
  unfold next startDay
  split_ifs with h
  · simp only [h, sub_self, Int.toNat_zero, dayFromYear_succ, inLeapYear, Int.reduceToNat, monthStartDay]
    omega
  · simp only [add_sub_cancel_right]

theorem startDay_lt_next (p : YearMonth) : p.startDay < p.next.startDay := by
  have h₁ := p.one_le_month
  have h₂ := p.month_le_twelve
  have hlt := monthStartDay_lt (inLeapYear_nonneg p.year) (show (p.month - 1).toNat < 12 by omega)
  rw [show (p.month - 1).toNat + 1 = p.month.toNat by omega] at hlt
  rw [next_startDay, startDay]
  omega

theorem ofDay_eq_of_mem {p : YearMonth} {d : Int} (h₁ : p.startDay ≤ d) (h₂ : d < p.next.startDay) :
    ofDay d = p := by
  have hm₁ := p.one_le_month
  have hm₂ := p.month_le_twelve
  have hleap := inLeapYear_nonneg p.year
  have hlo := monthStartDay_mem hleap (show (p.month - 1).toNat ≤ 12 by omega)
  have hhi := monthStartDay_mem hleap (show p.month.toNat ≤ 12 by omega)
  rw [startDay] at h₁
  rw [next_startDay] at h₂
  have hyear : yearFromDay d = p.year :=
    yearFromDay_eq (by omega) (by rw [dayFromYear_succ, daysInYear_eq]; omega)
  have hmonth := monthFromDayWithinYear_eq hleap (show (p.month - 1).toNat < 12 by omega)
    (w := d - dayFromYear p.year)
    ⟨by omega, by rw [show (p.month - 1).toNat + 1 = p.month.toNat by omega]; omega⟩
  ext
  · exact hyear
  · simp only [ofDay, hyear, hmonth]
    omega

theorem ofDay_eq_iff {p : YearMonth} {d : Int} : ofDay d = p ↔ p.startDay ≤ d ∧ d < p.next.startDay := by
  refine ⟨fun h => ?_, fun h => ofDay_eq_of_mem h.1 h.2⟩
  obtain ⟨hs₁, hs₂⟩ := yearFromDay_spec d
  rw [dayFromYear_succ, daysInYear_eq] at hs₂
  obtain ⟨mn, hmn, hw⟩ := exists_month_of_dayWithinYear (inLeapYear (yearFromDay d))
    (d - dayFromYear (yearFromDay d)) (by omega) (by omega)
  let q : YearMonth := ⟨yearFromDay d, mn + 1, by omega, by omega⟩
  have hq₁ : q.startDay ≤ d := by
    simp only [startDay, q, add_sub_cancel_right, Int.toNat_ofNat]
    omega
  have hq₂ : d < q.next.startDay := by
    rw [next_startDay]
    simp only [q, show ((mn : Int) + 1).toNat = mn + 1 by omega]
    omega
  rw [← h, ofDay_eq_of_mem hq₁ hq₂]
  exact ⟨hq₁, hq₂⟩

theorem contains_iff {tz t : Int} {p : YearMonth} : p.Contains tz t ↔ ofTime tz t = p := by
  rw [ofTime, ofDay_eq_iff, Contains, start, start, localDay, msPerDay]
  omega

theorem start_lt_next (tz : Int) (p : YearMonth) : p.start tz < p.next.start tz := by
  have := startDay_lt_next p
  rw [start, start, msPerDay]
  omega

theorem start_le_iterate (tz : Int) (p : YearMonth) (n : Nat) : p.start tz ≤ (next^[n] p).start tz := by
  induction n with
  | zero => exact le_rfl
  | succ n ih =>
    rw [Function.iterate_succ_apply']
    exact ih.trans (start_lt_next tz _).le

theorem ofTime_start (tz : Int) (p : YearMonth) : ofTime tz (p.start tz) = p := by
  have := startDay_lt_next p
  refine contains_iff.1 ⟨le_rfl, ?_⟩
  rw [start, start, msPerDay]
  omega

theorem makeDay_first (p : YearMonth) : makeDay p.year (p.month - 1) 1 = p.startDay := by
  have h₁ := p.one_le_month
  have h₂ := p.month_le_twelve
  rw [makeDay, startDay, show (p.month - 1) / 12 = 0 by omega, show (p.month - 1) % 12 = p.month - 1 by omega]
  simp only [add_zero, add_sub_cancel_right]

theorem makeDay_zero (p : YearMonth) : makeDay p.year p.month 0 = p.next.startDay - 1 := by
  have h₁ := p.one_le_month
  have h₂ := p.month_le_twelve
  rw [next_startDay]
  by_cases h : p.month = 12
  · rw [makeDay, h]
    simp only [Int.reduceDiv, Int.reduceMod, Int.toNat_zero, Int.reduceToNat, monthStartDay,
      dayFromYear_succ, daysInYear_eq]
    omega
  · rw [makeDay, show p.month / 12 = 0 by omega, show p.month % 12 = p.month by omega]
    simp only [add_zero]

theorem makeDay_prev (p : YearMonth) : makeDay p.year (p.month - 2) 1 = p.prev.startDay := by
  have h₁ := p.one_le_month
  have h₂ := p.month_le_twelve
  unfold prev
  split_ifs with h
  · rw [makeDay, h]
    simp only [startDay, Int.reduceSub, Int.reduceDiv, Int.reduceMod, Int.reduceToNat, ← sub_eq_add_neg]
    omega
  · rw [makeDay, startDay, show (p.month - 2) / 12 = 0 by omega, show (p.month - 2) % 12 = p.month - 1 - 1 by omega]
    simp only [add_zero, add_sub_cancel_right]

theorem newDate_first (tz : Int) (p : YearMonth) :
    newDate tz p.year (p.month - 1) 1 0 0 0 = timeClip (p.fullYear.start tz) := by
  rw [newDate, makeTime, makeDate, start, ← fullYear_year, ← fullYear_month, makeDay_first]
  simp only [zero_mul, add_zero]

theorem newDate_lastSecond (tz : Int) (p : YearMonth) :
    newDate tz p.year p.month 0 23 59 59 = timeClip (p.fullYear.next.start tz - 1000) := by
  rw [newDate, makeTime, makeDate, start, ← fullYear_year, ← fullYear_month, makeDay_zero, msPerDay]
  congr 1
  omega

theorem newDate_prev (tz : Int) (p : YearMonth) :
    newDate tz p.year (p.month - 2) 1 0 0 0 = timeClip (p.fullYear.prev.start tz) := by
  rw [newDate, makeTime, makeDate, start, ← fullYear_year, ← fullYear_month, makeDay_prev]
  simp only [zero_mul, add_zero]

end YearMonth

end StellarSwipe.Compliance
