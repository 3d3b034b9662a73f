import StellarSwipe.Compliance.Dates

namespace StellarSwipe.Compliance

/-- The dates `generateMonthlyComplianceReport(year, month)` passes to the trade and audit
exporters: `new Date(year, month - 1, 1)` and `new Date(year, month, 0, 23, 59, 59)`. -/
def reportWindow (tz year month : Int) : Option Int × Option Int :=
  (newDate tz year (month - 1) 1 0 0 0, newDate tz year month 0 23 59 59)

/-- The exporters' `createdAt: Between(startDate, endDate)`: SQL `BETWEEN`, both ends included.
A query with an invalid date fails, and selects nothing. -/
def windowContains : Option Int × Option Int → Int → Bool
  | (some s, some e), t => decide (s ≤ t ∧ t ≤ e)
  | _, _ => false

/-- `s.padStart(n, c)`. -/
def padStart (s : String) (n : Nat) (c : Char) : String :=
  ⟨List.replicate (n - s.length) c ++ s.data⟩

/-- The file the job saves the report of `year` and `month` to. -/
def reportFileName (year month : Int) : String :=
  "compliance_report_" ++ toString year ++ "_" ++ padStart (toString month) 2 '0' ++ ".json"

/-- `generateMonthlyReports` run at `now`: `lastMonth` is
`new Date(now.getFullYear(), now.getMonth() - 1)`. The log line's `lastMonth.toISOString()`,
before the try block, throws a RangeError on the invalid date; otherwise the job asks for the
report of `lastMonth`'s year and month and saves it under `reportFileName`. -/
def generateMonthlyReports (tz now : Int) : Except String (Int × Int × String) :=
  match newDate tz (getFullYear tz now) (getMonth tz now - 1) 1 0 0 0 with
  | none => .error "Invalid time value"
  | some lastMonth =>
    .ok (getFullYear tz lastMonth, getMonth tz lastMonth + 1,
      reportFileName (getFullYear tz lastMonth) (getMonth tz lastMonth + 1))

theorem reportWindow_eq (tz : Int) (p : YearMonth) :
    reportWindow tz p.year p.month =
      (timeClip (p.fullYear.start tz), timeClip (p.fullYear.next.start tz - 1000)) := by
  rw [reportWindow, YearMonth.newDate_first, YearMonth.newDate_lastSecond]

theorem windowContains_iff {s e : Option Int} {t : Int} :
    windowContains (s, e) t = true ↔ ∃ a b, s = some a ∧ e = some b ∧ a ≤ t ∧ t ≤ b := by
  rcases s with _ | a <;> rcases e with _ | b <;> simp [windowContains]

theorem timeClip_eq_some {t a : Int} (h : timeClip t = some a) : a = t := by
  unfold timeClip at h
  split_ifs at h
  exact (Option.some.inj h).symm

theorem windowContains_reportWindow (tz : Int) (p : YearMonth) (t : Int) :
    windowContains (reportWindow tz p.year p.month) t = true ↔
      (timeClip (p.fullYear.start tz)).isSome ∧ (timeClip (p.fullYear.next.start tz - 1000)).isSome ∧
        p.fullYear.start tz ≤ t ∧ t + 1000 ≤ p.fullYear.next.start tz := by
  rw [reportWindow_eq, windowContains_iff]
  constructor
  · rintro ⟨a, b, ha, hb, h₁, h₂⟩
    rw [ha, hb]
    rw [timeClip_eq_some ha] at h₁
    rw [timeClip_eq_some hb] at h₂
    exact ⟨rfl, rfl, h₁, by omega⟩
  · rintro ⟨ha, hb, h₁, h₂⟩
    obtain ⟨a, ha⟩ := Option.isSome_iff_exists.1 ha
    obtain ⟨b, hb⟩ := Option.isSome_iff_exists.1 hb
    rw [timeClip_eq_some ha] at ha
    rw [timeClip_eq_some hb] at hb
    exact ⟨_, _, ha, hb, h₁, by omega⟩

theorem windowContains_reportWindow_iff_ofTime (tz : Int) {p : YearMonth} (hp : p.year < 0 ∨ 99 < p.year)
    (t : Int) : windowContains (reportWindow tz p.year p.month) t = true ↔
      (timeClip (p.start tz)).isSome ∧ (timeClip (p.next.start tz - 1000)).isSome ∧
        YearMonth.ofTime tz t = p ∧ t + 1000 ≤ p.next.start tz := by
  rw [windowContains_reportWindow, YearMonth.fullYear_of_not_twoDigit hp, ← YearMonth.contains_iff,
    YearMonth.Contains]
  constructor
  · rintro ⟨h₁, h₂, h₃, h₄⟩
    exact ⟨h₁, h₂, ⟨h₃, by omega⟩, h₄⟩
  · rintro ⟨h₁, h₂, ⟨h₃, -⟩, h₄⟩
    exact ⟨h₁, h₂, h₃, h₄⟩

theorem generateMonthlyReports_eq (tz now : Int) :
    generateMonthlyReports tz now =
      match timeClip ((YearMonth.ofTime tz now).fullYear.prev.start tz) with
      | none => .error "Invalid time value"
      | some _ => .ok ((YearMonth.ofTime tz now).fullYear.prev.year,
          (YearMonth.ofTime tz now).fullYear.prev.month,
          reportFileName (YearMonth.ofTime tz now).fullYear.prev.year
            (YearMonth.ofTime tz now).fullYear.prev.month) := by
  have hlast := YearMonth.newDate_prev tz (YearMonth.ofTime tz now)
  rw [YearMonth.ofTime_year, YearMonth.ofTime_month, show getMonth tz now + 1 - 2 = getMonth tz now - 1 by omega]
    at hlast
  unfold generateMonthlyReports
  rw [hlast]
  cases h : timeClip ((YearMonth.ofTime tz now).fullYear.prev.start tz) with
  | none => dsimp only
  | some a =>
    dsimp only
    rw [timeClip_eq_some h, ← YearMonth.ofTime_year, ← YearMonth.ofTime_month, YearMonth.ofTime_start]

/-- The window of the monthly report, and the month the job asks for: for every calendar month
`p` whose year is not read as 19xx, the report of `p` counts exactly the instants from the
month's first one to one second before the next month's, and the job run at any instant of `p`
asks for the report of the month before, December of the year before in January. -/
theorem monthly_report_window (tz : Int) (p : YearMonth) (hp : p.year < 0 ∨ 99 < p.year) (t now : Int) :
    (windowContains (reportWindow tz p.year p.month) t = true ↔
      (timeClip (p.start tz)).isSome ∧ (timeClip (p.next.start tz - 1000)).isSome ∧
        p.start tz ≤ t ∧ t + 1000 ≤ p.next.start tz) ∧
    (p.Contains tz now → (timeClip (p.prev.start tz)).isSome →
      generateMonthlyReports tz now = .ok (p.prev.year, p.prev.month, reportFileName p.prev.year p.prev.month)) := by
  have hfull := YearMonth.fullYear_of_not_twoDigit hp
  refine ⟨by rw [windowContains_reportWindow, hfull], fun hnow hprev => ?_⟩
  obtain ⟨a, ha⟩ := Option.isSome_iff_exists.1 hprev
  rw [generateMonthlyReports_eq, YearMonth.contains_iff.1 hnow, hfull, ha]

theorem monthly_report_window_february :
    generateMonthlyReports 0 1706745600000 = .ok (2024, 1, "compliance_report_2024_01.json") := by
  have h := (monthly_report_window 0 ⟨2024, 2, by decide, by decide⟩ (Or.inr (by decide)) 0
    1706745600000).2 (by decide) (by decide)
  rw [h]
  rfl

/-- The last half second of January 2024 (UTC) lies in January, yet neither the January nor the
February report counts it. -/
theorem monthly_report_gap :
    YearMonth.ofTime 0 1706745599500 = ⟨2024, 1, by decide, by decide⟩ ∧
      windowContains (reportWindow 0 2024 1) 1706745599500 = false ∧
      windowContains (reportWindow 0 2024 2) 1706745599500 = false := by
  decide

end StellarSwipe.Compliance
