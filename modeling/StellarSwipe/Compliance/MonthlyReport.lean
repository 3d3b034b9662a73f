import StellarSwipe.Compliance.AuditReports

namespace StellarSwipe.Compliance

/-- What `getAmlRiskSummary` returns. -/
structure AmlRiskSummary where
  highRiskTransactions : Nat
  suspiciousPatterns : List String
  actionsRequired : Nat
  deriving DecidableEq

/-- `getAmlRiskSummary(startDate, endDate)`: the same summary for every window. -/
def getAmlRiskSummary (_window : Option Int × Option Int) : AmlRiskSummary :=
  ⟨0, [], 0⟩

structure AuditTrailCounts where
  totalEvents : Nat
  failedActions : Nat
  suspiciousActivities : Nat
  deriving DecidableEq

/-- What `generateMonthlyComplianceReport` returns, its generation time apart. -/
structure MonthlyComplianceReport where
  period : String
  tradeVolume : TradeVolumeReport
  financial : FinancialSummary
  auditTrail : AuditTrailCounts
  amlRisks : AmlRiskSummary
  deriving DecidableEq

/-- `generateMonthlyComplianceReport(year, month)`: the four parts of the `Promise.all` run on the
month's window, and the report fails when one of them does. -/
def generateMonthlyComplianceReport (tz : Int) (trades : List Trade) (logs : List AuditLog) (year month : Int) :
    Option MonthlyComplianceReport := do
  let window := reportWindow tz year month
  let tradeVolume ← generateTradeVolumeReport window trades
  let financial ← generateFinancialSummary window trades
  let auditTrail ← generateAuditReport window logs true
  let amlRisks := getAmlRiskSummary window
  pure ⟨toString year ++ "-" ++ padStart (toString month) 2 '0', tradeVolume, financial,
    ⟨auditTrail.totalEvents, auditTrail.failedActions, auditTrail.suspiciousActivities⟩, amlRisks⟩

/-- An instant of the month `p`, outside its last second. -/
def countedIn (tz : Int) (p : YearMonth) (t : Int) : Bool :=
  decide (YearMonth.ofTime tz t = p ∧ t + 1000 ≤ p.next.start tz)

theorem findBetween_reportWindow (tz : Int) {p : YearMonth} (hp : p.year < 0 ∨ 99 < p.year)
    (hstart : (timeClip (p.start tz)).isSome) (hend : (timeClip (p.next.start tz - 1000)).isSome)
    {ρ : Type} (createdAt : ρ → Int) (rows : List ρ) :
    findBetween createdAt (reportWindow tz p.year p.month) rows =
      some (rows.filter fun r => countedIn tz p (createdAt r)) := by
  obtain ⟨a, ha⟩ := Option.isSome_iff_exists.1 hstart
  obtain ⟨b, hb⟩ := Option.isSome_iff_exists.1 hend
  have hw : reportWindow tz p.year p.month = (some a, some b) := by
    rw [reportWindow_eq, YearMonth.fullYear_of_not_twoDigit hp, ha, hb]
  have hmem := windowContains_reportWindow_iff_ofTime tz hp
  rw [hw] at hmem
  rw [hw, findBetween]
  congr 1
  exact List.filter_congr fun r _ => by
    rw [Bool.eq_iff_iff, hmem]
    simp [countedIn, hstart, hend]

theorem generateMonthlyComplianceReport_counts (tz : Int) (trades : List Trade) (logs : List AuditLog)
    {p : YearMonth} (hp : p.year < 0 ∨ 99 < p.year) (hstart : (timeClip (p.start tz)).isSome)
    (hend : (timeClip (p.next.start tz - 1000)).isSome) :
    ∃ r, generateMonthlyComplianceReport tz trades logs p.year p.month = some r ∧
      r.tradeVolume.totalTrades = (trades.filter fun t => countedIn tz p t.createdAt).length ∧
      r.auditTrail.totalEvents = (logs.filter fun l => countedIn tz p l.createdAt).length ∧
      r.auditTrail.failedActions =
        ((logs.filter (·.status == "FAILURE")).filter fun l => countedIn tz p l.createdAt).length ∧
      r.auditTrail.suspiciousActivities =
        ((logs.filter (·.action == "SUSPICIOUS_ACTIVITY")).filter fun l => countedIn tz p l.createdAt).length := by
  have hperm := List.perm_insertionSort (fun a b : AuditLog => b.createdAt ≤ a.createdAt)
    (logs.filter fun l => countedIn tz p l.createdAt)
  simp only [generateMonthlyComplianceReport, generateTradeVolumeReport, generateFinancialSummary,
    generateAuditReport, auditLogsBetween, tradesBetween, findBetween_reportWindow tz hp hstart hend, Option.map_some', Option.bind_eq_bind,
    Option.some_bind, Option.pure_def, Option.some.injEq, exists_eq_left', true_and]
  refine ⟨hperm.length_eq, ?_, ?_⟩ <;> rw [List.filter_comm] <;> exact (hperm.filter _).length_eq

/-- The instants from the start of `p` to the start of the `n`-th month after it, outside the
last second of their month. -/
def countedBetween (tz : Int) (p : YearMonth) (n : Nat) (t : Int) : Bool :=
  decide (p.start tz ≤ t ∧ t < (YearMonth.next^[n] p).start tz ∧ t + 1000 ≤ (YearMonth.ofTime tz t).next.start tz)

theorem sum_countedIn (tz : Int) {ρ : Type} (createdAt : ρ → Int) (rows : List ρ) (p : YearMonth) (n : Nat) :
    ((List.range n).map fun i => (rows.filter fun r => countedIn tz (YearMonth.next^[i] p) (createdAt r)).length).sum =
      (rows.filter fun r => countedBetween tz p n (createdAt r)).length := by
  induction n with
  | zero =>
    rw [List.range_zero, List.map_nil, List.sum_nil, eq_comm, List.length_eq_zero, List.filter_eq_nil_iff]
    intro r _
    simp only [countedBetween, Function.iterate_zero_apply, decide_eq_true_eq]
    omega
  | succ n ih =>
    have hmono := YearMonth.start_le_iterate tz p n
    have hnext := YearMonth.start_lt_next tz (YearMonth.next^[n] p)
    rw [List.range_succ, List.map_append, List.sum_append, ih, List.map_singleton, List.sum_singleton,
      List.length_eq_length_filter_add (l := rows.filter fun r => countedBetween tz p (n + 1) (createdAt r))
        fun r => decide (createdAt r < (YearMonth.next^[n] p).start tz), List.filter_filter, List.filter_filter]
    congr 2
    · refine List.filter_congr fun r _ => ?_
      rw [Bool.eq_iff_iff]
      simp only [countedBetween, Function.iterate_succ_apply', Bool.and_eq_true, decide_eq_true_eq]
      omega
    · refine List.filter_congr fun r _ => ?_
      rw [Bool.eq_iff_iff]
      simp only [countedBetween, countedIn, Function.iterate_succ_apply', Bool.and_eq_true, decide_eq_true_eq,
        Bool.not_eq_true', decide_eq_false_iff_not, not_lt]
      constructor
      · rintro ⟨hof, h₃⟩
        have hc := YearMonth.contains_iff.2 hof
        rw [hof]
        exact ⟨hc.1, hmono.trans hc.1, hc.2, h₃⟩
      · rintro ⟨h₁, -, h₂, h₃⟩
        have hof := YearMonth.contains_iff.1 ⟨h₁, h₂⟩
        rw [hof] at h₃
        exact ⟨hof, h₃⟩

/-- A figure of the monthly reports of the `n` months from `p`, summed, a failed report counting
0. -/
def monthlyTotal (tz : Int) (trades : List Trade) (logs : List AuditLog) (p : YearMonth) (n : Nat)
    (figure : MonthlyComplianceReport → Nat) : Nat :=
  ((List.range n).map fun i => ((generateMonthlyComplianceReport tz trades logs (YearMonth.next^[i] p).year
    (YearMonth.next^[i] p).month).map figure).getD 0).sum

theorem monthlyTotal_eq {tz : Int} {trades : List Trade} {logs : List AuditLog} {p : YearMonth} {n : Nat}
    {figure : MonthlyComplianceReport → Nat} {ρ : Type} (createdAt : ρ → Int) (rows : List ρ)
    (h : ∀ i < n, ∃ r, generateMonthlyComplianceReport tz trades logs (YearMonth.next^[i] p).year
      (YearMonth.next^[i] p).month = some r ∧
        figure r = (rows.filter fun x => countedIn tz (YearMonth.next^[i] p) (createdAt x)).length) :
    monthlyTotal tz trades logs p n figure = (rows.filter fun x => countedBetween tz p n (createdAt x)).length := by
  rw [monthlyTotal, ← sum_countedIn]
  congr 1
  refine List.map_congr_left fun i hi => ?_
  obtain ⟨r, hr, hfig⟩ := h i (List.mem_range.1 hi)
  rw [hr, Option.map_some', Option.getD_some, hfig]

/-- Over `n` consecutive months from `p`, with years not read as 19xx and windows in range, the
monthly reports count every trade, audit event, failed action and suspicious activity of the
period once, but for those of the last second of a month, which they all miss. -/
theorem monthlyReports_add_up (tz : Int) (trades : List Trade) (logs : List AuditLog) (p : YearMonth) (n : Nat)
    (hyears : ∀ i < n, (YearMonth.next^[i] p).year < 0 ∨ 99 < (YearMonth.next^[i] p).year)
    (hrange : ∀ i < n, (timeClip ((YearMonth.next^[i] p).start tz)).isSome ∧
      (timeClip ((YearMonth.next^[i] p).next.start tz - 1000)).isSome) :
    monthlyTotal tz trades logs p n (·.tradeVolume.totalTrades) =
        (trades.filter fun t => countedBetween tz p n t.createdAt).length ∧
      monthlyTotal tz trades logs p n (·.auditTrail.totalEvents) =
        (logs.filter fun l => countedBetween tz p n l.createdAt).length ∧
      monthlyTotal tz trades logs p n (·.auditTrail.failedActions) =
        ((logs.filter (·.status == "FAILURE")).filter fun l => countedBetween tz p n l.createdAt).length ∧
      monthlyTotal tz trades logs p n (·.auditTrail.suspiciousActivities) =
        ((logs.filter (·.action == "SUSPICIOUS_ACTIVITY")).filter fun l => countedBetween tz p n l.createdAt).length := by
  have hmonth (i : Nat) (hi : i < n) :=
    generateMonthlyComplianceReport_counts tz trades logs (hyears i hi) (hrange i hi).1 (hrange i hi).2
  refine ⟨monthlyTotal_eq _ _ fun i hi => ?_, monthlyTotal_eq _ _ fun i hi => ?_,
    monthlyTotal_eq _ _ fun i hi => ?_, monthlyTotal_eq _ _ fun i hi => ?_⟩ <;>
  · obtain ⟨r, hr, h₁, h₂, h₃, h₄⟩ := hmonth i hi
    exact ⟨r, hr, by assumption⟩

theorem monthlyReports_add_up_2024 :
    (∀ i < 2, (YearMonth.next^[i] ⟨2024, 1, by decide, by decide⟩).year < 0 ∨
      99 < (YearMonth.next^[i] ⟨2024, 1, by decide, by decide⟩).year) ∧
    (∀ i < 2, (timeClip ((YearMonth.next^[i] ⟨2024, 1, by decide, by decide⟩).start 0)).isSome ∧
      (timeClip ((YearMonth.next^[i] ⟨2024, 1, by decide, by decide⟩).next.start 0 - 1000)).isSome) ∧
    (monthlyTotal 0 [] [⟨"LOGIN", some "u1", "FAILURE", none, 1704067200000⟩,
        ⟨"LOGIN", some "u1", "FAILURE", none, 1706745600000⟩] ⟨2024, 1, by decide, by decide⟩ 2
        (fun r => r.auditTrail.failedActions) =
      ((([⟨"LOGIN", some "u1", "FAILURE", none, 1704067200000⟩,
        ⟨"LOGIN", some "u1", "FAILURE", none, 1706745600000⟩] : List AuditLog).filter
          fun l => l.status == "FAILURE").filter
            fun l => countedBetween 0 ⟨2024, 1, by decide, by decide⟩ 2 l.createdAt).length) := by
  have hyears : ∀ i < 2, (YearMonth.next^[i] ⟨2024, 1, by decide, by decide⟩).year < 0 ∨
      99 < (YearMonth.next^[i] ⟨2024, 1, by decide, by decide⟩).year := by decide
  have hrange : ∀ i < 2, (timeClip ((YearMonth.next^[i] ⟨2024, 1, by decide, by decide⟩).start 0)).isSome ∧
      (timeClip ((YearMonth.next^[i] ⟨2024, 1, by decide, by decide⟩).next.start 0 - 1000)).isSome := by decide
  exact ⟨hyears, hrange, (monthlyReports_add_up 0 [] _ _ 2 hyears hrange).2.2.1⟩

end StellarSwipe.Compliance
