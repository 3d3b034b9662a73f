import Mathlib.Algebra.BigOperators.Group.List
import Mathlib.Algebra.Order.Ring.Nat
import StellarSwipe.Kyc.Concurrent

namespace StellarSwipe.Kyc
open Prog
set_option autoImplicit true

/-- `ComplianceReportDto`; the two `Record`s keep their keys in the order the groups come. -/
structure ComplianceReportDto where
  reportDate : Timestamp
  totalVerifications : Nat
  approved : Nat
  pending : Nat
  rejected : Nat
  expired : Nat
  byLevel : List (String × Nat)
  byProvider : List (String × Nat)
  renewalsDue : Nat
  deriving DecidableEq, Repr

/-- The string value of a `KycProvider`. -/
def KycProvider.value : KycProvider → String
  | .persona => "persona"
  | .onfido => "onfido"

/-- A raw `GROUP BY` with `COUNT(*)`: one row per distinct value with the number of rows holding
it. The database returns the groups in no fixed order; here, by last occurrence. -/
def groupCount [DecidableEq α] (xs : List α) : List (α × Nat) :=
  xs.dedup.map fun x => (x, xs.count x)

/-- The 30 days of `thirtyDaysFromNow`. -/
def thirtyDaysMs : Nat := 30 * 24 * 60 * 60 * 1000

/-- `expiresAt: LessThan(thirtyDaysFromNow)`; a null `expiresAt` never matches. -/
def expiresBefore (t : Timestamp) (v : KycVerification) : Bool :=
  v.expiresAt.any (· < t)

def generateComplianceReport (env : KycEnv) : KycM ComplianceReportDto := do
  let total ← KycRepo.count fun _ => true
  let approved ← KycRepo.count (·.status == .approved)
  let pending ← KycRepo.count (·.status == .pending)
  let rejected ← KycRepo.count (·.status == .rejected)
  let expired ← KycRepo.count (·.status == .expired)
  let byLevel ← Prog.read fun s => groupCount ((s.verifications.filter (·.status == .approved)).map (·.level))
  let byProvider ← Prog.read fun s => groupCount (s.verifications.map (·.provider))
  let thirtyDaysFromNow := env.now + thirtyDaysMs
  let renewalsDue ← KycRepo.count fun v => v.status == .approved && expiresBefore thirtyDaysFromNow v
  return { reportDate := env.now, totalVerifications := total, approved, pending, rejected, expired,
           byLevel := byLevel.map fun r => ("level_" ++ toString r.1.toNat, r.2),
           byProvider := byProvider.map fun r => (r.1.value, r.2), renewalsDue }

theorem generateComplianceReport_run (env : KycEnv) (s : KycStore) :
    (generateComplianceReport env).run s =
      (.ok { reportDate := env.now, totalVerifications := s.verifications.length,
             approved := s.verifications.countP (·.status == .approved),
             pending := s.verifications.countP (·.status == .pending),
             rejected := s.verifications.countP (·.status == .rejected),
             expired := s.verifications.countP (·.status == .expired),
             byLevel := (groupCount ((s.verifications.filter (·.status == .approved)).map (·.level))).map
               fun r => ("level_" ++ toString r.1.toNat, r.2),
             byProvider := (groupCount (s.verifications.map (·.provider))).map fun r => (r.1.value, r.2),
             renewalsDue := s.verifications.countP fun v =>
               v.status == .approved && expiresBefore (env.now + thirtyDaysMs) v }, s) := by
  simp [generateComplianceReport, KycRepo.count, run_bind, List.countP_true]

theorem sum_groupCount [DecidableEq α] (xs : List α) : ((groupCount xs).map (·.2)).sum = xs.length := by
  rw [groupCount, List.map_map]
  exact List.sum_map_count_dedup_eq_length xs

theorem length_eq_countP_status (l : List KycVerification) :
    l.length = l.countP (·.status == .approved) + l.countP (·.status == .pending) +
      l.countP (·.status == .rejected) + l.countP (·.status == .expired) +
      l.countP (fun v => v.status == .underReview || v.status == .requiresAction) := by
  induction l with
  | nil => rfl
  | cons v l ih =>
    simp only [List.length_cons, List.countP_cons, ih]
    cases v.status <;> simp <;> omega

theorem countP_approved_split (t : Timestamp) (l : List KycVerification)
    (h : ∀ v ∈ l, v.status = .approved → v.expiresAt.isSome) :
    l.countP (·.status == .approved) =
      l.countP (fun v => v.status == .approved && expiresBefore t v) +
        l.countP (fun v => v.status == .approved && v.expiresAt.any (t ≤ ·)) := by
  induction l with
  | nil => rfl
  | cons v l ih =>
    simp only [List.countP_cons, ih fun w hw => h w (List.mem_cons_of_mem v hw)]
    by_cases hv : v.status = .approved
    · obtain ⟨e, he⟩ := Option.isSome_iff_exists.1 (h v (List.mem_cons_self v l) hv)
      by_cases het : e < t
      · simp [hv, he, het, expiresBefore, Nat.not_le.2 het]
        omega
      · simp [hv, he, het, expiresBefore, Nat.le_of_not_lt het]
        omega
    · simp [hv]

/-- `order: { level: 'DESC', createdAt: 'DESC' }`: the higher level first, then the newer row. -/
def byLevelThenNewest (a b : KycVerification) : Bool :=
  decide (b.level.toNat < a.level.toNat ∨ (a.level = b.level ∧ b.createdAt ≤ a.createdAt))

/-- `getUserKycStatus(userId)`: every row of the user, in the order the query asks for. -/
def getUserKycStatus (userId : String) : KycM (List KycVerification) :=
  Prog.read fun s => (s.verifications.filter (·.userId == userId)).mergeSort byLevelThenNewest

/-- The report's figures hold together on the table `s` at time `now`: the four status counts
miss exactly the rows under review or awaiting action, the provider groups add up to the total
and the level groups to the approved count, with no group for level 0, and every approved row is
either due for renewal within 30 days or expires later, so none is lost to a null expiry. -/
structure ComplianceReportDto.Coherent (s : KycStore) (now : Timestamp) (r : ComplianceReportDto) : Prop where
  statuses : r.totalVerifications = r.approved + r.pending + r.rejected + r.expired +
    s.verifications.countP (fun v => v.status == .underReview || v.status == .requiresAction)
  byProvider_sum : (r.byProvider.map (·.2)).sum = r.totalVerifications
  byLevel_sum : (r.byLevel.map (·.2)).sum = r.approved
  byLevel_keys : ∀ k ∈ r.byLevel.map (·.1), k = "level_1" ∨ k = "level_2"
  renewals : r.approved = r.renewalsDue +
    s.verifications.countP (fun v => v.status == .approved && v.expiresAt.any (now + thirtyDaysMs ≤ ·))

/-- On every consistent table, so on every table a run reaches, its requests one after another or
interleaved, the compliance report succeeds without changing anything, and its figures hold
together. -/
theorem complianceReport_consistent {s : KycStore} (hs : s.Consistent) (env : KycEnv) :
    ∃ r, (generateComplianceReport env).run s = (.ok r, s) ∧ r.Coherent s env.now := by
  refine ⟨_, generateComplianceReport_run env s, length_eq_countP_status _, ?_, ?_, ?_,
    countP_approved_split _ _ fun v hv => (hs.stamped v hv).approved⟩
  · simpa [List.map_map, Function.comp_def] using sum_groupCount (s.verifications.map (·.provider))
  · simpa [List.map_map, Function.comp_def, List.countP_eq_length_filter] using
      sum_groupCount ((s.verifications.filter (·.status == .approved)).map (·.level))
  · simp only [List.map_map, List.mem_map, Function.comp_apply, groupCount, List.mem_dedup]
    rintro _ ⟨l, ⟨v, hv, rfl⟩, rfl⟩
    have := hs.level_ne_none v (List.mem_of_mem_filter hv)
    cases hl : v.level <;> simp_all <;> decide

theorem complianceReport_consistent_approvedRun :
    (runCalls .empty approvedRun).Consistent ∧
      ∃ r, (generateComplianceReport sandboxEnv).run (runCalls .empty approvedRun) =
        (.ok r, runCalls .empty approvedRun) ∧ r.Coherent (runCalls .empty approvedRun) sandboxEnv.now :=
  ⟨(reachable_runCalls approvedRun).consistent,
    complianceReport_consistent (reachable_runCalls approvedRun).consistent sandboxEnv⟩

end StellarSwipe.Kyc
