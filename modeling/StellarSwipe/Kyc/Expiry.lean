import StellarSwipe.Kyc.ActiveLevel
import StellarSwipe.Kyc.Lifecycle

namespace StellarSwipe.Kyc
open Prog
set_option autoImplicit true

theorem isSweepable_iff {now : Timestamp} {v : KycVerification} :
    isSweepable now v = true ↔ v.status = .approved ∧ ∃ e, v.expiresAt = some e ∧ e < now := by
  unfold isSweepable isPastExpiry
  cases v.expiresAt <;> simp

@[simp] theorem KycVerification.patch_expired (v : KycVerification) :
    v.patch { status := some .expired } = { v with status := .expired } := rfl

variable {env : KycEnv}

theorem expireEach_run_eq (vs : List KycVerification) (t : KycStore) :
    let done := vs.takeWhile fun v => !env.fails (.update v.id)
    let r := (expireEach env vs).run t
    r.1.toBool = vs.all (fun v => !env.fails (.update v.id)) ∧
    r.2.verifications =
      t.verifications.map (fun w => if w.id ∈ done.map (·.id) then { w with status := .expired } else w) ∧
    r.2.auditLogs = t.auditLogs ++ (done.filter fun v => !env.fails (.audit .expired (some v.id))).map
      (fun v => ⟨v.userId, some v.id, .expired, .expired v.expiresAt v.level, none⟩) ∧
    r.2.events = t.events ++ done.map (fun v => .expired v.userId v.level v.id) ∧
    r.2.providerCalls = t.providerCalls ∧ r.2.nextId = t.nextId := by
  induction vs generalizing t with
  | nil => simp [expireEach_run_nil, Except.toBool]
  | cons v vs ih =>
    rw [expireEach_run_cons]
    cases hu : env.fails (.update v.id)
    · obtain ⟨h1, h2, h3, h4, h5, h6⟩ := ih (((t.updateById v.id { status := some .expired }).appendAudit
        (env.fails (.audit .expired (some v.id)))
        ⟨v.userId, some v.id, .expired, .expired v.expiresAt v.level, none⟩).emitAll
        [.expired v.userId v.level v.id])
      simp only [if_false, Bool.false_eq_true, List.takeWhile_cons, hu, Bool.not_false, if_true,
        List.all_cons, Bool.true_and, List.map_cons, List.filter_cons] at h1 h2 h3 h4 h5 h6 ⊢
      refine ⟨h1, ?_, ?_, by simp [h4], by simp [h5], by simp [h6]⟩
      · rw [h2]
        simp only [KycStore.emitAll_verifications, KycStore.appendAudit_verifications,
          KycStore.updateById_verifications, List.map_map]
        refine List.map_congr_left fun w _ => ?_
        by_cases h : w.id = v.id <;>
          simp only [List.mem_map, KycVerification.patch_expired, Function.comp_apply, h, ↓reduceIte,
            ite_self, List.mem_cons, true_or, false_or]
      · rw [h3]
        cases env.fails (.audit .expired (some v.id)) <;> simp
    · simp [Except.toBool, hu]

theorem expireEach_verifications_all (hu : ∀ id, env.fails (.update id) = false)
    (vs : List KycVerification) (t : KycStore) :
    ((expireEach env vs).run t).2.verifications =
      t.verifications.map fun r => if r.id ∈ vs.map (·.id) then { r with status := .expired } else r := by
  have h := (@expireEach_run_eq env vs t).2.1
  rwa [List.takeWhile_eq_self_iff.2 fun v _ => by simp [hu]] at h

theorem mem_sweepable_ids {s : KycStore} (hs : s.WellFormed) {r : KycVerification}
    (hr : r ∈ s.verifications) :
    r.id ∈ (s.verifications.filter (isSweepable env.now)).map (·.id) ↔ isSweepable env.now r = true := by
  constructor
  · intro h
    obtain ⟨w, hw, hwr⟩ := List.mem_map.1 h
    have hw' := List.mem_filter.1 hw
    rw [← List.inj_on_of_nodup_map hs.ids_nodup hw'.1 hr hwr]
    exact hw'.2
  · exact fun h => List.mem_map_of_mem _ (List.mem_filter.2 ⟨hr, h⟩)

/-- Run alone from a reachable store, the sweep leaves each row as it was or, if the row was
APPROVED with `expiresAt` before the sweep's clock, the same row with status EXPIRED; and with
every update succeeding it does so for every such row. -/
theorem sweep_serial {s : KycStore} (hs : Reachable s) (env : KycEnv) :
    let s' := ((expireVerifications env).run s).2
    (∀ r' ∈ s'.verifications, ∃ r ∈ s.verifications, r'.id = r.id ∧
      (r' = r ∨ r.status = .approved ∧ (∃ e, r.expiresAt = some e ∧ e < env.now) ∧
        r' = { r with status := .expired })) ∧
    ((∀ id, env.fails (.update id) = false) →
      s'.verifications = s.verifications.map fun r =>
        if isSweepable env.now r then { r with status := .expired } else r) := by
  refine ⟨fun r' hr' => ?_, fun hu => ?_⟩
  · rcases (@expireVerifications_tableStep env s (fun _ => False) hs.wellFormed).mem hr' with
      ⟨r, hr, hid, h⟩ | ⟨h, -⟩
    · refine ⟨r, hr, hid, h.imp_right fun ⟨p, ⟨hsw, hp⟩, he⟩ => ?_⟩
      exact ⟨(isSweepable_iff.1 hsw).1, (isSweepable_iff.1 hsw).2, by simp [he, hp]⟩
    · exact h.elim
  · rw [expireVerifications_run, expireEach_verifications_all hu]
    exact List.map_congr_left fun r hr => if_congr (mem_sweepable_ids hs.wellFormed hr) rfl rfl

def lateEnv : KycEnv := { sandboxEnv with now := verificationTtlMs + 1 }

theorem sweep_serial_approvedRun :
    ((expireVerifications lateEnv).run (runCalls .empty approvedRun)).2.verifications =
      [{ approvedRow with status := .expired }] := by
  rw [(sweep_serial (reachable_runCalls approvedRun) lateEnv).2 fun _ => rfl]
  decide

/-- The sweep over any store: it expires the APPROVED rows with `expiresAt` strictly before its
clock that it reaches before the first failed update, writes one EXPIRED entry (unless that
write fails) and one EXPIRED event for each, and changes no other row. With every update
succeeding, a second sweep at the same clock leaves the store exactly as the first left it. -/
theorem sweep_expires_until_failure (s : KycStore) (env : KycEnv) :
    let done := (s.verifications.filter (isSweepable env.now)).takeWhile
      fun v => !env.fails (.update v.id)
    let s' := ((expireVerifications env).run s).2
    s'.verifications =
      s.verifications.map (fun w => if w.id ∈ done.map (·.id) then { w with status := .expired } else w) ∧
    s'.auditLogs = s.auditLogs ++ (done.filter fun v => !env.fails (.audit .expired (some v.id))).map
      (fun v => ⟨v.userId, some v.id, .expired, .expired v.expiresAt v.level, none⟩) ∧
    s'.events = s.events ++ done.map (fun v => .expired v.userId v.level v.id) ∧
    ((∀ id, env.fails (.update id) = false) → ((expireVerifications env).run s').2 = s') := by
  simp only [expireVerifications_run]
  obtain ⟨-, h2, h3, h4, -⟩ := @expireEach_run_eq env (s.verifications.filter (isSweepable env.now)) s
  refine ⟨h2, h3, h4, fun hu => ?_⟩
  have hall : ∀ v ∈ s.verifications.filter (isSweepable env.now), !env.fails (.update v.id) := by
    simp [hu]
  rw [List.takeWhile_eq_self_iff.2 hall] at h2
  have hnone : (((expireEach env (s.verifications.filter (isSweepable env.now))).run s).2.verifications.filter
      (isSweepable env.now)) = [] := by
    rw [h2, List.filter_eq_nil_iff]
    simp only [List.mem_map, forall_exists_index, and_imp]
    rintro _ w hw rfl
    split_ifs with hid
    · simp [isSweepable]
    · exact fun hsw => hid ⟨w, List.mem_filter.2 ⟨hw, hsw⟩, rfl⟩
  rw [hnone, expireEach_run_nil]

def sweepStore : KycStore :=
  ⟨[{ KycVerification.create 0 "u1" .basic .approved .onfido 1 0 with expiresAt := some 10 },
    { KycVerification.create 1 "u1" .enhanced .approved .onfido 1 0 with expiresAt := some 10 },
    { KycVerification.create 2 "u2" .basic .approved .onfido 1 0 with expiresAt := some 100 }],
    [], [], [], 3⟩

def sweepEnv : KycEnv := { sandboxEnv with now := 100, fails := fun w => w == .update 0 }

theorem sweep_expires_until_failure_sweepStore :
    sweepEnv.fails (.update 1) = false ∧
      ((expireVerifications sweepEnv).run sweepStore).2.verifications.map (·.status) =
        [.approved, .approved, .approved] :=
  ⟨rfl, by rw [(sweep_expires_until_failure sweepStore sweepEnv).1]; decide⟩

theorem expireVerifications_freshApprovedLevel {s : KycStore}
    (hs : (s.verifications.map (·.id)).Nodup) (env : KycEnv) (u : String) :
    ((expireVerifications env).run s).2.freshApprovedLevel u env.now = s.freshApprovedLevel u env.now := by
  rw [expireVerifications_run]
  obtain ⟨ids, hids, hv, -⟩ := @expireEach_verifications env (s.verifications.filter (isSweepable env.now)) s
  have hstale (r : KycVerification) (hr : r ∈ s.verifications) (hi : r.id ∈ ids) :
      isFresh env.now r = false := by
    obtain ⟨v, hv, hvr⟩ := hids _ hi
    have hv' := List.mem_filter.1 hv
    obtain ⟨-, e, he, hlt⟩ := isSweepable_iff.1 (List.inj_on_of_nodup_map hs hv'.1 hr hvr ▸ hv'.2)
    simp [isFresh, he, Nat.not_lt.2 hlt.le]
  unfold KycStore.freshApprovedLevel
  rw [hv, List.filter_map]
  congr 2
  conv_rhs => rw [← List.map_id (List.filter _ s.verifications)]
  rw [List.filter_congr (q := fun v => v.userId == u && v.status == .approved && isFresh env.now v)
    fun r hr => by by_cases hi : r.id ∈ ids <;> simp [hi, hstale r hr]]
  refine List.map_congr_left fun r hr => ?_
  have hr := List.mem_filter.1 hr
  by_cases hi : r.id ∈ ids
  · simp [hi, hstale r hr.1] at hr
  · simp [hi]

/-- Run alone on a table with distinct ids, the sweep changes no answer of
`getActiveKycLevel`, `checkMonthlyLimit` or `KycGuard` at the sweep's clock, for any user,
amount or route, whichever of its updates fail. -/
theorem sweep_keeps_active_level {s : KycStore} (hs : (s.verifications.map (·.id)).Nodup)
    (env env' : KycEnv) (hnow : env'.now = env.now) :
    let s' := ((expireVerifications env).run s).2
    (∀ u, ((getActiveKycLevel env' u).run s').1 = ((getActiveKycLevel env' u).run s).1) ∧
    (∀ u amount, ((checkMonthlyLimit env' u amount).run s').1 =
      ((checkMonthlyLimit env' u amount).run s).1) ∧
    (∀ route u, ((KycGuard.canActivate env' route u).run s').1 =
      ((KycGuard.canActivate env' route u).run s).1) :=
  gates_of_freshApprovedLevel_eq env' fun u => hnow ▸ expireVerifications_freshApprovedLevel hs env u

theorem sweep_keeps_active_level_sweepStore :
    (sweepStore.verifications.map (·.id)).Nodup ∧ sweepEnv.now = sweepEnv.now ∧
      ((getActiveKycLevel sweepEnv "u1").run ((expireVerifications sweepEnv).run sweepStore).2).1 =
        ((getActiveKycLevel sweepEnv "u1").run sweepStore).1 :=
  have hs : (sweepStore.verifications.map (·.id)).Nodup := by decide
  ⟨hs, rfl, (sweep_keeps_active_level hs sweepEnv sweepEnv rfl).1 "u1"⟩

def reapproval : KycM Unit :=
  processOnfidoWebhook lateEnv "body" "ab"
    { resourceType := some "workflow_run", object := some { id := some "wf1", status := some "approved" } }

def racedSweep : KycStore × List (KycM Unit) :=
  interleave ([0] ++ List.replicate 5 1 ++ List.replicate 3 0)
    (runCalls .empty approvedRun, [expireVerifications lateEnv, reapproval])

/-- Both calls finish and the row is EXPIRED with an `expiresAt` a year after the sweep's
clock, while either sequential order leaves it APPROVED. -/
theorem sweep_overwrites_reapproval :
    racedSweep.2.map (fun p => p.result?.map Except.toBool) = [some true, some true] ∧
      racedSweep.1.verifications.map (fun v => (v.status, v.expiresAt)) =
        [(.expired, some (lateEnv.now + verificationTtlMs))] ∧
      lateEnv.now < lateEnv.now + verificationTtlMs ∧
      ((reapproval.run ((expireVerifications lateEnv).run (runCalls .empty approvedRun)).2).2
        |>.verifications.map (·.status)) = [.approved] ∧
      (((expireVerifications lateEnv).run (reapproval.run (runCalls .empty approvedRun)).2).2
        |>.verifications.map (·.status)) = [.approved] := by
  decide

end StellarSwipe.Kyc
