import StellarSwipe.Kyc.Lifecycle

namespace StellarSwipe.Kyc
open Prog
set_option autoImplicit true

variable (r : VerificationResult)

theorem applyVerificationResult_effects (env : KycEnv) (w : KycVerification) (t : KycStore)
    (h : env.fails (.update w.id) = false) :
    ((applyVerificationResult env w r).run t).2.verifications =
        t.verifications.map (fun x => if x.id = w.id then x.patch (resultUpdates env.now r) else x) ∧
      ((applyVerificationResult env w r).run t).2.events =
        t.events ++ resultEvents w (resultUpdates env.now r) := by
  rw [applyVerificationResult_run, if_neg (by simp [h])]
  simp

theorem patch_resultUpdates_twice (v : KycVerification) (t₁ t₂ : Timestamp) :
    let v₁ := v.patch (resultUpdates t₁ r)
    let v₂ := v₁.patch (resultUpdates t₂ r)
    v₂.status = v₁.status ∧ v₂.rejectionReason = v₁.rejectionReason ∧
      (v₂.approvedAt = v₁.approvedAt ↔ r.status ≠ .approved ∨ t₁ = t₂) ∧
      (v₂.expiresAt = v₁.expiresAt ↔ r.status ≠ .approved ∨ t₁ = t₂) := by
  cases hst : r.status <;> simp [resultUpdates, hst, KycVerification.patch, eq_comm]

theorem resultEvents_resultUpdates (v : KycVerification) (t : Timestamp) :
    resultEvents v (resultUpdates t r) =
      match r.status with
      | .approved => [.approved v.userId v.level v.id (some (t + verificationTtlMs)) false,
          .levelChanged v.userId v.level]
      | .declined => [.rejected v.userId v.level (some (declineReason r.declinedReasons))]
      | .needsReview | .pending => [] := by
  cases hst : r.status <;> simp [resultEvents, resultUpdates, hst]

/-- `applyVerificationResult` applied to a row and then, at a second clock, to the row as the
first application left it: the row keeps its status and rejection reason, its approval stamps
move to the second clock when the result is an approval, and the second application emits the
result's events again. -/
theorem redelivery_restamps (env₁ env₂ : KycEnv) (s : KycStore) (v : KycVerification)
    (h₁ : env₁.fails (.update v.id) = false) (h₂ : env₂.fails (.update v.id) = false) :
    let v₁ := v.patch (resultUpdates env₁.now r)
    let v₂ := v₁.patch (resultUpdates env₂.now r)
    let s₁ := ((applyVerificationResult env₁ v r).run s).2
    let s₂ := ((applyVerificationResult env₂ v₁ r).run s₁).2
    (v ∈ s.verifications → v₂ ∈ s₂.verifications) ∧
    v₂.status = v₁.status ∧ v₂.rejectionReason = v₁.rejectionReason ∧
    (v₂.approvedAt = v₁.approvedAt ↔ r.status ≠ .approved ∨ env₁.now = env₂.now) ∧
    (v₂.expiresAt = v₁.expiresAt ↔ r.status ≠ .approved ∨ env₁.now = env₂.now) ∧
    s₂.events = s₁.events ++
      match r.status with
      | .approved => [.approved v.userId v.level v.id (some (env₂.now + verificationTtlMs)) false,
          .levelChanged v.userId v.level]
      | .declined => [.rejected v.userId v.level (some (declineReason r.declinedReasons))]
      | .needsReview | .pending => [] := by
  intro v₁ v₂ s₁ s₂
  have e₁ := applyVerificationResult_effects r env₁ v s h₁
  have e₂ := applyVerificationResult_effects r env₂ v₁ s₁ h₂
  obtain ⟨hst, hrej, happ, hexp⟩ := patch_resultUpdates_twice r v env₁.now env₂.now
  refine ⟨fun hv => ?_, hst, hrej, happ, hexp, ?_⟩
  · rw [e₂.1, e₁.1, List.map_map]
    exact List.mem_map.2 ⟨v, hv, by simp [v₁, v₂]⟩
  · rw [e₂.2, resultEvents_resultUpdates]
    rfl

def approvalResult : VerificationResult := ⟨.approved, some "chk1", [], .onfido none (some "approved")⟩

theorem redelivery_restamps_at_one :
    let v₁ := approvedRow.patch (resultUpdates 0 approvalResult)
    (v₁.patch (resultUpdates 1 approvalResult)).approvedAt ≠ v₁.approvedAt ∧
      ((applyVerificationResult { sandboxEnv with now := 1 } v₁ approvalResult).run
        ((applyVerificationResult sandboxEnv approvedRow approvalResult).run
          ⟨[approvedRow], [], [], [], 1⟩).2).2.events =
        [.approved "u1" .basic 0 (some verificationTtlMs) false, .levelChanged "u1" .basic,
         .approved "u1" .basic 0 (some (1 + verificationTtlMs)) false, .levelChanged "u1" .basic] :=
  have h := redelivery_restamps approvalResult sandboxEnv { sandboxEnv with now := 1 }
    ⟨[approvedRow], [], [], [], 1⟩ approvedRow rfl rfl
  ⟨fun he => by simpa [approvalResult, sandboxEnv] using h.2.2.2.1.1 he, by decide⟩

/-- The same redelivery read off the store: the row's `approvedAt` moves from 0 to 1, and the
second delivery appends APPROVED and LEVEL_CHANGED again. -/
theorem redelivery_moves_approvedAt :
    let s₁ := ((applyVerificationResult sandboxEnv approvedRow approvalResult).run ⟨[approvedRow], [], [], [], 1⟩).2
    let s₂ := ((applyVerificationResult { sandboxEnv with now := 1 }
      (approvedRow.patch (resultUpdates 0 approvalResult)) approvalResult).run s₁).2
    s₁.verifications.map (·.approvedAt) = [some 0] ∧ s₂.verifications.map (·.approvedAt) = [some 1] ∧
      s₂.events.drop s₁.events.length =
        [.approved "u1" .basic 0 (some (1 + verificationTtlMs)) false, .levelChanged "u1" .basic] := by
  decide

end StellarSwipe.Kyc
