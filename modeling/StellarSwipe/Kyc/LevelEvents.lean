import StellarSwipe.Kyc.ActiveLevel
import StellarSwipe.Kyc.Lifecycle

namespace StellarSwipe.Kyc
open Prog
set_option autoImplicit true

def KycEvent.isLevelChanged : KycEvent → Bool
  | .levelChanged .. => true
  | _ => false

/-- `s'` has `s`'s events followed by events satisfying `P`. -/
def EventsAppended (P : KycEvent → Prop) (s s' : KycStore) : Prop :=
  ∃ δ, s'.events = s.events ++ δ ∧ ∀ e ∈ δ, P e

namespace EventsAppended
variable {P : KycEvent → Prop} {s t u : KycStore}

theorem of_events (h : t.events = s.events) : EventsAppended P s t :=
  ⟨[], by simp [h], fun _ h => (nomatch h)⟩

theorem trans (h₁ : EventsAppended P s t) (h₂ : EventsAppended P t u) : EventsAppended P s u := by
  obtain ⟨δ₁, e₁, p₁⟩ := h₁
  obtain ⟨δ₂, e₂, p₂⟩ := h₂
  exact ⟨δ₁ ++ δ₂, by rw [e₂, e₁, List.append_assoc],
    fun e he => (List.mem_append.1 he).elim (p₁ e) (p₂ e)⟩

theorem emitAll (h : EventsAppended P s t) (es : List KycEvent) (hes : ∀ e ∈ es, P e) :
    EventsAppended P s (t.emitAll es) :=
  h.trans ⟨es, rfl, hes⟩

end EventsAppended

abbrev NoLevelChange : KycStore → KycStore → Prop :=
  EventsAppended fun e => e.isLevelChanged = false

section Handlers
variable {env : KycEnv} {s : KycStore}

theorem createVerification_noLevelChange (userId : String) (dto : StartKycDto)
    (ipAddress : Option String) : NoLevelChange s ((createVerification env userId dto ipAddress).run s).2 := by
  rcases createVerification_store env s userId dto ipAddress with h | ⟨-, h⟩ | h | ⟨_, _, -, h⟩ <;> rw [h]
  · exact .of_events rfl
  · exact .of_events (by simp)
  · exact .of_events (by simp)
  · exact (EventsAppended.of_events (by simp)).emitAll _ (by simp [KycEvent.isLevelChanged])

theorem startKyc_noLevelChange (userId : String) (dto : StartKycDto) (ipAddress : Option String) :
    NoLevelChange s ((startKyc env userId dto ipAddress).run s).2 := by
  rw [startKyc_run]
  split_ifs
  · exact .of_events rfl
  · split
    · split
      · rcases resumeKyc_store env s ‹_› with h | h | ⟨_, h⟩ <;> rw [h] <;> exact .of_events (by simp)
      · exact createVerification_noLevelChange userId dto ipAddress
    · exact createVerification_noLevelChange userId dto ipAddress
  · exact .of_events rfl

theorem manualReview_noLevelChange (id : Nat) (dto : ManualReviewDto) (ipAddress : Option String) :
    NoLevelChange s ((manualReview env id dto ipAddress).run s).2 := by
  rw [manualReview_run]
  split
  · split
    · exact .of_events rfl
    · exact (EventsAppended.of_events (by simp)).emitAll _ (by
        unfold manualEvents; split <;> simp [KycEvent.isLevelChanged])
  · exact .of_events rfl

theorem checkMonthlyLimit_noLevelChange (userId : String) (amount : ℚ) :
    NoLevelChange s ((checkMonthlyLimit env userId amount).run s).2 := by
  rw [checkMonthlyLimit_run]
  dsimp only
  split <;> exact .of_events (by simp)

theorem canActivate_noLevelChange (route : RouteKycMetadata) (userId : Option String) :
    NoLevelChange s ((KycGuard.canActivate env route userId).run s).2 := by
  rw [canActivate_run]
  dsimp only
  split
  · exact .of_events rfl
  · split
    · exact .of_events rfl
    · split
      · have := @checkMonthlyLimit_noLevelChange env s (userId.getD "") ‹_›
        rcases hr : (checkMonthlyLimit env (userId.getD "") ‹_›).run s with ⟨_ | _, s'⟩ <;>
          simpa [hr] using this
      · exact .of_events rfl

theorem expireEach_noLevelChange (vs : List KycVerification) (t : KycStore) :
    NoLevelChange t ((expireEach env vs).run t).2 := by
  induction vs generalizing t with
  | nil => exact .of_events rfl
  | cons v vs ih =>
    rw [expireEach_run_cons]
    split
    · exact .of_events rfl
    · exact ((EventsAppended.of_events (by simp)).emitAll _ (by simp [KycEvent.isLevelChanged])).trans
        (ih _)

end Handlers

theorem applyVerificationResult_effect {s t : KycStore} (env : KycEnv) {v : KycVerification}
    (hv : v ∈ s.verifications) (r : VerificationResult) (hvt : t.verifications = s.verifications)
    (het : t.events = s.events) :
    let t' := ((applyVerificationResult env v r).run t).2
    (t'.verifications = s.verifications ∧ t'.events = s.events) ∨
      ∃ v ∈ s.verifications, ∃ r : VerificationResult,
        t'.verifications = (s.updateById v.id (resultUpdates env.now r)).verifications ∧
        t'.events = s.events ++ resultEvents v (resultUpdates env.now r) := by
  rw [applyVerificationResult_run]
  split
  · exact .inl ⟨hvt, het⟩
  · exact .inr ⟨v, hv, r, by simp [hvt], by simp [het]⟩

theorem KycCall.webhook_effect {c : KycCall} (hc : c.mover = some .webhook) (s : KycStore) :
    ((c.run s).verifications = s.verifications ∧ (c.run s).events = s.events) ∨
      ∃ v ∈ s.verifications, ∃ r : VerificationResult,
        (c.run s).verifications = (s.updateById v.id (resultUpdates c.env.now r)).verifications ∧
        (c.run s).events = s.events ++ resultEvents v (resultUpdates c.env.now r) := by
  cases c with
  | processPersonaWebhook env body sig payload | processOnfidoWebhook env body sig payload =>
    simp only [KycCall.run, KycCall.env, processPersonaWebhook_run, processOnfidoWebhook_run]
    repeat' split
    all_goals first
      | exact .inl ⟨rfl, rfl⟩
      | exact applyVerificationResult_effect env (List.mem_of_find?_eq_some ‹_›) _ (by simp) (by simp)
      | exact .inl (by simp)
  | _ => cases hc

theorem KycCall.noLevelChange {c : KycCall} (hc : c.mover ≠ some .webhook) (s : KycStore) :
    NoLevelChange s (c.run s) := by
  cases c with
  | startKyc env userId dto ip => exact startKyc_noLevelChange userId dto ip
  | manualReview env id dto ip => exact manualReview_noLevelChange id dto ip
  | checkMonthlyLimit env userId amount => exact checkMonthlyLimit_noLevelChange userId amount
  | canActivate env route userId => exact canActivate_noLevelChange route userId
  | expireVerifications env =>
    simp only [KycCall.run]
    rw [expireVerifications_run]
    exact expireEach_noLevelChange _ s
  | _ => exact absurd rfl hc

section Levels
variable {s : KycStore} {u : String} {now : Timestamp}

theorem le_freshApprovedLevel {r : KycVerification} (hr : r ∈ s.verifications) (hu : r.userId = u)
    (ha : r.status = .approved) (hf : isFresh now r = true) : r.level ≤ s.freshApprovedLevel u now := by
  have := KycLevel.foldr_max_le.1 (KycLevel.le_def.2 (le_refl (s.freshApprovedLevel u now).toNat))
  exact this r.level (List.mem_map.2 ⟨r, List.mem_filter.2 ⟨hr, by simp [hu, ha, hf]⟩, rfl⟩)

theorem freshApprovedLevel_le {L : KycLevel}
    (h : ∀ r ∈ s.verifications, r.userId = u → r.status = .approved → isFresh now r = true → r.level ≤ L) :
    s.freshApprovedLevel u now ≤ L := by
  refine KycLevel.foldr_max_le.2 fun b hb => ?_
  obtain ⟨r, hr, rfl⟩ := List.mem_map.1 hb
  have := List.mem_filter.1 hr
  simp only [Bool.and_eq_true, beq_iff_eq] at this
  exact h r this.1 this.2.1.1 this.2.1.2 this.2.2

theorem freshApprovedLevel_updateById_le (hs : s.WellFormed) {v : KycVerification}
    (hv : v ∈ s.verifications) (p : KycUpdate) :
    (s.updateById v.id p).freshApprovedLevel u now ≤
      KycLevel.max (s.freshApprovedLevel u now)
        (if v.userId = u ∧ (v.patch p).status = .approved ∧ isFresh now (v.patch p) = true then v.level
          else .none) := by
  refine freshApprovedLevel_le fun r' hr' hu ha hf => ?_
  obtain ⟨w, hw, rfl⟩ := List.mem_map.1 (by simpa using hr')
  rw [KycLevel.le_def, KycLevel.toNat_max]
  by_cases hwv : w.id = v.id
  · obtain rfl : w = v := List.inj_on_of_nodup_map hs.ids_nodup hw hv hwv
    rw [if_pos rfl] at hu ha hf ⊢
    rw [if_pos ⟨by simpa using hu, ha, hf⟩, KycVerification.patch_level]
    omega
  · rw [if_neg hwv] at hu ha hf ⊢
    have := KycLevel.le_def.1 (le_freshApprovedLevel hw hu ha hf)
    omega

theorem freshApprovedLevel_updateById_raise (hs : s.WellFormed) {v : KycVerification}
    (hv : v ∈ s.verifications) (p : KycUpdate)
    (hlt : s.freshApprovedLevel u now < (s.updateById v.id p).freshApprovedLevel u now) :
    v.userId = u ∧ (v.patch p).status = .approved ∧
      (s.updateById v.id p).freshApprovedLevel u now = v.level := by
  have hle : ((s.updateById v.id p).freshApprovedLevel u now).toNat ≤ _ :=
    freshApprovedLevel_updateById_le hs hv p
  rw [KycLevel.lt_def] at hlt
  by_cases hcond : v.userId = u ∧ (v.patch p).status = .approved ∧ isFresh now (v.patch p) = true
  · obtain ⟨rfl, happ, hfresh⟩ := hcond
    have hmem : v.patch p ∈ (s.updateById v.id p).verifications := by simpa using ⟨v, hv, by simp⟩
    have hge : v.level.toNat ≤ ((s.updateById v.id p).freshApprovedLevel v.userId now).toNat :=
      le_freshApprovedLevel (r := v.patch p) hmem rfl happ hfresh
    rw [if_pos ⟨rfl, happ, hfresh⟩, KycLevel.toNat_max] at hle
    exact ⟨rfl, happ, KycLevel.toNat_inj (by omega)⟩
  · rw [if_neg hcond, KycLevel.toNat_max, show KycLevel.none.toNat = 0 from rfl] at hle
    omega

end Levels

theorem isFresh_resultUpdates (now : Timestamp) (r : VerificationResult) (v : KycVerification)
    (ha : r.status = .approved) : isFresh now (v.patch (resultUpdates now r)) = true := by
  simp [resultUpdates, ha, isFresh, verificationTtlMs]

theorem levelChanged_mem_resultEvents {v : KycVerification} {p : KycUpdate} {u : String}
    {L : KycLevel} (h : KycEvent.levelChanged u L ∈ resultEvents v p) :
    p.status = some .approved ∧ u = v.userId ∧ L = v.level := by
  unfold resultEvents at h
  split at h <;> simp_all

/-- Every LEVEL_CHANGED a call emits comes from a webhook approval of a row of that user and
level, which is at most the user's active level right after; and every webhook call that raises
a user's active level emits LEVEL_CHANGED with the raised level. -/
theorem level_events {s : KycStore} (hs : Reachable s) (c : KycCall) :
    let s' := c.run s
    let now := c.env.now
    ∃ δ, s'.events = s.events ++ δ ∧
      (∀ u L, KycEvent.levelChanged u L ∈ δ → c.mover = some .webhook ∧
        L ≤ s'.freshApprovedLevel u now ∧
        ∃ r ∈ s'.verifications, r.userId = u ∧ r.level = L ∧ r.status = .approved) ∧
      (c.mover = some .webhook → ∀ u, s.freshApprovedLevel u now < s'.freshApprovedLevel u now →
        KycEvent.levelChanged u (s'.freshApprovedLevel u now) ∈ δ) := by
  intro s' now
  by_cases hw : c.mover = some .webhook
  · rcases c.webhook_effect hw s with ⟨hv, he⟩ | ⟨v, hv, r, htab, he⟩
    · have hlevel (u : String) : s'.freshApprovedLevel u now = s.freshApprovedLevel u now := by
        simp only [KycStore.freshApprovedLevel, s', hv]
      exact ⟨[], by simp [s', he], by simp, fun _ u h => absurd h (by rw [hlevel u]; exact Nat.lt_irrefl _)⟩
    · have hlevel (u : String) : s'.freshApprovedLevel u now =
          (s.updateById v.id (resultUpdates now r)).freshApprovedLevel u now := by
        simp only [KycStore.freshApprovedLevel, s', htab]
      have hmem : v.patch (resultUpdates now r) ∈ s'.verifications := by
        rw [htab]
        simpa using ⟨v, hv, by simp⟩
      refine ⟨_, he, fun u L hL => ?_, fun _ u hlt => ?_⟩
      · obtain ⟨hst, rfl, rfl⟩ := levelChanged_mem_resultEvents hL
        have ha : r.status = .approved := by simpa using hst
        have happ : (v.patch (resultUpdates now r)).status = .approved := by simp [ha]
        have hge := le_freshApprovedLevel hmem rfl happ (isFresh_resultUpdates now r v ha)
        exact ⟨hw, hge, _, hmem, rfl, rfl, happ⟩
      · rw [hlevel] at hlt ⊢
        obtain ⟨rfl, happ, heq⟩ := freshApprovedLevel_updateById_raise hs.wellFormed hv _ hlt
        have ha : r.status = .approved := by simpa using happ
        rw [heq]
        simp [resultEvents, ha, ResultStatus.toKycStatus]
  · obtain ⟨δ, he, hδ⟩ := c.noLevelChange hw s
    exact ⟨δ, he, fun u L hL => absurd (hδ _ hL) (by simp [KycEvent.isLevelChanged]),
      fun h => absurd h hw⟩

theorem level_events_startedRun :
    ∃ δ, (KycCall.manualReview sandboxEnv 0 ⟨"admin", .approved, none⟩ none |>.run
      (runCalls .empty [.startKyc sandboxEnv "u1" { targetLevel := .basic, provider := some .onfido } none])).events =
        (runCalls .empty [.startKyc sandboxEnv "u1" { targetLevel := .basic, provider := some .onfido } none]).events ++ δ :=
  let ⟨δ, h, _⟩ := level_events
    (reachable_runCalls [.startKyc sandboxEnv "u1" { targetLevel := .basic, provider := some .onfido } none])
    (.manualReview sandboxEnv 0 ⟨"admin", .approved, none⟩ none)
  ⟨δ, h⟩

def secondSessionEnv : KycEnv := { sandboxEnv with onfidoCreated := .ok ⟨"app2", "wf2", "sdk2"⟩ }

def enhancedRun : List KycCall :=
  approvedRun ++ [.startKyc secondSessionEnv "u1" { targetLevel := .enhanced, provider := some .onfido } none,
    onfidoEvent "wf2" "approved"]

/-- A redelivered BASIC approval while `u1` holds ENHANCED emits LEVEL_CHANGED with BASIC, which
the listener logs as `u1`'s new level, though the active level stays ENHANCED. -/
theorem late_approval_announces_downgrade :
    (runCalls .empty enhancedRun).freshApprovedLevel "u1" sandboxEnv.now = .enhanced ∧
      KycEvent.levelChanged "u1" .basic ∈ ((onfidoEvent "wf1" "approved").run (runCalls .empty enhancedRun)).events.drop
        (runCalls .empty enhancedRun).events.length ∧
      ((onfidoEvent "wf1" "approved").run (runCalls .empty enhancedRun)).freshApprovedLevel "u1" sandboxEnv.now =
        .enhanced := by
  decide

end StellarSwipe.Kyc
