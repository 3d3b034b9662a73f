import StellarSwipe.Kyc.Lifecycle

namespace StellarSwipe.Kyc
open Prog
set_option autoImplicit true

/-- At most one PENDING row per user and level, and every PENDING row carries an inquiry id
that `startKyc` resumes. -/
structure KycStore.PendingUnique (s : KycStore) : Prop where
  unique : ∀ v ∈ s.verifications, ∀ w ∈ s.verifications, v.status = .pending →
    w.status = .pending → v.userId = w.userId → v.level = w.level → v.id = w.id
  resumable : ∀ v ∈ s.verifications, v.status = .pending → truthy v.inquiryId = true

theorem KycStore.PendingUnique.empty : KycStore.empty.PendingUnique :=
  ⟨fun _ h => (nomatch h), fun _ h => (nomatch h)⟩

theorem KycStore.PendingUnique.find_resumable {s : KycStore} (hu : s.PendingUnique)
    {v : KycVerification} (hv : v ∈ s.verifications) (hm : v.matches u L .pending = true) :
    ∃ e, s.verifications.find? (·.matches u L .pending) = some e ∧ truthy e.inquiryId = true := by
  obtain ⟨e, he⟩ := Option.isSome_iff_exists.1 (List.find?_isSome.2 ⟨v, hv, hm⟩)
  have hp : e.status = .pending := by
    have := List.find?_some he
    simp only [KycVerification.matches, Bool.and_eq_true, beq_iff_eq] at this
    exact this.2
  exact ⟨e, he, hu.resumable e (List.mem_of_find?_eq_some he) hp⟩

section
variable {R : KycVerification → KycUpdate → Prop} {N : KycVerification → Prop} {s s' : KycStore}

theorem TableStep.pending_source (h : TableStep R N s s')
    (hR : ∀ v p, R v p → p.status ≠ some .pending ∧ p.inquiryId = none)
    {v' : KycVerification} (hv' : v' ∈ s'.verifications) (hp : v'.status = .pending) :
    (∃ v ∈ s.verifications, v.id = v'.id ∧ v.userId = v'.userId ∧ v.level = v'.level ∧
      v.status = .pending ∧ v.inquiryId = v'.inquiryId) ∨ (N v' ∧ v'.id = s.nextId) := by
  rcases h.mem hv' with ⟨v, hv, -, he | ⟨p, hpR, he⟩⟩ | hn
  · rw [he] at hp ⊢
    exact .inl ⟨v, hv, rfl, rfl, rfl, hp, rfl⟩
  · rw [he] at hp ⊢
    obtain ⟨hs, hi⟩ := hR v p hpR
    have hst : p.status = none := by
      cases hps : p.status with
      | none => rfl
      | some st => simp only [KycVerification.patch_status, hps, Option.getD_some] at hp; simp_all
    exact .inl ⟨v, hv, rfl, rfl, rfl, by simpa [hst] using hp, by simp [hi]⟩
  · exact .inr hn

theorem KycStore.PendingUnique.of_tableStep (hu : s.PendingUnique) (h : TableStep R N s s')
    (hR : ∀ v p, R v p → p.status ≠ some .pending ∧ p.inquiryId = none)
    (hN : ∀ n, N n → n.status = .pending → truthy n.inquiryId = true ∧
      ∀ v ∈ s.verifications, v.status = .pending → v.userId = n.userId → v.level = n.level → False) :
    s'.PendingUnique := by
  constructor
  · intro v' hv' w' hw' hpv hpw hu' hl'
    rcases h.pending_source hR hv' hpv with ⟨v, hv, hvid, hvu, hvl, hvp, -⟩ | ⟨hnv, hvid⟩ <;>
      rcases h.pending_source hR hw' hpw with ⟨w, hw, hwid, hwu, hwl, hwp, -⟩ | ⟨hnw, hwid⟩
    · rw [← hvid, ← hwid]
      exact hu.unique v hv w hw hvp hwp (by rw [hvu, hwu, hu']) (by rw [hvl, hwl, hl'])
    · exact ((hN w' hnw hpw).2 v hv hvp (hvu.trans hu') (hvl.trans hl')).elim
    · exact ((hN v' hnv hpv).2 w hw hwp (hwu.trans hu'.symm) (hwl.trans hl'.symm)).elim
    · rw [hvid, hwid]
  · intro v' hv' hp
    rcases h.pending_source hR hv' hp with ⟨v, hv, -, -, -, hvp, hi⟩ | ⟨hn, -⟩
    · rw [← hi]
      exact hu.resumable v hv hvp
    · exact (hN v' hn hp).1

end

def KycEnv.SessionIdTruthy (env : KycEnv) : KycProvider → Prop
  | .persona => ∀ c, env.personaCreated = .ok c → truthy (some c.id) = true
  | .onfido => ∀ o, env.onfidoCreated = .ok o → truthy (some o.workflowRunId) = true

theorem sessionOutcome_resumable {env : KycEnv} {v : KycVerification} {provider : KycProvider}
    {h : KycUpdate} {r : StartKycResponseDto} (henv : env.SessionIdTruthy provider)
    (ho : sessionOutcome env v provider = .ok (h, r)) : truthy (v.patch h).inquiryId = true := by
  cases provider <;> simp only [sessionOutcome] at ho <;> split at ho <;> cases ho
  · exact henv _ ‹_›
  · exact henv _ ‹_›

def KycCall.KeepsPendingUnique : KycCall → Prop
  | .startKyc env _ dto _ =>
    (∀ id, env.fails (.delete id) = false) ∧ env.SessionIdTruthy (dto.provider.getD .persona)
  | .processPersonaWebhook _ _ _ payload =>
    ∀ r, PersonaProvider.parseWebhookPayload payload = .ok r → r.status ≠ .pending
  | .processOnfidoWebhook _ _ _ payload =>
    ∀ r, OnfidoProvider.parseWebhookPayload payload = .ok r → r.status ≠ .pending
  | .manualReview _ _ dto _ => dto.status ≠ .pending
  | .checkMonthlyLimit .. | .canActivate .. | .expireVerifications _ => True

theorem KycCall.pendingUnique (c : KycCall) (hc : c.KeepsPendingUnique) {s : KycStore}
    (hs : s.WellFormed) (hu : s.PendingUnique) : (c.run s).PendingUnique := by
  cases c with
  | startKyc env userId dto ip =>
    refine hu.of_tableStep (startKyc_tableStep hs userId dto ip) (fun _ _ ⟨_, hp⟩ => by simp [hp]) ?_
    rintro n ⟨-, -, hfind, ⟨rfl, hdel⟩ | ⟨h, r, ho, rfl⟩⟩ hp
    · exact absurd hdel (by simp [hc.1])
    · refine ⟨sessionOutcome_resumable hc.2 ho, fun v hv hvp hvu hvl => ?_⟩
      obtain ⟨e, he, hi⟩ := hu.find_resumable hv
        (by simp_all [KycVerification.matches, newVerification] :
          v.matches userId dto.targetLevel .pending = true)
      simp [hfind e he] at hi
  | processPersonaWebhook env body sig payload =>
    refine hu.of_tableStep (@processPersonaWebhook_tableStep env s (fun _ => False) body sig payload)
      (fun _ _ ⟨r, hr, hp⟩ => ?_) fun _ h => h.elim
    simp [hp, hc r hr, PersonaVerificationResult.toResult]
  | processOnfidoWebhook env body sig payload =>
    refine hu.of_tableStep (@processOnfidoWebhook_tableStep env s (fun _ => False) body sig payload)
      (fun _ _ ⟨r, hr, hp⟩ => ?_) fun _ h => h.elim
    simp [hp, hc r hr, OnfidoVerificationResult.toResult]
  | manualReview env id dto ip =>
    exact hu.of_tableStep (@manualReview_tableStep env s (fun _ => False) id dto ip)
      (fun _ _ ⟨_, hp⟩ => by simpa [hp] using (hc : dto.status ≠ .pending)) fun _ h => h.elim
  | checkMonthlyLimit env userId amount =>
    exact hu.of_tableStep (@checkMonthlyLimit_tableStep env s (fun _ => False) (fun _ _ => False)
      userId amount) (fun _ _ h => h.elim) fun _ h => h.elim
  | canActivate env route userId =>
    exact hu.of_tableStep (@canActivate_tableStep env s (fun _ => False) (fun _ _ => False)
      route userId) (fun _ _ h => h.elim) fun _ h => h.elim
  | expireVerifications env =>
    exact hu.of_tableStep (@expireVerifications_tableStep env s (fun _ => False) hs)
      (fun _ _ ⟨_, hp⟩ => by simp [hp]) fun _ h => h.elim

theorem pendingUnique_runCalls (cs : List KycCall) (hcs : ∀ c ∈ cs, c.KeepsPendingUnique) :
    (runCalls .empty cs).PendingUnique := by
  induction cs using List.reverseRecOn with
  | nil => exact .empty
  | append_singleton cs c ih =>
    rw [runCalls_append_singleton]
    exact c.pendingUnique (hcs c (List.mem_append_right _ (.head _))) (reachable_runCalls cs).wellFormed
      (ih fun c' hc' => hcs c' (List.mem_append_left _ hc'))

theorem KycStore.PendingUnique.startKyc_resumes {s : KycStore} (hu : s.PendingUnique)
    (env : KycEnv) (userId : String) (dto : StartKycDto) (ip : Option String) {v : KycVerification}
    (hv : v ∈ s.verifications) (hm : v.matches userId dto.targetLevel .pending = true) :
    let s' := (KycCall.startKyc env userId dto ip).run s
    s'.verifications.length = s.verifications.length ∧
      ∃ δ, s'.providerCalls = s.providerCalls ++ δ ∧ ∀ c ∈ δ, ∃ i, c = .resumeInquiry i := by
  obtain ⟨e, he, hi⟩ := hu.find_resumable hv hm
  have unchanged : s.verifications.length = s.verifications.length ∧
      ∃ δ, s.providerCalls = s.providerCalls ++ δ ∧ ∀ c ∈ δ, ∃ i, c = ProviderCall.resumeInquiry i :=
    ⟨rfl, [], by simp, by simp⟩
  simp only [KycCall.run, startKyc_run, he, hi, ↓reduceIte]
  split_ifs
  · exact unchanged
  · rcases resumeKyc_store env s e with h | h | ⟨token, h⟩ <;> rw [h]
    · exact unchanged
    all_goals exact ⟨by simp, [.resumeInquiry (e.inquiryId.getD "")], by simp, by simp⟩
  · exact unchanged

/-- In a sequential run whose calls meet their conditions, each user and level has at most one
PENDING row, and a start for a slot holding one resumes it: no row, no new session. -/
theorem pending_unique (cs : List KycCall) (hcs : ∀ c ∈ cs, c.KeepsPendingUnique) :
    let s := runCalls .empty cs
    s.PendingUnique ∧ ∀ env userId dto ip, ∀ v ∈ s.verifications,
      v.matches userId dto.targetLevel .pending = true →
      let s' := (KycCall.startKyc env userId dto ip).run s
      s'.verifications.length = s.verifications.length ∧
        ∃ δ, s'.providerCalls = s.providerCalls ++ δ ∧ ∀ c ∈ δ, ∃ i, c = .resumeInquiry i :=
  ⟨pendingUnique_runCalls cs hcs, fun env userId dto ip _ hv hm =>
    (pendingUnique_runCalls cs hcs).startKyc_resumes env userId dto ip hv hm⟩

def startedRun : List KycCall :=
  [.startKyc sandboxEnv "u1" { targetLevel := .basic, provider := some .onfido } none]

def startedRow : KycVerification :=
  { KycVerification.create 0 "u1" .basic .pending .onfido 1 0 with
    verificationId := some "app1", inquiryId := some "wf1", sessionToken := some "sdk1" }

theorem pending_unique_startedRun :
    ((KycCall.startKyc sandboxEnv "u1" { targetLevel := .basic, provider := some .onfido } none).run
      (runCalls .empty startedRun)).verifications.length = 1 :=
  ((pending_unique startedRun (fun c hc => by
    simp only [startedRun, List.mem_singleton] at hc
    subst hc
    exact ⟨fun _ => rfl, fun o ho => by cases ho; decide⟩)).2 sandboxEnv "u1"
    { targetLevel := .basic, provider := some .onfido } none startedRow (by decide) (by decide)).1

/-- Two `startKyc` calls for `u1`'s BASIC level through Onfido, both looking up the slot
before either saves its row; each then runs to the end. -/
def racedStarts : KycStore × List (KycM StartKycResponseDto) :=
  interleave ([0, 1] ++ List.replicate 6 0 ++ List.replicate 6 1)
    (.empty, [startKyc sandboxEnv "u1" { targetLevel := .basic, provider := some .onfido } none,
      startKyc sandboxEnv "u1" { targetLevel := .basic, provider := some .onfido } none])

/-- Both calls succeed, each opening its own Onfido session, and `u1` is left with two
PENDING BASIC rows. -/
theorem concurrent_starts_duplicate :
    racedStarts.2.map (fun p => p.result?.map Except.toBool) = [some true, some true] ∧
      racedStarts.1.providerCalls = [.createApplicantSession "u1", .createApplicantSession "u1"] ∧
      (racedStarts.1.verifications.filter (·.matches "u1" .basic .pending)).length = 2 := by
  decide

end StellarSwipe.Kyc
