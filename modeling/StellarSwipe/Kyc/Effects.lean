import StellarSwipe.Kyc.Service

namespace StellarSwipe.Kyc
open Prog
set_option autoImplicit true

variable (env : KycEnv) (s : KycStore)

@[simp] theorem resultUpdates_status (now : Timestamp) (r : VerificationResult) :
    (resultUpdates now r).status = some r.status.toKycStatus := by
  unfold resultUpdates
  cases r.status <;> rfl

@[simp] theorem ResultStatus.toKycStatus_eq_approved {r : ResultStatus} :
    r.toKycStatus = .approved ↔ r = .approved := by
  cases r <;> simp [ResultStatus.toKycStatus]

@[simp] theorem ResultStatus.toKycStatus_eq_pending {r : ResultStatus} :
    r.toKycStatus = .pending ↔ r = .pending := by
  cases r <;> simp [ResultStatus.toKycStatus]

@[simp] theorem resultUpdates_inquiryId (now : Timestamp) (r : VerificationResult) :
    (resultUpdates now r).inquiryId = none := by
  unfold resultUpdates
  cases r.status <;> rfl

@[simp] theorem manualUpdates_status (now : Timestamp) (dto : ManualReviewDto) :
    (manualUpdates now dto).status = some dto.status := rfl

@[simp] theorem manualUpdates_inquiryId (now : Timestamp) (dto : ManualReviewDto) :
    (manualUpdates now dto).inquiryId = none := rfl

theorem applyVerificationResult_run (v : KycVerification) (r : VerificationResult) :
    (applyVerificationResult env v r).run s =
      if env.fails (.update v.id) then (.error (.persistence (.update v.id)), s)
      else (.ok (), ((s.updateById v.id (resultUpdates env.now r)).appendAudit
          (env.fails (.audit .statusChanged (some v.id)))
          ⟨v.userId, some v.id, .statusChanged,
            .statusChanged v.status (resultUpdates env.now r).status r.verificationId, none⟩).emitAll
          (resultEvents v (resultUpdates env.now r))) := by
  cases h : env.fails (.update v.id) <;>
    simp only [applyVerificationResult, KycRepo.update, h, audit, resultUpdates_status, emit,
      run_bind, run_tryWrite, Bool.false_eq_true, ↓reduceIte, run_write]

/-- `startKyc`'s prerequisite check passes: no prerequisite, or an APPROVED record of it. -/
def KycStore.prerequisiteMet (userId : String) (target : KycLevel) : Bool :=
  match levelPrerequisites target with
  | some prereq => (s.verifications.find? (·.matches userId prereq .approved)).isSome
  | none => true

def prerequisiteError (target : KycLevel) : KycError :=
  .badRequest (prerequisiteMessage target ((levelPrerequisites target).getD .none))

theorem checkPrerequisite_run (userId : String) (target : KycLevel) :
    (checkPrerequisite userId target).run s =
      (if s.prerequisiteMet userId target then .ok () else .error (prerequisiteError target), s) := by
  unfold checkPrerequisite KycStore.prerequisiteMet prerequisiteError
  cases levelPrerequisites target with
  | none => rfl
  | some prereq =>
    simp only [getApprovedVerification, KycRepo.findOne, run_bind, run_read]
    split_ifs with h₁ h₂ h₂ <;> simp_all [Option.isNone_iff_eq_none, Option.isSome_iff_ne_none]

theorem resumeKyc_run (v : KycVerification) :
    (resumeKyc env v).run s =
      if truthy v.inquiryId then
        match env.personaResumed with
        | .ok token =>
          if env.fails (.update v.id) then
            (.error (.persistence (.update v.id)), s.callProvider (.resumeInquiry (v.inquiryId.getD "")))
          else (.ok ⟨v.id, v.inquiryId.getD "", token, widgetUrlFor (v.inquiryId.getD "") token⟩,
            (s.callProvider (.resumeInquiry (v.inquiryId.getD ""))).updateById v.id
              { sessionToken := some (some token) })
        | .error detail => (.error (.badRequest ("Persona API error: " ++ detail)),
            s.callProvider (.resumeInquiry (v.inquiryId.getD "")))
      else (.error (.badRequest "No active inquiry to resume"), s) := by
  cases hv : truthy v.inquiryId <;> cases hr : env.personaResumed <;>
    cases hu : env.fails (.update v.id) <;>
    simp only [resumeKyc, hv, Bool.not_false, ↓reduceIte, PersonaProvider.resumeInquiry, hr,
      KycRepo.update, hu, throw_bind, run_throw, Bool.false_eq_true, Bool.not_true, Prog.pure_bind,
      run_bind, run_atom, run_err, run_ok, run_tryWrite, run_pure]

theorem resumeKyc_store (v : KycVerification) :
    let t := s.callProvider (.resumeInquiry (v.inquiryId.getD ""))
    let s' := ((resumeKyc env v).run s).2
    s' = s ∨ s' = t ∨ ∃ token, s' = t.updateById v.id { sessionToken := some (some token) } := by
  intro t s'
  cases hv : truthy v.inquiryId
  · exact .inl (by simp [s', resumeKyc_run, hv])
  · cases hr : env.personaResumed with
    | error d => exact .inr (.inl (by simp [s', t, resumeKyc_run, hv, hr]))
    | ok token =>
      cases hu : env.fails (.update v.id)
      · exact .inr (.inr ⟨token, by simp [s', t, resumeKyc_run, hv, hr, hu]⟩)
      · exact .inr (.inl (by simp [s', t, resumeKyc_run, hv, hr, hu]))

/-- The provider call `openSession` makes. -/
def sessionCall (userId : String) (dto : StartKycDto) : KycProvider → ProviderCall
  | .persona => .createInquiry userId dto.targetLevel dto.redirectUrl
  | .onfido => .createApplicantSession userId

/-- A provider's answer to `openSession`: the handle update and the response, or the error. -/
def sessionOutcome (v : KycVerification) : KycProvider → Except KycError (KycUpdate × StartKycResponseDto)
  | .persona =>
    match env.personaCreated with
    | .ok c => .ok ({ inquiryId := some (some c.id), sessionToken := some (some c.sessionToken) },
        ⟨v.id, c.id, c.sessionToken, widgetUrlFor c.id c.sessionToken⟩)
    | .error detail => .error (.badRequest ("Persona API error: " ++ detail))
  | .onfido =>
    match env.onfidoCreated with
    | .ok o => .ok ({ inquiryId := some (some o.workflowRunId), sessionToken := some (some o.sdkToken),
                      verificationId := some (some o.applicantId) }, ⟨v.id, o.workflowRunId, o.sdkToken, ""⟩)
    | .error detail => .error (.badRequest ("Onfido API error: " ++ detail))

theorem sessionOutcome_handles {v : KycVerification} {provider : KycProvider} {h : KycUpdate}
    {r : StartKycResponseDto} (ho : sessionOutcome env v provider = .ok (h, r)) :
    h.status = none ∧ h.approvedAt = none ∧ h.expiresAt = none ∧ ∃ i, h.inquiryId = some (some i) := by
  cases provider <;> simp only [sessionOutcome] at ho <;> split at ho <;> cases ho <;> simp

theorem openSession_run (userId : String) (dto : StartKycDto) (provider : KycProvider)
    (v : KycVerification) :
    (openSession env userId dto provider v).run s =
      match sessionOutcome env v provider with
      | .ok (handles, response) =>
        if env.fails (.update v.id) then
          (.error (.persistence (.update v.id)), s.callProvider (sessionCall userId dto provider))
        else (.ok response, (s.callProvider (sessionCall userId dto provider)).updateById v.id handles)
      | .error e => (.error e, s.callProvider (sessionCall userId dto provider)) := by
  cases provider
  · cases hc : env.personaCreated <;> cases hu : env.fails (.update v.id) <;>
      simp only [openSession, PersonaProvider.createInquiry, hc, KycRepo.update, hu, run_bind,
        run_atom, run_err, sessionOutcome, sessionCall, PersonaProvider.sessionOf, run_ok,
        run_tryWrite, Bool.false_eq_true, ↓reduceIte, run_pure]
  · cases hc : env.onfidoCreated <;> cases hu : env.fails (.update v.id) <;>
      simp only [openSession, OnfidoProvider.createApplicantSession, hc, KycRepo.update, hu,
        run_bind, run_atom, run_err, sessionOutcome, sessionCall, run_ok, run_tryWrite,
        Bool.false_eq_true, ↓reduceIte, run_pure]

/-- The row `createVerification` saves. -/
def newVerification (userId : String) (dto : StartKycDto) : KycVerification :=
  .create s.nextId userId dto.targetLevel .pending (dto.provider.getD .persona)
    (s.verifications.countP (·.inSlot userId dto.targetLevel) + 1) env.now

theorem createVerification_run (userId : String) (dto : StartKycDto) (ipAddress : Option String) :
    (createVerification env userId dto ipAddress).run s =
      if env.fails .save then (.error (.persistence .save), s)
      else
        let v := newVerification env s userId dto
        match (openSession env userId dto (dto.provider.getD .persona) v).run (s.insert v) with
        | (.ok response, s') =>
          (.ok response, (s'.appendAudit (env.fails (.audit .initiated (some v.id)))
            ⟨userId, some v.id, .initiated,
              .initiated dto.targetLevel (dto.provider.getD .persona) v.attemptCount, ipAddress⟩).emitAll
            [.initiated userId dto.targetLevel v.id])
        | (.error e, s') =>
          if env.fails (.delete v.id) then (.error (.persistence (.delete v.id)), s')
          else (.error e, s'.deleteById v.id) := by
  cases hs : env.fails .save
  · simp only [createVerification, getAttemptCount, KycRepo.count, KycRepo.save, hs, run_bind,
      run_read, run_atom, run_ok, run_tryCatch, Bool.false_eq_true, if_false, newVerification]
    generalize run (openSession _ _ _ _ _) _ = R
    rcases R with ⟨_ | _, _⟩ <;> cases hd : env.fails (.delete s.nextId) <;>
      simp [audit, emit, KycRepo.delete, hd]
  · simp only [createVerification, getAttemptCount, KycRepo.count, KycRepo.save, hs, ↓reduceIte,
      run_bind, run_read, run_atom, id_eq, run_err]

theorem createVerification_store (userId : String) (dto : StartKycDto) (ipAddress : Option String) :
    let n := newVerification env s userId dto
    let t := (s.insert n).callProvider (sessionCall userId dto (dto.provider.getD .persona))
    let s' := ((createVerification env userId dto ipAddress).run s).2
    s' = s ∨ (env.fails (.delete n.id) = true ∧ s' = t) ∨ s' = t.deleteById n.id ∨
      ∃ handles response, sessionOutcome env n (dto.provider.getD .persona) = .ok (handles, response) ∧
        s' = ((t.updateById n.id handles).appendAudit (env.fails (.audit .initiated (some n.id)))
          ⟨userId, some n.id, .initiated,
            .initiated dto.targetLevel (dto.provider.getD .persona) n.attemptCount, ipAddress⟩).emitAll
          [.initiated userId dto.targetLevel n.id] := by
  intro n t s'
  have rollback (e : KycError) (P : Prop) :
      let r : Except KycError StartKycResponseDto × KycStore :=
        if env.fails (.delete n.id) then (.error (.persistence (.delete n.id)), t)
        else (.error e, t.deleteById n.id)
      (env.fails (.delete n.id) = true ∧ r.2 = t) ∨ r.2 = t.deleteById n.id ∨ P := by
    dsimp only
    split
    · exact .inl ⟨‹_›, rfl⟩
    · exact .inr (.inl rfl)
  simp only [s', createVerification_run, openSession_run]
  split
  · exact .inl rfl
  · rcases hso : sessionOutcome env (newVerification env s userId dto) (dto.provider.getD .persona)
      with e | ⟨hh, r⟩
    · exact .inr (rollback e _)
    · cases hu : env.fails (.update n.id) <;> simp only [hu, ↓reduceIte, Bool.false_eq_true]
      · exact .inr (.inr (.inr ⟨hh, r, rfl, rfl⟩))
      · exact .inr (rollback _ _)

theorem startKyc_run (userId : String) (dto : StartKycDto) (ipAddress : Option String) :
    (startKyc env userId dto ipAddress).run s =
      if dto.targetLevel = .none then (.error (.badRequest "Cannot initiate KYC for level 0"), s)
      else if s.prerequisiteMet userId dto.targetLevel then
        match s.verifications.find? (·.matches userId dto.targetLevel .pending) with
        | some e =>
          if truthy e.inquiryId then (resumeKyc env e).run s
          else (createVerification env userId dto ipAddress).run s
        | none => (createVerification env userId dto ipAddress).run s
      else (.error (prerequisiteError dto.targetLevel), s) := by
  by_cases hl : dto.targetLevel = .none
  · simp only [startKyc, hl, ↓reduceIte, Prog.bind_pure, Prog.pure_bind, throw_bind, run_throw]
  · cases hp : s.prerequisiteMet userId dto.targetLevel
    · simp only [startKyc, hl, ↓reduceIte, Prog.bind_pure, Prog.pure_bind, run_bind,
        checkPrerequisite_run, hp, Bool.false_eq_true]
    · simp only [startKyc, hl, run_bind, checkPrerequisite_run, hp, KycRepo.findOne, ↓reduceIte,
        pure_bind, run_read, Prog.bind_pure]
      split
      · rename_i h
        simp only [h]
        split <;> rfl
      · rename_i h
        rw [Option.eq_none_iff_forall_not_mem.2 h]

/-- The events `manualReview` emits. -/
def manualEvents (v : KycVerification) (verificationId : Nat) (dto : ManualReviewDto) :
    List KycEvent :=
  if dto.status = .approved then [.approved v.userId v.level verificationId none true] else []

theorem manualReview_run (verificationId : Nat) (dto : ManualReviewDto) (ipAddress : Option String) :
    (manualReview env verificationId dto ipAddress).run s =
      match s.verifications.find? (·.id == verificationId) with
      | some v =>
        if env.fails (.update verificationId) then
          (.error (.persistence (.update verificationId)), s)
        else (.ok (v.patch (manualUpdates env.now dto)),
          ((s.updateById verificationId (manualUpdates env.now dto)).appendAudit
            (env.fails (.audit .statusChanged (some verificationId)))
            ⟨v.userId, some verificationId, .statusChanged, .manual dto.reviewedBy dto.status dto.notes,
              ipAddress⟩).emitAll (manualEvents v verificationId dto))
      | none => (.error .entityNotFound, s) := by
  cases hv : s.verifications.find? (·.id == verificationId) with
  | none =>
    simp only [manualReview, KycRepo.findOneOrFail, Prog.pure_bind, run_bind, run_atom, hv, id_eq,
      run_err]
  | some v =>
    cases hu : env.fails (.update verificationId) <;> by_cases ha : dto.status = .approved <;>
      simp only [manualReview, KycRepo.findOneOrFail, KycRepo.update, hu, audit, ha, ↓reduceIte,
        emit, run_bind, run_atom, hv, id_eq, run_ok, run_tryWrite, Bool.false_eq_true, run_write,
        run_pure, manualEvents, Prog.pure_bind, KycStore.emitAll_nil]

theorem expireEach_run_nil : (expireEach env []).run s = (.ok (), s) := rfl

theorem expireEach_run_cons (v : KycVerification) (vs : List KycVerification) :
    (expireEach env (v :: vs)).run s =
      if env.fails (.update v.id) then (.error (.persistence (.update v.id)), s)
      else (expireEach env vs).run
        (((s.updateById v.id { status := some .expired }).appendAudit
          (env.fails (.audit .expired (some v.id)))
          ⟨v.userId, some v.id, .expired, .expired v.expiresAt v.level, none⟩).emitAll
          [.expired v.userId v.level v.id]) := by
  cases hu : env.fails (.update v.id) <;>
    simp only [expireEach, KycRepo.update, hu, audit, emit, run_bind, run_tryWrite, Bool.false_eq_true,
      ↓reduceIte, run_write]

theorem expireVerifications_run :
    (expireVerifications env).run s =
      (expireEach env (s.verifications.filter (isSweepable env.now))).run s := by
  simp [expireVerifications, KycRepo.find, run_bind]

theorem getActiveKycLevel_run (userId : String) :
    (getActiveKycLevel env userId).run s = (.ok (activeLevelOf env.now (s.approvedOf userId)), s) :=
  rfl

def limitDto (level : KycLevel) (userId : String) : KycLimitDto :=
  { level, monthlyLimitUsd := kycMonthlyLimits level,
    currentMonthUsageUsd := getCurrentMonthUsage userId,
    remainingUsd := (kycMonthlyLimits level).map fun limit => (limit : ℚ) - getCurrentMonthUsage userId,
    isLimitReached := false }

theorem checkMonthlyLimit_run (userId : String) (amount : ℚ) :
    (checkMonthlyLimit env userId amount).run s =
      let level := activeLevelOf env.now (s.approvedOf userId)
      let reached := limitReached (kycMonthlyLimits level) (getCurrentMonthUsage userId) amount
      let action := if reached then KycAuditAction.limitExceeded else .limitChecked
      let s' := s.appendAudit (env.fails (.audit action none))
        ⟨userId, none, action,
          .limit level (kycMonthlyLimits level) (getCurrentMonthUsage userId) amount, none⟩
      if reached then (.error (.forbidden (limitMessage (kycMonthlyLimits level))), s')
      else (.ok (limitDto level userId), s') := by
  simp only [checkMonthlyLimit, getActiveKycLevel, audit, run_bind, run_read, run_pure, pure_bind,
    run_write]
  split <;> simp_all [limitDto]

theorem processPersonaWebhook_run (rawBody signature : String) (payload : PersonaWebhookPayload) :
    (processPersonaWebhook env rawBody signature payload).run s =
      if PersonaProvider.verifyWebhookSignature env.config env.now rawBody signature then
        match PersonaProvider.parseWebhookPayload payload with
        | .ok result =>
          let s' := s.appendAudit (env.fails (.audit .webhookReceived none))
            ⟨result.referenceId.getD "unknown", none, .webhookReceived,
              .webhook .persona result.inquiryId result.status, none⟩
          match s.verifications.find? (inquiryIdIs result.inquiryId) with
          | some v => (applyVerificationResult env v result.toResult).run s'
          | none => (.ok (), s')
        | .error e => (.error e, s)
      else (.error (.badRequest "Invalid webhook signature"), s) := by
  by_cases hv : PersonaProvider.verifyWebhookSignature env.config env.now rawBody signature
  · cases hp : PersonaProvider.parseWebhookPayload payload with
    | error e =>
      simp only [processPersonaWebhook, hv, Bool.not_true, Bool.false_eq_true, ↓reduceIte, hp,
        Prog.pure_bind, run_bind, run_ofExcept]
    | ok result =>
      cases hf : s.verifications.find? (inquiryIdIs result.inquiryId) <;>
        simp only [processPersonaWebhook, hv, Bool.not_true, Bool.false_eq_true, ↓reduceIte, hp,
          audit, KycRepo.findOne, Prog.pure_bind, run_bind, run_ofExcept, run_write, run_read,
          KycStore.appendAudit_verifications, hf, run_pure]
  · simp only [processPersonaWebhook, hv, Bool.not_false, ↓reduceIte, throw_bind, run_throw,
      Bool.false_eq_true]

theorem processOnfidoWebhook_run (rawBody signature : String) (payload : OnfidoWebhookPayload) :
    (processOnfidoWebhook env rawBody signature payload).run s =
      if OnfidoProvider.verifyWebhookSignature env.config rawBody signature then
        match OnfidoProvider.parseWebhookPayload payload with
        | .ok result =>
          match s.verifications.find? (inquiryIdIs (some result.workflowRunId)) with
          | some v =>
            (applyVerificationResult env v result.toResult).run
              (s.appendAudit (env.fails (.audit .webhookReceived (some v.id)))
                ⟨v.userId, some v.id, .webhookReceived,
                  .webhook .onfido (some result.workflowRunId) result.status, none⟩)
          | none => (.ok (), s)
        | .error e => (.error e, s)
      else (.error (.badRequest "Invalid webhook signature"), s) := by
  by_cases hv : OnfidoProvider.verifyWebhookSignature env.config rawBody signature
  · cases hp : OnfidoProvider.parseWebhookPayload payload with
    | error e =>
      simp only [processOnfidoWebhook, hv, Bool.not_true, Bool.false_eq_true, ↓reduceIte, hp,
        Prog.pure_bind, run_bind, run_ofExcept]
    | ok result =>
      cases hf : s.verifications.find? (inquiryIdIs (some result.workflowRunId)) <;>
        simp only [processOnfidoWebhook, hv, Bool.not_true, Bool.false_eq_true, ↓reduceIte, hp,
          KycRepo.findOne, audit, Prog.pure_bind, run_bind, run_ofExcept, run_read, hf, run_pure,
          run_write]
  · simp only [processOnfidoWebhook, hv, Bool.not_false, ↓reduceIte, throw_bind, run_throw,
      Bool.false_eq_true]

theorem canActivate_run (route : RouteKycMetadata) (userId : Option String) :
    (KycGuard.canActivate env route userId).run s =
      if route.requiredLevel.isNone && route.requiredAmount.isNone || !truthy userId then (.ok true, s)
      else
        let level := activeLevelOf env.now (s.approvedOf (userId.getD ""))
        match route.requiredLevel.filter (level < ·) with
        | some required => (.error (.forbidden (levelMessage required level)), s)
        | none =>
          match route.requiredAmount with
          | some amount =>
            match (checkMonthlyLimit env (userId.getD "") amount).run s with
            | (.ok _, s') => (.ok true, s')
            | (.error e, s') => (.error e, s')
          | none => (.ok true, s) := by
  obtain ⟨_ | required, _ | amount⟩ := route <;> cases hu : truthy userId <;>
    simp only [KycGuard.canActivate, Option.isNone_none, Bool.and_self, ↓reduceIte, run_pure,
      Bool.not_false, Bool.or_self, Bool.not_true, Bool.or_false, Option.isNone_some,
      Bool.and_false, Bool.false_eq_true, hu, Prog.pure_bind, Bool.or_true, getActiveKycLevel,
      run_bind, run_read, Option.filter, Bool.and_true, throw_bind, decide_eq_true_eq] <;>
    (try split_ifs) <;> (try simp only [run_bind, run_throw, run_pure]) <;>
    rcases (checkMonthlyLimit env (userId.getD "") amount).run s with ⟨_ | _, _⟩ <;> rfl

end StellarSwipe.Kyc
