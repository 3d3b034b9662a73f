import Mathlib.Algebra.Order.Ring.Rat
import StellarSwipe.Kyc.Providers

namespace StellarSwipe.Kyc
set_option autoImplicit true

abbrev KycM := Prog KycStore KycError

/-- What one handler invocation meets outside its own code: the clock, which repository
writes fail, what the providers answer, and the provider configuration. -/
structure KycEnv where
  now : Timestamp
  fails : DbWrite → Bool
  config : ProviderConfig
  personaCreated : Except String PersonaInquiryCreated
  personaResumed : Except String String
  onfidoCreated : Except String OnfidoApplicantSession

structure StartKycDto where
  targetLevel : KycLevel
  provider : Option KycProvider := none
  redirectUrl : Option String := none
  deriving DecidableEq, Repr

structure StartKycResponseDto where
  verificationRecordId : Nat
  inquiryId : String
  sessionToken : String
  widgetUrl : String
  deriving DecidableEq, Repr

structure ManualReviewDto where
  reviewedBy : String
  status : KycStatus
  notes : Option String := none
  deriving DecidableEq, Repr

structure KycLimitDto where
  level : KycLevel
  monthlyLimitUsd : Option Nat
  currentMonthUsageUsd : ℚ
  remainingUsd : Option ℚ
  isLimitReached : Bool
  deriving DecidableEq

/-- The canonical result `applyVerificationResult` receives from either webhook. -/
structure VerificationResult where
  status : ResultStatus
  verificationId : Option String
  declinedReasons : List String
  providerMetadata : ProviderMetadata
  deriving DecidableEq, Repr

def truthy : Option String → Bool
  | some s => !s.isEmpty
  | none => false

/-- `where: { inquiryId }`; TypeORM drops a condition whose value is `undefined`. -/
def inquiryIdIs : Option String → KycVerification → Bool
  | some i, v => v.inquiryId == some i
  | none, _ => true

/-- `!v.expiresAt || v.expiresAt > new Date()`. -/
def isFresh (now : Timestamp) (v : KycVerification) : Bool :=
  match v.expiresAt with
  | some e => decide (now < e)
  | none => true

/-- `expiresAt: LessThan(new Date())`; a null `expiresAt` never matches. -/
def isPastExpiry (now : Timestamp) (v : KycVerification) : Bool :=
  match v.expiresAt with
  | some e => decide (e < now)
  | none => false

/-- `where: { userId, level, status }`. -/
def KycVerification.matches (userId : String) (level : KycLevel) (status : KycStatus)
    (v : KycVerification) : Bool :=
  v.userId == userId && v.level == level && v.status == status

/-- `where: { userId, level }`. -/
def KycVerification.inSlot (userId : String) (level : KycLevel) (v : KycVerification) : Bool :=
  v.userId == userId && v.level == level

/-- `where: { status: APPROVED, expiresAt: LessThan(new Date()) }`. -/
def isSweepable (now : Timestamp) (v : KycVerification) : Bool :=
  v.status == .approved && isPastExpiry now v

/-- `order: { level: 'DESC' }`, stable on equal levels. -/
def byLevelDesc (a b : KycVerification) : Bool := decide (b.level ≤ a.level)

namespace KycStore
variable (s : KycStore)

def approvedOf (userId : String) : List KycVerification :=
  (s.verifications.filter fun v => v.userId == userId && v.status == .approved).mergeSort byLevelDesc

end KycStore

namespace KycRepo

def findOne (p : KycVerification → Bool) : KycM (Option KycVerification) :=
  Prog.read fun s => s.verifications.find? p

def findOneOrFail (p : KycVerification → Bool) : KycM KycVerification :=
  Prog.atom id fun s =>
    match s.verifications.find? p with
    | some v => .ok v
    | none => .err .entityNotFound

def find (p : KycVerification → Bool) : KycM (List KycVerification) :=
  Prog.read fun s => s.verifications.filter p

def count (p : KycVerification → Bool) : KycM Nat :=
  Prog.read fun s => s.verifications.countP p

/-- `save(create({...}))` of a new row, which receives the next id and the clock time. -/
def save (env : KycEnv) (userId : String) (level : KycLevel) (status : KycStatus)
    (provider : KycProvider) (attemptCount : Nat) : KycM KycVerification :=
  if env.fails .save then Prog.atom id fun _ => .err (.persistence .save)
  else
    Prog.atom (fun s => s.insert (.create s.nextId userId level status provider attemptCount env.now))
      fun s => .ok (.create s.nextId userId level status provider attemptCount env.now)

def update (env : KycEnv) (id : Nat) (u : KycUpdate) : KycM Unit :=
  Prog.tryWrite (env.fails (.update id)) (.persistence (.update id)) (·.updateById id u)

def delete (env : KycEnv) (id : Nat) : KycM Unit :=
  Prog.tryWrite (env.fails (.delete id)) (.persistence (.delete id)) (·.deleteById id)

end KycRepo

def PersonaProvider.createInquiry (env : KycEnv) (userId : String) (targetLevel : KycLevel)
    (redirectUrl : Option String) : KycM PersonaInquirySession :=
  Prog.atom (·.callProvider (.createInquiry userId targetLevel redirectUrl)) fun _ =>
    match env.personaCreated with
    | .ok created => .ok (sessionOf created)
    | .error detail => .err (.badRequest ("Persona API error: " ++ detail))

def PersonaProvider.resumeInquiry (env : KycEnv) (inquiryId : String) : KycM String :=
  Prog.atom (·.callProvider (.resumeInquiry inquiryId)) fun _ =>
    match env.personaResumed with
    | .ok token => .ok token
    | .error detail => .err (.badRequest ("Persona API error: " ++ detail))

def OnfidoProvider.createApplicantSession (env : KycEnv) (userId : String) :
    KycM OnfidoApplicantSession :=
  Prog.atom (·.callProvider (.createApplicantSession userId)) fun _ =>
    match env.onfidoCreated with
    | .ok session => .ok session
    | .error detail => .err (.badRequest ("Onfido API error: " ++ detail))

/-- `audit(...)`: its own failure is caught and logged, never thrown. -/
def audit (env : KycEnv) (userId : String) (verificationId : Option Nat) (action : KycAuditAction)
    (details : AuditDetails) (ipAddress : Option String) : KycM Unit :=
  Prog.write (·.appendAudit (env.fails (.audit action verificationId))
    { userId, verificationId, action, details, ipAddress })

/-- The synchronous `eventEmitter.emit` calls that follow one `await`. -/
def emit (es : List KycEvent) : KycM Unit := Prog.write (·.emitAll es)

def getApprovedVerification (userId : String) (level : KycLevel) :
    KycM (Option KycVerification) :=
  KycRepo.findOne (·.matches userId level .approved)

def getAttemptCount (userId : String) (level : KycLevel) : KycM Nat :=
  KycRepo.count (·.inSlot userId level)

def prerequisiteMessage (target prereq : KycLevel) : String :=
  "Level " ++ toString target.toNat ++ " KYC requires an approved Level " ++
    toString prereq.toNat ++ " verification first"

def resumeKyc (env : KycEnv) (verification : KycVerification) : KycM StartKycResponseDto := do
  if !truthy verification.inquiryId then
    throw (.badRequest "No active inquiry to resume")
  let inquiryId := verification.inquiryId.getD ""
  let sessionToken ← PersonaProvider.resumeInquiry env inquiryId
  KycRepo.update env verification.id { sessionToken := some (some sessionToken) }
  pure { verificationRecordId := verification.id, inquiryId, sessionToken,
         widgetUrl := widgetUrlFor inquiryId sessionToken }

/-- The provider branch of `startKyc`'s `try` block: open a session and store its handles. -/
def openSession (env : KycEnv) (userId : String) (dto : StartKycDto) (provider : KycProvider)
    (verification : KycVerification) : KycM StartKycResponseDto :=
  match provider with
  | .persona => do
    let session ← PersonaProvider.createInquiry env userId dto.targetLevel dto.redirectUrl
    KycRepo.update env verification.id
      { inquiryId := some (some session.inquiryId), sessionToken := some (some session.sessionToken) }
    pure { verificationRecordId := verification.id, inquiryId := session.inquiryId,
           sessionToken := session.sessionToken, widgetUrl := session.widgetUrl }
  | .onfido => do
    let session ← OnfidoProvider.createApplicantSession env userId
    KycRepo.update env verification.id
      { inquiryId := some (some session.workflowRunId), sessionToken := some (some session.sdkToken),
        verificationId := some (some session.applicantId) }
    pure { verificationRecordId := verification.id, inquiryId := session.workflowRunId,
           sessionToken := session.sdkToken, widgetUrl := "" }

/-- `LEVEL_PREREQUISITES[targetLevel]`, checked with `getApprovedVerification`. -/
def checkPrerequisite (userId : String) (targetLevel : KycLevel) : KycM Unit :=
  match levelPrerequisites targetLevel with
  | some prereq => do
    let prereqVerification ← getApprovedVerification userId prereq
    if prereqVerification.isNone then
      throw (.badRequest (prerequisiteMessage targetLevel prereq))
  | none => pure ()

/-- `startKyc` from the record creation on: count, save, then the `try`/`catch` that
deletes the new record when the provider session or the handle update fails. -/
def createVerification (env : KycEnv) (userId : String) (dto : StartKycDto)
    (ipAddress : Option String) : KycM StartKycResponseDto := do
  let provider := dto.provider.getD .persona
  let attempt ← getAttemptCount userId dto.targetLevel
  let verification ← KycRepo.save env userId dto.targetLevel .pending provider (attempt + 1)
  try
    let response ← openSession env userId dto provider verification
    audit env userId (some verification.id) .initiated
      (.initiated dto.targetLevel provider (attempt + 1)) ipAddress
    emit [.initiated userId dto.targetLevel verification.id]
    pure response
  catch err =>
    KycRepo.delete env verification.id
    throw err

def startKyc (env : KycEnv) (userId : String) (dto : StartKycDto) (ipAddress : Option String) :
    KycM StartKycResponseDto := do
  if dto.targetLevel = .none then
    throw (.badRequest "Cannot initiate KYC for level 0")
  checkPrerequisite userId dto.targetLevel
  let existing ← KycRepo.findOne (·.matches userId dto.targetLevel .pending)
  if let some e := existing then
    if truthy e.inquiryId then
      return ← resumeKyc env e
  createVerification env userId dto ipAddress

def ResultStatus.toKycStatus : ResultStatus → KycStatus
  | .approved => .approved
  | .declined => .rejected
  | .needsReview => .underReview
  | .pending => .pending

/-- `result.declinedReasons.join('; ') || 'Verification declined'`. -/
def declineReason (reasons : List String) : String :=
  let joined := "; ".intercalate reasons
  if joined = "" then "Verification declined" else joined

/-- The `updates` object `applyVerificationResult` builds before its write. -/
def resultUpdates (now : Timestamp) (result : VerificationResult) : KycUpdate :=
  let base : KycUpdate :=
    { verificationId := result.verificationId.map some
      providerMetadata := some result.providerMetadata }
  match result.status with
  | .approved =>
    { base with status := some .approved, approvedAt := some (some now),
                expiresAt := some (some (now + verificationTtlMs)), rejectionReason := some none }
  | .declined =>
    { base with status := some .rejected,
                rejectionReason := some (some (declineReason result.declinedReasons)) }
  | .needsReview => { base with status := some .underReview }
  | .pending => { base with status := some .pending }

/-- The events `applyVerificationResult` emits once its audit entry is written. -/
def resultEvents (verification : KycVerification) (updates : KycUpdate) : List KycEvent :=
  match updates.status with
  | some .approved =>
    [.approved verification.userId verification.level verification.id updates.expiresAt.join false,
     .levelChanged verification.userId verification.level]
  | some .rejected => [.rejected verification.userId verification.level updates.rejectionReason.join]
  | _ => []

def applyVerificationResult (env : KycEnv) (verification : KycVerification)
    (result : VerificationResult) : KycM Unit := do
  let previousStatus := verification.status
  let updates := resultUpdates env.now result
  KycRepo.update env verification.id updates
  audit env verification.userId (some verification.id) .statusChanged
    (.statusChanged previousStatus updates.status result.verificationId) none
  emit (resultEvents verification updates)

/-- The object literal `processPersonaWebhook` passes to `applyVerificationResult`. -/
def PersonaVerificationResult.toResult (r : PersonaVerificationResult) : VerificationResult :=
  { status := r.status, verificationId := r.verificationId, declinedReasons := r.declinedReasons,
    providerMetadata := r.providerMetadata }

/-- The object literal `processOnfidoWebhook` passes to `applyVerificationResult`. -/
def OnfidoVerificationResult.toResult (r : OnfidoVerificationResult) : VerificationResult :=
  { status := r.status, verificationId := some r.checkId, declinedReasons := r.declinedReasons,
    providerMetadata := r.providerMetadata }

def processPersonaWebhook (env : KycEnv) (rawBody signature : String)
    (payload : PersonaWebhookPayload) : KycM Unit := do
  if !PersonaProvider.verifyWebhookSignature env.config env.now rawBody signature then
    throw (.badRequest "Invalid webhook signature")
  let result ← Prog.ofExcept (PersonaProvider.parseWebhookPayload payload)
  audit env (result.referenceId.getD "unknown") none .webhookReceived
    (.webhook .persona result.inquiryId result.status) none
  let verification ← KycRepo.findOne (inquiryIdIs result.inquiryId)
  match verification with
  | none => pure ()
  | some v => applyVerificationResult env v result.toResult

def processOnfidoWebhook (env : KycEnv) (rawBody signature : String)
    (payload : OnfidoWebhookPayload) : KycM Unit := do
  if !OnfidoProvider.verifyWebhookSignature env.config rawBody signature then
    throw (.badRequest "Invalid webhook signature")
  let result ← Prog.ofExcept (OnfidoProvider.parseWebhookPayload payload)
  let verification ← KycRepo.findOne (inquiryIdIs (some result.workflowRunId))
  match verification with
  | none => pure ()
  | some v => do
    audit env v.userId (some v.id) .webhookReceived
      (.webhook .onfido (some result.workflowRunId) result.status) none
    applyVerificationResult env v result.toResult

/-- The `updates` object `manualReview` builds before its write. -/
def manualUpdates (now : Timestamp) (dto : ManualReviewDto) : KycUpdate :=
  { status := some dto.status
    approvedAt := if dto.status = .approved then some (some now) else none
    expiresAt := if dto.status = .approved then some (some (now + verificationTtlMs)) else none
    rejectionReason := if truthy dto.notes then some dto.notes else none }

def manualReview (env : KycEnv) (verificationId : Nat) (dto : ManualReviewDto)
    (ipAddress : Option String) : KycM KycVerification := do
  let verification ← KycRepo.findOneOrFail fun v => v.id == verificationId
  let updates := manualUpdates env.now dto
  KycRepo.update env verificationId updates
  audit env verification.userId (some verificationId) .statusChanged
    (.manual dto.reviewedBy dto.status dto.notes) ipAddress
  if dto.status = .approved then
    emit [.approved verification.userId verification.level verificationId none true]
  pure (verification.patch updates)

/-- The loop of `getActiveKycLevel`: the level of the first fresh record, else `NONE`. -/
def activeLevelOf (now : Timestamp) (approved : List KycVerification) : KycLevel :=
  match approved.find? (isFresh now) with
  | some v => v.level
  | none => .none

def getActiveKycLevel (env : KycEnv) (userId : String) : KycM KycLevel := do
  let approved ← Prog.read fun s => s.approvedOf userId
  pure (activeLevelOf env.now approved)

def getCurrentMonthUsage (_userId : String) : ℚ := 0

/-- `monthlyLimit !== null && currentMonthUsageUsd + requestedAmountUsd > monthlyLimit`. -/
def limitReached : Option Nat → ℚ → ℚ → Bool
  | some limit, usage, requested => decide ((limit : ℚ) < usage + requested)
  | none, _, _ => false

def groupThousands : List Char → List Char
  | a :: b :: c :: rest@(_ :: _) => a :: b :: c :: ',' :: groupThousands rest
  | ds => ds

/-- `Number.prototype.toLocaleString()` on a whole number, with `en-US` digit grouping. -/
def toLocaleString (n : Nat) : String :=
  String.mk (groupThousands (Nat.toDigits 10 n).reverse).reverse

def limitMessage (monthlyLimit : Option Nat) : String :=
  "Monthly limit of $" ++ (monthlyLimit.map toLocaleString).getD "undefined" ++
    " reached. Upgrade your KYC level to continue."

def checkMonthlyLimit (env : KycEnv) (userId : String) (requestedAmountUsd : ℚ) :
    KycM KycLimitDto := do
  let level ← getActiveKycLevel env userId
  let monthlyLimit := kycMonthlyLimits level
  let currentMonthUsageUsd := getCurrentMonthUsage userId
  let remaining := monthlyLimit.map fun limit => (limit : ℚ) - currentMonthUsageUsd
  let isLimitReached := limitReached monthlyLimit currentMonthUsageUsd requestedAmountUsd
  audit env userId none (if isLimitReached then .limitExceeded else .limitChecked)
    (.limit level monthlyLimit currentMonthUsageUsd requestedAmountUsd) none
  if isLimitReached then
    throw (.forbidden (limitMessage monthlyLimit))
  pure { level, monthlyLimitUsd := monthlyLimit, currentMonthUsageUsd, remainingUsd := remaining,
         isLimitReached := false }

def expireEach (env : KycEnv) : List KycVerification → KycM Unit
  | [] => pure ()
  | v :: vs => do
    KycRepo.update env v.id { status := some .expired }
    audit env v.userId (some v.id) .expired (.expired v.expiresAt v.level) none
    emit [.expired v.userId v.level v.id]
    expireEach env vs

def expireVerifications (env : KycEnv) : KycM Unit := do
  let expired ← KycRepo.find (isSweepable env.now)
  expireEach env expired

/-- The `@RequireKycLevel` and `@RequireKycAmount` metadata the reflector resolves for a route. -/
structure RouteKycMetadata where
  requiredLevel : Option KycLevel := none
  requiredAmount : Option ℚ := none

def levelMessage (requiredLevel activeLevel : KycLevel) : String :=
  "This action requires KYC Level " ++ toString requiredLevel.toNat ++ ". Your current level is " ++
    toString activeLevel.toNat ++ ". Please complete identity verification to proceed."

def KycGuard.canActivate (env : KycEnv) (route : RouteKycMetadata) (userId : Option String) :
    KycM Bool := do
  if route.requiredLevel.isNone && route.requiredAmount.isNone then
    return true
  if !truthy userId then
    return true
  let user := userId.getD ""
  let activeLevel ← getActiveKycLevel env user
  if let some requiredLevel := route.requiredLevel then
    if activeLevel < requiredLevel then
      throw (.forbidden (levelMessage requiredLevel activeLevel))
  if let some requiredAmount := route.requiredAmount then
    let _ ← checkMonthlyLimit env user requiredAmount
  return true

end StellarSwipe.Kyc
