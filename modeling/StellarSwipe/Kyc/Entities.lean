import Mathlib.Data.Rat.Defs
import StellarSwipe.Prog

namespace StellarSwipe.Kyc
set_option autoImplicit true

/-- Milliseconds since the epoch, as `Date.now()` returns them. -/
abbrev Timestamp := Nat

inductive KycStatus
  | pending
  | underReview
  | approved
  | rejected
  | expired
  | requiresAction
  deriving DecidableEq, Repr

/-- Verification levels, compared by their ordinal: `NONE = 0`, `BASIC = 1`, `ENHANCED = 2`. -/
inductive KycLevel
  | none
  | basic
  | enhanced
  deriving DecidableEq, Repr

def KycLevel.toNat : KycLevel → Nat
  | .none => 0
  | .basic => 1
  | .enhanced => 2

instance : LE KycLevel := ⟨fun a b => a.toNat ≤ b.toNat⟩

instance : LT KycLevel := ⟨fun a b => a.toNat < b.toNat⟩

instance (a b : KycLevel) : Decidable (a ≤ b) := inferInstanceAs (Decidable (a.toNat ≤ b.toNat))

instance (a b : KycLevel) : Decidable (a < b) := inferInstanceAs (Decidable (a.toNat < b.toNat))

theorem KycLevel.toNat_inj {a b : KycLevel} (h : a.toNat = b.toNat) : a = b := by
  cases a <;> cases b <;> first | rfl | cases h

theorem KycLevel.le_def {a b : KycLevel} : a ≤ b ↔ a.toNat ≤ b.toNat := Iff.rfl

theorem KycLevel.lt_def {a b : KycLevel} : a < b ↔ a.toNat < b.toNat := Iff.rfl

theorem KycLevel.none_le (a : KycLevel) : KycLevel.none ≤ a := Nat.zero_le _

def KycLevel.max (a b : KycLevel) : KycLevel := if a ≤ b then b else a

inductive KycProvider
  | persona
  | onfido
  deriving DecidableEq, Repr

/-- `KYC_MONTHLY_LIMITS`: USD per calendar month, `none` for unlimited. -/
def kycMonthlyLimits : KycLevel → Option Nat
  | .none => some 1000
  | .basic => some 10000
  | .enhanced => none

/-- `VERIFICATION_TTL_MS`: one year. -/
def verificationTtlMs : Nat := 365 * 24 * 60 * 60 * 1000

/-- `LEVEL_PREREQUISITES`: Level 2 requires an approved Level 1. -/
def levelPrerequisites : KycLevel → Option KycLevel
  | .none => none
  | .basic => none
  | .enhanced => some .basic

/-- The audit-only `providerMetadata` bag each provider writes on a result. -/
inductive ProviderMetadata
  | empty
  | persona (templateId : Option String) (rawStatus : String)
  | onfido (workflowId : Option String) (status : Option String)
  deriving DecidableEq, Repr

/-- A row of `kyc_verifications`. -/
structure KycVerification where
  id : Nat
  userId : String
  level : KycLevel
  status : KycStatus
  provider : KycProvider
  verificationId : Option String
  inquiryId : Option String
  sessionToken : Option String
  approvedAt : Option Timestamp
  expiresAt : Option Timestamp
  rejectionReason : Option String
  providerMetadata : ProviderMetadata
  attemptCount : Nat
  createdAt : Timestamp
  deriving DecidableEq, Repr

/-- `kycRepo.create({...})`: the given columns, the others at their defaults. -/
def KycVerification.create (id : Nat) (userId : String) (level : KycLevel) (status : KycStatus)
    (provider : KycProvider) (attemptCount : Nat) (createdAt : Timestamp) : KycVerification :=
  { id, userId, level, status, provider, verificationId := none, inquiryId := none,
    sessionToken := none, approvedAt := none, expiresAt := none, rejectionReason := none,
    providerMetadata := .empty, attemptCount, createdAt }

section Create
variable (id : Nat) (userId : String) (level : KycLevel) (status : KycStatus) (provider : KycProvider)
  (attemptCount : Nat) (createdAt : Timestamp)

@[simp] theorem KycVerification.create_id :
    (create id userId level status provider attemptCount createdAt).id = id := rfl
@[simp] theorem KycVerification.create_userId :
    (create id userId level status provider attemptCount createdAt).userId = userId := rfl
@[simp] theorem KycVerification.create_level :
    (create id userId level status provider attemptCount createdAt).level = level := rfl
@[simp] theorem KycVerification.create_status :
    (create id userId level status provider attemptCount createdAt).status = status := rfl
@[simp] theorem KycVerification.create_inquiryId :
    (create id userId level status provider attemptCount createdAt).inquiryId = none := rfl
@[simp] theorem KycVerification.create_approvedAt :
    (create id userId level status provider attemptCount createdAt).approvedAt = none := rfl
@[simp] theorem KycVerification.create_expiresAt :
    (create id userId level status provider attemptCount createdAt).expiresAt = none := rfl
@[simp] theorem KycVerification.create_attemptCount :
    (create id userId level status provider attemptCount createdAt).attemptCount = attemptCount :=
  rfl

end Create

/-- The partial object given to `kycRepo.update(id, updates)`: an absent key leaves its
column alone, and a nullable column may be written with `null`. -/
structure KycUpdate where
  status : Option KycStatus := none
  verificationId : Option (Option String) := none
  inquiryId : Option (Option String) := none
  sessionToken : Option (Option String) := none
  approvedAt : Option (Option Timestamp) := none
  expiresAt : Option (Option Timestamp) := none
  rejectionReason : Option (Option String) := none
  providerMetadata : Option ProviderMetadata := none
  deriving DecidableEq, Repr

def KycVerification.patch (v : KycVerification) (u : KycUpdate) : KycVerification :=
  { v with
    status := u.status.getD v.status
    verificationId := u.verificationId.getD v.verificationId
    inquiryId := u.inquiryId.getD v.inquiryId
    sessionToken := u.sessionToken.getD v.sessionToken
    approvedAt := u.approvedAt.getD v.approvedAt
    expiresAt := u.expiresAt.getD v.expiresAt
    rejectionReason := u.rejectionReason.getD v.rejectionReason
    providerMetadata := u.providerMetadata.getD v.providerMetadata }

section Patch
variable (v : KycVerification) (u : KycUpdate)

theorem KycVerification.patch_patch : (v.patch u).patch u = v.patch u := by
  have h {α : Type} (o : Option α) (x : α) : o.getD (o.getD x) = o.getD x := by cases o <;> rfl
  simp only [KycVerification.patch, h]

@[simp] theorem KycVerification.patch_id : (v.patch u).id = v.id := rfl
@[simp] theorem KycVerification.patch_userId : (v.patch u).userId = v.userId := rfl
@[simp] theorem KycVerification.patch_level : (v.patch u).level = v.level := rfl
@[simp] theorem KycVerification.patch_provider : (v.patch u).provider = v.provider := rfl
@[simp] theorem KycVerification.patch_attemptCount : (v.patch u).attemptCount = v.attemptCount :=
  rfl
@[simp] theorem KycVerification.patch_createdAt : (v.patch u).createdAt = v.createdAt := rfl
@[simp] theorem KycVerification.patch_status : (v.patch u).status = u.status.getD v.status := rfl
@[simp] theorem KycVerification.patch_inquiryId :
    (v.patch u).inquiryId = u.inquiryId.getD v.inquiryId := rfl
@[simp] theorem KycVerification.patch_approvedAt :
    (v.patch u).approvedAt = u.approvedAt.getD v.approvedAt := rfl
@[simp] theorem KycVerification.patch_expiresAt :
    (v.patch u).expiresAt = u.expiresAt.getD v.expiresAt := rfl

end Patch

inductive KycAuditAction
  | initiated
  | documentSubmitted
  | statusChanged
  | levelUpgraded
  | levelDowngraded
  | expired
  | renewalStarted
  | webhookReceived
  | limitChecked
  | limitExceeded
  deriving DecidableEq, Repr

/-- The canonical outcome a provider adapter maps its own vocabulary to. -/
inductive ResultStatus
  | approved
  | declined
  | needsReview
  | pending
  deriving DecidableEq, Repr

/-- The `details` object of each audit call site, with the keys that site writes
(`fromStatus`/`toStatus` are the JSON keys `from`/`to`). -/
inductive AuditDetails
  | initiated (level : KycLevel) (provider : KycProvider) (attemptCount : Nat)
  | webhook (provider : KycProvider) (inquiryId : Option String) (status : ResultStatus)
  | statusChanged (fromStatus : KycStatus) (toStatus : Option KycStatus) (verificationId : Option String)
  | manual (reviewedBy : String) (status : KycStatus) (notes : Option String)
  | limit (level : KycLevel) (monthlyLimit : Option Nat) (currentUsage requested : ℚ)
  | expired (expiredAt : Option Timestamp) (level : KycLevel)
  deriving DecidableEq

/-- A row of `kyc_audit_logs`. -/
structure KycAuditLog where
  userId : String
  verificationId : Option Nat
  action : KycAuditAction
  details : AuditDetails
  ipAddress : Option String
  deriving DecidableEq

/-- The payloads of `KYC_EVENTS`, as emitted on the in-process event bus. -/
inductive KycEvent
  | initiated (userId : String) (level : KycLevel) (verificationId : Nat)
  | approved (userId : String) (level : KycLevel) (verificationId : Nat)
      (expiresAt : Option Timestamp) (manual : Bool)
  | rejected (userId : String) (level : KycLevel) (reason : Option String)
  | expired (userId : String) (level : KycLevel) (verificationId : Nat)
  | levelChanged (userId : String) (newLevel : KycLevel)
  deriving DecidableEq, Repr

inductive ProviderCall
  | createInquiry (userId : String) (targetLevel : KycLevel) (redirectUrl : Option String)
  | resumeInquiry (inquiryId : String)
  | createApplicantSession (userId : String)
  deriving DecidableEq, Repr

/-- Everything the KYC handlers share: the two tables, the event bus, the provider side,
and the id the next saved verification receives. -/
structure KycStore where
  verifications : List KycVerification
  auditLogs : List KycAuditLog
  events : List KycEvent
  providerCalls : List ProviderCall
  nextId : Nat
  deriving DecidableEq

def KycStore.empty : KycStore := ⟨[], [], [], [], 0⟩

/-- The repository writes a handler can issue; the environment decides which fail. -/
inductive DbWrite
  | save
  | update (id : Nat)
  | delete (id : Nat)
  | audit (action : KycAuditAction) (verificationId : Option Nat)
  deriving DecidableEq, Repr

inductive KycError
  | badRequest (message : String)
  | forbidden (message : String)
  | entityNotFound
  | persistence (write : DbWrite)
  deriving DecidableEq, Repr

namespace KycStore
variable (s : KycStore)

/-- `kycRepo.save(kycRepo.create(...))` of a new row, which receives the next id. -/
def insert (v : KycVerification) : KycStore :=
  { s with verifications := s.verifications ++ [v], nextId := s.nextId + 1 }

/-- `kycRepo.update(id, updates)`. -/
def updateById (id : Nat) (u : KycUpdate) : KycStore :=
  { s with verifications := s.verifications.map fun v => if v.id = id then v.patch u else v }

/-- `kycRepo.delete(id)`. -/
def deleteById (id : Nat) : KycStore :=
  { s with verifications := s.verifications.filter fun v => v.id ≠ id }

/-- `auditRepo.save(...)` inside `audit`'s try/catch: a failed write is logged and dropped. -/
def appendAudit (fails : Bool) (entry : KycAuditLog) : KycStore :=
  if fails then s else { s with auditLogs := s.auditLogs ++ [entry] }

def emitAll (es : List KycEvent) : KycStore := { s with events := s.events ++ es }

def callProvider (c : ProviderCall) : KycStore := { s with providerCalls := s.providerCalls ++ [c] }

@[simp] theorem insert_verifications (v : KycVerification) :
    (s.insert v).verifications = s.verifications ++ [v] := rfl
@[simp] theorem insert_auditLogs (v : KycVerification) : (s.insert v).auditLogs = s.auditLogs := rfl
@[simp] theorem insert_events (v : KycVerification) : (s.insert v).events = s.events := rfl
@[simp] theorem insert_providerCalls (v : KycVerification) :
    (s.insert v).providerCalls = s.providerCalls := rfl
@[simp] theorem insert_nextId (v : KycVerification) : (s.insert v).nextId = s.nextId + 1 := rfl

@[simp] theorem updateById_verifications (id : Nat) (u : KycUpdate) :
    (s.updateById id u).verifications =
      s.verifications.map fun v => if v.id = id then v.patch u else v := rfl
@[simp] theorem updateById_auditLogs (id : Nat) (u : KycUpdate) :
    (s.updateById id u).auditLogs = s.auditLogs := rfl
@[simp] theorem updateById_events (id : Nat) (u : KycUpdate) :
    (s.updateById id u).events = s.events := rfl
@[simp] theorem updateById_providerCalls (id : Nat) (u : KycUpdate) :
    (s.updateById id u).providerCalls = s.providerCalls := rfl
@[simp] theorem updateById_nextId (id : Nat) (u : KycUpdate) :
    (s.updateById id u).nextId = s.nextId := rfl

@[simp] theorem deleteById_verifications (id : Nat) :
    (s.deleteById id).verifications = s.verifications.filter fun v => v.id ≠ id := rfl
@[simp] theorem deleteById_auditLogs (id : Nat) : (s.deleteById id).auditLogs = s.auditLogs := rfl
@[simp] theorem deleteById_events (id : Nat) : (s.deleteById id).events = s.events := rfl
@[simp] theorem deleteById_providerCalls (id : Nat) :
    (s.deleteById id).providerCalls = s.providerCalls := rfl
@[simp] theorem deleteById_nextId (id : Nat) : (s.deleteById id).nextId = s.nextId := rfl

@[simp] theorem appendAudit_verifications (b : Bool) (e : KycAuditLog) :
    (s.appendAudit b e).verifications = s.verifications := by
  unfold appendAudit; split <;> rfl
@[simp] theorem appendAudit_auditLogs (b : Bool) (e : KycAuditLog) :
    (s.appendAudit b e).auditLogs = if b then s.auditLogs else s.auditLogs ++ [e] := by
  unfold appendAudit; split <;> rfl
@[simp] theorem appendAudit_events (b : Bool) (e : KycAuditLog) :
    (s.appendAudit b e).events = s.events := by
  unfold appendAudit; split <;> rfl
@[simp] theorem appendAudit_providerCalls (b : Bool) (e : KycAuditLog) :
    (s.appendAudit b e).providerCalls = s.providerCalls := by
  unfold appendAudit; split <;> rfl
@[simp] theorem appendAudit_nextId (b : Bool) (e : KycAuditLog) :
    (s.appendAudit b e).nextId = s.nextId := by
  unfold appendAudit; split <;> rfl

@[simp] theorem emitAll_verifications (es : List KycEvent) :
    (s.emitAll es).verifications = s.verifications := rfl
@[simp] theorem emitAll_auditLogs (es : List KycEvent) : (s.emitAll es).auditLogs = s.auditLogs :=
  rfl
@[simp] theorem emitAll_events (es : List KycEvent) : (s.emitAll es).events = s.events ++ es := rfl
@[simp] theorem emitAll_providerCalls (es : List KycEvent) :
    (s.emitAll es).providerCalls = s.providerCalls := rfl
@[simp] theorem emitAll_nextId (es : List KycEvent) : (s.emitAll es).nextId = s.nextId := rfl
@[simp] theorem emitAll_nil : s.emitAll [] = s := by simp [emitAll]

@[simp] theorem callProvider_verifications (c : ProviderCall) :
    (s.callProvider c).verifications = s.verifications := rfl
@[simp] theorem callProvider_auditLogs (c : ProviderCall) :
    (s.callProvider c).auditLogs = s.auditLogs := rfl
@[simp] theorem callProvider_events (c : ProviderCall) : (s.callProvider c).events = s.events :=
  rfl
@[simp] theorem callProvider_providerCalls (c : ProviderCall) :
    (s.callProvider c).providerCalls = s.providerCalls ++ [c] := rfl
@[simp] theorem callProvider_nextId (c : ProviderCall) : (s.callProvider c).nextId = s.nextId :=
  rfl

end KycStore

end StellarSwipe.Kyc
