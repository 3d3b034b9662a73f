import StellarSwipe.Builtins
import StellarSwipe.Kyc.Entities

namespace StellarSwipe.Kyc
set_option autoImplicit true

/-- Secrets from `ConfigService` and the keyed hash `crypto.createHmac('sha256', key)`. -/
structure ProviderConfig where
  personaWebhookSecret : String
  onfidoWebhookToken : String
  hmacSha256 : String → String → List UInt8

structure PersonaInquirySession where
  inquiryId : String
  sessionToken : String
  widgetUrl : String
  deriving DecidableEq, Repr

structure OnfidoApplicantSession where
  applicantId : String
  workflowRunId : String
  sdkToken : String
  deriving DecidableEq, Repr

/-- The fields of a created inquiry that `createInquiry` reads from `response.data`. -/
structure PersonaInquiryCreated where
  id : String
  sessionToken : String
  deriving DecidableEq, Repr

def widgetUrlFor (inquiryId sessionToken : String) : String :=
  "https://withpersona.com/verify?inquiry-id=" ++ inquiryId ++ "&session-token=" ++ sessionToken

def PersonaProvider.sessionOf (created : PersonaInquiryCreated) : PersonaInquirySession :=
  { inquiryId := created.id, sessionToken := created.sessionToken,
    widgetUrl := widgetUrlFor created.id created.sessionToken }

/-- `crypto.timingSafeEqual`, which throws when the buffers differ in length. -/
def timingSafeEqual (a b : List UInt8) : Except String Bool :=
  if a.length = b.length then .ok (a == b)
  else .error "Input buffers must have the same byte length"

/-- The `catch { return false; }` around a comparison. -/
def orFalse : Except String Bool → Bool
  | .ok b => b
  | .error _ => false

/-- `signatureHeader.split(',').map(part => part.split('='))`, destructured as `[k, v]`. -/
def headerParts (header : String) : List (String × Option String) :=
  (header.splitOn ",").map fun part =>
    match part.splitOn "=" with
    | k :: v :: _ => (k, some v)
    | [k] => (k, none)
    | [] => ("", none)

/-- `Object.fromEntries(parts)[key]`: a later entry for the key overwrites an earlier one. -/
def lookupLast (key : String) (parts : List (String × Option String)) : Option String :=
  parts.foldl (fun acc kv => if kv.1 = key then kv.2 else acc) none

def digitsValue (ds : List Char) : Nat := ds.foldl (fun n c => 10 * n + (c.toNat - '0'.toNat)) 0

/-- `parseInt(s, 10)`: leading white space, an optional sign, then the longest run of
decimal digits; `none` stands for `NaN`. -/
def parseInt10 (s : String) : Option Int :=
  let cs := s.toList.dropWhile isJsWhitespace
  let (neg, rest) : Bool × List Char :=
    match cs with
    | '-' :: r => (true, r)
    | '+' :: r => (false, r)
    | r => (false, r)
  let ds := rest.takeWhile Char.isDigit
  if ds.isEmpty then none
  else if neg then some (-(digitsValue ds : Int)) else some (digitsValue ds)

/-- `Date.now() / 1000 - parseInt(timestamp, 10) > 300`, in exact arithmetic; a `NaN` age
compares false. -/
def webhookTooOld (now : Timestamp) (timestamp : String) : Bool :=
  match parseInt10 timestamp with
  | some t => decide ((now : Int) > 1000 * (t + 300))
  | none => false

/-- `PersonaProvider.verifyWebhookSignature` at time `now`. -/
def PersonaProvider.verifyWebhookSignature (cfg : ProviderConfig) (now : Timestamp)
    (rawBody signatureHeader : String) : Bool :=
  let parts := headerParts signatureHeader
  match lookupLast "t" parts, lookupLast "v1" parts with
  | some timestamp, some receivedSig =>
    if timestamp = "" ∨ receivedSig = "" then false
    else if webhookTooOld now timestamp then false
    else
      let expected := hexEncode (cfg.hmacSha256 cfg.personaWebhookSecret (timestamp ++ "." ++ rawBody))
      orFalse (timingSafeEqual (hexDecode expected) (hexDecode receivedSig.toList))
  | _, _ => false

/-- `OnfidoProvider.verifyWebhookSignature`: a bare hex HMAC, with no timestamp. -/
def OnfidoProvider.verifyWebhookSignature (cfg : ProviderConfig) (rawBody signatureHeader : String) :
    Bool :=
  let expected := hexEncode (cfg.hmacSha256 cfg.onfidoWebhookToken rawBody)
  orFalse (timingSafeEqual (hexDecode expected) (hexDecode signatureHeader.toList))

structure PersonaInquiryAttributes where
  status : Option String := none
  verificationId : Option String := none
  declinedReasons : Option (List String) := none
  referenceId : Option String := none
  completedAt : Option String := none
  inquiryTemplateId : Option String := none
  deriving DecidableEq, Repr

structure PersonaInquiry where
  id : Option String := none
  attributes : Option PersonaInquiryAttributes := none
  deriving DecidableEq, Repr

/-- A Persona event envelope: `data.attributes.name` and `data.attributes.payload.data`. -/
structure PersonaWebhookPayload where
  name : Option String := none
  inquiry : Option PersonaInquiry := none
  deriving DecidableEq, Repr

structure PersonaVerificationResult where
  inquiryId : Option String
  verificationId : Option String
  status : ResultStatus
  declinedReasons : List String
  referenceId : Option String
  completedAt : Option String
  providerMetadata : ProviderMetadata
  deriving DecidableEq, Repr

def PersonaProvider.statusMap : String → Option ResultStatus
  | "approved" => some .approved
  | "declined" => some .declined
  | "failed" => some .declined
  | "needs_review" => some .needsReview
  | "pending" => some .pending
  | "created" => some .pending
  | "completed" => some .approved
  | _ => none

def PersonaProvider.mapInquiryToResult (data : PersonaInquiry) : PersonaVerificationResult :=
  let attr := data.attributes.getD {}
  let rawStatus := attr.status.getD "pending"
  { inquiryId := data.id
    verificationId := attr.verificationId.orElse fun _ => data.id
    status := (statusMap rawStatus).getD .pending
    declinedReasons := attr.declinedReasons.getD []
    referenceId := attr.referenceId
    completedAt := attr.completedAt
    providerMetadata := .persona attr.inquiryTemplateId rawStatus }

def PersonaProvider.parseWebhookPayload (payload : PersonaWebhookPayload) :
    Except KycError PersonaVerificationResult :=
  match payload.inquiry with
  | some inquiry => .ok (mapInquiryToResult inquiry)
  | none => .error (.badRequest "Invalid Persona webhook payload structure")

structure OnfidoOutput where
  reasons : Option (List String) := none
  result : Option String := none
  deriving DecidableEq, Repr

structure OnfidoWorkflowRun where
  id : Option String := none
  applicantId : Option String := none
  status : Option String := none
  output : Option OnfidoOutput := none
  completedAt : Option String := none
  workflowId : Option String := none
  deriving DecidableEq, Repr

/-- An Onfido webhook body: `resource_type` and `object`. -/
structure OnfidoWebhookPayload where
  resourceType : Option String := none
  object : Option OnfidoWorkflowRun := none
  deriving DecidableEq, Repr

structure OnfidoVerificationResult where
  checkId : String
  applicantId : String
  workflowRunId : String
  status : ResultStatus
  result : Option String
  declinedReasons : List String
  completedAt : Option String
  providerMetadata : ProviderMetadata
  deriving DecidableEq, Repr

def OnfidoProvider.statusMap : String → Option ResultStatus
  | "approved" => some .approved
  | "declined" => some .declined
  | "review" => some .needsReview
  | "awaiting_input" => some .pending
  | "processing" => some .pending
  | "error" => some .declined
  | _ => none

/-- `mapWorkflowRunToResult(run)`, where every read goes through `run?.`. -/
def OnfidoProvider.mapWorkflowRunToResult (run : Option OnfidoWorkflowRun) :
    OnfidoVerificationResult :=
  let id := (run.bind (·.id)).getD ""
  let output := run.bind (·.output)
  { checkId := id
    applicantId := (run.bind (·.applicantId)).getD ""
    workflowRunId := id
    status := ((run.bind (·.status)).bind statusMap).getD .pending
    result := output.bind (·.result)
    declinedReasons := (output.bind (·.reasons)).getD []
    completedAt := run.bind (·.completedAt)
    providerMetadata := .onfido (run.bind (·.workflowId)) (run.bind (·.status)) }

def OnfidoProvider.parseWebhookPayload (payload : OnfidoWebhookPayload) :
    Except KycError OnfidoVerificationResult :=
  if payload.resourceType = some "workflow_run" then
    .ok (mapWorkflowRunToResult payload.object)
  else
    .error (.badRequest ("Unsupported Onfido webhook resource: " ++ payload.resourceType.getD "undefined"))

end StellarSwipe.Kyc
