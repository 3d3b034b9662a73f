import StellarSwipe.Kyc.Pending
import StellarSwipe.Kyc.Signatures

namespace StellarSwipe.Kyc
open Prog
set_option autoImplicit true

def ProviderCall.provider : ProviderCall → KycProvider
  | .createInquiry .. | .resumeInquiry _ => .persona
  | .createApplicantSession _ => .onfido

variable (env : KycEnv) (s : KycStore)

theorem startKyc_resume_calls (userId : String) (dto : StartKycDto) (ipAddress : Option String)
    {e : KycVerification} (hl : dto.targetLevel ≠ .none)
    (hp : s.prerequisiteMet userId dto.targetLevel = true)
    (hf : s.verifications.find? (·.matches userId dto.targetLevel .pending) = some e)
    (hi : truthy e.inquiryId = true) :
    ((startKyc env userId dto ipAddress).run s).2.providerCalls =
      s.providerCalls ++ [.resumeInquiry (e.inquiryId.getD "")] := by
  rw [startKyc_run, if_neg hl, if_pos hp, hf]
  simp only [hi, if_true, resumeKyc_run]
  split
  · split <;> simp
  · simp

theorem processPersonaWebhook_rewrites_found {rawBody signature : String}
    {payload : PersonaWebhookPayload} {result : PersonaVerificationResult} {v : KycVerification}
    (hsig : PersonaProvider.verifyWebhookSignature env.config env.now rawBody signature = true)
    (hp : PersonaProvider.parseWebhookPayload payload = .ok result)
    (hf : s.verifications.find? (inquiryIdIs result.inquiryId) = some v)
    (hu : env.fails (.update v.id) = false) :
    ((processPersonaWebhook env rawBody signature payload).run s).2.verifications =
      (s.updateById v.id (resultUpdates env.now result.toResult)).verifications := by
  rw [processPersonaWebhook_run, if_pos hsig]
  simp [hp, hf, applyVerificationResult_run, hu]

theorem processOnfidoWebhook_rewrites_found {rawBody signature : String}
    {payload : OnfidoWebhookPayload} {result : OnfidoVerificationResult} {v : KycVerification}
    (hsig : OnfidoProvider.verifyWebhookSignature env.config rawBody signature = true)
    (hp : OnfidoProvider.parseWebhookPayload payload = .ok result)
    (hf : s.verifications.find? (inquiryIdIs (some result.workflowRunId)) = some v)
    (hu : env.fails (.update v.id) = false) :
    ((processOnfidoWebhook env rawBody signature payload).run s).2.verifications =
      (s.updateById v.id (resultUpdates env.now result.toResult)).verifications := by
  rw [processOnfidoWebhook_run, if_pos hsig]
  simp [hp, hf, applyVerificationResult_run, hu]

/-- For every store: a start that resumes a PENDING row calls Persona, whatever the row's
provider, and a verified webhook of either provider rewrites the row its inquiry id finds,
whatever that row's provider. -/
theorem provider_misrouting :
    (∀ userId dto ipAddress (e : KycVerification), dto.targetLevel ≠ .none →
      s.prerequisiteMet userId dto.targetLevel = true →
      s.verifications.find? (·.matches userId dto.targetLevel .pending) = some e →
      truthy e.inquiryId = true →
      ∃ c, ((startKyc env userId dto ipAddress).run s).2.providerCalls = s.providerCalls ++ [c] ∧
        c.provider = .persona) ∧
    (∀ rawBody signature payload (result : PersonaVerificationResult) (v : KycVerification),
      PersonaProvider.verifyWebhookSignature env.config env.now rawBody signature = true →
      PersonaProvider.parseWebhookPayload payload = .ok result →
      s.verifications.find? (inquiryIdIs result.inquiryId) = some v →
      env.fails (.update v.id) = false →
      ((processPersonaWebhook env rawBody signature payload).run s).2.verifications =
        (s.updateById v.id (resultUpdates env.now result.toResult)).verifications) ∧
    (∀ rawBody signature payload (result : OnfidoVerificationResult) (v : KycVerification),
      OnfidoProvider.verifyWebhookSignature env.config rawBody signature = true →
      OnfidoProvider.parseWebhookPayload payload = .ok result →
      s.verifications.find? (inquiryIdIs (some result.workflowRunId)) = some v →
      env.fails (.update v.id) = false →
      ((processOnfidoWebhook env rawBody signature payload).run s).2.verifications =
        (s.updateById v.id (resultUpdates env.now result.toResult)).verifications) :=
  ⟨fun userId dto ipAddress _ hl hp hf hi =>
    ⟨_, startKyc_resume_calls env s userId dto ipAddress hl hp hf hi, rfl⟩,
    fun _ _ _ _ _ => processPersonaWebhook_rewrites_found env s,
    fun _ _ _ _ _ => processOnfidoWebhook_rewrites_found env s⟩

section
attribute [local semireducible] String.splitOnAux

def personaApproval : PersonaWebhookPayload :=
  { name := some "inquiry.approved",
    inquiry := some { id := some "wf1", attributes := some { status := some "approved" } } }

theorem provider_misrouting_startedRun :
    startedRow ∈ (runCalls .empty startedRun).verifications ∧ startedRow.provider = .onfido ∧
    (∃ c, ((startKyc sandboxEnv "u1" { targetLevel := .basic, provider := some .onfido } none).run
        (runCalls .empty startedRun)).2.providerCalls =
          (runCalls .empty startedRun).providerCalls ++ [c] ∧ c.provider = .persona) ∧
    ((processPersonaWebhook sandboxEnv "body" "t=0,v1=ab" personaApproval).run
        (runCalls .empty startedRun)).2.verifications.map (fun v => (v.provider, v.status)) =
      [(.onfido, .approved)] := by
  have h := provider_misrouting sandboxEnv (runCalls .empty startedRun)
  refine ⟨by decide, rfl, h.1 "u1" _ none startedRow (by decide) (by decide) (by decide) (by decide), ?_⟩
  rw [h.2.1 "body" "t=0,v1=ab" personaApproval _ startedRow (by decide) rfl (by decide) rfl]
  decide

end

end StellarSwipe.Kyc
