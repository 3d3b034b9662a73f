import StellarSwipe.Kyc.Lifecycle

namespace StellarSwipe.Kyc
open Prog
set_option autoImplicit true

variable {env : KycEnv} {s s' : KycStore} {e : KycError}

theorem resumeKyc_raises {v : KycVerification} (h : (resumeKyc env v).run s = (.error e, s')) :
    s' = s ∨ s' = s.callProvider (.resumeInquiry (v.inquiryId.getD "")) := by
  rw [resumeKyc_run] at h
  split at h
  · split at h
    · split at h <;> cases h
      exact .inr rfl
    · cases h
      exact .inr rfl
  · cases h
    exact .inl rfl

theorem openSession_raises {userId : String} {dto : StartKycDto} {provider : KycProvider}
    {v : KycVerification} (h : (openSession env userId dto provider v).run s = (.error e, s')) :
    s' = s.callProvider (sessionCall userId dto provider) := by
  rw [openSession_run] at h
  split at h
  · split at h <;> cases h
    rfl
  · cases h
    rfl

theorem createVerification_raises {userId : String} {dto : StartKycDto} {ipAddress : Option String}
    (hdel : env.fails (.delete s.nextId) = false)
    (h : (createVerification env userId dto ipAddress).run s = (.error e, s')) :
    s' = s ∨ s' = ((s.insert (newVerification env s userId dto)).callProvider
      (sessionCall userId dto (dto.provider.getD .persona))).deleteById s.nextId := by
  simp only [createVerification_run] at h
  split at h
  · cases h
    exact .inl rfl
  · generalize hR : (openSession env userId dto _ _).run _ = R at h
    rcases R with ⟨_ | _, t⟩
    · simp only [newVerification_id, hdel, Bool.false_eq_true, ↓reduceIte, Prod.mk.injEq] at h
      rw [← h.2, openSession_raises hR]
      exact .inr rfl
    · simp at h

/-- For every store whose next id is fresh and every `startKyc` call that raises while its
compensating delete succeeds, the table, the audit log and the event stream are as they were:
no row is left behind and no INITIATED entry or event was produced. -/
theorem startKyc_raises_atomically (hfresh : ∀ v ∈ s.verifications, v.id < s.nextId)
    (userId : String) (dto : StartKycDto) (ipAddress : Option String)
    (hdel : ∀ id, env.fails (.delete id) = false)
    (h : (startKyc env userId dto ipAddress).run s = (.error e, s')) :
    s'.verifications = s.verifications ∧ s'.auditLogs = s.auditLogs ∧ s'.events = s.events := by
  have hcreate (h : (createVerification env userId dto ipAddress).run s = (.error e, s')) :
      s'.verifications = s.verifications ∧ s'.auditLogs = s.auditLogs ∧ s'.events = s.events := by
    rcases createVerification_raises (hdel _) h with rfl | rfl
    · exact ⟨rfl, rfl, rfl⟩
    · refine ⟨?_, by simp, by simp⟩
      simp only [KycStore.deleteById_verifications, KycStore.callProvider_verifications,
        KycStore.insert_verifications]
      exact filter_id_ne_of_lt (n := newVerification env s userId dto) hfresh
  rw [startKyc_run] at h
  split at h
  · cases h
    exact ⟨rfl, rfl, rfl⟩
  · split at h
    · split at h
      · split at h
        · rcases resumeKyc_raises h with rfl | rfl <;> exact ⟨rfl, rfl, rfl⟩
        · exact hcreate h
      · exact hcreate h
    · cases h
      exact ⟨rfl, rfl, rfl⟩

theorem startKyc_raises_atomically_personaDown :
    ∃ e s', (startKyc sandboxEnv "u1" { targetLevel := .basic } none).run .empty = (.error e, s') ∧
      s'.verifications = [] ∧ s'.auditLogs = [] ∧ s'.events = [] :=
  have h : (startKyc sandboxEnv "u1" { targetLevel := .basic } none).run .empty =
      (.error (.badRequest "Persona API error: "), ⟨[], [], [], [.createInquiry "u1" .basic none], 1⟩) :=
    rfl
  ⟨_, _, h, startKyc_raises_atomically (fun _ hv => (List.not_mem_nil _ hv).elim) "u1" _ none
    (fun _ => rfl) h⟩

end StellarSwipe.Kyc
