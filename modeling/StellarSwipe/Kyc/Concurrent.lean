import StellarSwipe.Kyc.Lifecycle
import StellarSwipe.Safety

namespace StellarSwipe.Kyc
open Prog

/-- The table's invariant: no row is at level NONE, and every row carries its approval stamps. -/
structure KycStore.Consistent (s : KycStore) : Prop where
  level_ne_none : ∀ v ∈ s.verifications, v.level ≠ .none
  stamped : ∀ v ∈ s.verifications, v.Stamped

namespace KycStore.Consistent
variable {s : KycStore}

theorem empty : KycStore.empty.Consistent :=
  ⟨fun _ h => (nomatch h), fun _ h => (nomatch h)⟩

theorem of_table {s' : KycStore} (hs : s.Consistent) (hv : s'.verifications = s.verifications) :
    s'.Consistent :=
  ⟨hv ▸ hs.level_ne_none, hv ▸ hs.stamped⟩

theorem insert (hs : s.Consistent) {v : KycVerification} (hl : v.level ≠ .none) (hst : v.Stamped) :
    (s.insert v).Consistent := by
  constructor <;>
  · simp only [insert_verifications, List.mem_append, List.mem_singleton]
    rintro w (hw | rfl) <;> first | exact hs.level_ne_none w hw | exact hs.stamped w hw | assumption

theorem updateById (hs : s.Consistent) (id : Nat) {p : KycUpdate} (hp : p.StampsApproval) :
    (s.updateById id p).Consistent := by
  constructor <;>
  · simp only [updateById_verifications, List.mem_map]
    rintro _ ⟨w, hw, rfl⟩
    split
    · first | simpa using hs.level_ne_none w hw | exact (hs.stamped w hw).patch hp
    · first | exact hs.level_ne_none w hw | exact hs.stamped w hw

theorem deleteById (hs : s.Consistent) (id : Nat) : (s.deleteById id).Consistent :=
  have hsub : (s.deleteById id).verifications ⊆ s.verifications := (List.filter_sublist _).subset
  ⟨fun v hv => hs.level_ne_none v (hsub hv), fun v hv => hs.stamped v (hsub hv)⟩

end KycStore.Consistent

section Atoms
variable (env : KycEnv)

theorem keeps_findOne (p : KycVerification → Bool) : Keeps KycStore.Consistent (KycRepo.findOne p) := keeps_read _

theorem keeps_find (p : KycVerification → Bool) : Keeps KycStore.Consistent (KycRepo.find p) := keeps_read _

theorem keeps_count (p : KycVerification → Bool) : Keeps KycStore.Consistent (KycRepo.count p) := keeps_read _

theorem keeps_findOneOrFail (p : KycVerification → Bool) : Keeps KycStore.Consistent (KycRepo.findOneOrFail p) :=
  ⟨fun _ h => h, fun s => by dsimp only; split <;> trivial⟩

theorem keeps_save {level : KycLevel} (hl : level ≠ .none) {status : KycStatus} (hst : status ≠ .approved)
    (userId : String) (provider : KycProvider) (n : Nat) :
    Keeps KycStore.Consistent (KycRepo.save env userId level status provider n) := by
  unfold KycRepo.save
  split
  · exact ⟨fun _ h => h, fun _ => trivial⟩
  · exact ⟨fun s hs => hs.insert (by simpa using hl) ⟨by simp, fun h => absurd (by simpa using h) hst⟩,
      fun _ => trivial⟩

theorem keeps_update (id : Nat) {u : KycUpdate} (hu : u.StampsApproval) :
    Keeps KycStore.Consistent (KycRepo.update env id u) :=
  keeps_tryWrite _ _ fun _ hs => hs.updateById id hu

theorem keeps_delete (id : Nat) : Keeps KycStore.Consistent (KycRepo.delete env id) :=
  keeps_tryWrite _ _ fun _ hs => hs.deleteById id

theorem keeps_audit (userId : String) (verificationId : Option Nat) (action : KycAuditAction) (details : AuditDetails)
    (ipAddress : Option String) : Keeps KycStore.Consistent (audit env userId verificationId action details ipAddress) :=
  keeps_write fun _ hs => hs.of_table (by simp)

theorem keeps_emit (es : List KycEvent) : Keeps KycStore.Consistent (emit es) :=
  keeps_write fun _ hs => hs.of_table (by simp)

theorem keeps_callProvider {α : Type} (c : ProviderCall) (k : KycStore → KycM α) (hk : ∀ s, Keeps KycStore.Consistent (k s)) :
    Keeps KycStore.Consistent (Prog.atom (·.callProvider c) k) :=
  ⟨fun _ hs => hs.of_table (by simp), hk⟩

theorem stampsApproval_of_status_none {u : KycUpdate} (hs : u.status = none) (ha : u.approvedAt = none)
    (he : u.expiresAt = none) : u.StampsApproval :=
  .inr ⟨by simp [hs], ha, he⟩

end Atoms

theorem resultUpdates_stampsApproval (now : Timestamp) (r : VerificationResult) :
    (resultUpdates now r).StampsApproval := by
  unfold resultUpdates
  cases r.status <;> simp [KycUpdate.StampsApproval]

theorem manualUpdates_stampsApproval (now : Timestamp) (dto : ManualReviewDto) :
    (manualUpdates now dto).StampsApproval := by
  by_cases h : dto.status = .approved <;> simp [KycUpdate.StampsApproval, manualUpdates, h]

section Handlers
variable (env : KycEnv)

theorem keeps_resumeKyc (v : KycVerification) : Keeps KycStore.Consistent (resumeKyc env v) := by
  unfold resumeKyc
  refine keeps_ite trivial (Keeps.bind (keeps_pure _) fun _ => ?_)
  exact (keeps_callProvider _ _ fun _ => by split <;> trivial).bind fun _ =>
    (keeps_update env _ (stampsApproval_of_status_none rfl rfl rfl)).bind fun _ => keeps_pure _

theorem keeps_openSession (userId : String) (dto : StartKycDto) (provider : KycProvider) (v : KycVerification) :
    Keeps KycStore.Consistent (openSession env userId dto provider v) := by
  cases provider <;>
  · exact (keeps_callProvider _ _ fun _ => by split <;> trivial).bind fun _ =>
      (keeps_update env _ (stampsApproval_of_status_none rfl rfl rfl)).bind fun _ => keeps_pure _

theorem keeps_checkPrerequisite (userId : String) (target : KycLevel) :
    Keeps KycStore.Consistent (checkPrerequisite userId target) := by
  unfold checkPrerequisite
  split
  · exact (keeps_findOne _).bind fun _ => keeps_ite trivial (keeps_pure _)
  · exact keeps_pure _

theorem keeps_createVerification (userId : String) {dto : StartKycDto} (hl : dto.targetLevel ≠ .none)
    (ipAddress : Option String) : Keeps KycStore.Consistent (createVerification env userId dto ipAddress) := by
  unfold createVerification
  refine (keeps_count _).bind fun _ => (keeps_save env hl (by decide) _ _ _).bind fun _ => ?_
  exact Keeps.tryCatch ((keeps_openSession env _ _ _ _).bind fun _ => (keeps_audit env _ _ _ _ _).bind fun _ =>
    (keeps_emit _).bind fun _ => keeps_pure _) fun _ => (keeps_delete env _).bind fun _ => trivial

theorem keeps_startKyc (userId : String) (dto : StartKycDto) (ipAddress : Option String) :
    Keeps KycStore.Consistent (startKyc env userId dto ipAddress) := by
  unfold startKyc
  split
  · trivial
  · rename_i hl
    refine Keeps.bind (keeps_pure _) fun _ => (keeps_checkPrerequisite _ _).bind fun _ =>
      (keeps_findOne _).bind fun _ => ?_
    split
    · exact keeps_ite ((keeps_resumeKyc env _).bind fun _ => keeps_pure _)
        (keeps_createVerification env userId hl ipAddress)
    · exact keeps_createVerification env userId hl ipAddress

theorem keeps_applyVerificationResult (v : KycVerification) (r : VerificationResult) :
    Keeps KycStore.Consistent (applyVerificationResult env v r) :=
  (keeps_update env _ (resultUpdates_stampsApproval _ _)).bind fun _ => (keeps_audit env _ _ _ _ _).bind fun _ =>
    keeps_emit _

theorem keeps_processPersonaWebhook (rawBody signature : String) (payload : PersonaWebhookPayload) :
    Keeps KycStore.Consistent (processPersonaWebhook env rawBody signature payload) := by
  unfold processPersonaWebhook
  refine keeps_ite trivial (Keeps.bind (keeps_pure _) fun _ => (keeps_ofExcept _).bind fun _ =>
    (keeps_audit env _ _ _ _ _).bind fun _ => (keeps_findOne _).bind fun _ => ?_)
  split
  · exact keeps_pure _
  · exact keeps_applyVerificationResult env _ _

theorem keeps_processOnfidoWebhook (rawBody signature : String) (payload : OnfidoWebhookPayload) :
    Keeps KycStore.Consistent (processOnfidoWebhook env rawBody signature payload) := by
  unfold processOnfidoWebhook
  refine keeps_ite trivial (Keeps.bind (keeps_pure _) fun _ => (keeps_ofExcept _).bind fun _ =>
    (keeps_findOne _).bind fun _ => ?_)
  split
  · exact keeps_pure _
  · exact (keeps_audit env _ _ _ _ _).bind fun _ => keeps_applyVerificationResult env _ _

theorem keeps_manualReview (verificationId : Nat) (dto : ManualReviewDto) (ipAddress : Option String) :
    Keeps KycStore.Consistent (manualReview env verificationId dto ipAddress) :=
  (keeps_findOneOrFail _).bind fun _ => (keeps_update env _ (manualUpdates_stampsApproval _ _)).bind fun _ =>
    (keeps_audit env _ _ _ _ _).bind fun _ => keeps_ite ((keeps_emit _).bind fun _ => keeps_pure _) (keeps_pure _)

theorem keeps_getActiveKycLevel (userId : String) : Keeps KycStore.Consistent (getActiveKycLevel env userId) :=
  (keeps_read _).bind fun _ => keeps_pure _

theorem keeps_checkMonthlyLimit (userId : String) (amount : ℚ) :
    Keeps KycStore.Consistent (checkMonthlyLimit env userId amount) :=
  (keeps_getActiveKycLevel env _).bind fun _ => (keeps_audit env _ _ _ _ _).bind fun _ =>
    keeps_ite (keeps_throw_bind _ _) (keeps_pure _)

theorem keeps_canActivate (route : RouteKycMetadata) (userId : Option String) :
    Keeps KycStore.Consistent (KycGuard.canActivate env route userId) := by
  obtain ⟨_ | requiredLevel, _ | requiredAmount⟩ := route <;>
    simp only [KycGuard.canActivate, Prog.pure_bind, Prog.throw_bind] <;>
    refine keeps_ite (keeps_pure _) (keeps_ite (keeps_pure _) ((keeps_getActiveKycLevel env _).bind fun _ => ?_))
  · exact keeps_pure _
  · exact (keeps_checkMonthlyLimit env _ _).bind fun _ => keeps_pure _
  · exact keeps_ite trivial (keeps_pure _)
  · exact keeps_ite trivial ((keeps_checkMonthlyLimit env _ _).bind fun _ => keeps_pure _)

theorem keeps_expireEach : ∀ vs : List KycVerification, Keeps KycStore.Consistent (expireEach env vs)
  | [] => keeps_pure _
  | _ :: vs => (keeps_update env _ (.inr ⟨by simp, rfl, rfl⟩)).bind fun _ =>
      (keeps_audit env _ _ _ _ _).bind fun _ => (keeps_emit _).bind fun _ => keeps_expireEach vs

theorem keeps_expireVerifications : Keeps KycStore.Consistent (expireVerifications env) :=
  (keeps_find _).bind fun _ => keeps_expireEach env _

end Handlers

def KycCall.prog : KycCall → KycM Unit
  | .startKyc env userId dto ip => Kyc.startKyc env userId dto ip >>= fun _ => pure ()
  | .processPersonaWebhook env body sig payload => Kyc.processPersonaWebhook env body sig payload
  | .processOnfidoWebhook env body sig payload => Kyc.processOnfidoWebhook env body sig payload
  | .manualReview env id dto ip => Kyc.manualReview env id dto ip >>= fun _ => pure ()
  | .checkMonthlyLimit env userId amount => Kyc.checkMonthlyLimit env userId amount >>= fun _ => pure ()
  | .canActivate env route userId => KycGuard.canActivate env route userId >>= fun _ => pure ()
  | .expireVerifications env => Kyc.expireVerifications env

theorem run_bind_pure_snd {α : Type} (p : KycM α) (s : KycStore) :
    ((p >>= fun _ => pure ()).run s).2 = (p.run s).2 := by
  rw [run_bind]
  split <;> simp_all

theorem KycCall.run_prog (c : KycCall) (s : KycStore) : (c.prog.run s).2 = c.run s := by
  cases c <;> simp only [KycCall.prog, KycCall.run, run_bind_pure_snd]

theorem KycCall.keeps (c : KycCall) : Keeps KycStore.Consistent c.prog := by
  cases c with
  | startKyc env userId dto ip => exact (keeps_startKyc env userId dto ip).bind fun _ => keeps_pure _
  | processPersonaWebhook env body sig payload => exact keeps_processPersonaWebhook env body sig payload
  | processOnfidoWebhook env body sig payload => exact keeps_processOnfidoWebhook env body sig payload
  | manualReview env id dto ip => exact (keeps_manualReview env id dto ip).bind fun _ => keeps_pure _
  | checkMonthlyLimit env userId amount => exact (keeps_checkMonthlyLimit env userId amount).bind fun _ => keeps_pure _
  | canActivate env route userId => exact (keeps_canActivate env route userId).bind fun _ => keeps_pure _
  | expireVerifications env => exact keeps_expireVerifications env

theorem Reachable.consistent {s : KycStore} (hs : Reachable s) : s.Consistent := by
  induction hs with
  | empty => exact .empty
  | step c _ ih => exact KycCall.run_prog c _ ▸ c.keeps.run ih

/-- Under every interleaving of KYC requests and expiry sweeps at their awaits, a consistent
verification table stays consistent: no row is at level NONE, every row has `approvedAt` exactly
when it has `expiresAt`, and every APPROVED row has both. -/
theorem kyc_consistent {s : KycStore} (hs : s.Consistent) (calls : List KycCall) (sched : List Nat) :
    (interleave sched (s, calls.map KycCall.prog)).1.Consistent :=
  interleave_keeps hs (by simpa using fun c _ => c.keeps) sched

theorem kyc_consistent_racedStarts :
    KycStore.empty.Consistent ∧
      (interleave ([0, 1] ++ List.replicate 6 0 ++ List.replicate 6 1)
        (.empty, [KycCall.startKyc sandboxEnv "u1" { targetLevel := .basic, provider := some .onfido } none,
          KycCall.startKyc sandboxEnv "u1" { targetLevel := .basic, provider := some .onfido } none].map
            KycCall.prog)).1.Consistent :=
  ⟨KycStore.Consistent.empty, kyc_consistent KycStore.Consistent.empty _ _⟩

end StellarSwipe.Kyc
