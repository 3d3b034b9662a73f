import StellarSwipe.Kyc.System

namespace StellarSwipe.Kyc
open Prog
set_option autoImplicit true

namespace KycCall

theorem NewRow.created {c : KycCall} {s : KycStore} {n : KycVerification} (hn : c.NewRow s n) :
    ∃ env userId dto, CreatedRow env s userId dto n := by
  cases c with
  | startKyc env userId dto _ => exact ⟨env, userId, dto, hn.2.2.2⟩
  | _ => exact hn.elim

end KycCall

/-- The kind of step that writes a status. -/
inductive StatusMover
  | webhook
  | manual
  | sweep
  deriving DecidableEq, Repr

def KycCall.mover : KycCall → Option StatusMover
  | processPersonaWebhook .. | processOnfidoWebhook .. => some .webhook
  | manualReview .. => some .manual
  | expireVerifications .. => some .sweep
  | _ => none

def sandboxEnv : KycEnv :=
  { now := 0, fails := fun _ => false, config := ⟨"", "", fun _ _ => [0xab]⟩,
    personaCreated := .error "", personaResumed := .error "",
    onfidoCreated := .ok ⟨"app1", "wf1", "sdk1"⟩ }

def onfidoEvent (runId status : String) : KycCall :=
  .processOnfidoWebhook sandboxEnv "body" "ab"
    { resourceType := some "workflow_run", object := some { id := some runId, status := some status } }

def approvedRun : List KycCall :=
  [.startKyc sandboxEnv "u1" { targetLevel := .basic, provider := some .onfido } none,
   onfidoEvent "wf1" "approved"]

def approvedRow : KycVerification :=
  { KycVerification.create 0 "u1" .basic .approved .onfido 1 0 with
    verificationId := some "wf1", inquiryId := some "wf1", sessionToken := some "sdk1",
    approvedAt := some 0, expiresAt := some verificationTtlMs,
    providerMetadata := .onfido none (some "approved") }

/-- A patch stamps `approvedAt` and `expiresAt` together, both with values, exactly when it
writes APPROVED, and otherwise leaves both alone. -/
def KycUpdate.StampsApproval (p : KycUpdate) : Prop :=
  (p.status = some .approved ∧ (∃ t, p.approvedAt = some (some t)) ∧ ∃ e, p.expiresAt = some (some e)) ∨
    (p.status ≠ some .approved ∧ p.approvedAt = none ∧ p.expiresAt = none)

theorem KycCall.rewrites_stampsApproval {c : KycCall} {v : KycVerification} {p : KycUpdate}
    (hp : c.Rewrites v p) : p.StampsApproval := by
  cases c with
  | startKyc => obtain ⟨_, rfl⟩ := hp; exact .inr ⟨by simp, rfl, rfl⟩
  | processPersonaWebhook | processOnfidoWebhook =>
    obtain ⟨r, -, rfl⟩ := hp
    unfold resultUpdates
    cases r.toResult.status <;> simp [KycUpdate.StampsApproval]
  | manualReview =>
    obtain ⟨-, rfl⟩ := hp
    by_cases h : ‹ManualReviewDto›.status = .approved <;> simp [KycUpdate.StampsApproval, manualUpdates, h]
  | expireVerifications => obtain ⟨-, rfl⟩ := hp; exact .inr ⟨by simp, rfl, rfl⟩
  | checkMonthlyLimit | canActivate => exact hp.elim

/-- A row's approval stamps: `approvedAt` and `expiresAt` are set together, and an APPROVED
row has them. -/
structure KycVerification.Stamped (v : KycVerification) : Prop where
  together : v.approvedAt.isSome = v.expiresAt.isSome
  approved : v.status = .approved → v.expiresAt.isSome

theorem KycVerification.Stamped.patch {v : KycVerification} {p : KycUpdate} (hv : v.Stamped)
    (hp : p.StampsApproval) : (v.patch p).Stamped := by
  rcases hp with ⟨-, ⟨t, ha⟩, ⟨e, he⟩⟩ | ⟨hs, ha, he⟩
  · exact ⟨by simp [ha, he], fun _ => by simp [he]⟩
  · refine ⟨by simpa [ha, he] using hv.together, fun h => ?_⟩
    cases hps : p.status with
    | none => simpa [he] using hv.approved (by simpa [hps] using h)
    | some t => simp_all

theorem KycUpdate.StampsApproval.expiresAt_isSome {v : KycVerification} {p : KycUpdate}
    (hp : p.StampsApproval) (hv : v.expiresAt.isSome) : (v.patch p).expiresAt.isSome := by
  rcases hp with ⟨-, -, ⟨e, he⟩⟩ | ⟨-, -, he⟩ <;> simp [he, hv]

theorem Reachable.stamped {s : KycStore} (hs : Reachable s) : ∀ v ∈ s.verifications, v.Stamped := by
  induction hs with
  | empty => exact fun _ h => nomatch h
  | step c hs ih =>
    intro v' hv'
    rcases (c.run_tableStep hs.wellFormed).mem hv' with ⟨v, hv, -, rfl | ⟨p, hp, rfl⟩⟩ | ⟨hn, -⟩
    · exact ih _ hv
    · exact (ih _ hv).patch (c.rewrites_stampsApproval hp)
    · obtain ⟨_, _, _, hc⟩ := hn.created
      obtain ⟨-, -, -, -, hst, ha, he⟩ := hc.shape
      exact ⟨by simp [ha, he], fun h => absurd (hst ▸ h) (by decide)⟩

/-- Some state of the run, up to and including its last, held the row under `id` as APPROVED. -/
def EverApproved (cs : List KycCall) (id : Nat) : Prop :=
  ∃ k ≤ cs.length, ∃ v ∈ (runCalls .empty (cs.take k)).verifications, v.id = id ∧ v.status = .approved

theorem everApproved_of_expiresAt (cs : List KycCall) :
    ∀ r ∈ (runCalls .empty cs).verifications, r.expiresAt.isSome → EverApproved cs r.id := by
  induction cs using List.reverseRecOn with
  | nil => exact fun _ h => nomatch h
  | append_singleton cs c ih =>
    intro r hr he
    have hs := reachable_runCalls cs
    have lift : EverApproved cs r.id → EverApproved (cs ++ [c]) r.id := fun ⟨k, hk, rest⟩ =>
      ⟨k, by simp; omega, by rwa [List.take_append_of_le_length hk]⟩
    rw [runCalls_append_singleton] at hr
    rcases (c.run_tableStep hs.wellFormed).mem hr with ⟨v, hv, hid, rfl | ⟨p, hp, rfl⟩⟩ | ⟨hn, -⟩
    · exact lift (ih r hv he)
    · rcases c.rewrites_stampsApproval hp with ⟨hst, -⟩ | ⟨-, -, hpe⟩
      · have htake : (cs ++ [c]).take (cs.length + 1) = cs ++ [c] := List.take_of_length_le (by simp)
        refine ⟨cs.length + 1, by simp, v.patch p, ?_, rfl, by simp [hst]⟩
        rwa [htake, runCalls_append_singleton]
      · exact lift (hid ▸ ih v hv (by simpa [hpe] using he))
    · obtain ⟨_, _, _, hc⟩ := hn.created
      simp [hc.shape.2.2.2.2.2.2] at he

theorem expiresAt_persists {s : KycStore} (hs : Reachable s) (ds : List KycCall) {v : KycVerification}
    (hv : v ∈ s.verifications) (he : v.expiresAt.isSome) :
    ∃ v' ∈ (runCalls s ds).verifications, v'.id = v.id ∧ v'.expiresAt.isSome := by
  induction ds generalizing s v with
  | nil => exact ⟨v, hv, rfl, he⟩
  | cons c ds ih =>
    obtain ⟨w, hw, hwid, hw'⟩ := (c.run_tableStep hs.wellFormed).persist hv
    have hwe : w.expiresAt.isSome := by
      rcases hw' with rfl | ⟨p, hp, rfl⟩
      · exact he
      · exact (c.rewrites_stampsApproval hp).expiresAt_isSome he
    obtain ⟨v', hv', hid, he'⟩ := ih (hs.step c) hw hwe
    exact ⟨v', hv', hid.trans hwid, he'⟩

/-- In every reachable state a row's `approvedAt` and `expiresAt` are set together, exactly
when the row has been APPROVED at some point of the run, and an APPROVED row always has an
`expiresAt`: the active-level loop never meets an APPROVED row that never expires. -/
theorem approval_stamps (cs : List KycCall) (r : KycVerification)
    (hr : r ∈ (runCalls .empty cs).verifications) :
    (r.approvedAt.isSome ↔ r.expiresAt.isSome) ∧ (r.expiresAt.isSome ↔ EverApproved cs r.id) ∧
      (r.status = .approved → r.expiresAt.isSome) ∧
      ∀ userId, ∀ a ∈ (runCalls .empty cs).approvedOf userId, a.expiresAt.isSome := by
  have hs := reachable_runCalls cs
  refine ⟨by rw [(hs.stamped r hr).together], ⟨everApproved_of_expiresAt cs r hr, ?_⟩,
    (hs.stamped r hr).approved, fun userId a ha => ?_⟩
  · rintro ⟨k, hk, v, hv, hid, hst⟩
    have hk' := (reachable_runCalls (cs.take k)).stamped v hv
    obtain ⟨v', hv', hid', he⟩ :=
      expiresAt_persists (reachable_runCalls (cs.take k)) (cs.drop k) hv (hk'.approved hst)
    rw [← runCalls_append, List.take_append_drop] at hv'
    obtain rfl : v' = r :=
      List.inj_on_of_nodup_map hs.wellFormed.ids_nodup hv' hr (hid'.trans hid)
    exact he
  · simp only [KycStore.approvedOf, List.mem_mergeSort, List.mem_filter, Bool.and_eq_true,
      beq_iff_eq] at ha
    exact (hs.stamped a ha.1).approved ha.2.2

theorem approval_stamps_approvedRun :
    (approvedRow.approvedAt.isSome ↔ approvedRow.expiresAt.isSome) ∧
      (approvedRow.expiresAt.isSome ↔ EverApproved approvedRun approvedRow.id) :=
  have h := approval_stamps approvedRun approvedRow (by decide)
  ⟨h.1, h.2.1⟩

section
variable {R : KycVerification → KycUpdate → Prop} {f : KycVerification → KycVerification}

theorem TableStep.slot_fields {v : KycVerification} (h : f v = v ∨ ∃ p, R v p ∧ f v = v.patch p) :
    (f v).userId = v.userId ∧ (f v).level = v.level ∧ (f v).attemptCount = v.attemptCount := by
  rcases h with h | ⟨p, -, h⟩ <;> simp [h]

theorem TableStep.slot_attempts {l : List KycVerification}
    (hf : ∀ v ∈ l, f v = v ∨ ∃ p, R v p ∧ f v = v.patch p) (userId : String) (level : KycLevel) :
    ((l.map f).filter (·.inSlot userId level)).map (·.attemptCount) =
      (l.filter (·.inSlot userId level)).map (·.attemptCount) := by
  induction l with
  | nil => rfl
  | cons v l ih =>
    obtain ⟨hu, hl, ha⟩ := TableStep.slot_fields (hf v (.head _))
    have hslot : (f v).inSlot userId level = v.inSlot userId level := by
      simp [KycVerification.inSlot, hu, hl]
    simp only [List.map_cons, List.filter_cons, hslot]
    split <;> simp [ha, ih fun w hw => hf w (.tail _ hw)]

end

theorem range'_snoc {xs : List Nat} (h : xs = List.range' 1 xs.length) :
    xs ++ [xs.length + 1] = List.range' 1 (xs ++ [xs.length + 1]).length := by
  rw [List.length_append, List.length_singleton, List.range'_concat, ← h]
  simp [Nat.add_comm]

def KycStore.slotAttempts (s : KycStore) (userId : String) (level : KycLevel) : List Nat :=
  (s.verifications.filter (·.inSlot userId level)).map (·.attemptCount)

theorem Reachable.slotAttempts {s : KycStore} (hs : Reachable s) (userId : String) (level : KycLevel) :
    s.slotAttempts userId level = List.range' 1 (s.slotAttempts userId level).length := by
  induction hs generalizing userId level with
  | empty => rfl
  | @step s c hs ih =>
    obtain ⟨-, f, hf, hv | ⟨n, hn, -, -, hv⟩⟩ := c.run_tableStep hs.wellFormed
    · simpa only [KycStore.slotAttempts, hv, TableStep.slot_attempts hf] using ih userId level
    · obtain ⟨env, u, dto, hc⟩ := hn.created
      obtain ⟨-, hu, hl, ha, -⟩ := hc.shape
      have hslot := TableStep.slot_attempts hf userId level
      simp only [KycStore.slotAttempts, hv, List.filter_append, List.map_append, hslot] at ih ⊢
      by_cases hin : n.inSlot userId level
      · obtain ⟨rfl, rfl⟩ : u = userId ∧ dto.targetLevel = level := by
          simpa [KycVerification.inSlot, hu, hl] using hin
        have hlen : n.attemptCount =
            ((s.verifications.filter (·.inSlot u dto.targetLevel)).map (·.attemptCount)).length + 1 := by
          rw [ha, List.countP_eq_length_filter, List.length_map]
        simpa [hin, hlen] using range'_snoc (ih u dto.targetLevel)
      · simpa [hin] using ih userId level

/-- Row ids increase in creation order; the rows of each (user, level) carry the attempt
numbers 1, ..., n in that order; and no call changes the attempt number of a row it keeps. -/
theorem attempt_numbering {s : KycStore} (hs : Reachable s) :
    (s.verifications.map (·.id)).Pairwise (· < ·) ∧
    (∀ userId level, s.slotAttempts userId level = List.range' 1 (s.slotAttempts userId level).length) ∧
    ∀ c : KycCall, ∀ v ∈ s.verifications, ∀ v' ∈ (c.run s).verifications, v'.id = v.id →
      v'.attemptCount = v.attemptCount := by
  refine ⟨hs.wellFormed.ids_sorted, hs.slotAttempts, fun c v hv v' hv' hid => ?_⟩
  rcases (c.run_tableStep hs.wellFormed).image hs.wellFormed hv hv' hid with rfl | ⟨p, -, rfl⟩ <;> simp

theorem attempt_numbering_approvedRun :
    ((runCalls .empty approvedRun).verifications.map (·.id)).Pairwise (· < ·) :=
  (attempt_numbering (reachable_runCalls approvedRun)).1

end StellarSwipe.Kyc
