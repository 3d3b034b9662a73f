import StellarSwipe.Kyc.System

namespace StellarSwipe.Kyc
open Prog
set_option autoImplicit true

def KycAuditAction.inTrail : KycAuditAction → Bool
  | .initiated | .statusChanged | .expired => true
  | _ => false

def KycStore.trail (s : KycStore) (id : Nat) : List KycAuditLog :=
  s.auditLogs.filter fun a => a.verificationId == some id && a.action.inTrail

/-- One step of the replay: INITIATED starts at PENDING, STATUS_CHANGED checks its `from` and
moves to its `to` (a manual review's to its `status`), EXPIRED moves to EXPIRED; `none` records
a `from` that disagrees with the status reached so far. -/
def replayStep : Option KycStatus → KycAuditLog → Option KycStatus
  | none, _ => none
  | some cur, a =>
    match a.action, a.details with
    | .initiated, _ => some .pending
    | .statusChanged, .statusChanged fromStatus toStatus _ =>
      if fromStatus = cur then some (toStatus.getD cur) else none
    | .statusChanged, .manual _ status _ => some status
    | .expired, _ => some .expired
    | _, _ => some cur

def replay (start : KycStatus) (entries : List KycAuditLog) : Option KycStatus :=
  entries.foldl replayStep (some start)

theorem replay_append (start : KycStatus) (t δ : List KycAuditLog) :
    replay start (t ++ δ) = (replay start t).bind fun cur => replay cur δ := by
  have h (δ : List KycAuditLog) : δ.foldl replayStep none = none := by
    induction δ with
    | nil => rfl
    | cons a δ ih => exact ih
  unfold replay
  rw [List.foldl_append]
  cases t.foldl replayStep (some start) <;> simp [h]

def replayFromInitiated : List KycAuditLog → Option KycStatus
  | a :: rest => if a.action = .initiated then replay .pending rest else none
  | [] => none

/-- Every record's trail replays, from its INITIATED entry, to the record's status. -/
def TrailsFaithful (s : KycStore) : Prop :=
  ∀ r ∈ s.verifications, replayFromInitiated (s.trail r.id) = some r.status

def AuditedRun (cs : List KycCall) : Prop :=
  ∀ c ∈ cs, ∀ action verificationId, c.env.fails (.audit action verificationId) = false

section Trail
variable (s : KycStore) (i : Nat)

@[simp] theorem trail_insert (v : KycVerification) : (s.insert v).trail i = s.trail i := rfl
@[simp] theorem trail_updateById (id : Nat) (p : KycUpdate) : (s.updateById id p).trail i = s.trail i :=
  rfl
@[simp] theorem trail_deleteById (id : Nat) : (s.deleteById id).trail i = s.trail i := rfl
@[simp] theorem trail_emitAll (es : List KycEvent) : (s.emitAll es).trail i = s.trail i := rfl
@[simp] theorem trail_callProvider (c : ProviderCall) : (s.callProvider c).trail i = s.trail i := rfl

theorem trail_appendAudit (e : KycAuditLog) :
    (s.appendAudit false e).trail i =
      s.trail i ++ if e.verificationId = some i ∧ e.action.inTrail then [e] else [] := by
  simp only [KycStore.trail, KycStore.appendAudit, Bool.false_eq_true, if_false, List.filter_append]
  by_cases h : e.verificationId = some i ∧ e.action.inTrail <;> simp_all [List.filter_cons]

end Trail

/-- A record's trail opens with its INITIATED entry and holds no other, or the record is the
orphan of a rollback whose delete failed: no session handles and no INITIATED entry. -/
def TrailOpens (r : KycVerification) (t : List KycAuditLog) : Prop :=
  (∃ a rest, t = a :: rest ∧ a.action = .initiated ∧ ∀ b ∈ rest, b.action ≠ .initiated) ∨
    (r.inquiryId = none ∧ ∀ a ∈ t, a.action ≠ .initiated)

theorem TrailOpens.append {r r' : KycVerification} {t δ : List KycAuditLog} (h : TrailOpens r t)
    (hinq : r'.inquiryId = r.inquiryId) (hδ : ∀ a ∈ δ, a.action ≠ .initiated) :
    TrailOpens r' (t ++ δ) := by
  rcases h with ⟨a, rest, rfl, ha, hrest⟩ | ⟨hnone, ht⟩
  · exact .inl ⟨a, rest ++ δ, rfl, ha, fun b hb => (List.mem_append.1 hb).elim (hrest b) (hδ b)⟩
  · exact .inr ⟨hinq.trans hnone, fun b hb => (List.mem_append.1 hb).elim (ht b) (hδ b)⟩

theorem TrailOpens.of_inquiryId {r r' : KycVerification} {t : List KycAuditLog} (h : TrailOpens r t)
    (hinq : r'.inquiryId = r.inquiryId) : TrailOpens r' t :=
  h.imp_right fun ⟨hn, ht⟩ => ⟨hinq.trans hn, ht⟩

/-- What the audit log says of the table: every entry names a row id already handed out, and
each row's trail replays from PENDING to its status and opens as `TrailOpens` says. -/
structure TrailInv (s : KycStore) : Prop where
  ids_below : ∀ a ∈ s.auditLogs, ∀ i, a.verificationId = some i → i < s.nextId
  replays : ∀ r ∈ s.verifications, replay .pending (s.trail r.id) = some r.status
  opens : ∀ r ∈ s.verifications, TrailOpens r (s.trail r.id)

namespace TrailInv
variable {s : KycStore}

theorem trail_nextId (h : TrailInv s) : s.trail s.nextId = [] := by
  refine List.filter_eq_nil_iff.2 fun a ha => ?_
  simp only [Bool.and_eq_true, beq_iff_eq, not_and]
  exact fun hv => absurd (h.ids_below a ha _ hv) (Nat.lt_irrefl _)

theorem empty : TrailInv .empty :=
  ⟨fun _ h => (nomatch h), fun _ h => (nomatch h), fun _ h => (nomatch h)⟩

theorem of_trails {s' : KycStore} (h : TrailInv s) (hv : s'.verifications = s.verifications)
    (hn : s.nextId ≤ s'.nextId) (ht : ∀ i, s'.trail i = s.trail i)
    (hlog : ∀ a ∈ s'.auditLogs, ∀ i, a.verificationId = some i → i < s.nextId) : TrailInv s' :=
  ⟨fun a ha i hi => (hlog a ha i hi).trans_le hn, fun r hr => ht r.id ▸ h.replays r (hv ▸ hr),
    fun r hr => ht r.id ▸ h.opens r (hv ▸ hr)⟩

theorem of_log {s' : KycStore} (h : TrailInv s) (hv : s'.verifications = s.verifications)
    (hn : s.nextId ≤ s'.nextId) (hl : s'.auditLogs = s.auditLogs) : TrailInv s' :=
  h.of_trails hv hn (fun i => by simp only [KycStore.trail, hl]) (hl ▸ h.ids_below)

theorem emitAll (h : TrailInv s) (es : List KycEvent) : TrailInv (s.emitAll es) :=
  h.of_log rfl le_rfl rfl

theorem callProvider (h : TrailInv s) (c : ProviderCall) : TrailInv (s.callProvider c) :=
  h.of_log rfl le_rfl rfl

theorem appendAudit_other (h : TrailInv s) (b : Bool) (e : KycAuditLog) (hin : e.action.inTrail = false)
    (hid : ∀ i, e.verificationId = some i → i < s.nextId) : TrailInv (s.appendAudit b e) := by
  refine h.of_trails (by simp) (by simp) (fun i => ?_) fun a ha => ?_
  · cases b
    · simp [trail_appendAudit, hin]
    · rfl
  · cases b
    · rcases List.mem_append.1 ha with ha | ha
      · exact h.ids_below a ha
      · rw [List.mem_singleton.1 ha]
        exact hid
    · exact h.ids_below a ha

theorem update_audit (h : TrailInv s) {id : Nat} {p : KycUpdate} {e : KycAuditLog}
    (hid : id < s.nextId) (he : e.verificationId = some id) (hin : e.action.inTrail = true)
    (hact : e.action ≠ .initiated) (hinq : p.inquiryId = none)
    (hrep : ∀ w ∈ s.verifications, w.id = id → replayStep (some w.status) e = some (w.patch p).status) :
    TrailInv ((s.updateById id p).appendAudit false e) := by
  have htrail (w : KycVerification) : ((s.updateById id p).appendAudit false e).trail w.id =
      s.trail w.id ++ if w.id = id then [e] else [] := by
    rw [trail_appendAudit, trail_updateById]
    simp [he, hin, eq_comm]
  refine ⟨fun a ha i hi => ?_, fun r' hr' => ?_, fun r' hr' => ?_⟩
  · simp only [KycStore.appendAudit_auditLogs, KycStore.updateById_auditLogs, Bool.false_eq_true,
      if_false, List.mem_append, List.mem_singleton] at ha
    rcases ha with ha | rfl
    · simpa using h.ids_below a ha i hi
    · obtain rfl : i = id := Option.some.inj (hi.symm.trans he)
      simpa using hid
  all_goals
    obtain ⟨w, hw, rfl⟩ := List.mem_map.1 (by simpa using hr')
    by_cases hw' : w.id = id
  · rw [if_pos hw', KycVerification.patch_id, htrail w, if_pos hw', replay_append, h.replays w hw]
    exact hrep w hw hw'
  · rw [if_neg hw', htrail w, if_neg hw', List.append_nil]
    exact h.replays w hw
  · rw [if_pos hw', KycVerification.patch_id, htrail w, if_pos hw']
    exact (h.opens w hw).append (by simp [hinq]) (by simpa using hact)
  · rw [if_neg hw', htrail w, if_neg hw', List.append_nil]
    exact h.opens w hw

theorem update (h : TrailInv s) {id : Nat} {p : KycUpdate} (hst : p.status = none)
    (hinq : p.inquiryId = none) : TrailInv (s.updateById id p) := by
  have hkeep (w : KycVerification) : (if w.id = id then w.patch p else w).id = w.id ∧
      (if w.id = id then w.patch p else w).status = w.status ∧
      (if w.id = id then w.patch p else w).inquiryId = w.inquiryId := by
    split <;> simp [hst, hinq]
  refine ⟨by simpa using h.ids_below, fun r' hr' => ?_, fun r' hr' => ?_⟩ <;>
    obtain ⟨w, hw, rfl⟩ := List.mem_map.1 (by simpa using hr') <;>
    rw [trail_updateById, (hkeep w).1]
  · rw [(hkeep w).2.1]
    exact h.replays w hw
  · exact (h.opens w hw).of_inquiryId (hkeep w).2.2

section Create
variable {t : KycStore} {n : KycVerification} (htv : t.verifications = s.verifications ++ [n])
  (htn : t.nextId = s.nextId + 1) (htl : t.auditLogs = s.auditLogs) (hid : n.id = s.nextId)
include htv htn htl hid

omit htv htn hid in
theorem trail_saved (i : Nat) : t.trail i = s.trail i := by
  simp only [KycStore.trail, htl]

theorem orphan (h : TrailInv s) (hst : n.status = .pending) (hinq : n.inquiryId = none) : TrailInv t := by
  refine ⟨fun a ha i hi => ?_, fun r hr => ?_, fun r hr => ?_⟩
  · rw [htn]
    exact Nat.lt_succ_of_lt (h.ids_below a (htl ▸ ha) i hi)
  all_goals
    rw [htv, List.mem_append, List.mem_singleton] at hr
    rw [trail_saved htl]
    rcases hr with hr | rfl
  · exact h.replays r hr
  · rw [hid, h.trail_nextId, hst]
    rfl
  · exact h.opens r hr
  · rw [hid, h.trail_nextId]
    exact .inr ⟨hinq, by simp⟩

theorem rolledBack (h : TrailInv s) (hwf : s.WellFormed) : TrailInv (t.deleteById n.id) :=
  h.of_log (by rw [KycStore.deleteById_verifications, htv, filter_id_ne_of_lt (hid ▸ hwf.ids_lt)])
    (by simp [htn]) (by simp [htl])

theorem initiated (h : TrailInv s) (hwf : s.WellFormed) {hh : KycUpdate} {e : KycAuditLog}
    (hst : (n.patch hh).status = .pending) (he : e.verificationId = some n.id)
    (hact : e.action = .initiated) : TrailInv ((t.updateById n.id hh).appendAudit false e) := by
  have hold : ∀ w ∈ s.verifications, w.id ≠ n.id := fun w hw => hid ▸ (hwf.ids_lt w hw).ne
  have htrail (i : Nat) : ((t.updateById n.id hh).appendAudit false e).trail i =
      s.trail i ++ if i = n.id then [e] else [] := by
    rw [trail_appendAudit, trail_updateById, trail_saved htl]
    simp [he, hact, KycAuditAction.inTrail, eq_comm]
  have hrows : ((t.updateById n.id hh).appendAudit false e).verifications =
      s.verifications ++ [n.patch hh] := by
    simp [htv, map_if_id_of_lt _ (hid ▸ hwf.ids_lt)]
  refine ⟨fun a ha i hi => ?_, fun r hr => ?_, fun r hr => ?_⟩
  · simp only [KycStore.appendAudit_auditLogs, KycStore.updateById_auditLogs, Bool.false_eq_true,
      if_false, List.mem_append, List.mem_singleton, htl] at ha
    simp only [KycStore.appendAudit_nextId, KycStore.updateById_nextId, htn]
    rcases ha with ha | rfl
    · exact Nat.lt_succ_of_lt (h.ids_below a ha i hi)
    · obtain rfl : i = n.id := Option.some.inj (hi.symm.trans he)
      omega
  all_goals
    rw [hrows, List.mem_append, List.mem_singleton] at hr
    rcases hr with hr | rfl
  · rw [htrail, if_neg (hold r hr), List.append_nil]
    exact h.replays r hr
  · rw [KycVerification.patch_id, htrail, if_pos rfl, hid, h.trail_nextId, hst]
    simp [replay, replayStep, hact]
  · rw [htrail, if_neg (hold r hr), List.append_nil]
    exact h.opens r hr
  · rw [KycVerification.patch_id, htrail, if_pos rfl, hid, h.trail_nextId]
    exact .inl ⟨e, [], rfl, hact, by simp⟩

end Create

end TrailInv

section Handlers
variable {env : KycEnv} {s : KycStore} (hc : ∀ action verificationId, env.fails (.audit action verificationId) = false)
include hc

theorem createVerification_trailInv (h : TrailInv s) (hwf : s.WellFormed) (userId : String)
    (dto : StartKycDto) (ipAddress : Option String) :
    TrailInv ((createVerification env userId dto ipAddress).run s).2 := by
  have htv : ((s.insert (newVerification env s userId dto)).callProvider
      (sessionCall userId dto (dto.provider.getD .persona))).verifications =
      s.verifications ++ [newVerification env s userId dto] := by simp
  rcases createVerification_store env s userId dto ipAddress with hs | ⟨-, hs⟩ | hs | ⟨hh, r, hso, hs⟩ <;>
    rw [hs]
  · exact h
  · exact h.orphan htv (by simp) (by simp) rfl rfl (by simp [newVerification])
  · exact h.rolledBack htv (by simp) (by simp) rfl hwf
  · rw [hc]
    exact (h.initiated htv (by simp) (by simp) rfl hwf
      (by simp [newVerification, (sessionOutcome_handles env hso).1]) rfl rfl).emitAll _

omit hc in
theorem resumeKyc_trailInv (h : TrailInv s) (v : KycVerification) :
    TrailInv ((resumeKyc env v).run s).2 := by
  rw [resumeKyc_run]
  split
  · split
    · split
      · exact h.callProvider _
      · exact (h.callProvider _).update rfl rfl
    · exact h.callProvider _
  · exact h

theorem startKyc_trailInv (h : TrailInv s) (hwf : s.WellFormed) (userId : String) (dto : StartKycDto)
    (ipAddress : Option String) : TrailInv ((startKyc env userId dto ipAddress).run s).2 := by
  rw [startKyc_run]
  split_ifs
  · exact h
  · split
    · split
      · exact resumeKyc_trailInv h _
      · exact createVerification_trailInv hc h hwf userId dto ipAddress
    · exact createVerification_trailInv hc h hwf userId dto ipAddress
  · exact h

theorem applyVerificationResult_trailInv {t : KycStore} (h : TrailInv t) (hwf : t.WellFormed)
    {v : KycVerification} (hv : v ∈ t.verifications) (r : VerificationResult) :
    TrailInv ((applyVerificationResult env v r).run t).2 := by
  rw [applyVerificationResult_run]
  split
  · exact h
  · rw [hc]
    refine TrailInv.emitAll ?_ _
    refine h.update_audit (hwf.ids_lt v hv) rfl rfl (by simp) (by simp) fun w hw hwv => ?_
    obtain rfl : w = v := List.inj_on_of_nodup_map hwf.ids_nodup hw hv hwv
    simp [replayStep]

theorem processPersonaWebhook_trailInv (h : TrailInv s) (hwf : s.WellFormed) (rawBody signature : String)
    (payload : PersonaWebhookPayload) :
    TrailInv ((processPersonaWebhook env rawBody signature payload).run s).2 := by
  rw [processPersonaWebhook_run]
  split
  · split
    · rw [hc]
      split
      · rename_i hf
        exact applyVerificationResult_trailInv hc (h.appendAudit_other false _ (by rfl) (by simp))
          (hwf.of_table (by simp) (by simp)) (by simpa using List.mem_of_find?_eq_some hf) _
      · exact h.appendAudit_other false _ (by rfl) (by simp)
    · exact h
  · exact h

theorem processOnfidoWebhook_trailInv (h : TrailInv s) (hwf : s.WellFormed) (rawBody signature : String)
    (payload : OnfidoWebhookPayload) :
    TrailInv ((processOnfidoWebhook env rawBody signature payload).run s).2 := by
  rw [processOnfidoWebhook_run]
  split
  · split
    · split
      · rename_i v hf
        have hv := List.mem_of_find?_eq_some hf
        rw [hc]
        refine applyVerificationResult_trailInv hc ?_ (hwf.of_table (by simp) (by simp))
          (by simpa using hv) _
        exact h.appendAudit_other false _ (by rfl) fun i hi => by cases hi; exact hwf.ids_lt v hv
      · exact h
    · exact h
  · exact h

theorem manualReview_trailInv (h : TrailInv s) (hwf : s.WellFormed) (id : Nat) (dto : ManualReviewDto)
    (ipAddress : Option String) : TrailInv ((manualReview env id dto ipAddress).run s).2 := by
  rw [manualReview_run]
  split
  · rename_i v hf
    have hv := List.mem_of_find?_eq_some hf
    have hid : v.id = id := by simpa using List.find?_some hf
    split
    · exact h
    · rw [hc]
      refine TrailInv.emitAll ?_ _
      exact h.update_audit (hid ▸ hwf.ids_lt v hv) rfl rfl (by simp) (by simp)
        fun w _ _ => by simp [replayStep]
  · exact h

omit hc in
theorem checkMonthlyLimit_trailInv (h : TrailInv s) (userId : String) (amount : ℚ) :
    TrailInv ((checkMonthlyLimit env userId amount).run s).2 := by
  rw [checkMonthlyLimit_run]
  dsimp only
  split <;> exact h.appendAudit_other _ _ rfl (by simp)

omit hc in
theorem canActivate_trailInv (h : TrailInv s) (route : RouteKycMetadata) (userId : Option String) :
    TrailInv ((KycGuard.canActivate env route userId).run s).2 := by
  rw [canActivate_run]
  dsimp only
  split
  · exact h
  · split
    · exact h
    · split
      · have := @checkMonthlyLimit_trailInv env s h (userId.getD "") ‹_›
        rcases hr : (checkMonthlyLimit env (userId.getD "") ‹_›).run s with ⟨_ | _, s'⟩ <;>
          simpa [hr] using this
      · exact h

theorem expireEach_trailInv (vs : List KycVerification) {t : KycStore} (h : TrailInv t)
    (hvs : ∀ v ∈ vs, v.id < t.nextId) : TrailInv ((expireEach env vs).run t).2 := by
  induction vs generalizing t with
  | nil => exact h
  | cons v vs ih =>
    rw [expireEach_run_cons]
    split
    · exact h
    · rw [hc]
      refine ih (TrailInv.emitAll ?_ _) fun w hw => by simpa using hvs w (.tail _ hw)
      exact h.update_audit (hvs v (.head _)) rfl rfl (by simp) rfl fun w _ _ => by simp [replayStep]

theorem expireVerifications_trailInv (h : TrailInv s) (hwf : s.WellFormed) :
    TrailInv ((expireVerifications env).run s).2 := by
  rw [expireVerifications_run]
  exact expireEach_trailInv hc _ h fun v hv => hwf.ids_lt v (List.mem_filter.1 hv).1

end Handlers

theorem KycCall.trailInv (c : KycCall) {s : KycStore} (h : TrailInv s) (hwf : s.WellFormed)
    (hc : ∀ action verificationId, c.env.fails (.audit action verificationId) = false) :
    TrailInv (c.run s) := by
  cases c with
  | startKyc env userId dto ip => exact startKyc_trailInv hc h hwf userId dto ip
  | processPersonaWebhook env body sig payload => exact processPersonaWebhook_trailInv hc h hwf body sig payload
  | processOnfidoWebhook env body sig payload => exact processOnfidoWebhook_trailInv hc h hwf body sig payload
  | manualReview env id dto ip => exact manualReview_trailInv hc h hwf id dto ip
  | checkMonthlyLimit env userId amount => exact checkMonthlyLimit_trailInv h userId amount
  | canActivate env route userId => exact canActivate_trailInv h route userId
  | expireVerifications env => exact expireVerifications_trailInv hc h hwf

theorem trailInv_runCalls (cs : List KycCall) (hcs : AuditedRun cs) : TrailInv (runCalls .empty cs) := by
  induction cs using List.reverseRecOn with
  | nil => exact .empty
  | append_singleton cs c ih =>
    rw [runCalls_append_singleton]
    exact c.trailInv (ih fun c' hc' => hcs c' (List.mem_append_left _ hc'))
      (reachable_runCalls cs).wellFormed (hcs c (List.mem_append_right _ (.head _)))

/-- In a run whose audit writes all succeed, every record's trail replays from PENDING to the
record's status, each STATUS_CHANGED entry's `from` agreeing with the status reached before it;
and the trail opens with the record's INITIATED entry and holds no other, unless the record is
the orphan of a rollback whose delete failed, which has no session handles and no INITIATED
entry. -/
theorem audit_trails (cs : List KycCall) (hcs : AuditedRun cs) (r : KycVerification)
    (hr : r ∈ (runCalls .empty cs).verifications) :
    replay .pending ((runCalls .empty cs).trail r.id) = some r.status ∧
      TrailOpens r ((runCalls .empty cs).trail r.id) :=
  ⟨(trailInv_runCalls cs hcs).replays r hr, (trailInv_runCalls cs hcs).opens r hr⟩

def orphanEnv : KycEnv :=
  { now := 0, fails := fun w => match w with | .delete _ => true | _ => false,
    config := ⟨"", "", fun _ _ => []⟩, personaCreated := .error "timeout",
    personaResumed := .error "", onfidoCreated := .error "" }

def orphanRun : List KycCall := [.startKyc orphanEnv "u1" { targetLevel := .basic } none]

theorem orphanRun_audited : AuditedRun orphanRun := by
  intro c hc a v
  simp only [orphanRun, List.mem_singleton] at hc
  subst hc
  rfl

/-- The saved row stays PENDING with no INITIATED entry, so its trail has nothing to replay
from. -/
theorem orphan_row_without_trail :
    AuditedRun orphanRun ∧ (runCalls .empty orphanRun).verifications.map (·.status) = [.pending] ∧
      (runCalls .empty orphanRun).auditLogs = [] ∧ ¬ TrailsFaithful (runCalls .empty orphanRun) := by
  refine ⟨orphanRun_audited, by decide, by decide, ?_⟩
  unfold TrailsFaithful
  decide

def orphanRow : KycVerification := .create 0 "u1" .basic .pending .persona 1 0

theorem audit_trails_orphanRun :
    replay .pending ((runCalls .empty orphanRun).trail orphanRow.id) = some orphanRow.status :=
  (audit_trails orphanRun orphanRun_audited orphanRow (by decide)).1

end StellarSwipe.Kyc
