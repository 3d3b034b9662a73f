import Mathlib.Data.List.Nodup
import StellarSwipe.Kyc.Effects

namespace StellarSwipe.Kyc
open Prog
set_option autoImplicit true

inductive KycCall
  | startKyc (env : KycEnv) (userId : String) (dto : StartKycDto) (ipAddress : Option String)
  | processPersonaWebhook (env : KycEnv) (rawBody signature : String)
      (payload : PersonaWebhookPayload)
  | processOnfidoWebhook (env : KycEnv) (rawBody signature : String)
      (payload : OnfidoWebhookPayload)
  | manualReview (env : KycEnv) (verificationId : Nat) (dto : ManualReviewDto)
      (ipAddress : Option String)
  | checkMonthlyLimit (env : KycEnv) (userId : String) (amount : ℚ)
  | canActivate (env : KycEnv) (route : RouteKycMetadata) (userId : Option String)
  | expireVerifications (env : KycEnv)

namespace KycCall

def env : KycCall → KycEnv
  | startKyc env .. | processPersonaWebhook env .. | processOnfidoWebhook env ..
  | manualReview env .. | checkMonthlyLimit env .. | canActivate env .. | expireVerifications env => env

/-- The store a call leaves. -/
def run : KycCall → KycStore → KycStore
  | startKyc env userId dto ip, s => ((Kyc.startKyc env userId dto ip).run s).2
  | processPersonaWebhook env body sig payload, s =>
    ((Kyc.processPersonaWebhook env body sig payload).run s).2
  | processOnfidoWebhook env body sig payload, s =>
    ((Kyc.processOnfidoWebhook env body sig payload).run s).2
  | manualReview env id dto ip, s => ((Kyc.manualReview env id dto ip).run s).2
  | checkMonthlyLimit env userId amount, s => ((Kyc.checkMonthlyLimit env userId amount).run s).2
  | canActivate env route userId, s => ((KycGuard.canActivate env route userId).run s).2
  | expireVerifications env, s => ((Kyc.expireVerifications env).run s).2

end KycCall

def runCalls (s : KycStore) (cs : List KycCall) : KycStore := cs.foldl (fun s c => c.run s) s

@[simp] theorem runCalls_nil (s : KycStore) : runCalls s [] = s := rfl

@[simp] theorem runCalls_append_singleton (s : KycStore) (cs : List KycCall) (c : KycCall) :
    runCalls s (cs ++ [c]) = c.run (runCalls s cs) := by
  simp [runCalls]

theorem runCalls_append (s : KycStore) (cs ds : List KycCall) :
    runCalls s (cs ++ ds) = runCalls (runCalls s cs) ds :=
  List.foldl_append _ _ _ _

/-- The stores some sequential run reaches from the empty store. -/
inductive Reachable : KycStore → Prop
  | empty : Reachable .empty
  | step {s : KycStore} (c : KycCall) : Reachable s → Reachable (c.run s)

theorem Reachable.runCalls {s : KycStore} (hs : Reachable s) (cs : List KycCall) :
    Reachable (runCalls s cs) := by
  induction cs generalizing s with
  | nil => exact hs
  | cons c cs ih => exact ih (hs.step c)

theorem reachable_runCalls (cs : List KycCall) : Reachable (runCalls .empty cs) :=
  Reachable.empty.runCalls cs

/-- Row ids increase in creation order and stay below the id the next row receives. -/
structure KycStore.WellFormed (s : KycStore) : Prop where
  ids_sorted : (s.verifications.map (·.id)).Pairwise (· < ·)
  ids_lt : ∀ v ∈ s.verifications, v.id < s.nextId

theorem KycStore.WellFormed.ids_nodup {s : KycStore} (hs : s.WellFormed) :
    (s.verifications.map (·.id)).Nodup :=
  hs.ids_sorted.imp Nat.ne_of_lt

theorem KycStore.WellFormed.of_table {s s' : KycStore} (hs : s.WellFormed)
    (hv : s'.verifications = s.verifications) (hn : s.nextId ≤ s'.nextId) : s'.WellFormed :=
  ⟨hv ▸ hs.ids_sorted, fun v h => (hs.ids_lt v (hv ▸ h)).trans_le hn⟩

/-- `s'`'s table is `s`'s with some rows rewritten by patches allowed by `R`, and possibly
one row allowed by `N` appended under the next id; the next id never goes back. -/
def TableStep (R : KycVerification → KycUpdate → Prop) (N : KycVerification → Prop)
    (s s' : KycStore) : Prop :=
  s.nextId ≤ s'.nextId ∧ ∃ f : KycVerification → KycVerification,
    (∀ v ∈ s.verifications, f v = v ∨ ∃ p, R v p ∧ f v = v.patch p) ∧
    (s'.verifications = s.verifications.map f ∨
      ∃ n, N n ∧ n.id = s.nextId ∧ s'.nextId = s.nextId + 1 ∧
        s'.verifications = s.verifications.map f ++ [n])

namespace TableStep
variable {R : KycVerification → KycUpdate → Prop} {N : KycVerification → Prop}

theorem of_table {s s' : KycStore} (hv : s'.verifications = s.verifications)
    (hn : s'.nextId = s.nextId) : TableStep R N s s' :=
  ⟨hn.ge, id, fun _ _ => .inl rfl, .inl (by simpa using hv)⟩

theorem refl (s : KycStore) : TableStep R N s s := of_table rfl rfl

theorem mono {R' : KycVerification → KycUpdate → Prop} {N' : KycVerification → Prop}
    {s s' : KycStore} (hR : ∀ v p, R v p → R' v p) (hN : ∀ n, N n → N' n)
    (h : TableStep R N s s') : TableStep R' N' s s' := by
  obtain ⟨hn, f, hf, hv⟩ := h
  refine ⟨hn, f, fun v hv' => (hf v hv').imp_right fun ⟨p, hp, e⟩ => ⟨p, hR v p hp, e⟩, ?_⟩
  exact hv.imp_right fun ⟨n, hn', rest⟩ => ⟨n, hN n hn', rest⟩

theorem of_updateById {s s' : KycStore} (id : Nat) (p : KycUpdate)
    (hp : ∀ v ∈ s.verifications, v.id = id → R v p)
    (hv : s'.verifications = (s.updateById id p).verifications) (hn : s'.nextId = s.nextId) :
    TableStep R N s s' := by
  refine ⟨hn.ge, fun v => if v.id = id then v.patch p else v, fun v hv' => ?_, .inl hv⟩
  by_cases h : v.id = id
  · exact .inr ⟨p, hp v hv' h, if_pos h⟩
  · exact .inl (if_neg h)

end TableStep

section
variable {R : KycVerification → KycUpdate → Prop} {l : List KycVerification}
  {f : KycVerification → KycVerification}

theorem TableStep.id_eq (hf : ∀ v ∈ l, f v = v ∨ ∃ p, R v p ∧ f v = v.patch p) {v : KycVerification}
    (hv : v ∈ l) : (f v).id = v.id := by
  rcases hf v hv with h | ⟨p, -, h⟩ <;> simp [h]

theorem TableStep.map_ids (hf : ∀ v ∈ l, f v = v ∨ ∃ p, R v p ∧ f v = v.patch p) :
    (l.map f).map (·.id) = l.map (·.id) := by
  rw [List.map_map]
  exact List.map_congr_left fun v hv => TableStep.id_eq hf hv

theorem TableStep.wellFormed {N : KycVerification → Prop} {s s' : KycStore}
    (h : TableStep R N s s') (hs : s.WellFormed) : s'.WellFormed := by
  obtain ⟨hn, f, hf, h⟩ := h
  have hlt : ∀ w ∈ s.verifications.map f, w.id < s.nextId := by
    simp only [List.mem_map, forall_exists_index, and_imp, forall_apply_eq_imp_iff₂]
    exact fun v hv => TableStep.id_eq hf hv ▸ hs.ids_lt v hv
  rcases h with hv | ⟨n, -, hid, hn', hv⟩
  · constructor
    · rw [hv, TableStep.map_ids hf]
      exact hs.ids_sorted
    · exact fun w hw => (hlt w (hv ▸ hw)).trans_le hn
  · constructor
    · simp only [hv, List.map_append, TableStep.map_ids hf, List.map_cons, List.map_nil, hid,
        List.pairwise_append, List.pairwise_singleton, List.mem_singleton, forall_eq, true_and]
      refine ⟨hs.ids_sorted, fun i hi => ?_⟩
      obtain ⟨v, hv, rfl⟩ := List.mem_map.1 hi
      exact hs.ids_lt v hv
    · intro w hw
      rw [hv, List.mem_append, List.mem_singleton] at hw
      rcases hw with hw | rfl
      · exact (hlt w hw).trans (hn' ▸ Nat.lt_succ_self _)
      · omega

variable {N : KycVerification → Prop} {s s' : KycStore}

theorem TableStep.mem (h : TableStep R N s s') {v' : KycVerification} (hv' : v' ∈ s'.verifications) :
    (∃ v ∈ s.verifications, v'.id = v.id ∧ (v' = v ∨ ∃ p, R v p ∧ v' = v.patch p)) ∨
      (N v' ∧ v'.id = s.nextId) := by
  obtain ⟨-, f, hf, hv | ⟨n, hn, hid, -, hv⟩⟩ := h
  · obtain ⟨v, hv, rfl⟩ := List.mem_map.1 (hv ▸ hv')
    exact .inl ⟨v, hv, TableStep.id_eq hf hv, hf v hv⟩
  · rw [hv, List.mem_append, List.mem_singleton] at hv'
    rcases hv' with hv' | rfl
    · obtain ⟨v, hv, rfl⟩ := List.mem_map.1 hv'
      exact .inl ⟨v, hv, TableStep.id_eq hf hv, hf v hv⟩
    · exact .inr ⟨hn, hid⟩

theorem TableStep.persist (h : TableStep R N s s') {v : KycVerification}
    (hv : v ∈ s.verifications) :
    ∃ v' ∈ s'.verifications, v'.id = v.id ∧ (v' = v ∨ ∃ p, R v p ∧ v' = v.patch p) := by
  obtain ⟨-, f, hf, h⟩ := h
  refine ⟨f v, ?_, TableStep.id_eq hf hv, hf v hv⟩
  rcases h with h | ⟨n, -, -, -, h⟩ <;> simp only [h, List.mem_append] <;>
    first | exact List.mem_map_of_mem f hv | exact .inl (List.mem_map_of_mem f hv)

theorem TableStep.image (h : TableStep R N s s') (hs : s.WellFormed) {v v' : KycVerification}
    (hv : v ∈ s.verifications) (hv' : v' ∈ s'.verifications) (hid : v'.id = v.id) :
    v' = v ∨ ∃ p, R v p ∧ v' = v.patch p := by
  rcases h.mem hv' with ⟨w, hw, hwid, hw'⟩ | ⟨-, hn⟩
  · obtain rfl : w = v := List.inj_on_of_nodup_map hs.ids_nodup hw hv (hwid.symm.trans hid)
    exact hw'
  · exact absurd (hs.ids_lt v hv) (by omega)

end

theorem map_if_id_of_lt {l : List KycVerification} {n : Nat} (g : KycVerification → KycVerification)
    (h : ∀ v ∈ l, v.id < n) : l.map (fun v => if v.id = n then g v else v) = l :=
  (List.map_congr_left fun v hv => if_neg (h v hv).ne).trans (List.map_id l)

theorem filter_id_ne_of_lt {l : List KycVerification} {n : KycVerification}
    (h : ∀ v ∈ l, v.id < n.id) : (l ++ [n]).filter (fun v => v.id ≠ n.id) = l := by
  rw [List.filter_append, List.filter_eq_self.2 fun v hv => by simpa using (h v hv).ne]
  simp

/-- A row `createVerification` may leave in the table: the saved row, kept only when the
rollback's delete fails, or the saved row with the session handles the provider returned. -/
def CreatedRow (env : KycEnv) (s : KycStore) (userId : String) (dto : StartKycDto)
    (n : KycVerification) : Prop :=
  (n = newVerification env s userId dto ∧ env.fails (.delete n.id) = true) ∨
    ∃ h r, sessionOutcome env (newVerification env s userId dto) (dto.provider.getD .persona) =
      .ok (h, r) ∧ n = (newVerification env s userId dto).patch h

theorem CreatedRow.shape {env : KycEnv} {s : KycStore} {userId : String} {dto : StartKycDto}
    {n : KycVerification} (hn : CreatedRow env s userId dto n) :
    n.id = s.nextId ∧ n.userId = userId ∧ n.level = dto.targetLevel ∧
      n.attemptCount = s.verifications.countP (·.inSlot userId dto.targetLevel) + 1 ∧
      n.status = .pending ∧ n.approvedAt = none ∧ n.expiresAt = none := by
  rcases hn with ⟨rfl, -⟩ | ⟨h, r, ho, rfl⟩
  · simp [newVerification]
  · obtain ⟨hs, ha, he, -⟩ := sessionOutcome_handles env ho
    simp [newVerification, hs, ha, he]

namespace KycCall

/-- The patch a call may write to an existing row, with what the call requires of that row. -/
def Rewrites : KycCall → KycVerification → KycUpdate → Prop
  | startKyc .., _, p => ∃ token, p = { sessionToken := some (some token) }
  | processPersonaWebhook env _ _ payload, _, p =>
    ∃ result, PersonaProvider.parseWebhookPayload payload = .ok result ∧ p = resultUpdates env.now result.toResult
  | processOnfidoWebhook env _ _ payload, _, p =>
    ∃ result, OnfidoProvider.parseWebhookPayload payload = .ok result ∧ p = resultUpdates env.now result.toResult
  | manualReview env id dto _, v, p => v.id = id ∧ p = manualUpdates env.now dto
  | expireVerifications env, v, p => isSweepable env.now v ∧ p = { status := some .expired }
  | checkMonthlyLimit .., _, _ | canActivate .., _, _ => False

/-- The row a call may append: only `startKyc` creates one, and only when no PENDING row
for the user and level carries an inquiry id to resume. -/
def NewRow : KycCall → KycStore → KycVerification → Prop
  | startKyc env userId dto _, s, n =>
    dto.targetLevel ≠ .none ∧ s.prerequisiteMet userId dto.targetLevel = true ∧
    (∀ e ∈ s.verifications.find? (·.matches userId dto.targetLevel .pending),
      truthy e.inquiryId = false) ∧
    CreatedRow env s userId dto n
  | _, _, _ => False

end KycCall

section
variable {env : KycEnv} {s : KycStore}

theorem newVerification_id (userId : String) (dto : StartKycDto) :
    (newVerification env s userId dto).id = s.nextId := rfl

theorem createVerification_tableStep (hs : s.WellFormed) (userId : String) (dto : StartKycDto)
    (ipAddress : Option String) :
    TableStep (fun _ _ => False) (CreatedRow env s userId dto) s
      ((createVerification env userId dto ipAddress).run s).2 := by
  have hlt : ∀ v ∈ s.verifications, v.id < (newVerification env s userId dto).id := hs.ids_lt
  rcases createVerification_store env s userId dto ipAddress with h | ⟨hdel, h⟩ | h | ⟨hh, r, hso, h⟩ <;>
    rw [h]
  · exact .refl s
  · exact ⟨by simp, id, fun _ _ => .inl rfl, .inr ⟨_, .inl ⟨rfl, hdel⟩, rfl, by simp, by simp⟩⟩
  · refine ⟨by simp, id, fun _ _ => .inl rfl, .inl ?_⟩
    simp only [KycStore.deleteById_verifications, KycStore.callProvider_verifications,
      KycStore.insert_verifications, filter_id_ne_of_lt hlt, List.map_id]
  · refine ⟨by simp, id, fun _ _ => .inl rfl, .inr ⟨_, .inr ⟨hh, r, hso, rfl⟩, rfl, by simp, ?_⟩⟩
    simp [map_if_id_of_lt _ hs.ids_lt, newVerification_id]

variable {N : KycVerification → Prop}

theorem applyVerificationResult_tableStep (v : KycVerification) (r : VerificationResult)
    {t : KycStore} (ht : t.verifications = s.verifications) (hn : t.nextId = s.nextId) :
    TableStep (fun _ p => p = resultUpdates env.now r) N s
      ((applyVerificationResult env v r).run t).2 := by
  rw [applyVerificationResult_run]
  split
  · exact .of_table ht hn
  · exact .of_updateById v.id _ (fun _ _ _ => rfl) (by simp [ht]) (by simp [hn])

theorem processPersonaWebhook_tableStep (rawBody signature : String)
    (payload : PersonaWebhookPayload) :
    TableStep (fun _ p => ∃ result, PersonaProvider.parseWebhookPayload payload = .ok result ∧
      p = resultUpdates env.now result.toResult) N s
      ((processPersonaWebhook env rawBody signature payload).run s).2 := by
  rw [processPersonaWebhook_run]
  split
  · split
    · split
      · exact (applyVerificationResult_tableStep _ _ (by simp) (by simp)).mono
          (fun _ _ hp => ⟨_, ‹_›, hp⟩) fun _ h => h
      · exact .of_table (by simp) (by simp)
    · exact .refl s
  · exact .refl s

theorem processOnfidoWebhook_tableStep (rawBody signature : String)
    (payload : OnfidoWebhookPayload) :
    TableStep (fun _ p => ∃ result, OnfidoProvider.parseWebhookPayload payload = .ok result ∧
      p = resultUpdates env.now result.toResult) N s
      ((processOnfidoWebhook env rawBody signature payload).run s).2 := by
  rw [processOnfidoWebhook_run]
  split
  · split
    · split
      · exact (applyVerificationResult_tableStep _ _ (by simp) (by simp)).mono
          (fun _ _ hp => ⟨_, ‹_›, hp⟩) fun _ h => h
      · exact .refl s
    · exact .refl s
  · exact .refl s

theorem manualReview_tableStep (id : Nat) (dto : ManualReviewDto) (ipAddress : Option String) :
    TableStep (fun v p => v.id = id ∧ p = manualUpdates env.now dto) N s
      ((manualReview env id dto ipAddress).run s).2 := by
  rw [manualReview_run]
  split
  · split
    · exact .refl s
    · exact .of_updateById id _ (fun _ _ h => ⟨h, rfl⟩) (by simp) (by simp)
  · exact .refl s

theorem checkMonthlyLimit_tableStep {R : KycVerification → KycUpdate → Prop} (userId : String)
    (amount : ℚ) : TableStep R N s ((checkMonthlyLimit env userId amount).run s).2 := by
  rw [checkMonthlyLimit_run]
  dsimp only
  split <;> exact .of_table (by simp) (by simp)

theorem canActivate_tableStep {R : KycVerification → KycUpdate → Prop} (route : RouteKycMetadata)
    (userId : Option String) : TableStep R N s ((KycGuard.canActivate env route userId).run s).2 := by
  rw [canActivate_run]
  dsimp only
  split
  · exact .refl s
  · split
    · exact .refl s
    · split
      · have := @checkMonthlyLimit_tableStep env s N R (userId.getD "") ‹_›
        rcases hr : (checkMonthlyLimit env (userId.getD "") ‹_›).run s with ⟨_ | _, s'⟩ <;>
          simpa [hr] using this
      · exact .refl s

theorem expireEach_verifications (vs : List KycVerification) (t : KycStore) :
    ∃ ids : List Nat, (∀ i ∈ ids, ∃ v ∈ vs, v.id = i) ∧
      ((expireEach env vs).run t).2.verifications =
        t.verifications.map (fun r => if r.id ∈ ids then r.patch { status := some .expired } else r) ∧
      ((expireEach env vs).run t).2.nextId = t.nextId := by
  induction vs generalizing t with
  | nil => exact ⟨[], by simp, by simp [expireEach_run_nil], rfl⟩
  | cons v vs ih =>
    rw [expireEach_run_cons]
    split
    · exact ⟨[], by simp, by simp, rfl⟩
    · obtain ⟨ids, hids, hv, hn⟩ := ih (((t.updateById v.id { status := some .expired }).appendAudit
        (env.fails (.audit .expired (some v.id)))
        ⟨v.userId, some v.id, .expired, .expired v.expiresAt v.level, none⟩).emitAll
        [.expired v.userId v.level v.id])
      refine ⟨v.id :: ids, ?_, ?_, by simp [hn]⟩
      · simp only [List.mem_cons, forall_eq_or_imp]
        exact ⟨⟨v, .inl rfl, rfl⟩, fun i hi => (hids i hi).imp fun w hw => ⟨.inr hw.1, hw.2⟩⟩
      · rw [hv]
        simp only [KycStore.emitAll_verifications, KycStore.appendAudit_verifications,
          KycStore.updateById_verifications, List.map_map]
        refine List.map_congr_left fun r _ => ?_
        by_cases h : r.id = v.id <;> simp [h, KycVerification.patch_patch]

theorem expireVerifications_tableStep (hs : s.WellFormed) :
    TableStep (fun v p => isSweepable env.now v ∧ p = { status := some .expired }) N s
      ((expireVerifications env).run s).2 := by
  rw [expireVerifications_run]
  obtain ⟨ids, hids, hv, hn⟩ :=
    @expireEach_verifications env (s.verifications.filter (isSweepable env.now)) s
  refine ⟨hn.ge, _, fun r hr => ?_, .inl hv⟩
  by_cases h : r.id ∈ ids
  · obtain ⟨w, hw, hwr⟩ := hids _ h
    have hw' := List.mem_filter.1 hw
    have : w = r := List.inj_on_of_nodup_map hs.ids_nodup hw'.1 hr hwr
    exact .inr ⟨_, ⟨this ▸ hw'.2, rfl⟩, if_pos h⟩
  · exact .inl (if_neg h)

theorem resumeKyc_tableStep (v : KycVerification) :
    TableStep (fun _ p => ∃ token, p = { sessionToken := some (some token) }) N s
      ((resumeKyc env v).run s).2 := by
  rw [resumeKyc_run]
  split
  · split
    · split
      · exact .of_table (by simp) (by simp)
      · rename_i token _ _
        exact .of_updateById v.id _ (fun _ _ _ => ⟨token, rfl⟩) (by simp) (by simp)
    · exact .of_table (by simp) (by simp)
  · exact .refl s

theorem startKyc_tableStep (hs : s.WellFormed) (userId : String) (dto : StartKycDto)
    (ipAddress : Option String) :
    TableStep (fun _ p => ∃ token, p = { sessionToken := some (some token) })
      (fun n => dto.targetLevel ≠ .none ∧ s.prerequisiteMet userId dto.targetLevel = true ∧
        (∀ e ∈ s.verifications.find? (·.matches userId dto.targetLevel .pending),
          truthy e.inquiryId = false) ∧ CreatedRow env s userId dto n) s
      ((startKyc env userId dto ipAddress).run s).2 := by
  rw [startKyc_run]
  split_ifs with hl hp
  · exact .refl s
  · split
    · rename_i e he
      split
      · exact resumeKyc_tableStep e
      · exact (createVerification_tableStep hs userId dto ipAddress).mono (fun _ _ h => h.elim)
          fun n hn => ⟨hl, hp, by simp_all, hn⟩
    · rename_i h
      exact (createVerification_tableStep hs userId dto ipAddress).mono (fun _ _ h => h.elim)
        fun n hn => ⟨hl, hp, by simp [h], hn⟩
  · exact .refl s

end

namespace KycCall

theorem run_tableStep (c : KycCall) {s : KycStore} (hs : s.WellFormed) :
    TableStep c.Rewrites (c.NewRow s) s (c.run s) := by
  cases c with
  | startKyc env userId dto ip => exact startKyc_tableStep hs userId dto ip
  | processPersonaWebhook env body sig payload => exact processPersonaWebhook_tableStep body sig payload
  | processOnfidoWebhook env body sig payload => exact processOnfidoWebhook_tableStep body sig payload
  | manualReview env id dto ip => exact manualReview_tableStep id dto ip
  | checkMonthlyLimit env userId amount => exact checkMonthlyLimit_tableStep userId amount
  | canActivate env route userId => exact canActivate_tableStep route userId
  | expireVerifications env => exact expireVerifications_tableStep hs

end KycCall

theorem Reachable.wellFormed {s : KycStore} (h : Reachable s) : s.WellFormed := by
  induction h with
  | empty => exact ⟨.nil, fun _ h => nomatch h⟩
  | step c _ ih => exact (c.run_tableStep ih).wellFormed ih

end StellarSwipe.Kyc
