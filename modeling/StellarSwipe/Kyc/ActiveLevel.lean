import StellarSwipe.Kyc.Effects

namespace StellarSwipe.Kyc
open Prog
set_option autoImplicit true

theorem KycLevel.toNat_max (a b : KycLevel) : (KycLevel.max a b).toNat = Max.max a.toNat b.toNat := by
  cases a <;> cases b <;> rfl

namespace KycLevel

theorem max_left_comm (a b c : KycLevel) :
    KycLevel.max a (KycLevel.max b c) = KycLevel.max b (KycLevel.max a c) := by
  cases a <;> cases b <;> cases c <;> rfl

theorem foldr_max_le {l : List KycLevel} {a : KycLevel} :
    l.foldr KycLevel.max .none ≤ a ↔ ∀ b ∈ l, b ≤ a := by
  induction l with
  | nil => simp [none_le]
  | cons b l ih =>
    rw [List.foldr_cons, List.forall_mem_cons, ← ih, le_def, toNat_max]
    exact Nat.max_le

theorem max_eq_left {a b : KycLevel} (h : b ≤ a) : KycLevel.max a b = a :=
  toNat_inj (by rw [toNat_max]; exact Nat.max_eq_left h)

theorem foldr_max_perm {l₁ l₂ : List KycLevel} (p : l₁.Perm l₂) :
    l₁.foldr KycLevel.max .none = l₂.foldr KycLevel.max .none :=
  p.foldr_eq' (fun x _ y _ z => max_left_comm y x z) _

end KycLevel

/-- The active level as the specification states it: the highest level among `userId`'s
APPROVED rows whose `expiresAt` is null or later than `now`, and `NONE` when there is none. -/
def KycStore.freshApprovedLevel (s : KycStore) (userId : String) (now : Timestamp) : KycLevel :=
  ((s.verifications.filter fun v => v.userId == userId && v.status == .approved && isFresh now v).map
    (·.level)).foldr KycLevel.max .none

theorem activeLevelOf_nil (now : Timestamp) : activeLevelOf now [] = .none := rfl

theorem activeLevelOf_cons (now : Timestamp) (v : KycVerification) (l : List KycVerification) :
    activeLevelOf now (v :: l) = if isFresh now v then v.level else activeLevelOf now l := by
  unfold activeLevelOf
  by_cases h : isFresh now v <;> simp [List.find?_cons, h]

theorem activeLevelOf_of_sorted {now : Timestamp} {l : List KycVerification}
    (h : l.Pairwise fun a b => byLevelDesc a b) :
    activeLevelOf now l = ((l.filter (isFresh now)).map (·.level)).foldr KycLevel.max .none := by
  induction l with
  | nil => rfl
  | cons v l ih =>
    rw [List.pairwise_cons] at h
    rw [activeLevelOf_cons, ih h.2]
    by_cases hv : isFresh now v
    · have hle : ((l.filter (isFresh now)).map (·.level)).foldr KycLevel.max .none ≤ v.level := by
        simp only [KycLevel.foldr_max_le, List.mem_map, List.mem_filter]
        rintro _ ⟨w, ⟨hw, -⟩, rfl⟩
        simpa [byLevelDesc] using h.1 w hw
      simp [hv, KycLevel.max_eq_left hle]
    · simp [hv]

theorem byLevelDesc_sorted (l : List KycVerification) :
    (l.mergeSort byLevelDesc).Pairwise fun a b => byLevelDesc a b :=
  List.sorted_mergeSort
    (fun _ _ _ h₁ h₂ => by simp only [byLevelDesc, decide_eq_true_eq, KycLevel.le_def] at *; omega)
    (fun a b => by simp only [byLevelDesc, Bool.or_eq_true, decide_eq_true_eq, KycLevel.le_def]; omega) l

theorem activeLevelOf_approvedOf (s : KycStore) (userId : String) (now : Timestamp) :
    activeLevelOf now (s.approvedOf userId) = s.freshApprovedLevel userId now := by
  rw [KycStore.approvedOf, activeLevelOf_of_sorted (byLevelDesc_sorted _), KycStore.freshApprovedLevel]
  rw [KycLevel.foldr_max_perm (((List.mergeSort_perm _ _).filter _).map _), List.filter_filter]
  congr 2
  exact List.filter_congr fun v _ => Bool.and_comm _ _

variable (env : KycEnv) (s : KycStore)

theorem getActiveKycLevel_run_eq (userId : String) :
    (getActiveKycLevel env userId).run s = (.ok (s.freshApprovedLevel userId env.now), s) := by
  rw [getActiveKycLevel_run, activeLevelOf_approvedOf]

theorem limitReached_iff (monthlyLimit : Option Nat) (usage requested : ℚ) :
    limitReached monthlyLimit usage requested = true ↔
      ∃ limit, monthlyLimit = some limit ∧ (limit : ℚ) < usage + requested := by
  cases monthlyLimit <;> simp [limitReached]

theorem canActivate_requiredLevel (R : KycLevel) (userId : Option String)
    (hu : truthy userId = true) :
    (KycGuard.canActivate env { requiredLevel := some R } userId).run s =
      let level := s.freshApprovedLevel (userId.getD "") env.now
      if level < R then (.error (.forbidden (levelMessage R level)), s) else (.ok true, s) := by
  rw [canActivate_run, activeLevelOf_approvedOf]
  by_cases h : s.freshApprovedLevel (userId.getD "") env.now < R <;> simp [hu, h, Option.filter]

theorem checkMonthlyLimit_spec (userId : String) (amount : ℚ) :
    let r := (checkMonthlyLimit env userId amount).run s
    let level := s.freshApprovedLevel userId env.now
    let action := if r.1.isOk then KycAuditAction.limitChecked else .limitExceeded
    (r.1.isOk = false ↔ ∃ limit, kycMonthlyLimits level = some limit ∧
      (limit : ℚ) < getCurrentMonthUsage userId + amount) ∧
    r.2 = s.appendAudit (env.fails (.audit action none))
      ⟨userId, none, action, .limit level (kycMonthlyLimits level) (getCurrentMonthUsage userId) amount,
        none⟩ := by
  rw [checkMonthlyLimit_run, activeLevelOf_approvedOf]
  by_cases h : limitReached (kycMonthlyLimits (s.freshApprovedLevel userId env.now))
    (getCurrentMonthUsage userId) amount <;> simp [h, ← limitReached_iff, Except.toBool]

/-- `getActiveKycLevel` is the declarative maximum, and both gates decide by it. -/
theorem activeLevel_gates (userId : String) (R : KycLevel) (amount : ℚ)
    (hu : truthy (some userId) = true) :
    let level := s.freshApprovedLevel userId env.now
    (getActiveKycLevel env userId).run s = (.ok level, s) ∧
    (KycGuard.canActivate env { requiredLevel := some R } (some userId)).run s =
      (if level < R then (.error (.forbidden (levelMessage R level)), s) else (.ok true, s)) ∧
    let r := (checkMonthlyLimit env userId amount).run s
    let action := if r.1.isOk then KycAuditAction.limitChecked else .limitExceeded
    (r.1.isOk = false ↔ ∃ limit, kycMonthlyLimits level = some limit ∧
      (limit : ℚ) < getCurrentMonthUsage userId + amount) ∧
    r.2 = s.appendAudit (env.fails (.audit action none))
      ⟨userId, none, action, .limit level (kycMonthlyLimits level) (getCurrentMonthUsage userId) amount,
        none⟩ :=
  ⟨getActiveKycLevel_run_eq env s userId, canActivate_requiredLevel env s R (some userId) hu,
    checkMonthlyLimit_spec env s userId amount⟩

theorem gates_of_freshApprovedLevel_eq {s₁ s₂ : KycStore}
    (h : ∀ u, s₁.freshApprovedLevel u env.now = s₂.freshApprovedLevel u env.now) :
    (∀ u, ((getActiveKycLevel env u).run s₁).1 = ((getActiveKycLevel env u).run s₂).1) ∧
    (∀ u amount, ((checkMonthlyLimit env u amount).run s₁).1 = ((checkMonthlyLimit env u amount).run s₂).1) ∧
    (∀ route u, ((KycGuard.canActivate env route u).run s₁).1 =
      ((KycGuard.canActivate env route u).run s₂).1) := by
  have hlimit (u : String) (amount : ℚ) :
      ((checkMonthlyLimit env u amount).run s₁).1 = ((checkMonthlyLimit env u amount).run s₂).1 := by
    simp only [checkMonthlyLimit_run, activeLevelOf_approvedOf, h]
    split_ifs <;> rfl
  refine ⟨fun u => by simp only [getActiveKycLevel_run_eq, h], hlimit, fun route u => ?_⟩
  simp only [canActivate_run, activeLevelOf_approvedOf, h]
  split_ifs
  · rfl
  · split
    · rfl
    · split
      · have := hlimit (u.getD "") ‹ℚ›
        generalize (checkMonthlyLimit env (u.getD "") ‹ℚ›).run s₁ = p₁ at this ⊢
        generalize (checkMonthlyLimit env (u.getD "") ‹ℚ›).run s₂ = p₂ at this ⊢
        obtain ⟨r, t₁⟩ := p₁
        obtain ⟨r', t₂⟩ := p₂
        obtain rfl : r = r' := this
        cases r <;> rfl
      · rfl

def KycEnv.allWritesFail : KycEnv :=
  ⟨0, fun _ => true, ⟨"", "", fun _ _ => []⟩, .error "", .error "", .error ""⟩

theorem activeLevel_gates_u1 :
    truthy (some "u1") = true ∧
      (getActiveKycLevel KycEnv.allWritesFail "u1").run .empty = (.ok .none, .empty) :=
  ⟨rfl, (activeLevel_gates KycEnv.allWritesFail .empty "u1" .basic 5 rfl).1⟩

/-- When the audit write fails, the limit check leaves the audit log as it was. -/
theorem checkMonthlyLimit_audit_dropped :
    ((checkMonthlyLimit KycEnv.allWritesFail "u1" 5).run .empty).2.auditLogs = [] := by
  rw [checkMonthlyLimit_run]
  dsimp only
  split <;> rfl

theorem prerequisiteMet_enhanced_iff (userId : String) :
    s.prerequisiteMet userId .enhanced = true ↔
      ∃ v ∈ s.verifications, v.userId = userId ∧ v.level = .basic ∧ v.status = .approved := by
  simp [KycStore.prerequisiteMet, levelPrerequisites, KycVerification.matches, List.find?_isSome,
    and_assoc]

def staleBasic : KycVerification :=
  { KycVerification.create 0 "u1" .basic .approved .persona 1 0 with
    approvedAt := some 0, expiresAt := some 1000 }

def staleBasicStore : KycStore := ⟨[staleBasic], [], [], [], 1⟩

/-- Once the BASIC approval has expired, the active level is NONE, yet `startKyc` for ENHANCED
passes the prerequisite check and goes on to create the verification. -/
theorem startKyc_enhanced_passes_expired_basic (env : KycEnv) (hnow : 1000 ≤ env.now) :
    (getActiveKycLevel env "u1").run staleBasicStore = (.ok .none, staleBasicStore) ∧
    (startKyc env "u1" { targetLevel := .enhanced } none).run staleBasicStore =
      (createVerification env "u1" { targetLevel := .enhanced } none).run staleBasicStore := by
  have hmet : staleBasicStore.prerequisiteMet "u1" .enhanced = true :=
    (prerequisiteMet_enhanced_iff _ _).2 ⟨staleBasic, List.mem_singleton_self _, rfl, rfl, rfl⟩
  refine ⟨?_, ?_⟩
  · rw [getActiveKycLevel_run_eq]
    simp [KycStore.freshApprovedLevel, staleBasicStore, staleBasic, isFresh, Nat.not_lt.2 hnow]
  · have hpending : staleBasicStore.verifications.find? (·.matches "u1" .enhanced .pending) = none := by
      decide
    rw [startKyc_run, if_neg (by decide), if_pos hmet, hpending]

theorem startKyc_enhanced_passes_expired_basic_at_2000 :
    1000 ≤ ({ KycEnv.allWritesFail with now := 2000 } : KycEnv).now ∧
      (getActiveKycLevel { KycEnv.allWritesFail with now := 2000 } "u1").run staleBasicStore =
        (.ok .none, staleBasicStore) :=
  ⟨by decide, (startKyc_enhanced_passes_expired_basic { KycEnv.allWritesFail with now := 2000 }
    (by decide)).1⟩

end StellarSwipe.Kyc
