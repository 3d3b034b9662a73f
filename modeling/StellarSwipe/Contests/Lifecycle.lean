import StellarSwipe.Contests.Leaderboard
import StellarSwipe.Safety

namespace StellarSwipe.Contests
open Prog
set_option autoImplicit true

/-- `CreateContestDto` as `createContest` reads it: the two dates as the time values
`new Date(...)` makes of the validated strings, and the pool as the value its DECIMAL(18,8)
column stores. -/
structure CreateContestDto where
  name : String
  startTime : Timestamp
  endTime : Timestamp
  metric : ContestMetric
  minSignals : Nat
  prizePool : ℚ
  deriving DecidableEq, Repr

def ContestStore.insertContest (s : ContestStore) (c : Contest) : Option ContestStore :=
  if s.contests.any (·.id == c.id) then none else some { s with contests := s.contests ++ [c] }

/-- `contestRepository.save` of an entity `create` made: an INSERT under the id the database
generates (`uuid_generate_v4()`). It fails, and changes nothing, when that id is taken or the
environment makes the save fail. -/
def ContestRepo.insert (env : ContestEnv) (c : Contest) : ContestM Unit :=
  .atom (fun s => if env.saveFails then s else (s.insertContest c).getD s)
    fun s => if env.saveFails || (s.insertContest c).isNone then .err .persistence else .ok ()

def createContest (env : ContestEnv) (newId : String) (dto : CreateContestDto) : ContestM Contest := do
  let startTime := dto.startTime
  let endTime := dto.endTime
  if endTime ≤ startTime then
    throw (.badRequest "End time must be after start time")
  let contest : Contest :=
    { id := newId, name := dto.name, startTime, endTime, metric := dto.metric,
      minSignals := dto.minSignals, prizePool := dto.prizePool, status := .active, winners := none }
  ContestRepo.insert env contest
  return contest

/-- `getActiveContests`: the ACTIVE contests that have started by `now`, latest start first. -/
def getActiveContests (env : ContestEnv) : ContestM (List Contest) :=
  Prog.read fun s => (s.contests.filter fun c => c.status == .active && decide (c.startTime ≤ env.now)).insertionSort
    fun a b => b.startTime ≤ a.startTime

/-- `getAllContests(status, limit)`: the contests of `status`, or all of them when it is not
given, newest first. TypeORM applies `take` only when it is truthy, so a limit of 0 returns
every row. -/
def getAllContests (status : Option ContestStatus) (limit : Nat) : ContestM (List Contest) :=
  Prog.read fun s =>
    let rows := (s.contests.filter fun c => status.all fun st => c.status == st).reverse
    if limit = 0 then rows else rows.take limit

inductive ContestRequest
  | createContest (env : ContestEnv) (newId : String) (dto : CreateContestDto)
  | getActiveContests (env : ContestEnv)
  | getAllContests (status : Option ContestStatus) (limit : Nat)
  | getContest (id : String)
  | getContestLeaderboard (contestId : String)
  | call (c : ContestCall)

inductive ContestResponse
  | contest (c : Contest)
  | contests (cs : List Contest)
  | leaderboard (dto : ContestLeaderboardDto)
  | finalize (r : Option FinalizeResult)

def ContestRequest.prog : ContestRequest → ContestM ContestResponse
  | createContest env newId dto => Contests.createContest env newId dto >>= fun c => pure (.contest c)
  | getActiveContests env => Contests.getActiveContests env >>= fun cs => pure (.contests cs)
  | getAllContests status limit => Contests.getAllContests status limit >>= fun cs => pure (.contests cs)
  | getContest id => Contests.getContest id >>= fun c => pure (.contest c)
  | getContestLeaderboard id => Contests.getContestLeaderboard id >>= fun d => pure (.leaderboard d)
  | call c => c.prog >>= fun r => pure (.finalize r)

namespace ContestStore
variable {s s' : ContestStore} {c : Contest}

/-- The signals of provider `p` in the window of `c`. -/
def windowSignalsOf (s : ContestStore) (c : Contest) (p : String) : List Signal :=
  (s.signalsBetween c.startTime c.endTime).filter (·.providerId == p)

/-- A contest row as the service writes it: its window ends after it starts, and it is ACTIVE
with no winners, or FINALIZED with at most three distinct winners, each with at least
`minSignals` signals in the window. -/
structure Sound (s : ContestStore) (c : Contest) : Prop where
  startTime_lt_endTime : c.startTime < c.endTime
  status_winners : c.status = .active ∧ c.winners = none ∨
    c.status = .finalized ∧ ∃ w, c.winners = some w ∧ w.Nodup ∧ w.length ≤ 3 ∧
      ∀ p ∈ w, c.minSignals ≤ (s.windowSignalsOf c p).length

structure Consistent (s : ContestStore) : Prop where
  ids_nodup : (s.contests.map (·.id)).Nodup
  sound : ∀ c ∈ s.contests, s.Sound c

/-- The rely of every handler: signals are only ever appended. -/
def Extends (s s' : ContestStore) : Prop := s.signals <+: s'.signals

theorem Extends.refl (s : ContestStore) : s.Extends s := List.prefix_refl _

theorem Extends.trans {s₁ s₂ s₃ : ContestStore} (h₁ : s₁.Extends s₂) (h₂ : s₂.Extends s₃) : s₁.Extends s₃ :=
  List.IsPrefix.trans h₁ h₂

theorem Sound.mono (h : s.Sound c) (hR : s.Extends s') : s'.Sound c := by
  refine ⟨h.startTime_lt_endTime, h.status_winners.imp_right fun ⟨hf, w, hw, hnd, hlen, hq⟩ =>
    ⟨hf, w, hw, hnd, hlen, fun p hp => (hq p hp).trans ?_⟩⟩
  exact ((hR.filter _).filter _).sublist.length_le

theorem mem_saveContest {d : Contest} (h : d ∈ (s.saveContest c).contests) : d = c ∨ d ∈ s.contests := by
  unfold saveContest at h
  split at h
  · obtain ⟨e, he, rfl⟩ := List.mem_map.1 h
    split
    · exact .inl rfl
    · exact .inr he
  · simpa [or_comm] using h

theorem Consistent.saveContest (hs : s.Consistent) (hc : s.Sound c) : (s.saveContest c).Consistent := by
  have hR : s.Extends (s.saveContest c) := by simp [Extends]
  refine ⟨?_, fun d hd => ?_⟩
  · unfold ContestStore.saveContest
    split
    · rw [List.map_map]
      convert hs.ids_nodup using 2
      funext d
      simp only [Function.comp_apply]
      split <;> simp_all
    · rename_i hany
      simpa [List.nodup_append, hs.ids_nodup] using hany
  · rcases mem_saveContest hd with rfl | hd
    · exact hc.mono hR
    · exact (hs.sound d hd).mono hR

theorem Consistent.insertContest (hs : s.Consistent) (hc : s.Sound c) (h : s.insertContest c = some s') :
    s'.Consistent := by
  unfold ContestStore.insertContest at h
  split at h
  · cases h
  · rename_i hany
    cases h
    refine ⟨by simpa [List.nodup_append, hs.ids_nodup] using hany, fun d hd => ?_⟩
    rcases List.mem_append.1 hd with hd | hd
    · exact (hs.sound d hd).mono (Extends.refl s)
    · obtain rfl := List.mem_singleton.1 hd
      exact hc.mono (Extends.refl s)

theorem Consistent.insertSignal (hs : s.Consistent) (sig : Signal) : (s.insertSignal sig).Consistent :=
  ⟨hs.ids_nodup, fun c hc => (hs.sound c hc).mono (List.prefix_append _ _)⟩

end ContestStore

theorem contestEntries_signalsSubmitted_length {signals : List Signal} {e : ContestEntry}
    (he : e ∈ contestEntries signals) :
    e.signalsSubmitted.length = (signals.filter (·.providerId == e.provider)).length := by
  obtain ⟨ps, -, -, heq⟩ := contestEntries_eq signals
  rw [heq] at he
  obtain ⟨p, -, rfl⟩ := List.mem_map.1 he
  simp [providerEntry]

namespace ContestStore
variable {s s' : ContestStore} {c : Contest}

theorem sound_finalOutcome (hc : c.startTime < c.endTime) :
    s.Sound { c with
      status := .finalized
      winners := some (finalOutcome c (s.signalsBetween c.startTime c.endTime)).winners } := by
  have h := finalOutcome_ranked c (s.signalsBetween c.startTime c.endTime)
  refine ⟨hc, .inr ⟨rfl, _, rfl, h.nodup, h.length_eq ▸ min_le_left _ _, fun p hp => ?_⟩⟩
  obtain ⟨ranked, hw, hmem, -, -⟩ := h.ranked
  rw [hw] at hp
  obtain ⟨x, hx, rfl⟩ := List.mem_map.1 hp
  obtain ⟨e, he, rfl⟩ := hmem x hx
  obtain ⟨he, hq⟩ := List.mem_filter.1 he
  rw [windowSignalsOf, ← contestEntries_signalsSubmitted_length he]
  exact of_decide_eq_true hq

end ContestStore

section
open ContestStore

theorem getContest_safe (contestId : String) (s₀ : ContestStore) {Q : Contest → ContestStore → Prop}
    (hQ : ∀ c s, s.Consistent → c ∈ s.contests → Q c s) :
    SafeFrom Consistent Extends Q (getContest contestId) s₀ := by
  simp only [getContest, ContestRepo.findOne, safeFrom_bind, safeFrom_read]
  intro s _ hI
  refine ⟨hI, Extends.refl s, ?_⟩
  split
  · exact hQ _ _ hI (List.mem_of_find?_eq_some ‹_›)
  · trivial

theorem save_safe (env : ContestEnv) {c : Contest} {s₀ : ContestStore} (hc : s₀.Sound c)
    {Q : Unit → ContestStore → Prop} (hQ : ∀ s, Q () s) :
    SafeFrom Consistent Extends Q (ContestRepo.save env c) s₀ := by
  simp only [ContestRepo.save, safeFrom_tryWrite]
  intro s hR hI
  split_ifs
  · exact ⟨hI, Extends.refl _⟩
  · exact ⟨hI.saveContest (hc.mono hR), by simp [Extends], hQ _⟩

theorem finalizeContest_safe (env : ContestEnv) (contestId : String) (s₀ : ContestStore)
    {Q : FinalizeResult → ContestStore → Prop} (hQ : ∀ r s, Q r s) :
    SafeFrom Consistent Extends Q (finalizeContest env contestId) s₀ := by
  simp only [finalizeContest, calculateContestEntries, safeFrom_bind]
  refine getContest_safe contestId s₀ fun c s₁ hI₁ hc => ?_
  have hwin := (hI₁.sound c hc).startTime_lt_endTime
  by_cases hend : env.now < c.endTime
  · rw [if_pos hend]; trivial
  by_cases hfin : c.status = .finalized
  · rw [if_neg hend, Prog.pure_bind, if_pos hfin]; trivial
  rw [if_neg hend, Prog.pure_bind, if_neg hfin, Prog.pure_bind]
  simp only [safeFrom_bind, safeFrom_read, safeFrom_pure]
  intro s₂ _ hI₂
  refine ⟨hI₂, Extends.refl _, ?_⟩
  have hsound := sound_finalOutcome (s := s₂) hwin
  split_ifs with hq <;> simp only [finalOutcome, hq, if_true, if_false] at hsound <;>
    simp only [safeFrom_bind, safeFrom_pure] <;> exact save_safe env hsound fun _ => hQ _ _

theorem insert_safe (env : ContestEnv) {con : Contest} (hwin : con.startTime < con.endTime)
    (hactive : con.status = .active) (hnone : con.winners = none) (s₀ : ContestStore)
    {Q : Unit → ContestStore → Prop} (hQ : ∀ s, Q () s) :
    SafeFrom Consistent Extends Q (ContestRepo.insert env con) s₀ := by
  simp only [ContestRepo.insert, safeFrom_atom]
  intro s _ hI
  cases env.saveFails
  · cases hins : s.insertContest con with
    | none => exact ⟨hI, Extends.refl _, trivial⟩
    | some s' =>
      have hR : s.Extends s' := by
        unfold insertContest at hins
        split at hins <;> cases hins
        exact Extends.refl s
      exact ⟨hI.insertContest ⟨hwin, .inl ⟨hactive, hnone⟩⟩ hins, hR, hQ _⟩
  · exact ⟨hI, Extends.refl _, trivial⟩

theorem createContest_safe (env : ContestEnv) (newId : String) (dto : CreateContestDto) (s₀ : ContestStore)
    {Q : Contest → ContestStore → Prop} (hQ : ∀ c s, Q c s) :
    SafeFrom Consistent Extends Q (createContest env newId dto) s₀ := by
  simp only [createContest]
  split_ifs with hwin
  · trivial
  simp only [safeFrom_bind, safeFrom_pure]
  exact insert_safe env (Nat.lt_of_not_le hwin) rfl rfl s₀ fun _ => hQ _ _

theorem ContestRequest.safe (r : ContestRequest) (s₀ : ContestStore) :
    SafeFrom Consistent Extends (fun _ _ => True) r.prog s₀ := by
  cases r with
  | createContest env newId dto =>
    exact (safeFrom_bind _ _).2 (createContest_safe env newId dto s₀ fun _ _ => trivial)
  | getActiveContests env =>
    simp only [ContestRequest.prog, getActiveContests, safeFrom_bind, safeFrom_read, safeFrom_pure]
    exact fun s _ hI => ⟨hI, Extends.refl s, trivial⟩
  | getAllContests status limit =>
    simp only [ContestRequest.prog, getAllContests, safeFrom_bind, safeFrom_read, safeFrom_pure]
    exact fun s _ hI => ⟨hI, Extends.refl s, trivial⟩
  | getContest id =>
    simp only [ContestRequest.prog, safeFrom_bind, safeFrom_pure]
    exact getContest_safe id s₀ fun _ _ _ _ => trivial
  | getContestLeaderboard id =>
    simp only [ContestRequest.prog, Contests.getContestLeaderboard, safeFrom_bind]
    refine getContest_safe id s₀ fun c _ _ _ => ?_
    simp only [calculateContestEntries, safeFrom_bind, safeFrom_read, safeFrom_pure]
    exact fun s' _ hI' => ⟨hI', Extends.refl s', trivial⟩
  | call c =>
    cases c with
    | finalizeContest env contestId =>
      simp only [ContestRequest.prog, ContestCall.prog, safeFrom_bind]
      exact finalizeContest_safe env contestId s₀ fun _ _ => trivial
    | insertSignal signal =>
      simp only [ContestRequest.prog, ContestCall.prog, safeFrom_bind, safeFrom_write, safeFrom_pure]
      exact fun s _ hI => ⟨hI.insertSignal signal, List.prefix_append _ _, trivial⟩

end

theorem ContestStore.consistent_empty : (ContestStore.mk [] []).Consistent :=
  ⟨List.nodup_nil, fun _ h => nomatch h⟩

/-- Whatever requests are in flight and however their atoms interleave, from a consistent store
(the empty one, say) the contests table stays consistent: ids distinct, every window ending after
it starts, no contest CANCELLED, every ACTIVE contest without winners, and every FINALIZED one
with at most three distinct winners, each with at least `minSignals` signals in the window. -/
theorem contests_consistent {s : ContestStore} (hs : s.Consistent) (reqs : List ContestRequest)
    (sched : List Nat) : (interleave sched (s, reqs.map ContestRequest.prog)).1.Consistent :=
  interleave_inv ContestStore.Extends.refl (fun _ _ _ => ContestStore.Extends.trans) hs
    (by simpa using fun r _ => r.safe s) sched

theorem contests_consistent_empty :
    (ContestStore.mk [] []).Consistent ∧
      (interleave [0, 2, 1, 1, 1] (ContestStore.mk [] [],
        [ContestRequest.createContest ⟨0, false⟩ "c1" ⟨"Weekly", 0, 100, .highestRoi, 1, 1000⟩,
          .call (.finalizeContest ⟨200, false⟩ "c1"), .call (.insertSignal (closedSignal "s1" "p1" 100 150 10))].map
          ContestRequest.prog)).1.Consistent :=
  ⟨ContestStore.consistent_empty, contests_consistent ContestStore.consistent_empty _ _⟩

end StellarSwipe.Contests
