import StellarSwipe.Contests.Service

namespace StellarSwipe.Contests
open Prog
set_option autoImplicit true

namespace ContestStore
variable (s : ContestStore)

theorem find?_map_replace (l : List Contest) (c : Contest) (id : String) :
    (l.map fun d => if d.id = c.id then c else d).find? (·.id == id) =
      if c.id = id then (l.find? (·.id == id)).map fun _ => c else l.find? (·.id == id) := by
  induction l with
  | nil => split <;> rfl
  | cons d l ih =>
    simp only [List.map_cons, List.find?_cons, ih]
    by_cases hd : d.id = c.id <;> by_cases hc : c.id = id
    · simp [hd, hc]
    · simp [hd, hc, beq_false_of_ne hc]
    · subst hc
      simp [hd, beq_false_of_ne hd]
    · simp [hd, hc]

theorem find?_saveContest (c : Contest) (id : String) :
    (s.saveContest c).contests.find? (·.id == id) =
      if c.id = id then some c else s.contests.find? (·.id == id) := by
  unfold saveContest
  split_ifs with hany hc hc
  · subst hc
    obtain ⟨d, hd⟩ := Option.isSome_iff_exists.1 (List.find?_isSome.2 (List.any_eq_true.1 hany))
    rw [find?_map_replace, if_pos rfl, hd]
    rfl
  · rw [find?_map_replace, if_neg hc]
  · subst hc
    rw [List.find?_append, List.find?_eq_none.2 (by simpa using hany)]
    simp
  · rw [List.find?_append]
    simp [hc]

end ContestStore

/-- What `finalizeContest` returns for a contest and the signals of its window. -/
def finalOutcome (contest : Contest) (signals : List Signal) : FinalizeResult :=
  let qualifiedEntries :=
    (contestEntries signals).filter fun e => contest.minSignals ≤ e.signalsSubmitted.length
  if qualifiedEntries.length = 0 then ⟨[], []⟩
  else
    let winners := ((sortByScore (qualifiedEntries.map fun e =>
      (e.provider, calculateScore e contest.metric))).take 3).map (·.1)
    ⟨winners, distributePrizes winners contest.prizePool⟩

theorem calculateContestEntries_run (contest : Contest) (s : ContestStore) :
    (calculateContestEntries contest).run s =
      (.ok (contestEntries (s.signalsBetween contest.startTime contest.endTime)), s) := rfl

theorem finalizeContest_run (env : ContestEnv) (contestId : String) (s : ContestStore) :
    (finalizeContest env contestId).run s =
      match s.contests.find? (·.id == contestId) with
      | none => (.error (.notFound "Contest not found"), s)
      | some c =>
        if env.now < c.endTime then (.error (.badRequest "Contest has not ended yet"), s)
        else if c.status = .finalized then (.error (.badRequest "Contest already finalized"), s)
        else
          let r := finalOutcome c (s.signalsBetween c.startTime c.endTime)
          if env.saveFails then (.error .persistence, s)
          else (.ok r, s.saveContest { c with status := .finalized, winners := some r.winners }) := by
  cases hc : s.contests.find? (·.id == contestId) with
  | none => simp [finalizeContest, getContest, ContestRepo.findOne, run_bind, hc]
  | some c =>
    simp only [finalizeContest, getContest, ContestRepo.findOne, run_bind, run_read, hc, run_pure]
    by_cases hn : env.now < c.endTime
    · simp only [hn, if_true, throw_bind, run_throw]
    by_cases hf : c.status = .finalized
    · simp only [hn, hf, if_true, if_false, pure_bind, throw_bind, run_throw]
    simp only [hn, hf, if_false, pure_bind, run_bind, calculateContestEntries_run, finalOutcome,
      ContestRepo.save]
    cases env.saveFails <;> simp only [Bool.false_eq_true, ↓reduceIte] <;> split_ifs <;> simp [run_bind]

inductive ContestCall
  | finalizeContest (env : ContestEnv) (contestId : String)
  | insertSignal (signal : Signal)

namespace ContestCall

def prog : ContestCall → ContestM (Option FinalizeResult)
  | finalizeContest env contestId => Contests.finalizeContest env contestId >>= fun r => pure (some r)
  | insertSignal signal => Prog.write (·.insertSignal signal) >>= fun _ => pure none

def finalizes (contestId : String) : ContestCall → Bool
  | finalizeContest _ id => id == contestId
  | insertSignal _ => false

theorem prog_finalizeContest_run (env : ContestEnv) (contestId : String) (s : ContestStore) :
    ((finalizeContest env contestId).prog.run s).1.toBool =
        ((Contests.finalizeContest env contestId).run s).1.toBool ∧
      ((finalizeContest env contestId).prog.run s).2 = ((Contests.finalizeContest env contestId).run s).2 := by
  simp only [prog, run_bind]
  cases (Contests.finalizeContest env contestId).run s with
  | mk e s' => cases e <;> exact ⟨rfl, rfl⟩

end ContestCall

/-- How many calls of a sequential run from `s` finalize `contestId` without an error. -/
def finalizeSuccesses (contestId : String) : ContestStore → List ContestCall → Nat
  | _, [] => 0
  | s, c :: cs =>
    (if c.finalizes contestId && (c.prog.run s).1.toBool then 1 else 0) +
      finalizeSuccesses contestId (c.prog.run s).2 cs

/-- The contest the lookup of `contestId` finds is FINALIZED. -/
def FinalizedIn (contestId : String) (s : ContestStore) : Prop :=
  ∃ c, s.contests.find? (·.id == contestId) = some c ∧ c.status = .finalized

theorem finalizeContest_cases (env : ContestEnv) (contestId : String) (s : ContestStore) :
    ((finalizeContest env contestId).run s).1.toBool = false ∧ ((finalizeContest env contestId).run s).2 = s ∨
      ∃ c r, s.contests.find? (·.id == contestId) = some c ∧ c.endTime ≤ env.now ∧
        c.status ≠ .finalized ∧ r = finalOutcome c (s.signalsBetween c.startTime c.endTime) ∧
        (finalizeContest env contestId).run s =
          (.ok r, s.saveContest { c with status := .finalized, winners := some r.winners }) := by
  rw [finalizeContest_run]
  cases hc : s.contests.find? (·.id == contestId) with
  | none => exact .inl ⟨rfl, rfl⟩
  | some c =>
    dsimp only
    split_ifs with hn hf hs
    · exact .inl ⟨rfl, rfl⟩
    · exact .inl ⟨rfl, rfl⟩
    · exact .inl ⟨rfl, rfl⟩
    · exact .inr ⟨c, _, rfl, Nat.not_lt.1 hn, hf, rfl, rfl⟩

theorem find?_id {l : List Contest} {id : String} {c : Contest}
    (h : l.find? (·.id == id) = some c) : c.id = id := by
  simpa using List.find?_some h

theorem FinalizedIn.step {contestId : String} {s : ContestStore} (hf : FinalizedIn contestId s)
    (c : ContestCall) :
    (c.finalizes contestId && (c.prog.run s).1.toBool) = false ∧ FinalizedIn contestId (c.prog.run s).2 := by
  obtain ⟨d, hd, hds⟩ := hf
  cases c with
  | insertSignal signal => exact ⟨rfl, d, hd, hds⟩
  | finalizeContest env id =>
    rw [(ContestCall.prog_finalizeContest_run env id s).1, (ContestCall.prog_finalizeContest_run env id s).2]
    rcases finalizeContest_cases env id s with ⟨hr, hs⟩ | ⟨c, r, hc, -, hcf, -, hr⟩
    · rw [hr, hs]
      exact ⟨Bool.and_false _, d, hd, hds⟩
    · have hid : c.id = id := find?_id hc
      have hne : id ≠ contestId := by
        rintro rfl
        exact hcf (Option.some.inj (hc.symm.trans hd) ▸ hds)
      refine ⟨by simp [ContestCall.finalizes, hne], d, ?_, hds⟩
      simp only [hr, ContestStore.find?_saveContest, hid, hne, if_false, hd]

theorem finalizedIn_of_success {contestId : String} {s : ContestStore} {c : ContestCall}
    (h : (c.finalizes contestId && (c.prog.run s).1.toBool) = true) :
    FinalizedIn contestId (c.prog.run s).2 := by
  cases c with
  | insertSignal signal => simp [ContestCall.finalizes] at h
  | finalizeContest env id =>
    simp only [ContestCall.finalizes, Bool.and_eq_true, beq_iff_eq] at h
    obtain ⟨rfl, h⟩ := h
    rw [(ContestCall.prog_finalizeContest_run env id s).1] at h
    rw [(ContestCall.prog_finalizeContest_run env id s).2]
    rcases finalizeContest_cases env id s with ⟨hr, -⟩ | ⟨c, r, hc, -, -, -, hr⟩
    · simp [hr] at h
    · rw [hr]
      exact ⟨{ c with status := .finalized, winners := some r.winners },
        by simp [ContestStore.find?_saveContest, find?_id hc], rfl⟩

theorem finalizeSuccesses_of_finalized {contestId : String} (cs : List ContestCall) :
    ∀ {s : ContestStore}, FinalizedIn contestId s → finalizeSuccesses contestId s cs = 0 := by
  induction cs with
  | nil => intro _ _; rfl
  | cons c cs ih =>
    intro s hf
    simp only [finalizeSuccesses, (hf.step c).1, ih (hf.step c).2]
    rfl

/-- Run one request at a time, from any store, finalizations and signal inserts finalize a
contest at most once. A finalization succeeds only on a contest that has ended and is not
FINALIZED, whether ACTIVE or CANCELLED; it returns the outcome of the contest's signals and
leaves the contest FINALIZED with the winners it returned. -/
theorem finalize_once (contestId : String) :
    (∀ s cs, finalizeSuccesses contestId s cs ≤ 1) ∧
    ∀ env s r s', (finalizeContest env contestId).run s = (.ok r, s') →
      ∃ c, s.contests.find? (·.id == contestId) = some c ∧ c.endTime ≤ env.now ∧
        c.status ≠ .finalized ∧ r = finalOutcome c (s.signalsBetween c.startTime c.endTime) ∧
        s'.contests.find? (·.id == contestId) = some { c with status := .finalized, winners := some r.winners } := by
  refine ⟨fun s cs => ?_, fun env s r s' h => ?_⟩
  · induction cs generalizing s with
    | nil => exact Nat.zero_le _
    | cons c cs ih =>
      simp only [finalizeSuccesses]
      split_ifs with h
      · rw [finalizeSuccesses_of_finalized cs (finalizedIn_of_success h)]
      · simpa using ih _
  · rcases finalizeContest_cases env contestId s with ⟨hr, -⟩ | ⟨c, r', hc, hend, hf, hr', hrun⟩
    · simp [h, Except.toBool] at hr
    · rw [hrun, Prod.mk.injEq] at h
      obtain ⟨⟨⟩, rfl⟩ := h
      exact ⟨c, hc, hend, hf, hr', by simp [ContestStore.find?_saveContest, find?_id hc]⟩

section
/- `Rat` arithmetic is irreducible; the scenarios below evaluate it on small values. -/
attribute [local semireducible] Rat.add Rat.mul Rat.inv Rat.sub

def contestEnv : ContestEnv := ⟨200, false⟩

def weekly : Contest := ⟨"c1", "Weekly", 0, 100, .highestRoi, 1, 1000, .active, none⟩

def closedSignal (id provider : String) (entryPrice closePrice : ℚ) (createdAt : Timestamp) :
    Signal :=
  ⟨id, provider, .closed, some entryPrice, some closePrice, some 1000, some 50, createdAt⟩

def raceStore : ContestStore := ⟨[weekly], [closedSignal "s1" "p1" 100 150 10]⟩

/-- Two finalizations both read the ACTIVE contest; the first reads the signals and saves;
a signal of `p2` is inserted; the second reads the signals and saves. -/
def racedFinalize : ContestStore × List (ContestM (Option FinalizeResult)) :=
  interleave [0, 1, 0, 0, 2, 1, 1]
    (raceStore, [(ContestCall.finalizeContest contestEnv "c1").prog,
      (ContestCall.finalizeContest contestEnv "c1").prog,
      (ContestCall.insertSignal (closedSignal "s2" "p2" 100 300 20)).prog])

/-- Both finalizations succeed, and they return different winners; the contest keeps the
second one's. -/
theorem finalize_race_succeeds_twice :
    racedFinalize.2.map (fun p => p.result?.map Except.toOption) =
      [some (some (some ⟨["p1"], [("p1", "500.00000000")]⟩)),
       some (some (some ⟨["p2", "p1"], [("p2", "500.00000000"), ("p1", "300.00000000")]⟩)),
       some (some none)] ∧
    racedFinalize.1.contests.map (fun c => (c.status, c.winners)) =
      [(.finalized, some ["p2", "p1"])] := by
  decide

end

end StellarSwipe.Contests
