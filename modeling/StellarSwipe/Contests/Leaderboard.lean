import StellarSwipe.Contests.Ranking

namespace StellarSwipe.Contests
open Prog
set_option autoImplicit true

structure ContestEntryDto where
  provider : String
  signalsSubmitted : List String
  totalRoi : String
  successRate : ℚ
  totalVolume : String
  score : String
  deriving DecidableEq, Repr

structure ContestLeaderboardDto where
  contestId : String
  contestName : String
  metric : ContestMetric
  entries : List ContestEntryDto
  winners : Option (List String)
  status : ContestStatus
  endTime : Timestamp
  deriving DecidableEq, Repr

/-- The `.map` of `getContestLeaderboard`: amounts and the score printed with `toFixed(8)`. -/
def ContestEntry.toDto (metric : ContestMetric) (entry : ContestEntry) : ContestEntryDto :=
  { provider := entry.provider
    signalsSubmitted := entry.signalsSubmitted
    totalRoi := toFixed 8 entry.totalRoi
    successRate := entry.successRate
    totalVolume := toFixed 8 entry.totalVolume
    score := toFixed 8 (calculateScore entry metric) }

/-- The comparator `(a, b) => parseFloat(b.score) - parseFloat(a.score)` keeps `a` before `b`
unless it is positive; a `NaN` difference counts as 0. -/
def scoreBefore (a b : ContestEntryDto) : Bool :=
  match parseFloat a.score, parseFloat b.score with
  | some x, some y => decide (y - x ≤ 0)
  | _, _ => true

/-- The leaderboard's `.sort`, stable, computed by insertion. -/
def sortByParsedScore (entries : List ContestEntryDto) : List ContestEntryDto :=
  entries.insertionSort fun a b => scoreBefore a b = true

def getContestLeaderboard (contestId : String) : ContestM ContestLeaderboardDto := do
  let contest ← getContest contestId
  let entries ← calculateContestEntries contest
  let sortedEntries := sortByParsedScore (entries.map (ContestEntry.toDto contest.metric))
  return { contestId := contest.id, contestName := contest.name, metric := contest.metric,
           entries := sortedEntries, winners := contest.winners, status := contest.status,
           endTime := contest.endTime }

theorem getContestLeaderboard_run (contestId : String) (s : ContestStore) :
    (getContestLeaderboard contestId).run s =
      match s.contests.find? (·.id == contestId) with
      | none => (.error (.notFound "Contest not found"), s)
      | some c =>
        (.ok { contestId := c.id, contestName := c.name, metric := c.metric,
               entries := sortByParsedScore ((contestEntries (s.signalsBetween c.startTime c.endTime)).map
                 (ContestEntry.toDto c.metric)),
               winners := c.winners, status := c.status, endTime := c.endTime }, s) := by
  cases hc : s.contests.find? (·.id == contestId) with
  | none => simp [getContestLeaderboard, getContest, ContestRepo.findOne, run_bind, hc]
  | some c => simp [getContestLeaderboard, getContest, ContestRepo.findOne, run_bind, hc,
      calculateContestEntries_run]

section
variable {r : α → α → Prop} [DecidableRel r]

theorem filter_orderedInsert (htrans : ∀ a b c, r a b → r b c → r a c) (p : α → Bool) (a : α)
    {l : List α} (hl : l.Pairwise r) :
    (l.orderedInsert r a).filter p = if p a then (l.filter p).orderedInsert r a else l.filter p := by
  induction l with
  | nil => split_ifs with h <;> simp [h]
  | cons b l ih =>
    rw [List.pairwise_cons] at hl
    by_cases hab : r a b
    · have hall : ∀ c ∈ l.filter p, r a c := fun c hc => htrans a b c hab (hl.1 c (List.mem_of_mem_filter hc))
      simp only [List.orderedInsert, if_pos hab]
      by_cases hpa : p a <;> by_cases hpb : p b
      · simp [hpa, hpb, List.orderedInsert_of_le _ _ hab]
      · rcases hfl : l.filter p with _ | ⟨c, m⟩
        · simp [hpa, hpb, hfl]
        · simp [hpa, hpb, hfl, List.orderedInsert_of_le _ _ (hall c (by simp [hfl]))]
      · simp [hpa, hpb]
      · simp [hpa, hpb]
    · simp only [List.orderedInsert, if_neg hab]
      rw [List.filter_cons, ih hl.2, List.filter_cons]
      by_cases hpa : p a <;> by_cases hpb : p b <;> simp [hpa, hpb, hab]

theorem filter_insertionSort (htotal : ∀ a b, r a b ∨ r b a) (htrans : ∀ a b c, r a b → r b c → r a c)
    (p : α → Bool) (l : List α) : (l.insertionSort r).filter p = (l.filter p).insertionSort r := by
  haveI : IsTotal α r := ⟨htotal⟩
  haveI : IsTrans α r := ⟨htrans⟩
  induction l with
  | nil => rfl
  | cons a l ih =>
    rw [List.insertionSort, filter_orderedInsert htrans p a (List.sorted_insertionSort r l), ih,
      List.filter_cons]
    split_ifs <;> rfl

end

theorem scoreBefore_toDto (metric : ContestMetric) (a b : ContestEntry) :
    scoreBefore (a.toDto metric) (b.toDto metric) = true ↔
      roundFixed 8 (calculateScore b metric) ≤ roundFixed 8 (calculateScore a metric) := by
  simp only [scoreBefore, ContestEntry.toDto, parseFloat_toFixed 8 (by norm_num), decide_eq_true_eq,
    sub_nonpos]

theorem roundFixed_order_iff {x y : ℚ} (hxy : roundFixed 8 x = roundFixed 8 y → x = y) :
    roundFixed 8 y ≤ roundFixed 8 x ↔ y ≤ x := by
  refine ⟨fun h => not_lt.1 fun hlt => ?_, roundFixed_mono 8⟩
  exact hlt.ne (hxy (le_antisymm (roundFixed_mono 8 hlt.le) h))

theorem leaderboard_qualified_top (contest : Contest) (signals : List Signal)
    (hround : ∀ e₁ ∈ qualifiedEntries contest signals, ∀ e₂ ∈ qualifiedEntries contest signals,
      roundFixed 8 (calculateScore e₁ contest.metric) = roundFixed 8 (calculateScore e₂ contest.metric) →
        calculateScore e₁ contest.metric = calculateScore e₂ contest.metric) :
    (((sortByParsedScore ((contestEntries signals).map (ContestEntry.toDto contest.metric))).filter
        fun d => contest.minSignals ≤ d.signalsSubmitted.length).take 3).map (·.provider) =
      (finalOutcome contest signals).winners := by
  let key := fun e : ContestEntry => calculateScore e contest.metric
  let rounded := fun a b : ContestEntry => roundFixed 8 (key b) ≤ roundFixed 8 (key a)
  let exact := fun a b : ContestEntry => key b ≤ key a
  have hsort : sortByParsedScore ((contestEntries signals).map (ContestEntry.toDto contest.metric)) =
      ((contestEntries signals).insertionSort rounded).map (ContestEntry.toDto contest.metric) :=
    (List.map_insertionSort rounded _ _ _ fun a _ b _ => (scoreBefore_toDto contest.metric a b).symm).symm
  have hfilter : ((contestEntries signals).insertionSort rounded).filter
      (fun e => contest.minSignals ≤ e.signalsSubmitted.length) =
      (qualifiedEntries contest signals).insertionSort rounded :=
    filter_insertionSort (r := rounded) (fun _ _ => le_total _ _) (fun _ _ _ hab hbc => le_trans hbc hab) _ _
  have hagree : (qualifiedEntries contest signals).insertionSort rounded =
      (qualifiedEntries contest signals).insertionSort exact := by
    simpa using List.map_insertionSort rounded exact id _ fun a ha b hb =>
      roundFixed_order_iff (hround a ha b hb)
  have hexact : sortByScore (scoredEntries contest signals) =
      ((qualifiedEntries contest signals).insertionSort exact).map fun e => (e.provider, key e) :=
    (List.map_insertionSort exact (fun a b : String × ℚ => b.2 ≤ a.2) (fun e => (e.provider, key e))
      (qualifiedEntries contest signals) fun _ _ _ _ => Iff.rfl).symm
  rw [finalOutcome_eq, hsort, List.filter_map]
  simp only [Function.comp_def, ContestEntry.toDto]
  rw [hfilter, hagree, hexact, List.map_take, List.map_take, List.map_map, List.map_map, ← List.map_take,
    ← List.map_take]
  rfl

/-- The leaderboard of a contest, restricted to its qualified entries, lists the winners that
finalizing it from the same store returns first, provided no two qualified entries whose scores
differ have the same score after `toFixed(8)` and `parseFloat`. -/
theorem leaderboard_matches_winners (contestId : String) (s : ContestStore) (c : Contest)
    (hc : s.contests.find? (·.id == contestId) = some c)
    (hround : ∀ e₁ ∈ qualifiedEntries c (s.signalsBetween c.startTime c.endTime),
      ∀ e₂ ∈ qualifiedEntries c (s.signalsBetween c.startTime c.endTime),
      roundFixed 8 (calculateScore e₁ c.metric) = roundFixed 8 (calculateScore e₂ c.metric) →
        calculateScore e₁ c.metric = calculateScore e₂ c.metric) :
    ∃ dto, (getContestLeaderboard contestId).run s = (.ok dto, s) ∧
      ∀ env r s', (finalizeContest env contestId).run s = (.ok r, s') →
        ((dto.entries.filter fun d => c.minSignals ≤ d.signalsSubmitted.length).take 3).map (·.provider) =
          r.winners := by
  rw [getContestLeaderboard_run, hc]
  refine ⟨_, rfl, fun env r s' h => ?_⟩
  rcases finalizeContest_cases env contestId s with ⟨hr, -⟩ | ⟨c', r', hc', -, -, hr', hrun⟩
  · simp [h, Except.toBool] at hr
  · cases hc.symm.trans hc'
    rw [hrun, Prod.mk.injEq] at h
    obtain ⟨⟨⟩, -⟩ := h
    rw [hr']
    exact leaderboard_qualified_top c _ hround

section
/- `Rat` arithmetic is irreducible; the scenarios below evaluate it on small values. -/
attribute [local semireducible] Rat.add Rat.mul Rat.inv Rat.sub

theorem leaderboard_matches_winners_raceStore :
    ∃ dto, (getContestLeaderboard "c1").run raceStore = (.ok dto, raceStore) ∧
      ∀ env r s', (finalizeContest env "c1").run raceStore = (.ok r, s') →
        ((dto.entries.filter fun d => weekly.minSignals ≤ d.signalsSubmitted.length).take 3).map (·.provider) =
          r.winners :=
  leaderboard_matches_winners "c1" raceStore weekly rfl (by decide)

def volumeStore : ContestStore :=
  ⟨[⟨"c2", "Volume", 0, 100, .mostVolume, 1, 1000, .active, none⟩],
   [⟨"s1", "p1", .closed, some 100, some 100, some 0, some 0, 10⟩,
    ⟨"s2", "p2", .closed, some 100, some 100, some (1 / 10 ^ 9), some 0, 20⟩]⟩

/-- Both volumes print as 0.00000000, so the leaderboard keeps `p1` first, while finalizing
ranks `p2` first. -/
theorem leaderboard_ranks_below_rounding :
    ((getContestLeaderboard "c2").run volumeStore).1.toOption.map
        (fun dto => ((dto.entries.filter fun d => 1 ≤ d.signalsSubmitted.length).take 3).map (·.provider)) =
      some ["p1", "p2"] ∧
    ((finalizeContest contestEnv "c2").run volumeStore).1.toOption.map (·.winners) = some ["p2", "p1"] := by
  decide

end

end StellarSwipe.Contests
