import StellarSwipe.Contests.Entries
import StellarSwipe.Contests.Finalize
import StellarSwipe.Contests.Prizes

namespace StellarSwipe.Contests
set_option autoImplicit true

/-- The entries `finalizeContest` keeps: those with at least `minSignals` signals. -/
def qualifiedEntries (contest : Contest) (signals : List Signal) : List ContestEntry :=
  (contestEntries signals).filter fun e => contest.minSignals ≤ e.signalsSubmitted.length

/-- The pairs of provider and score that `finalizeContest` sorts. -/
def scoredEntries (contest : Contest) (signals : List Signal) : List (String × ℚ) :=
  (qualifiedEntries contest signals).map fun e => (e.provider, calculateScore e contest.metric)

theorem finalOutcome_eq (contest : Contest) (signals : List Signal) :
    finalOutcome contest signals =
      let winners := ((sortByScore (scoredEntries contest signals)).take 3).map (·.1)
      ⟨winners, distributePrizes winners contest.prizePool⟩ := by
  unfold finalOutcome
  dsimp only
  split_ifs with h
  · have hq : qualifiedEntries contest signals = [] := List.eq_nil_of_length_eq_zero h
    simp only [scoredEntries, hq]
    rfl
  · rfl

theorem sortByScore_perm (l : List (String × ℚ)) : (sortByScore l).Perm l := List.perm_insertionSort _ l

theorem sortByScore_sorted (l : List (String × ℚ)) : (sortByScore l).Pairwise fun a b => b.2 ≤ a.2 := by
  haveI : IsTotal (String × ℚ) fun a b => b.2 ≤ a.2 := ⟨fun a b => le_total b.2 a.2⟩
  haveI : IsTrans (String × ℚ) fun a b => b.2 ≤ a.2 := ⟨fun _ _ _ hab hbc => le_trans hbc hab⟩
  exact List.sorted_insertionSort _ l

theorem sortByScore_eq_of_perm {l l' : List (String × ℚ)} (h : l.Perm l') (hd : (l.map (·.2)).Nodup) :
    sortByScore l = sortByScore l' := by
  have hinj := List.inj_on_of_nodup_map hd
  refine List.Perm.eq_of_sorted (fun a b ha hb hab hba => ?_) (sortByScore_sorted l) (sortByScore_sorted l')
    (((sortByScore_perm l).trans h).trans (sortByScore_perm l').symm)
  exact hinj ((sortByScore_perm l).subset ha) (h.symm.subset ((sortByScore_perm l').subset hb)) (le_antisymm hba hab)

theorem qualifiedEntries_providers_nodup (contest : Contest) (signals : List Signal) :
    ((qualifiedEntries contest signals).map (·.provider)).Nodup :=
  (contestEntries_providers_nodup signals).sublist ((List.filter_sublist _).map _)

theorem scoredEntries_providers_nodup (contest : Contest) (signals : List Signal) :
    ((scoredEntries contest signals).map (·.1)).Nodup := by
  simpa only [scoredEntries, List.map_map] using qualifiedEntries_providers_nodup contest signals

/-- What a finalization returns for the qualified entries: distinct winners, as many as there
are qualified providers up to three, each a qualified provider, in non-increasing score order and
scoring at least as much as every qualified provider left out, with one prize per winner. -/
structure SelectsTopQualified (metric : ContestMetric) (qualified : List ContestEntry)
    (r : FinalizeResult) : Prop where
  nodup : r.winners.Nodup
  length_eq : r.winners.length = min 3 qualified.length
  ranked : ∃ ranked : List (String × ℚ), r.winners = ranked.map (·.1) ∧
    (∀ x ∈ ranked, ∃ e ∈ qualified, x = (e.provider, calculateScore e metric)) ∧
    ranked.Pairwise (fun a b => b.2 ≤ a.2) ∧
    ∀ e ∈ qualified, e.provider ∉ r.winners → ∀ x ∈ ranked, calculateScore e metric ≤ x.2
  prizes_keys : r.prizes.map (·.1) = r.winners

theorem finalOutcome_ranked (contest : Contest) (signals : List Signal) :
    SelectsTopQualified contest.metric (qualifiedEntries contest signals) (finalOutcome contest signals) := by
  rw [finalOutcome_eq]
  set sorted := sortByScore (scoredEntries contest signals)
  have hperm : sorted.Perm (scoredEntries contest signals) := sortByScore_perm _
  have hsorted : sorted.Pairwise fun a b => b.2 ≤ a.2 := sortByScore_sorted _
  have hnd : ((sorted.take 3).map (·.1)).Nodup :=
    ((hperm.map _).nodup_iff.2 (scoredEntries_providers_nodup contest signals)).sublist
      ((List.take_sublist _ _).map _)
  have hlen : ((sorted.take 3).map (·.1)).length = min 3 (qualifiedEntries contest signals).length := by
    rw [List.length_map, List.length_take, hperm.length_eq, scoredEntries, List.length_map]
  refine ⟨hnd, hlen, ⟨sorted.take 3, rfl, fun x hx => ?_, hsorted.sublist (List.take_sublist _ _),
    fun e he hne x hx => ?_⟩, distributePrizes_keys hnd (hlen.trans_le (min_le_left _ _)) contest.prizePool⟩
  · exact List.mem_map.1 (hperm.subset (List.mem_of_mem_take hx)) |>.imp fun e h => ⟨h.1, h.2.symm⟩
  · exact rel_of_not_mem_take hsorted 3 (hperm.symm.subset (List.mem_map_of_mem _ he))
      (fun h => hne (List.mem_map_of_mem (·.1) h)) hx

theorem qualifiedEntries_eq_filter {signals : List Signal} (hE : EntriesOf signals (contestEntries signals))
    (contest : Contest) : qualifiedEntries contest signals = (contestEntries signals).filter fun e =>
      contest.minSignals ≤ signals.countP (·.providerId == e.provider) :=
  List.filter_congr fun e he => by
    rw [hE.signalsSubmitted_eq e he, List.length_map, ← List.countP_eq_length_filter]

/-- Finalizing a contest that has ended and is not FINALIZED, whatever its metric and
`minSignals` and whatever signals with distinct ids its window holds: unless the save fails, it
returns the top providers among those with at least `minSignals` signals, as
`SelectsTopQualified` states, over the entries `EntriesOf` reads off the signals. -/
theorem finalize_selects_top_qualified (env : ContestEnv) (contestId : String) (s : ContestStore)
    (c : Contest) (hc : s.contests.find? (·.id == contestId) = some c) (hstatus : c.status ≠ .finalized)
    (hend : c.endTime ≤ env.now) (hids : ((s.signalsBetween c.startTime c.endTime).map (·.id)).Nodup) :
    ∃ entries, EntriesOf (s.signalsBetween c.startTime c.endTime) entries ∧
      ∃ r, ((finalizeContest env contestId).run s).1 = (if env.saveFails then .error .persistence else .ok r) ∧
        SelectsTopQualified c.metric (entries.filter fun e =>
          c.minSignals ≤ (s.signalsBetween c.startTime c.endTime).countP (·.providerId == e.provider)) r := by
  have hE := entriesOf_contestEntries hids
  refine ⟨_, hE, finalOutcome c _, ?_, qualifiedEntries_eq_filter hE c ▸ finalOutcome_ranked c _⟩
  rw [finalizeContest_run, hc]
  dsimp only
  rw [if_neg (not_lt.2 hend), if_neg hstatus]
  split <;> rfl

theorem finalize_selects_top_qualified_raceStore :
    ∃ entries, EntriesOf (raceStore.signalsBetween 0 100) entries ∧
      ∃ r, ((finalizeContest contestEnv "c1").run raceStore).1 = .ok r ∧
        SelectsTopQualified weekly.metric (entries.filter fun e =>
          weekly.minSignals ≤ (raceStore.signalsBetween 0 100).countP (·.providerId == e.provider)) r :=
  finalize_selects_top_qualified contestEnv "c1" raceStore weekly rfl (by decide) (by decide) (by decide)

theorem saveContest_contests_congr {s s' : ContestStore} (h : s.contests = s'.contests) (c : Contest) :
    (s.saveContest c).contests = (s'.saveContest c).contests := by
  simp only [ContestStore.saveContest, h]
  split_ifs <;> rfl

theorem scoredEntries_perm (contest : Contest) {l l' : List Signal} (hperm : l.Perm l')
    (hids : (l.map (·.id)).Nodup) : (scoredEntries contest l).Perm (scoredEntries contest l') := by
  obtain ⟨ps, hnd, hmem, heq⟩ := contestEntries_eq l
  obtain ⟨ps', hnd', hmem', heq'⟩ := contestEntries_eq l'
  have hps : ps.Perm ps' := (List.perm_ext_iff_of_nodup hnd hnd').2 fun p => by
    rw [hmem, hmem']
    exact ⟨fun ⟨s, hs, h⟩ => ⟨s, hperm.subset hs, h⟩, fun ⟨s, hs, h⟩ => ⟨s, hperm.symm.subset hs, h⟩⟩
  have hsame := fun p => withSuccessRate_perm hperm hids (providerEntry_perm hperm p)
  simp only [scoredEntries, qualifiedEntries, heq, heq', List.filter_map, List.map_map]
  have hq : (fun p => decide (contest.minSignals ≤ (withSuccessRate l (providerEntry l p)).signalsSubmitted.length)) =
      fun p => decide (contest.minSignals ≤ (withSuccessRate l' (providerEntry l' p)).signalsSubmitted.length) :=
    funext fun p => by rw [(hsame p).signals_perm.length_eq]
  have hk : ((fun e => (e.provider, calculateScore e contest.metric)) ∘ fun p => withSuccessRate l (providerEntry l p)) =
      (fun e => (e.provider, calculateScore e contest.metric)) ∘ fun p => withSuccessRate l' (providerEntry l' p) :=
    funext fun p => by simp only [Function.comp_apply, (hsame p).provider_eq, (hsame p).score_eq]
  simp only [Function.comp_def] at hq hk ⊢
  rw [hq, hk]
  exact (hps.filter _).map _

theorem finalOutcome_perm (contest : Contest) {l l' : List Signal} (hperm : l.Perm l')
    (hids : (l.map (·.id)).Nodup)
    (hd : ((qualifiedEntries contest l).map (calculateScore · contest.metric)).Nodup) :
    finalOutcome contest l = finalOutcome contest l' := by
  have hd' : ((scoredEntries contest l).map (·.2)).Nodup := by
    simpa [scoredEntries, List.map_map, Function.comp_def] using hd
  rw [finalOutcome_eq, finalOutcome_eq, sortByScore_eq_of_perm (scoredEntries_perm contest hperm hids) hd']

/-- Two orderings of the same signals, with distinct ids, give the same result and the same
saved contests, when the qualified providers of the contest have distinct scores. -/
theorem finalize_independent_of_signal_order (env : ContestEnv) (contestId : String)
    (contests : List Contest) {l₁ l₂ : List Signal} (hperm : l₁.Perm l₂) (hids : (l₁.map (·.id)).Nodup)
    (hd : ∀ c, contests.find? (·.id == contestId) = some c →
      ((qualifiedEntries c (ContestStore.signalsBetween ⟨contests, l₁⟩ c.startTime c.endTime)).map
        (calculateScore · c.metric)).Nodup) :
    ((finalizeContest env contestId).run ⟨contests, l₁⟩).1 = ((finalizeContest env contestId).run ⟨contests, l₂⟩).1 ∧
      ((finalizeContest env contestId).run ⟨contests, l₁⟩).2.contests =
        ((finalizeContest env contestId).run ⟨contests, l₂⟩).2.contests := by
  simp only [finalizeContest_run]
  cases hc : contests.find? (·.id == contestId) with
  | none => exact ⟨rfl, rfl⟩
  | some c =>
    have hwin : (ContestStore.signalsBetween ⟨contests, l₁⟩ c.startTime c.endTime).Perm
        (ContestStore.signalsBetween ⟨contests, l₂⟩ c.startTime c.endTime) := hperm.filter _
    have hids' : ((ContestStore.signalsBetween ⟨contests, l₁⟩ c.startTime c.endTime).map (·.id)).Nodup :=
      hids.sublist ((List.filter_sublist _).map _)
    dsimp only
    rw [finalOutcome_perm c hwin hids' (hd c hc)]
    split_ifs
    · exact ⟨rfl, rfl⟩
    · exact ⟨rfl, rfl⟩
    · exact ⟨rfl, rfl⟩
    · exact ⟨rfl, @saveContest_contests_congr ⟨contests, l₁⟩ ⟨contests, l₂⟩ rfl _⟩

section
/- `Rat` arithmetic is irreducible; the scenarios below evaluate it on small values. -/
attribute [local semireducible] Rat.add Rat.mul Rat.inv Rat.sub

theorem finalize_independent_of_signal_order_swap :
    ((finalizeContest contestEnv "c1").run
        ⟨[weekly], [closedSignal "s1" "p1" 100 150 10, closedSignal "s2" "p2" 100 300 20]⟩).1 =
      ((finalizeContest contestEnv "c1").run
        ⟨[weekly], [closedSignal "s2" "p2" 100 300 20, closedSignal "s1" "p1" 100 150 10]⟩).1 :=
  (finalize_independent_of_signal_order contestEnv "c1" [weekly] (List.Perm.swap _ _ [])
    (by decide) fun c hc => by
      cases Option.some.inj ((show [weekly].find? (·.id == "c1") = some weekly from rfl).symm.trans hc)
      decide).1

/-- Two providers tied at ROI 50: the one whose signal the repository returns first is paid
50%, the other 30%. -/
theorem finalize_tie_depends_on_order :
    ((finalizeContest contestEnv "c1").run
        ⟨[weekly], [closedSignal "s1" "p1" 100 150 10, closedSignal "s2" "p2" 100 150 20]⟩).1.toOption =
      some ⟨["p1", "p2"], [("p1", "500.00000000"), ("p2", "300.00000000")]⟩ ∧
    ((finalizeContest contestEnv "c1").run
        ⟨[weekly], [closedSignal "s2" "p2" 100 150 20, closedSignal "s1" "p1" 100 150 10]⟩).1.toOption =
      some ⟨["p2", "p1"], [("p2", "500.00000000"), ("p1", "300.00000000")]⟩ := by
  decide

end

end StellarSwipe.Contests
