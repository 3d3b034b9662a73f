import Mathlib.Algebra.BigOperators.Group.List
import Mathlib.Algebra.Order.Field.Basic
import Mathlib.Algebra.Order.Field.Rat
import Mathlib.Tactic.NormNum.Basic
import StellarSwipe.Contests.Finalize

namespace StellarSwipe.Contests
set_option autoImplicit true

/-- The entry of `p` after the first loop over `signals`: the ids of its signals in order, and
the sums of ROI and copied volume over its CLOSED signals. -/
def providerEntry (signals : List Signal) (p : String) : ContestEntry :=
  let mine := signals.filter (·.providerId == p)
  let closed := mine.filter (·.status == .closed)
  ⟨p, mine.map (·.id), (closed.map calculateSignalROI).sum, 0,
    (closed.map fun s => s.totalCopiedVolume.getD 0).sum, 0⟩

@[simp] theorem providerEntry_provider (signals : List Signal) (p : String) :
    (providerEntry signals p).provider = p := rfl

theorem withSuccessRate_eq (signals : List Signal) (e : ContestEntry) :
    withSuccessRate signals e = { e with successRate :=
      if (e.signalsSubmitted.filter (signalClosed signals)).length > 0 then
        (((e.signalsSubmitted.filter (signalClosed signals)).filter (signalProfitable signals)).length : ℚ) /
          (e.signalsSubmitted.filter (signalClosed signals)).length * 100
      else e.successRate } := by
  unfold withSuccessRate
  dsimp only
  split <;> rfl

@[simp] theorem withSuccessRate_provider (signals : List Signal) (e : ContestEntry) :
    (withSuccessRate signals e).provider = e.provider := by
  rw [withSuccessRate_eq]

@[simp] theorem withSuccessRate_signalsSubmitted (signals : List Signal) (e : ContestEntry) :
    (withSuccessRate signals e).signalsSubmitted = e.signalsSubmitted := by
  rw [withSuccessRate_eq]

theorem providerEntry_of_not_mem {signals : List Signal} {p : String}
    (h : ∀ s ∈ signals, s.providerId ≠ p) : providerEntry signals p = ⟨p, [], 0, 0, 0, 0⟩ := by
  have hnil : signals.filter (·.providerId == p) = [] :=
    List.filter_eq_nil_iff.2 fun s hs => by simpa using h s hs
  simp only [providerEntry, hnil, List.map_nil, List.filter_nil, List.sum_nil]

theorem providerEntry_append (signals : List Signal) (s : Signal) (p : String) :
    providerEntry (signals ++ [s]) p =
      if s.providerId = p then (providerEntry signals p).record s else providerEntry signals p := by
  by_cases hp : s.providerId = p
  · by_cases hc : s.status = .closed
    · simp [providerEntry, ContestEntry.record, List.filter_append, hp, hc]
    · simp [providerEntry, ContestEntry.record, List.filter_append, hp, hc]
  · simp [providerEntry, List.filter_append, hp]

theorem foldl_recordSignal (signals : List Signal) :
    ∃ ps : List String, ps.Nodup ∧ (∀ p, p ∈ ps ↔ ∃ s ∈ signals, s.providerId = p) ∧
      signals.foldl recordSignal [] = ps.map (providerEntry signals) :=
  foldl_upsert (·.provider) (·.providerId) (fun s e => e.record s)
    (fun s => ContestEntry.record s ⟨s.providerId, [], 0, 0, 0, 0⟩) providerEntry providerEntry_provider
    providerEntry_append (fun _ _ h => by rw [providerEntry_of_not_mem h]) signals

theorem contestEntries_eq (signals : List Signal) :
    ∃ ps : List String, ps.Nodup ∧ (∀ p, p ∈ ps ↔ ∃ s ∈ signals, s.providerId = p) ∧
      contestEntries signals = ps.map fun p => withSuccessRate signals (providerEntry signals p) := by
  obtain ⟨ps, hnd, hmem, heq⟩ := foldl_recordSignal signals
  exact ⟨ps, hnd, hmem, by rw [contestEntries, heq, List.map_map]; rfl⟩

theorem contestEntries_providers_nodup (signals : List Signal) :
    ((contestEntries signals).map (·.provider)).Nodup := by
  obtain ⟨ps, hnd, -, heq⟩ := contestEntries_eq signals
  rw [heq, List.map_map]
  simpa [Function.comp_def] using hnd

/-- Two entries that differ at most in the order of their signal ids. -/
structure ContestEntry.SameUpToOrder (e e' : ContestEntry) : Prop where
  signals_perm : e.signalsSubmitted.Perm e'.signalsSubmitted
  provider_eq : e.provider = e'.provider
  totalRoi_eq : e.totalRoi = e'.totalRoi
  successRate_eq : e.successRate = e'.successRate
  totalVolume_eq : e.totalVolume = e'.totalVolume
  followerCount_eq : e.followerCount = e'.followerCount

theorem ContestEntry.SameUpToOrder.score_eq {e e' : ContestEntry} (h : e.SameUpToOrder e')
    (metric : ContestMetric) : calculateScore e metric = calculateScore e' metric := by
  cases metric
  · exact h.totalRoi_eq
  · exact h.successRate_eq
  · exact h.totalVolume_eq
  · exact h.followerCount_eq

theorem find?_id_perm {l l' : List Signal} (hperm : l.Perm l') (hids : (l.map (·.id)).Nodup)
    (id : String) : l.find? (·.id == id) = l'.find? (·.id == id) := by
  have hinj := List.inj_on_of_nodup_map hids
  have heq : l.filter (·.id == id) = l'.filter (·.id == id) :=
    @List.Perm.eq_of_sorted _ (fun _ _ => True) _ _
      (fun a b ha hb _ _ => hinj (List.mem_of_mem_filter ha) (hperm.symm.subset (List.mem_of_mem_filter hb))
        (by simp only [List.mem_filter, beq_iff_eq] at ha hb; rw [ha.2, hb.2]))
      (List.pairwise_of_forall fun _ _ => trivial) (List.pairwise_of_forall fun _ _ => trivial)
      (hperm.filter _)
  rw [← List.filter_head?, heq, List.filter_head?]

theorem providerEntry_perm {l l' : List Signal} (hperm : l.Perm l') (p : String) :
    (providerEntry l p).SameUpToOrder (providerEntry l' p) := by
  have hmine := hperm.filter (·.providerId == p)
  have hclosed := hmine.filter (·.status == .closed)
  exact ⟨hmine.map _, rfl, (hclosed.map calculateSignalROI).sum_eq, rfl,
    (hclosed.map fun s : Signal => s.totalCopiedVolume.getD 0).sum_eq, rfl⟩

theorem withSuccessRate_perm {l l' : List Signal} (hperm : l.Perm l') (hids : (l.map (·.id)).Nodup)
    {e e' : ContestEntry} (h : e.SameUpToOrder e') :
    (withSuccessRate l e).SameUpToOrder (withSuccessRate l' e') := by
  have hclosed : signalClosed l = signalClosed l' := funext fun id => by
    simp only [signalClosed, find?_id_perm hperm hids id]
  have hprofit : signalProfitable l = signalProfitable l' := funext fun id => by
    simp only [signalProfitable, find?_id_perm hperm hids id]
  have hc := h.signals_perm.filter (signalClosed l)
  have hs := hc.filter (signalProfitable l)
  unfold withSuccessRate
  dsimp only
  rw [← hclosed, ← hprofit, hc.length_eq, hs.length_eq]
  split_ifs
  · exact ⟨h.signals_perm, h.provider_eq, h.totalRoi_eq, rfl, h.totalVolume_eq, h.followerCount_eq⟩
  · exact h

/-- The CLOSED signals of provider `p`, in input order. -/
def closedSignalsOf (signals : List Signal) (p : String) : List Signal :=
  (signals.filter (·.providerId == p)).filter (·.status == .closed)

/-- One hundred times the share of `closed` with a positive P&L, and 0 for no signal. -/
def successShare (closed : List Signal) : ℚ :=
  if closed = [] then 0
  else ((closed.filter fun s => decide (0 < s.totalProfitLoss.getD 0)).length : ℚ) / closed.length * 100

/-- The entries `calculateContestEntries` returns, read off the window's signals: one per
provider, holding the ids of its signals in order, the sums of ROI and copied volume over its
CLOSED signals and the share of those with a positive P&L. -/
structure EntriesOf (signals : List Signal) (entries : List ContestEntry) : Prop where
  providers_nodup : (entries.map (·.provider)).Nodup
  mem_providers : ∀ p, p ∈ entries.map (·.provider) ↔ ∃ s ∈ signals, s.providerId = p
  signalsSubmitted_eq : ∀ e ∈ entries, e.signalsSubmitted = (signals.filter (·.providerId == e.provider)).map (·.id)
  existsUnique_entry : ∀ s ∈ signals, ∃! e, e ∈ entries ∧ s.id ∈ e.signalsSubmitted
  length_sum : (entries.map (·.signalsSubmitted.length)).sum = signals.length
  totalRoi_eq : ∀ e ∈ entries, e.totalRoi = ((closedSignalsOf signals e.provider).map calculateSignalROI).sum
  totalVolume_eq : ∀ e ∈ entries,
    e.totalVolume = ((closedSignalsOf signals e.provider).map fun s => s.totalCopiedVolume.getD 0).sum
  successRate_eq : ∀ e ∈ entries, e.successRate = successShare (closedSignalsOf signals e.provider)
  successRate_mem : ∀ e ∈ entries, 0 ≤ e.successRate ∧ e.successRate ≤ 100
  followerCount_eq : ∀ e ∈ entries, e.followerCount = 0

theorem successShare_mem (closed : List Signal) : 0 ≤ successShare closed ∧ successShare closed ≤ 100 := by
  unfold successShare
  split_ifs with h
  · norm_num
  · have hpos : (0 : ℚ) < closed.length := by exact_mod_cast List.length_pos.2 h
    have hle : ((closed.filter fun s => decide (0 < s.totalProfitLoss.getD 0)).length : ℚ) ≤ closed.length := by
      exact_mod_cast List.length_filter_le _ _
    have hshare := (div_le_one hpos).2 hle
    exact ⟨mul_nonneg (div_nonneg (Nat.cast_nonneg _) (Nat.cast_nonneg _)) (by norm_num),
      mul_le_of_le_one_left (by norm_num) hshare⟩

theorem find?_id_of_mem {signals : List Signal} (hids : (signals.map (·.id)).Nodup) {s : Signal}
    (hs : s ∈ signals) : signals.find? (·.id == s.id) = some s := by
  have hsome : (signals.find? (·.id == s.id)).isSome := List.find?_isSome.2 ⟨s, hs, beq_self_eq_true _⟩
  obtain ⟨t, ht⟩ := Option.isSome_iff_exists.1 hsome
  have hid : t.id = s.id := by simpa using List.find?_some ht
  rw [ht, List.inj_on_of_nodup_map hids (List.mem_of_find?_eq_some ht) hs hid]

theorem signalClosed_id {signals : List Signal} (hids : (signals.map (·.id)).Nodup) {s : Signal}
    (hs : s ∈ signals) : signalClosed signals s.id = (s.status == .closed) := by
  rw [signalClosed, find?_id_of_mem hids hs]

theorem signalProfitable_id {signals : List Signal} (hids : (signals.map (·.id)).Nodup) {s : Signal}
    (hs : s ∈ signals) : signalProfitable signals s.id = decide (0 < s.totalProfitLoss.getD 0) := by
  rw [signalProfitable, find?_id_of_mem hids hs]

theorem withSuccessRate_providerEntry_successRate {signals : List Signal} (hids : (signals.map (·.id)).Nodup)
    (p : String) : (withSuccessRate signals (providerEntry signals p)).successRate =
      successShare (closedSignalsOf signals p) := by
  have hsub : ∀ s ∈ closedSignalsOf signals p, s ∈ signals := fun s hs =>
    List.mem_of_mem_filter (List.mem_of_mem_filter hs)
  have hclosed : (providerEntry signals p).signalsSubmitted.filter (signalClosed signals) =
      (closedSignalsOf signals p).map (·.id) := by
    rw [providerEntry, closedSignalsOf, List.filter_map]
    congr 1
    exact List.filter_congr fun s hs => by
      simp only [Function.comp_apply, signalClosed_id hids (List.mem_of_mem_filter hs)]
  have hprofit : ((closedSignalsOf signals p).map (·.id)).filter (signalProfitable signals) =
      ((closedSignalsOf signals p).filter fun s => decide (0 < s.totalProfitLoss.getD 0)).map (·.id) := by
    rw [List.filter_map]
    congr 1
    exact List.filter_congr fun s hs => by simp only [Function.comp_apply, signalProfitable_id hids (hsub s hs)]
  rw [withSuccessRate_eq, hclosed, hprofit, successShare]
  simp only [List.length_map, gt_iff_lt, List.length_pos, ne_eq]
  split_ifs <;> rfl

theorem sum_length_filter_provider {signals : List Signal} {ps : List String} (hnd : ps.Nodup)
    (hmem : ∀ p, p ∈ ps ↔ ∃ s ∈ signals, s.providerId = p) :
    (ps.map fun p => (signals.filter (·.providerId == p)).length).sum = signals.length := by
  have hperm : ps.Perm (signals.map (·.providerId)).dedup :=
    (List.perm_ext_iff_of_nodup hnd (List.nodup_dedup _)).2 fun p => by simp [hmem p]
  rw [(hperm.map _).sum_eq, ← List.length_map signals (·.providerId), ← List.sum_map_count_dedup_eq_length]
  congr 1
  refine List.map_congr_left fun p _ => ?_
  rw [List.count_eq_countP, List.countP_map, List.countP_eq_length_filter]
  rfl

theorem entriesOf_contestEntries {signals : List Signal} (hids : (signals.map (·.id)).Nodup) :
    EntriesOf signals (contestEntries signals) := by
  obtain ⟨ps, hnd, hmem, heq⟩ := contestEntries_eq signals
  have hprov : (contestEntries signals).map (·.provider) = ps := by
    rw [heq, List.map_map]
    simp [Function.comp_def]
  have hentry : ∀ e ∈ contestEntries signals, e = withSuccessRate signals (providerEntry signals e.provider) := by
    intro e he
    rw [heq] at he
    obtain ⟨p, -, rfl⟩ := List.mem_map.1 he
    simp
  refine ⟨by rw [hprov]; exact hnd, by rw [hprov]; exact hmem, fun e he => ?_, fun s hs => ?_, ?_,
    fun e he => ?_, fun e he => ?_, fun e he => ?_, fun e he => ?_, fun e he => ?_⟩
  all_goals try rw [hentry e he]
  · simp only [withSuccessRate_signalsSubmitted, withSuccessRate_provider, providerEntry_provider]
    rfl
  · refine ⟨withSuccessRate signals (providerEntry signals s.providerId), ⟨?_, ?_⟩, ?_⟩
    · rw [heq]
      exact List.mem_map.2 ⟨s.providerId, (hmem _).2 ⟨s, hs, rfl⟩, rfl⟩
    · rw [withSuccessRate_signalsSubmitted]
      exact List.mem_map.2 ⟨s, List.mem_filter.2 ⟨hs, beq_self_eq_true _⟩, rfl⟩
    · rintro e ⟨he, hid⟩
      rw [hentry e he] at hid ⊢
      simp only [withSuccessRate_signalsSubmitted, providerEntry, List.mem_map, List.mem_filter, beq_iff_eq] at hid
      obtain ⟨t, ⟨ht, hp⟩, htid⟩ := hid
      obtain rfl : t = s := List.inj_on_of_nodup_map hids ht hs htid
      rw [hp]
  · rw [heq, List.map_map]
    simpa [Function.comp_def, providerEntry] using sum_length_filter_provider hnd hmem
  · rw [withSuccessRate_eq]
    rfl
  · rw [withSuccessRate_eq]
    rfl
  · rw [withSuccessRate_providerEntry_successRate hids, withSuccessRate_provider, providerEntry_provider]
  · rw [withSuccessRate_providerEntry_successRate hids]
    exact successShare_mem _
  · rw [withSuccessRate_eq]
    rfl

/-- `calculateContestEntries` returns, for every contest whose window holds signals of distinct
ids, one entry per provider of those signals, as `EntriesOf` describes, and changes nothing. -/
theorem calculateContestEntries_spec (contest : Contest) (s : ContestStore)
    (hids : ((s.signalsBetween contest.startTime contest.endTime).map (·.id)).Nodup) :
    ∃ entries, (calculateContestEntries contest).run s = (.ok entries, s) ∧
      EntriesOf (s.signalsBetween contest.startTime contest.endTime) entries :=
  ⟨_, calculateContestEntries_run contest s, entriesOf_contestEntries hids⟩

theorem calculateContestEntries_spec_raceStore :
    ∃ entries, (calculateContestEntries weekly).run raceStore = (.ok entries, raceStore) ∧
      EntriesOf (raceStore.signalsBetween weekly.startTime weekly.endTime) entries :=
  calculateContestEntries_spec weekly raceStore (by decide)

end StellarSwipe.Contests
