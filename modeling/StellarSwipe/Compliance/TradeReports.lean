import StellarSwipe.Compliance.Reports
import StellarSwipe.Contests.Decimal

namespace StellarSwipe.Compliance

open StellarSwipe.Contests (toFixed)

structure Trade where
  userId : String
  baseAsset : String
  quoteAsset : String
  amount : ℚ
  price : ℚ
  pnl : Option ℚ
  status : String
  createdAt : Int
  deriving DecidableEq

/-- A repository's `find` with `createdAt: Between(startDate, endDate)`: the rows of the window
in the repository's order, or a failed query when a date is invalid. -/
def findBetween {ρ : Type} (createdAt : ρ → Int) (window : Option Int × Option Int) (rows : List ρ) :
    Option (List ρ) :=
  match window with
  | (some _, some _) => some (rows.filter fun r => windowContains window (createdAt r))
  | _ => none

/-- `tradeRepo.find` with `createdAt: Between(startDate, endDate)`. -/
def tradesBetween (window : Option Int × Option Int) (trades : List Trade) : Option (List Trade) :=
  findBetween (·.createdAt) window trades

/-- `parseFloat(t.amount) * parseFloat(t.price)`. -/
def tradeVolume (t : Trade) : ℚ := t.amount * t.price

/-- The key `${t.baseAsset}/${t.quoteAsset}`. -/
def assetPair (t : Trade) : String := t.baseAsset ++ "/" ++ t.quoteAsset

/-- One step of the `assetVolumes` reduce: the trade's volume added to its pair's. A pair holds a
slash, so it is never an array index nor a name of `Object.prototype`. -/
def addAssetVolume (acc : List (String × ℚ)) (t : Trade) : List (String × ℚ) :=
  recordAdd acc (assetPair t) (tradeVolume t)

/-- `Object.entries(assetVolumes).sort(([, a], [, b]) => b - a).slice(0, 10)`: a stable sort on
descending volume, then the first ten. -/
def topAssets (trades : List Trade) : List (String × ℚ) :=
  ((trades.foldl addAssetVolume []).insertionSort fun a b => b.2 ≤ a.2).take 10

/-- What `generateTradeVolumeReport` returns, its period and generation time apart. -/
structure TradeVolumeReport where
  totalTrades : Nat
  totalVolume : ℚ
  uniqueUsers : Nat
  topAssets : List (String × ℚ)
  deriving DecidableEq

def generateTradeVolumeReport (window : Option Int × Option Int) (trades : List Trade) :
    Option TradeVolumeReport :=
  (tradesBetween window trades).map fun ts =>
    ⟨ts.length, (ts.map tradeVolume).sum, (ts.map (·.userId)).dedup.length, topAssets ts⟩

section Grouping
variable {α β : Type} [AddCommMonoid β] (key : α → String) (val : α → β)

/-- The sum of the values of the items of key `k`. -/
def keySum (xs : List α) (k : String) : β := ((xs.filter (key · == k)).map val).sum

@[simp] theorem keySum_nil (k : String) : keySum key val [] k = 0 := rfl

theorem keySum_cons (x : α) (xs : List α) (k : String) :
    keySum key val (x :: xs) k = (if key x = k then val x else 0) + keySum key val xs k := by
  by_cases h : key x = k <;> simp [keySum, List.filter_cons, h]

theorem keySum_append_singleton (xs : List α) (x : α) (k : String) :
    keySum key val (xs ++ [x]) k = if key x = k then keySum key val xs k + val x else keySum key val xs k := by
  by_cases h : key x = k <;> simp [keySum, List.filter_append, h]

theorem keySum_eq_zero {xs : List α} {k : String} (h : ∀ x ∈ xs, key x ≠ k) : keySum key val xs k = 0 := by
  rw [keySum, List.filter_eq_nil_iff.2 fun x hx => by simpa using h x hx]
  rfl

theorem foldl_recordAdd (xs : List α) :
    ∃ ks : List String, ks.Nodup ∧ (∀ k, k ∈ ks ↔ ∃ x ∈ xs, key x = k) ∧
      xs.foldl (fun acc x => recordAdd acc (key x) (val x)) [] = ks.map fun k => (k, keySum key val xs k) :=
  foldl_upsert Prod.fst key (fun x e => (e.1, e.2 + val x)) (fun x => (key x, val x))
    (fun xs k => (k, keySum key val xs k)) (fun _ _ => rfl)
    (fun xs x k => by by_cases h : key x = k <;> simp [keySum_append_singleton, h])
    (fun _ x h => by simp [keySum_eq_zero key val h]) xs

theorem sum_map_ite_eq_of_mem {a : String} {c : β} {ks : List String} (hks : ks.Nodup) (ha : a ∈ ks) :
    (ks.map fun k => if a = k then c else 0).sum = c := by
  induction ks with
  | nil => exact absurd ha (List.not_mem_nil a)
  | cons k ks ih =>
    obtain ⟨hk, hnd⟩ := List.nodup_cons.1 hks
    rw [List.map_cons, List.sum_cons]
    by_cases hak : a = k
    · subst hak
      rw [if_pos rfl, List.sum_eq_zero fun b hb => ?_, add_zero]
      obtain ⟨k', hk', rfl⟩ := List.mem_map.1 hb
      exact if_neg fun (he : a = k') => hk (he ▸ hk')
    · rw [if_neg hak, zero_add, ih hnd ((List.mem_cons.1 ha).resolve_left hak)]

theorem sum_keySum {ks : List String} (hks : ks.Nodup) :
    ∀ {xs : List α}, (∀ x ∈ xs, key x ∈ ks) → (ks.map (keySum key val xs)).sum = (xs.map val).sum
  | [], _ => List.sum_eq_zero fun b hb => by
    obtain ⟨k, -, rfl⟩ := List.mem_map.1 hb
    rfl
  | x :: xs, hcov => by
    rw [show keySum key val (x :: xs) = fun k => (if key x = k then val x else 0) + keySum key val xs k from
        funext (keySum_cons key val x xs), List.sum_map_add,
      sum_map_ite_eq_of_mem hks (hcov x (List.mem_cons_self x xs)),
      sum_keySum hks fun y hy => hcov y (List.mem_cons_of_mem x hy), List.map_cons, List.sum_cons]

end Grouping

/-- What `topAssets` lists of `trades`: distinct pairs of the trades, each with the summed volume
of its trades, as many as there are pairs up to ten, largest first, and no pair left out with
more volume than one listed. -/
structure TopAssetsOf (trades : List Trade) (top : List (String × ℚ)) : Prop where
  nodup : (top.map (·.1)).Nodup
  length_eq : top.length = min 10 (trades.map assetPair).dedup.length
  mem : ∀ e ∈ top, (∃ t ∈ trades, assetPair t = e.1) ∧ e.2 = keySum assetPair tradeVolume trades e.1
  sorted : top.Pairwise fun a b => b.2 ≤ a.2
  ranked : ∀ t ∈ trades, assetPair t ∉ top.map (·.1) → ∀ e ∈ top,
    keySum assetPair tradeVolume trades (assetPair t) ≤ e.2

theorem topAssets_spec (trades : List Trade) : TopAssetsOf trades (topAssets trades) := by
  obtain ⟨ks, hnd, hmem, heq⟩ := foldl_recordAdd assetPair tradeVolume trades
  have hfold : trades.foldl addAssetVolume [] = ks.map fun k => (k, keySum assetPair tradeVolume trades k) := heq
  set groups := ks.map fun k => (k, keySum assetPair tradeVolume trades k)
  set sorted := groups.insertionSort fun a b => b.2 ≤ a.2
  have hperm : sorted.Perm groups := List.perm_insertionSort _ _
  have hsorted : sorted.Pairwise fun a b => b.2 ≤ a.2 := by
    haveI : IsTotal (String × ℚ) fun a b => b.2 ≤ a.2 := ⟨fun a b => le_total b.2 a.2⟩
    haveI : IsTrans (String × ℚ) fun a b => b.2 ≤ a.2 := ⟨fun _ _ _ hab hbc => le_trans hbc hab⟩
    exact List.sorted_insertionSort _ _
  have hkeys : (sorted.map (·.1)).Perm ks := by
    simpa [groups, List.map_map, Function.comp_def] using hperm.map (·.1)
  have hlen : ks.length = (trades.map assetPair).dedup.length :=
    ((List.perm_ext_iff_of_nodup hnd (List.nodup_dedup _)).2 fun k => by simp [hmem k]).length_eq
  have hgroup : ∀ e ∈ sorted, (∃ t ∈ trades, assetPair t = e.1) ∧ e.2 = keySum assetPair tradeVolume trades e.1 := by
    intro e he
    obtain ⟨k, hk, rfl⟩ := List.mem_map.1 (hperm.subset he)
    exact ⟨(hmem k).1 hk, rfl⟩
  have htop : topAssets trades = sorted.take 10 := by rw [topAssets, hfold]
  rw [htop]
  refine ⟨?_, ?_, fun e he => hgroup e (List.mem_of_mem_take he), hsorted.sublist (List.take_sublist _ _),
    fun t ht hne e he => ?_⟩
  · exact (hkeys.nodup_iff.2 hnd).sublist ((List.take_sublist _ _).map _)
  · rw [List.length_take, hperm.length_eq, List.length_map, hlen]
  · exact rel_of_not_mem_take hsorted 10 (hperm.symm.subset (List.mem_map.2 ⟨_, (hmem _).2 ⟨t, ht, rfl⟩, rfl⟩))
      (fun h => hne (List.mem_map_of_mem (·.1) h)) he

/-- `parseFloat(t.pnl || '0')`. -/
def tradePnl (t : Trade) : ℚ := t.pnl.getD 0

/-- What `generateFinancialSummary` returns, its period and generation time apart. -/
structure FinancialSummary where
  totalTrades : Nat
  profitableTrades : Nat
  losingTrades : Int
  winRate : String
  totalPnL : String
  averagePnL : String
  deriving DecidableEq

/-- `generateFinancialSummary`: the CLOSED trades of the window, the sum of their P&L, and the
share of them with a positive P&L. -/
def generateFinancialSummary (window : Option Int × Option Int) (trades : List Trade) :
    Option FinancialSummary :=
  (tradesBetween window (trades.filter (·.status == "closed"))).map fun ts =>
    let totalPnL := (ts.map tradePnl).sum
    let profitableTrades : Nat := (ts.filter fun t => decide (0 < tradePnl t)).length
    let winRate : ℚ := if ts.length > 0 then (profitableTrades : ℚ) / ts.length * 100 else 0
    ⟨ts.length, profitableTrades, (ts.length : Int) - profitableTrades, toFixed 2 winRate,
      toFixed 2 totalPnL, if ts.length > 0 then toFixed 2 (totalPnL / ts.length) else "0"⟩

end StellarSwipe.Compliance
