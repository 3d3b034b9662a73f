import StellarSwipe.Contests.Decimal

namespace StellarSwipe.Contests
set_option autoImplicit true

theorem distributePrizes_nodup {winners : List String} (hnd : winners.Nodup) (prizePool : ℚ) :
    distributePrizes winners prizePool = winners.zip
      [toFixed 8 (prizePool * (5 / 10)), toFixed 8 (prizePool * (3 / 10)),
        toFixed 8 (prizePool * (2 / 10))] := by
  rcases winners with _ | ⟨a, _ | ⟨b, _ | ⟨c, rest⟩⟩⟩
  · rfl
  · rfl
  · simp only [List.nodup_cons, List.mem_singleton] at hnd
    simp [distributePrizes, recordSet, upsert, hnd.1]
  · simp only [List.nodup_cons, List.mem_cons, not_or] at hnd
    simp [distributePrizes, recordSet, upsert, hnd.1.1, hnd.1.2.1, hnd.2.1.1]

theorem distributePrizes_keys {winners : List String} (hnd : winners.Nodup) (h : winners.length ≤ 3)
    (prizePool : ℚ) : (distributePrizes winners prizePool).map (·.1) = winners := by
  rw [distributePrizes_nodup hnd, List.map_fst_zip _ _ (by simpa using h)]

theorem roundFixed_share (N k : Nat) :
    roundFixed 8 ((N : ℚ) / 10 ^ 8 * (k / 10)) = (((k * N + 5) / 10 : Nat) : ℚ) / 10 ^ 8 := by
  have hx : 0 ≤ (N : ℚ) / 10 ^ 8 * (k / 10) := by positivity
  have hunits : |(N : ℚ) / 10 ^ 8 * (k / 10)| * 10 ^ 8 + 1 / 2 = ((k * N + 5 : Nat) : ℚ) / (10 : Nat) := by
    rw [abs_of_nonneg hx]
    push_cast
    ring
  simp only [roundFixed, if_neg (not_lt.2 hx), hunits]
  rw [show (((k * N + 5 : Nat) : ℚ) / (10 : Nat)).floor = ⌊((k * N + 5 : Nat) : ℚ) / (10 : Nat)⌋ from rfl,
    Rat.floor_natCast_div_natCast, ← Int.natCast_div, Int.toNat_ofNat]

theorem share_units (N : Nat) :
    (5 * N + 5) / 10 + (3 * N + 5) / 10 ≤ N ∧
    (5 * N + 5) / 10 + ((3 * N + 5) / 10 + (2 * N + 5) / 10) =
      N + if N % 10 = 3 ∨ N % 10 = 5 ∨ N % 10 = 9 then 1 else 0 := by
  obtain ⟨q, r, hr, rfl⟩ : ∃ q r, r < 10 ∧ N = r + 10 * q :=
    ⟨N / 10, N % 10, Nat.mod_lt _ (by norm_num), (Nat.mod_add_div N 10).symm⟩
  have hshare : ∀ k, (k * (r + 10 * q) + 5) / 10 = (k * r + 5) / 10 + k * q := fun k => by
    rw [show k * (r + 10 * q) + 5 = k * r + 5 + 10 * (k * q) by ring, Nat.add_mul_div_left _ _ (by norm_num)]
  have hdigit : ∀ r < 10, (5 * r + 5) / 10 + (3 * r + 5) / 10 ≤ r ∧
      (5 * r + 5) / 10 + ((3 * r + 5) / 10 + (2 * r + 5) / 10) = r + if r = 3 ∨ r = 5 ∨ r = 9 then 1 else 0 := by
    decide
  rw [hshare 5, hshare 3, hshare 2, show (r + 10 * q) % 10 = r by omega]
  obtain ⟨h₁, h₂⟩ := hdigit r hr
  constructor <;> omega

theorem parseFloat_share (N k : Nat) :
    parseFloat (toFixed 8 ((N : ℚ) / 10 ^ 8 * (k / 10))) = some ((((k * N + 5) / 10 : Nat) : ℚ) / 10 ^ 8) := by
  rw [parseFloat_toFixed 8 (by norm_num), roundFixed_share]

def prizeSum (prizes : List (String × String)) : ℚ :=
  (prizes.map fun p => (parseFloat p.2).getD 0).sum

theorem prize_total (N : Nat) (winners : List String) (hnd : winners.Nodup)
    (h1 : 0 < winners.length) (h3 : winners.length ≤ 3) :
    (∀ p ∈ distributePrizes winners ((N : ℚ) / 10 ^ 8), (parseFloat p.2).isSome) ∧
      (winners.length < 3 → prizeSum (distributePrizes winners ((N : ℚ) / 10 ^ 8)) ≤ (N : ℚ) / 10 ^ 8) ∧
      (winners.length = 3 → prizeSum (distributePrizes winners ((N : ℚ) / 10 ^ 8)) =
        ((N + if N % 10 = 3 ∨ N % 10 = 5 ∨ N % 10 = 9 then 1 else 0 : Nat) : ℚ) / 10 ^ 8) := by
  have h5 := parseFloat_share N 5
  have h3' := parseFloat_share N 3
  have h2 := parseFloat_share N 2
  simp only [Nat.cast_ofNat] at h5 h3' h2
  have hsome : ∀ p ∈ distributePrizes winners ((N : ℚ) / 10 ^ 8), (parseFloat p.2).isSome := by
    intro p hp
    rw [distributePrizes_nodup hnd] at hp
    have hmem := (List.of_mem_zip hp).2
    simp only [List.mem_cons, List.not_mem_nil, or_false] at hmem
    rcases hmem with h | h | h <;> rw [h, parseFloat_toFixed 8 (by norm_num)] <;> rfl
  have hle : ∀ u : Nat, u ≤ N → (u : ℚ) / 10 ^ 8 ≤ (N : ℚ) / 10 ^ 8 := fun u hu =>
    div_le_div_of_nonneg_right (by exact_mod_cast hu) (by positivity)
  refine ⟨hsome, ?_⟩
  unfold prizeSum
  rw [distributePrizes_nodup hnd]
  rcases winners with _ | ⟨a, _ | ⟨b, _ | ⟨c, _ | ⟨d, rest⟩⟩⟩⟩
  · simp at h1
  · refine ⟨fun _ => ?_, fun h => by simp at h⟩
    simp only [List.zip_cons_cons, List.zip_nil_left, List.map_cons, List.map_nil, List.sum_cons,
      List.sum_nil, h5, Option.getD_some, add_zero]
    exact hle _ (by omega)
  · refine ⟨fun _ => ?_, fun h => by simp at h⟩
    simp only [List.zip_cons_cons, List.zip_nil_left, List.map_cons, List.map_nil, List.sum_cons,
      List.sum_nil, h5, h3', Option.getD_some, add_zero]
    rw [← add_div]
    exact_mod_cast hle _ (share_units N).1
  · refine ⟨fun h => by simp at h, fun _ => ?_⟩
    simp only [List.zip_cons_cons, List.zip_nil_left, List.map_cons, List.map_nil, List.sum_cons,
      List.sum_nil, h5, h3', h2, Option.getD_some, add_zero]
    rw [← (share_units N).2]
    push_cast
    ring
  · exact absurd h3 (by simp)

section
attribute [local semireducible] Rat.add Rat.mul Rat.inv Rat.sub

/-- A pool of 19 units paid to three winners: the shares of 9.5, 5.7 and 3.8 units print as 10,
6 and 4 units, one more than the pool. -/
theorem prize_total_overpays :
    distributePrizes ["p1", "p2", "p3"] ((19 : ℚ) / 10 ^ 8) =
        [("p1", "0.00000010"), ("p2", "0.00000006"), ("p3", "0.00000004")] ∧
      prizeSum (distributePrizes ["p1", "p2", "p3"] ((19 : ℚ) / 10 ^ 8)) = 20 / 10 ^ 8 ∧
      (19 : ℚ) / 10 ^ 8 < 20 / 10 ^ 8 := by
  refine ⟨by decide, ?_, by norm_num⟩
  have h := (prize_total 19 ["p1", "p2", "p3"] (by decide) (by decide) (by decide)).2.2 rfl
  norm_num at h ⊢
  exact h

end

end StellarSwipe.Contests
