import Mathlib.Data.Nat.Digits
import Mathlib.Data.Rat.Floor
import StellarSwipe.Kyc.Providers
import StellarSwipe.Contests.Service

namespace StellarSwipe.Contests
open Kyc (digitsValue)
set_option autoImplicit true

/-- The optional sign `parseFloat` reads: whether it was a minus, and what follows it. -/
def parseSign : List Char → Bool × List Char
  | '-' :: r => (true, r)
  | '+' :: r => (false, r)
  | r => (false, r)

def parseFraction : List Char → List Char
  | '.' :: r => r.takeWhile Char.isDigit
  | _ => []

/-- `parseFloat(s)` on decimal strings: leading white space, an optional sign, then the longest
run of digits with an optional fraction; `none` stands for `NaN`. Exponents and `Infinity` are
not read: no string this service parses has them. -/
def parseFloat (s : String) : Option ℚ :=
  let (neg, rest) := parseSign (s.toList.dropWhile isJsWhitespace)
  let intDs := rest.takeWhile Char.isDigit
  let fracDs := parseFraction (rest.dropWhile Char.isDigit)
  if intDs.isEmpty && fracDs.isEmpty then none
  else
    let v : ℚ := digitsValue intDs + (digitsValue fracDs : ℚ) / 10 ^ fracDs.length
    some (if neg then -v else v)

/-- The value `toFixed(digits)` prints: the magnitude rounded half up to `digits` places, with
the sign of the argument. -/
def roundFixed (digits : Nat) (x : ℚ) : ℚ :=
  let n : ℚ := ((|x| * 10 ^ digits + 1 / 2).floor.toNat : ℚ) / 10 ^ digits
  if x < 0 then -n else n

theorem roundFixed_magnitude_mono (digits : Nat) {x y : ℚ} (h : |x| ≤ |y|) :
    ((|x| * 10 ^ digits + 1 / 2).floor.toNat : ℚ) / 10 ^ digits ≤
      ((|y| * 10 ^ digits + 1 / 2).floor.toNat : ℚ) / 10 ^ digits := by
  have hfloor : ⌊|x| * 10 ^ digits + 1 / 2⌋ ≤ ⌊|y| * 10 ^ digits + 1 / 2⌋ :=
    Int.floor_mono (add_le_add_right (mul_le_mul_of_nonneg_right h (by positivity)) _)
  exact div_le_div_of_nonneg_right (by exact_mod_cast Int.toNat_le_toNat hfloor) (by positivity)

theorem roundFixed_mono (digits : Nat) {x y : ℚ} (h : x ≤ y) :
    roundFixed digits x ≤ roundFixed digits y := by
  unfold roundFixed
  by_cases hy : y < 0
  · have hx : x < 0 := lt_of_le_of_lt h hy
    simp only [hx, hy, if_true, neg_le_neg_iff]
    exact roundFixed_magnitude_mono digits (by rw [abs_of_neg hx, abs_of_neg hy]; linarith)
  · by_cases hx : x < 0
    · simp only [hx, hy, if_true, if_false]
      have := roundFixed_magnitude_mono digits (le_refl |x|)
      exact (neg_nonpos.2 (by positivity)).trans (by positivity)
    · simp only [hx, hy, if_false]
      exact roundFixed_magnitude_mono digits
        (by rw [abs_of_nonneg (not_lt.1 hx), abs_of_nonneg (not_lt.1 hy)]; exact h)

theorem digitsValue_foldl (k : Nat) (ds : List Char) :
    ds.foldl (fun n c => 10 * n + (c.toNat - '0'.toNat)) k = k * 10 ^ ds.length + digitsValue ds := by
  induction ds generalizing k with
  | nil => simp [digitsValue]
  | cons c cs ih =>
    show List.foldl _ (10 * k + (c.toNat - '0'.toNat)) cs =
      k * 10 ^ (cs.length + 1) + List.foldl _ (10 * 0 + (c.toNat - '0'.toNat)) cs
    rw [ih, ih]
    ring

theorem digitsValue_append (a b : List Char) :
    digitsValue (a ++ b) = digitsValue a * 10 ^ b.length + digitsValue b := by
  rw [digitsValue, List.foldl_append, digitsValue_foldl]
  rfl

theorem digitsValue_replicate_zero (z : Nat) : digitsValue (List.replicate z '0') = 0 := by
  induction z with
  | zero => rfl
  | succ z ih =>
    rw [List.replicate_succ', digitsValue_append, ih]
    rfl

theorem digitChar_spec : ∀ d : Fin 10,
    (Nat.digitChar d).isDigit = true ∧ (Nat.digitChar d).toNat - '0'.toNat = d := by
  decide

theorem toDigitsCore_spec (fuel n : Nat) (ds : List Char) (h : n < fuel) :
    digitsValue (Nat.toDigitsCore 10 fuel n ds) = n * 10 ^ ds.length + digitsValue ds ∧
      ((∀ c ∈ ds, c.isDigit = true) → ∀ c ∈ Nat.toDigitsCore 10 fuel n ds, c.isDigit = true) := by
  induction fuel generalizing n ds with
  | zero => omega
  | succ fuel ih =>
    have hdig : (Nat.digitChar (n % 10)).isDigit = true := (digitChar_spec ⟨n % 10, by omega⟩).1
    have hval : (Nat.digitChar (n % 10)).toNat - '0'.toNat = n % 10 :=
      (digitChar_spec ⟨n % 10, by omega⟩).2
    have hone : digitsValue [Nat.digitChar (n % 10)] = n % 10 := by
      show 10 * 0 + ((Nat.digitChar (n % 10)).toNat - '0'.toNat) = n % 10
      omega
    have hcons : digitsValue (Nat.digitChar (n % 10) :: ds) = n % 10 * 10 ^ ds.length + digitsValue ds := by
      rw [← List.singleton_append, digitsValue_append, hone]
    simp only [Nat.toDigitsCore]
    split
    · refine ⟨by rw [hcons, Nat.mod_eq_of_lt (by omega)], fun hds c hc => ?_⟩
      rcases List.mem_cons.1 hc with rfl | hc
      · exact hdig
      · exact hds c hc
    · obtain ⟨ih₁, ih₂⟩ := ih (n / 10) (Nat.digitChar (n % 10) :: ds) (by omega)
      refine ⟨?_, fun hds => ih₂ fun c hc => ?_⟩
      · rw [ih₁, hcons, List.length_cons, pow_succ]
        conv_rhs => rw [← Nat.div_add_mod n 10]
        ring
      · rcases List.mem_cons.1 hc with rfl | hc
        · exact hdig
        · exact hds c hc

theorem toDigits_spec (n : Nat) :
    digitsValue (Nat.toDigits 10 n) = n ∧ ∀ c ∈ Nat.toDigits 10 n, c.isDigit = true := by
  obtain ⟨h₁, h₂⟩ := toDigitsCore_spec (n + 1) n [] (by omega)
  exact ⟨by simpa [digitsValue] using h₁, h₂ fun _ h => nomatch h⟩

/-- The digits `toFixed` prints, before the decimal point is placed: the rounded magnitude,
left-padded with zeros to more than `digits` digits. -/
def fixedDigits (digits : Nat) (x : ℚ) : List Char :=
  let m := Nat.toDigits 10 (|x| * 10 ^ digits + 1 / 2).floor.toNat
  List.replicate (digits + 1 - m.length) '0' ++ m

theorem fixedDigits_spec (digits : Nat) (x : ℚ) :
    digitsValue (fixedDigits digits x) = (|x| * 10 ^ digits + 1 / 2).floor.toNat ∧
      (∀ c ∈ fixedDigits digits x, c.isDigit = true) ∧ digits + 1 ≤ (fixedDigits digits x).length := by
  obtain ⟨hv, hd⟩ := toDigits_spec (|x| * 10 ^ digits + 1 / 2).floor.toNat
  refine ⟨?_, fun c hc => ?_, ?_⟩
  · rw [fixedDigits, digitsValue_append, digitsValue_replicate_zero, hv, zero_mul, zero_add]
  · rcases List.mem_append.1 hc with hc | hc
    · rw [List.eq_of_mem_replicate hc]
      rfl
    · exact hd c hc
  · simp only [fixedDigits, List.length_append, List.length_replicate]
    omega

theorem toFixed_eq_mk (digits : Nat) (hd : 0 < digits) (x : ℚ) :
    let m := fixedDigits digits x
    toFixed digits x = String.mk ((if x < 0 then ['-'] else []) ++
      m.take (m.length - digits) ++ '.' :: m.drop (m.length - digits)) := by
  simp only [toFixed, fixedDigits, if_neg (Nat.pos_iff_ne_zero.1 hd)]
  apply String.ext
  split_ifs <;> simp only [String.data_append, List.append_assoc] <;> rfl

theorem takeWhile_digits_dot {A B : List Char} (hA : ∀ c ∈ A, c.isDigit = true) :
    (A ++ '.' :: B).takeWhile Char.isDigit = A := by
  rw [List.takeWhile_append_of_pos hA, List.takeWhile_cons_of_neg (by decide), List.append_nil]

theorem dropWhile_digits_dot {A B : List Char} (hA : ∀ c ∈ A, c.isDigit = true) :
    (A ++ '.' :: B).dropWhile Char.isDigit = '.' :: B := by
  rw [List.dropWhile_append_of_pos hA, List.dropWhile_cons_of_neg (by decide)]

theorem parseSign_of_isDigit {c : Char} (h : c.isDigit = true) (r : List Char) :
    parseSign (c :: r) = (false, c :: r) := by
  unfold parseSign
  split
  · next heq => exact absurd ((List.cons.inj heq).1 ▸ h) (by decide)
  · next heq => exact absurd ((List.cons.inj heq).1 ▸ h) (by decide)
  · rfl

theorem parseFloat_decimal (neg : Bool) {A B : List Char} (hA : A ≠ [])
    (hAd : ∀ c ∈ A, c.isDigit = true) (hBd : ∀ c ∈ B, c.isDigit = true) :
    parseFloat (String.mk ((if neg then ['-'] else []) ++ A ++ '.' :: B)) =
      let v : ℚ := digitsValue A + (digitsValue B : ℚ) / 10 ^ B.length
      some (if neg then -v else v) := by
  obtain ⟨a, A, rfl⟩ := List.exists_cons_of_ne_nil hA
  have ha : a.isDigit = true := hAd a (List.mem_cons_self a A)
  have hsign : parseSign ((if neg then ['-'] else []) ++ a :: A ++ '.' :: B) =
      (neg, a :: A ++ '.' :: B) := by
    cases neg
    · exact parseSign_of_isDigit ha _
    · rfl
  have hws : ((if neg then ['-'] else []) ++ a :: A ++ '.' :: B).dropWhile isJsWhitespace =
      (if neg then ['-'] else []) ++ a :: A ++ '.' :: B := by
    cases neg
    · exact List.dropWhile_cons_of_neg (by simp [isJsWhitespace_of_isDigit ha])
    · exact List.dropWhile_cons_of_neg (by decide)
  simp only [parseFloat, String.toList, hws, hsign, takeWhile_digits_dot hAd, dropWhile_digits_dot hAd,
    parseFraction, List.takeWhile_eq_self_iff.2 hBd, List.isEmpty_cons, Bool.false_and,
    Bool.false_eq_true, if_false]

theorem parseFloat_toFixed (digits : Nat) (hd : 0 < digits) (x : ℚ) :
    parseFloat (toFixed digits x) = some (roundFixed digits x) := by
  obtain ⟨hv, hdig, hlen⟩ := fixedDigits_spec digits x
  rw [toFixed_eq_mk digits hd x]
  set m := fixedDigits digits x
  have hBlen : (m.drop (m.length - digits)).length = digits := by
    simp only [List.length_drop]
    omega
  have hval : ((digitsValue (m.take (m.length - digits)) : ℚ) +
      (digitsValue (m.drop (m.length - digits)) : ℚ) / 10 ^ (m.drop (m.length - digits)).length) =
      ((|x| * 10 ^ digits + 1 / 2).floor.toNat : ℚ) / 10 ^ digits := by
    have hsplit := digitsValue_append (m.take (m.length - digits)) (m.drop (m.length - digits))
    rw [List.take_append_drop, hBlen] at hsplit
    rw [← hv, hsplit, hBlen]
    push_cast
    rw [add_div, mul_div_cancel_right₀ _ (pow_ne_zero _ (by norm_num))]
  have hdec := parseFloat_decimal (decide (x < 0)) (A := m.take (m.length - digits))
    (B := m.drop (m.length - digits))
    (List.ne_nil_of_length_pos (by simp only [List.length_take]; omega))
    (fun c hc => hdig c (List.mem_of_mem_take hc)) (fun c hc => hdig c (List.mem_of_mem_drop hc))
  simp only [decide_eq_true_eq] at hdec
  rw [hdec, hval, roundFixed]

end StellarSwipe.Contests
