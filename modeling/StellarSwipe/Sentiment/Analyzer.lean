import Mathlib.Algebra.Order.Field.Rat
import Mathlib.Data.List.Sort
import Mathlib.Tactic.Linarith
import Mathlib.Tactic.Ring
import StellarSwipe.Builtins

namespace StellarSwipe.Sentiment

/-- `s.split(/\s+/)`: the pieces between whitespace characters, less the empty pieces between two
of them, since a run of whitespace separates once; the pieces before the first run and after the
last one stay, empty or not. -/
def splitWhitespace (s : String) : List String :=
  match s.split isJsWhitespace with
  | [] => []
  | first :: rest => first :: (rest.dropLast.filter (· ≠ "")) ++ rest.getLast?.toList

def positiveWords : List String := ["bullish", "moon", "pump", "buy", "long", "up", "rise", "gain"]

def negativeWords : List String := ["bearish", "dump", "sell", "short", "down", "fall", "crash", "loss"]

/-- The two counters of the `forEach` loop, `score` and `matches`. -/
structure Tally where
  score : Int
  matchCount : Nat
  deriving DecidableEq, Repr

def Tally.step (t : Tally) (word : String) : Tally :=
  if positiveWords.contains word then ⟨t.score + 1, t.matchCount + 1⟩
  else if negativeWords.contains word then ⟨t.score - 1, t.matchCount + 1⟩
  else t

/-- What `analyzeSentiment` returns. -/
structure SentimentResult where
  score : ℚ
  confidence : ℚ
  deriving DecidableEq, Repr

/-- `analyzeSentiment(text)`; `toLowerCase` lowers the ASCII letters, the only ones a keyword
holds. -/
def analyzeSentiment (text : String) : SentimentResult :=
  let words := splitWhitespace (text.map Char.toLower)
  let t := words.foldl Tally.step ⟨0, 0⟩
  let normalizedScore : ℚ := if t.matchCount > 0 then max (-1) (min 1 ((t.score : ℚ) / t.matchCount)) else 0
  let confidence : ℚ := min 1 ((t.matchCount : ℚ) / 10)
  ⟨normalizedScore, confidence⟩

def positives (words : List String) : Nat := words.countP positiveWords.contains

def negatives (words : List String) : Nat := words.countP negativeWords.contains

theorem not_negative_of_positive {w : String} (h : positiveWords.contains w) : negativeWords.contains w = false := by
  simp only [positiveWords, List.contains_cons, List.contains_nil, Bool.or_false, Bool.or_eq_true, beq_iff_eq] at h
  rcases h with h | h | h | h | h | h | h | h <;> subst h <;> decide

theorem Tally.step_eq (t : Tally) (w : String) :
    t.step w = ⟨t.score + (if positiveWords.contains w then 1 else 0) - (if negativeWords.contains w then 1 else 0),
      t.matchCount + (if positiveWords.contains w then 1 else 0) + (if negativeWords.contains w then 1 else 0)⟩ := by
  by_cases hp : positiveWords.contains w
  · simp only [Tally.step, hp, not_negative_of_positive hp, ↓reduceIte, Bool.false_eq_true, sub_zero, add_zero]
  · by_cases hn : negativeWords.contains w <;>
      simp only [Tally.step, hp, hn, ↓reduceIte, Bool.false_eq_true, zero_add, add_zero, sub_zero]

theorem foldl_step (words : List String) (t : Tally) :
    words.foldl Tally.step t = ⟨t.score + positives words - negatives words, t.matchCount + positives words + negatives words⟩ := by
  induction words generalizing t with
  | nil => simp [positives, negatives]
  | cons w ws ih =>
    rw [List.foldl_cons, ih, Tally.step_eq]
    simp only [positives, negatives, List.countP_cons, Tally.mk.injEq]
    split_ifs <;> push_cast <;> constructor <;> ring

theorem share_mem {p n : Nat} (h : 0 < p + n) :
    (-1 : ℚ) ≤ ((p : ℚ) - n) / (p + n) ∧ ((p : ℚ) - n) / (p + n) ≤ 1 := by
  have hpos : (0 : ℚ) < p + n := by exact_mod_cast h
  constructor
  · rw [le_div_iff₀ hpos]
    linarith [(Nat.cast_nonneg p : (0 : ℚ) ≤ p)]
  · rw [div_le_iff₀ hpos]
    linarith [(Nat.cast_nonneg n : (0 : ℚ) ≤ n)]

/-- The result of `analyzeSentiment` on the words of a text: the score is the share of positive
minus negative words among the keyword words, 0 without any, and lies from -1 to 1; the
confidence is the keyword words over ten, capped at 1. -/
structure SentimentSpec (words : List String) (r : SentimentResult) : Prop where
  score_eq : r.score = if positives words + negatives words = 0 then 0 else
    ((positives words : ℚ) - negatives words) / (positives words + negatives words)
  score_mem : -1 ≤ r.score ∧ r.score ≤ 1
  confidence_eq : r.confidence = min 1 (((positives words + negatives words : Nat) : ℚ) / 10)
  confidence_mem : 0 ≤ r.confidence ∧ r.confidence ≤ 1

/-- For every text, the clamp of `analyzeSentiment` never changes the score: it is the share of
positive minus negative keyword words among the keyword words of the text, which lies from -1 to
1, and the confidence is their number over ten, capped at 1. -/
theorem analyzeSentiment_spec (text : String) :
    SentimentSpec (splitWhitespace (text.map Char.toLower)) (analyzeSentiment text) := by
  set words := splitWhitespace (text.map Char.toLower)
  have hfold := foldl_step words ⟨0, 0⟩
  simp only [zero_add, Int.zero_add] at hfold
  have hscore : (analyzeSentiment text).score = if positives words + negatives words = 0 then 0 else
      ((positives words : ℚ) - negatives words) / (positives words + negatives words) := by
    simp only [analyzeSentiment, hfold]
    split_ifs with h₁ h₂ h₂
    · omega
    · obtain ⟨hlo, hhi⟩ := share_mem h₁
      push_cast
      rw [min_eq_right hhi, max_eq_right hlo]
    · rfl
    · omega
  refine ⟨hscore, ?_, by simp only [analyzeSentiment, hfold], ?_⟩
  · rw [hscore]
    split_ifs with h
    · norm_num
    · exact share_mem (Nat.pos_of_ne_zero h)
  · simp only [analyzeSentiment, hfold]
    exact ⟨le_min zero_le_one (div_nonneg (Nat.cast_nonneg _) (by norm_num)), min_le_left _ _⟩

end StellarSwipe.Sentiment
