import Mathlib.Algebra.Order.Ring.Rat
import Mathlib.Data.List.Sort
import StellarSwipe.Prog
import StellarSwipe.Builtins

namespace StellarSwipe.Contests
set_option autoImplicit true

abbrev Timestamp := Nat

inductive ContestMetric
  | highestRoi
  | bestSuccessRate
  | mostVolume
  | mostFollowers
  deriving DecidableEq, Repr

inductive ContestStatus
  | active
  | finalized
  | cancelled
  deriving DecidableEq, Repr

/-- A row of `contests`. `prizePool` is the value of its DECIMAL(18,8) column, which
`parseFloat` reads back from the string the driver returns. -/
structure Contest where
  id : String
  name : String
  startTime : Timestamp
  endTime : Timestamp
  metric : ContestMetric
  minSignals : Nat
  prizePool : ℚ
  status : ContestStatus
  winners : Option (List String)
  deriving DecidableEq, Repr

/-- `SignalStatus` is declared by the signals module; the contest service only compares a
status with CLOSED. -/
inductive SignalStatus
  | closed
  | other
  deriving DecidableEq, Repr

/-- The columns of a signal the contest service reads. A nullable DECIMAL column is its value
or `none`, which `|| '0'` turns into 0. -/
structure Signal where
  id : String
  providerId : String
  status : SignalStatus
  entryPrice : Option ℚ
  closePrice : Option ℚ
  totalCopiedVolume : Option ℚ
  totalProfitLoss : Option ℚ
  createdAt : Timestamp
  deriving DecidableEq, Repr

structure ContestStore where
  contests : List Contest
  signals : List Signal
  deriving DecidableEq

inductive ContestError
  | badRequest (message : String)
  | notFound (message : String)
  | persistence
  deriving DecidableEq, Repr

abbrev ContestM := Prog ContestStore ContestError

/-- The clock `new Date()` reads, and whether the contest repository's save fails. -/
structure ContestEnv where
  now : Timestamp
  saveFails : Bool

namespace ContestStore
variable (s : ContestStore)

/-- `contestRepository.save(contest)` of a loaded entity: its row is overwritten with every
column of the object, or inserted if it has gone. -/
def saveContest (c : Contest) : ContestStore :=
  if s.contests.any (·.id == c.id) then
    { s with contests := s.contests.map fun d => if d.id = c.id then c else d }
  else { s with contests := s.contests ++ [c] }

def insertSignal (signal : Signal) : ContestStore := { s with signals := s.signals ++ [signal] }

/-- `createdAt: Between(startTime, endTime)`, both ends included. -/
def signalsBetween (startTime endTime : Timestamp) : List Signal :=
  s.signals.filter fun sig => startTime ≤ sig.createdAt && sig.createdAt ≤ endTime

@[simp] theorem saveContest_signals (c : Contest) : (s.saveContest c).signals = s.signals := by
  unfold saveContest
  split <;> rfl

@[simp] theorem insertSignal_contests (signal : Signal) :
    (s.insertSignal signal).contests = s.contests := rfl

end ContestStore

namespace ContestRepo

def findOne (id : String) : ContestM (Option Contest) :=
  Prog.read fun s => s.contests.find? (·.id == id)

def save (env : ContestEnv) (c : Contest) : ContestM Unit :=
  Prog.tryWrite env.saveFails .persistence (·.saveContest c)

end ContestRepo

def getContest (id : String) : ContestM Contest := do
  let contest ← ContestRepo.findOne id
  match contest with
  | some c => pure c
  | none => throw (.notFound "Contest not found")

/-- The `ContestEntry` interface; `followerCount` is never updated from 0. -/
structure ContestEntry where
  provider : String
  signalsSubmitted : List String
  totalRoi : ℚ
  successRate : ℚ
  totalVolume : ℚ
  followerCount : ℚ
  deriving DecidableEq, Repr

def calculateSignalROI (signal : Signal) : ℚ :=
  let entryPrice := signal.entryPrice.getD 0
  let closePrice := signal.closePrice.getD 0
  if entryPrice = 0 then 0 else (closePrice - entryPrice) / entryPrice * 100

/-- The body of the first loop of `calculateContestEntries` on the entry of the signal's
provider. -/
def ContestEntry.record (signal : Signal) (entry : ContestEntry) : ContestEntry :=
  let entry := { entry with signalsSubmitted := entry.signalsSubmitted ++ [signal.id] }
  if signal.status = .closed then
    { entry with totalRoi := entry.totalRoi + calculateSignalROI signal
                 totalVolume := entry.totalVolume + signal.totalCopiedVolume.getD 0 }
  else entry

/-- One iteration of the first loop over `entriesMap`, a `Map` kept in insertion order: the
provider's entry is created on its first signal, then updated. -/
def recordSignal (entries : List ContestEntry) (signal : Signal) : List ContestEntry :=
  upsert (·.provider) entries signal.providerId (·.record signal)
    (ContestEntry.record signal ⟨signal.providerId, [], 0, 0, 0, 0⟩)

/-- `signals.find(s => s.id === id)` is CLOSED. -/
def signalClosed (signals : List Signal) (id : String) : Bool :=
  match signals.find? (·.id == id) with
  | some s => s.status == .closed
  | none => false

/-- `signals.find(s => s.id === id)` has `parseFloat(totalProfitLoss || '0') > 0`. -/
def signalProfitable (signals : List Signal) (id : String) : Bool :=
  match signals.find? (·.id == id) with
  | some s => decide (0 < s.totalProfitLoss.getD 0)
  | none => false

def withSuccessRate (signals : List Signal) (entry : ContestEntry) : ContestEntry :=
  let closedSignals := entry.signalsSubmitted.filter (signalClosed signals)
  if closedSignals.length > 0 then
    let successfulSignals := closedSignals.filter (signalProfitable signals)
    { entry with successRate := (successfulSignals.length : ℚ) / closedSignals.length * 100 }
  else entry

/-- The two loops of `calculateContestEntries` over the signals the repository returned. -/
def contestEntries (signals : List Signal) : List ContestEntry :=
  (signals.foldl recordSignal []).map (withSuccessRate signals)

def calculateContestEntries (contest : Contest) : ContestM (List ContestEntry) := do
  let signals ← Prog.read (·.signalsBetween contest.startTime contest.endTime)
  pure (contestEntries signals)

def calculateScore (entry : ContestEntry) : ContestMetric → ℚ
  | .highestRoi => entry.totalRoi
  | .bestSuccessRate => entry.successRate
  | .mostVolume => entry.totalVolume
  | .mostFollowers => entry.followerCount

/-- `.sort((a, b) => b.score - a.score)`. `Array.prototype.sort` is stable, so the result is
the one stable sort by descending score, computed here by insertion. -/
def sortByScore (entries : List (String × ℚ)) : List (String × ℚ) :=
  entries.insertionSort fun a b => b.2 ≤ a.2

/-- `Number.prototype.toFixed(digits)` on a value below 10^21 in magnitude: the magnitude
rounded to the nearest multiple of 10^-digits, ties up, with exactly `digits` fraction
digits, after a minus sign for a negative value. -/
def toFixed (digits : Nat) (x : ℚ) : String :=
  let n := (|x| * 10 ^ digits + 1 / 2).floor.toNat
  let m := Nat.toDigits 10 n
  let m := List.replicate (digits + 1 - m.length) '0' ++ m
  let k := m.length - digits
  (if x < 0 then "-" else "") ++ String.mk (m.take k) ++
    (if digits = 0 then "" else "." ++ String.mk (m.drop k))

def distributePrizes (winners : List String) (prizePool : ℚ) : List (String × String) :=
  let total := prizePool
  let prizes := []
  let prizes := match winners[0]? with
    | some w => recordSet prizes w (toFixed 8 (total * (5 / 10)))
    | none => prizes
  let prizes := match winners[1]? with
    | some w => recordSet prizes w (toFixed 8 (total * (3 / 10)))
    | none => prizes
  match winners[2]? with
  | some w => recordSet prizes w (toFixed 8 (total * (2 / 10)))
  | none => prizes

/-- The value `finalizeContest` resolves to. -/
structure FinalizeResult where
  winners : List String
  prizes : List (String × String)
  deriving DecidableEq, Repr

def finalizeContest (env : ContestEnv) (contestId : String) : ContestM FinalizeResult := do
  let contest ← getContest contestId
  let now := env.now
  if now < contest.endTime then
    throw (.badRequest "Contest has not ended yet")
  if contest.status = .finalized then
    throw (.badRequest "Contest already finalized")
  let entries ← calculateContestEntries contest
  let qualifiedEntries := entries.filter fun e => contest.minSignals ≤ e.signalsSubmitted.length
  if qualifiedEntries.length = 0 then
    ContestRepo.save env { contest with status := .finalized, winners := some [] }
    return { winners := [], prizes := [] }
  let sortedEntries := sortByScore (qualifiedEntries.map fun e => (e.provider, calculateScore e contest.metric))
  let winners := (sortedEntries.take 3).map (·.1)
  let prizes := distributePrizes winners contest.prizePool
  ContestRepo.save env { contest with winners := some winners, status := .finalized }
  return { winners, prizes }

end StellarSwipe.Contests
