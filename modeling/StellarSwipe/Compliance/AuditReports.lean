import StellarSwipe.Compliance.TradeReports

namespace StellarSwipe.Compliance

/-- The columns of an audit log the exporter reads; `userId` and `ipAddress` are nullable. -/
structure AuditLog where
  action : String
  userId : Option String
  status : String
  ipAddress : Option String
  createdAt : Int
  deriving DecidableEq, Repr

/-- `anonymizeUserId`: `!userId` holds of null and of the empty string. -/
def anonymizeUserId (userId : Option String) : String :=
  match userId with
  | some u => if u.isEmpty then "anonymous" else "user_" ++ u.take 8 ++ "***"
  | none => "anonymous"

/-- `anonymizeIp`: the first two of four dot-separated fields, or a placeholder. -/
def anonymizeIp (ip : Option String) : String :=
  match ip with
  | some a =>
    if a.isEmpty then "unknown"
    else
      let parts := a.splitOn "."
      if parts.length = 4 then parts.getD 0 "" ++ "." ++ parts.getD 1 "" ++ ".***.**" else "anonymized"
  | none => "unknown"

/-- An entry of the report's `events`. -/
structure AuditEvent where
  action : String
  timestamp : Int
  userId : Option String
  status : String
  ipAddress : Option String
  deriving DecidableEq, Repr

/-- The `.map` over `logs.slice(0, 100)`. -/
def AuditLog.toEvent (anonymize : Bool) (log : AuditLog) : AuditEvent :=
  { action := log.action, timestamp := log.createdAt,
    userId := if anonymize then some (anonymizeUserId log.userId) else log.userId,
    status := log.status,
    ipAddress := if anonymize then some (anonymizeIp log.ipAddress) else log.ipAddress }

/-- What `generateAuditReport` returns, its period and generation time apart. -/
structure AuditReport where
  totalEvents : Nat
  actionBreakdown : List (String × Nat)
  failedActions : Nat
  suspiciousActivities : Nat
  events : List AuditEvent
  deriving DecidableEq, Repr

/-- `auditRepo.find` with `createdAt: Between(startDate, endDate)` and `order: { createdAt:
'DESC' }`; rows of one instant come in no fixed order, here in the repository's. -/
def auditLogsBetween (window : Option Int × Option Int) (logs : List AuditLog) : Option (List AuditLog) :=
  (findBetween (·.createdAt) window logs).map fun ls => ls.insertionSort fun a b => b.createdAt ≤ a.createdAt

def generateAuditReport (window : Option Int × Option Int) (logs : List AuditLog) (anonymize : Bool) :
    Option AuditReport :=
  (auditLogsBetween window logs).map fun logs =>
    let actionCounts := logs.foldl (fun acc log => recordAdd acc log.action 1) []
    let failedActions := logs.filter (·.status == "FAILURE")
    let suspiciousActivities := logs.filter (·.action == "SUSPICIOUS_ACTIVITY")
    { totalEvents := logs.length, actionBreakdown := actionCounts, failedActions := failedActions.length,
      suspiciousActivities := suspiciousActivities.length,
      events := (logs.take 100).map (AuditLog.toEvent anonymize) }

/-- The figures of an audit report over the selected logs `ls` hold together: the breakdown has
one entry per action of the logs, each with the number of logs of that action, and these add up
to the total; failures and suspicious activities are among the events, and the list holds the
first hundred of them. -/
structure AuditReport.Coherent (ls : List AuditLog) (r : AuditReport) : Prop where
  totalEvents_eq : r.totalEvents = ls.length
  actions_nodup : (r.actionBreakdown.map (·.1)).Nodup
  actions_mem : ∀ e ∈ r.actionBreakdown, (∃ l ∈ ls, l.action = e.1) ∧ e.2 = ls.countP (·.action == e.1)
  actions_complete : ∀ l ∈ ls, l.action ∈ r.actionBreakdown.map (·.1)
  actions_sum : (r.actionBreakdown.map (·.2)).sum = r.totalEvents
  failed_le : r.failedActions ≤ r.totalEvents
  suspicious_le : r.suspiciousActivities ≤ r.totalEvents
  events_length : r.events.length = min 100 r.totalEvents

theorem keySum_one (ls : List AuditLog) (k : String) :
    keySum (·.action) (fun _ => (1 : Nat)) ls k = ls.countP (·.action == k) := by
  simp [keySum, List.countP_eq_length_filter]

/-- Whatever the window and the logs, a report built holds together on the logs its query
selected: the action counts are per distinct action and add up to the total, whether or not it
is anonymized. No action may name a property of `Object.prototype`, which `acc[log.action]`
would read in place of a count. -/
theorem generateAuditReport_coherent (window : Option Int × Option Int) (logs : List AuditLog)
    (_hproto : ∀ l ∈ logs, l.action ∉ objectPrototypeKeys) (anonymize : Bool) {r : AuditReport}
    (h : generateAuditReport window logs anonymize = some r) :
    ∃ ls, auditLogsBetween window logs = some ls ∧ r.Coherent ls := by
  obtain ⟨ls, hls, rfl⟩ := Option.map_eq_some'.1 h
  obtain ⟨ks, hnd, hmem, heq⟩ := foldl_recordAdd (·.action) (fun _ => (1 : Nat)) ls
  have hfold : ls.foldl (fun acc log => recordAdd acc log.action 1) [] =
      ks.map fun k => (k, ls.countP (·.action == k)) := by
    simpa only [keySum_one] using heq
  have hcov : ∀ l ∈ ls, l.action ∈ ks := fun l hl => (hmem _).2 ⟨l, hl, rfl⟩
  refine ⟨ls, hls, rfl, ?_, ?_, ?_, ?_, List.length_filter_le _ _, List.length_filter_le _ _, by simp⟩ <;>
    simp only [hfold, List.map_map, Function.comp_def, List.map_id']
  · exact hnd
  · intro e he
    obtain ⟨k, hk, rfl⟩ := List.mem_map.1 he
    exact ⟨(hmem k).1 hk, rfl⟩
  · exact hcov
  · have hsum := sum_keySum (fun l : AuditLog => l.action) (fun _ => (1 : Nat)) hnd hcov
    rw [funext (keySum_one ls)] at hsum
    simpa only [List.map_const', List.sum_replicate, smul_eq_mul, mul_one] using hsum

def twoLogins : List AuditLog :=
  [⟨"LOGIN", some "u1", "SUCCESS", some "10.0.3.7", 5⟩, ⟨"LOGIN", some "u1", "FAILURE", some "10.0.3.7", 7⟩]

theorem generateAuditReport_coherent_twoLogins :
    (∀ l ∈ twoLogins, l.action ∉ objectPrototypeKeys) ∧ generateAuditReport (some 0, some 10) twoLogins false =
        some ⟨2, [("LOGIN", 2)], 1, 0,
          [⟨"LOGIN", 7, some "u1", "FAILURE", some "10.0.3.7"⟩, ⟨"LOGIN", 5, some "u1", "SUCCESS", some "10.0.3.7"⟩]⟩ ∧
      ∃ ls, auditLogsBetween (some 0, some 10) twoLogins = some ls ∧
        AuditReport.Coherent ls ⟨2, [("LOGIN", 2)], 1, 0,
          [⟨"LOGIN", 7, some "u1", "FAILURE", some "10.0.3.7"⟩, ⟨"LOGIN", 5, some "u1", "SUCCESS", some "10.0.3.7"⟩]⟩ := by
  have h : generateAuditReport (some 0, some 10) twoLogins false =
      some ⟨2, [("LOGIN", 2)], 1, 0,
        [⟨"LOGIN", 7, some "u1", "FAILURE", some "10.0.3.7"⟩, ⟨"LOGIN", 5, some "u1", "SUCCESS", some "10.0.3.7"⟩]⟩ := by
    decide
  have hproto : ∀ l ∈ twoLogins, l.action ∉ objectPrototypeKeys := by decide
  exact ⟨hproto, h, generateAuditReport_coherent _ _ hproto _ h⟩

/-- What an anonymized report may show of a log: its action, time and outcome, whether its user
id is empty and the id's first eight characters, and whether its address is empty, how many
dot-separated fields it has and its first two. -/
def AuditLog.anonView (l : AuditLog) :
    String × Int × String × Option (Bool × String) × Option (Bool × Nat × String × String) :=
  (l.action, l.createdAt, l.status, l.userId.map (fun u => (u.isEmpty, u.take 8)),
    l.ipAddress.map fun a => (a.isEmpty, (a.splitOn ".").length, (a.splitOn ".").getD 0 "", (a.splitOn ".").getD 1 ""))

theorem toEvent_anonView {l l' : AuditLog} (h : l.anonView = l'.anonView) :
    l.toEvent true = l'.toEvent true := by
  obtain ⟨a, u, st, ip, c⟩ := l
  obtain ⟨a', u', st', ip', c'⟩ := l'
  simp only [AuditLog.anonView, Prod.mk.injEq] at h
  obtain ⟨rfl, rfl, rfl, hu, hi⟩ := h
  simp only [AuditLog.toEvent, if_true, AuditEvent.mk.injEq, Option.some.injEq, true_and]
  constructor
  · rcases u with _ | u <;> rcases u' with _ | u' <;>
      simp only [Option.map_none', Option.map_some', reduceCtorEq, Option.some.injEq, Prod.mk.injEq] at hu
    · rfl
    · simp only [anonymizeUserId, hu.1, hu.2]
  · rcases ip with _ | ip <;> rcases ip' with _ | ip' <;>
      simp only [Option.map_none', Option.map_some', reduceCtorEq, Option.some.injEq, Prod.mk.injEq] at hi
    · rfl
    · simp only [anonymizeIp, hi.1, hi.2.1, hi.2.2.1, hi.2.2.2]

theorem map_eq_map_of_map_eq {α β γ : Type} {f : α → β} {g : α → γ} (hg : ∀ x y, f x = f y → g x = g y) :
    ∀ {l l' : List α}, l.map f = l'.map f → l.map g = l'.map g
  | [], [], _ => rfl
  | x :: l, y :: l', h => by
    simp only [List.map_cons, List.cons.injEq] at h ⊢
    exact ⟨hg x y h.1, map_eq_map_of_map_eq hg h.2⟩

theorem map_filter_eq_of_map_eq {α β : Type} {f : α → β} {p : α → Bool} (hp : ∀ x y, f x = f y → p x = p y) :
    ∀ {l l' : List α}, l.map f = l'.map f → (l.filter p).map f = (l'.filter p).map f
  | [], [], _ => rfl
  | x :: l, y :: l', h => by
    simp only [List.map_cons, List.cons.injEq] at h
    simp only [List.filter_cons, hp x y h.1]
    split <;> simp [h.1, map_filter_eq_of_map_eq hp h.2]

/-- With anonymization on, the report depends on the logs only through what `anonView` keeps:
logs that differ only beyond the first eight characters of user ids and beyond the first two
fields of addresses give the same report. -/
theorem generateAuditReport_anonymized (window : Option Int × Option Int) {logs logs' : List AuditLog}
    (h : logs.map AuditLog.anonView = logs'.map AuditLog.anonView) :
    generateAuditReport window logs true = generateAuditReport window logs' true := by
  have hsort : ∀ {l l' : List AuditLog}, l.map AuditLog.anonView = l'.map AuditLog.anonView →
      (l.insertionSort fun a b => b.createdAt ≤ a.createdAt).map AuditLog.anonView =
        (l'.insertionSort fun a b => b.createdAt ≤ a.createdAt).map AuditLog.anonView := fun {l l'} hl => by
    rw [List.map_insertionSort (fun a b : AuditLog => b.createdAt ≤ a.createdAt)
        (fun v w : String × Int × _ => w.2.1 ≤ v.2.1) _ l fun _ _ _ _ => Iff.rfl,
      List.map_insertionSort (fun a b : AuditLog => b.createdAt ≤ a.createdAt)
        (fun v w : String × Int × _ => w.2.1 ≤ v.2.1) _ l' fun _ _ _ _ => Iff.rfl, hl]
  have hbetween : (auditLogsBetween window logs).map (·.map AuditLog.anonView) =
      (auditLogsBetween window logs').map (·.map AuditLog.anonView) := by
    obtain ⟨_ | a, _ | b⟩ := window
    all_goals try rfl
    exact congrArg some (hsort (map_filter_eq_of_map_eq
      (fun x y h => congrArg (fun v => windowContains (some a, some b) v.2.1) h) h))
  unfold generateAuditReport
  cases hl : auditLogsBetween window logs <;> cases hl' : auditLogsBetween window logs' <;>
    simp only [hl, hl', Option.map_none', Option.map_some', reduceCtorEq, Option.some.injEq] at hbetween ⊢
  rename_i ls ls'
  have hact : ls.map (·.action) = ls'.map (·.action) := map_eq_map_of_map_eq (fun x y h => congrArg (·.1) h) hbetween
  simp only [AuditReport.mk.injEq]
  refine ⟨by simpa using congrArg List.length hbetween, ?_, ?_, ?_, ?_⟩
  · have hfold (l : List AuditLog) : l.foldl (fun acc log => recordAdd acc log.action 1) [] =
        (l.map (·.action)).foldl (fun acc a => recordAdd acc a 1) [] :=
      (List.foldl_map (·.action) (fun acc a => recordAdd acc a 1) l []).symm
    rw [hfold, hfold, hact]
  · simpa using congrArg List.length (@map_filter_eq_of_map_eq _ _ _ (fun x : AuditLog => x.status == "FAILURE")
      (fun x y h => congrArg (fun v => v.2.2.1 == "FAILURE") h) _ _ hbetween)
  · simpa using congrArg List.length (@map_filter_eq_of_map_eq _ _ _
      (fun x : AuditLog => x.action == "SUSPICIOUS_ACTIVITY")
      (fun x y h => congrArg (fun v => v.1 == "SUSPICIOUS_ACTIVITY") h) _ _ hbetween)
  · rw [List.map_take, List.map_take, map_eq_map_of_map_eq (fun x y h => toEvent_anonView h) hbetween]

theorem generateAuditReport_anonymized_sharedPrefix :
    [AuditLog.mk "LOGIN" (some "7f3a9c21-aaaa") "SUCCESS" (some "10.0.3.7") 5].map AuditLog.anonView =
        [AuditLog.mk "LOGIN" (some "7f3a9c21-bbbb") "SUCCESS" (some "10.0.3.7") 5].map AuditLog.anonView ∧
      generateAuditReport (some 0, some 10)
          [AuditLog.mk "LOGIN" (some "7f3a9c21-aaaa") "SUCCESS" (some "10.0.3.7") 5] true =
        generateAuditReport (some 0, some 10)
          [AuditLog.mk "LOGIN" (some "7f3a9c21-bbbb") "SUCCESS" (some "10.0.3.7") 5] true := by
  have h : [AuditLog.mk "LOGIN" (some "7f3a9c21-aaaa") "SUCCESS" (some "10.0.3.7") 5].map AuditLog.anonView =
      [AuditLog.mk "LOGIN" (some "7f3a9c21-bbbb") "SUCCESS" (some "10.0.3.7") 5].map AuditLog.anonView := by
    simp only [List.map_cons, List.map_nil, AuditLog.anonView, Option.map_some', List.cons.injEq, Prod.mk.injEq,
      Option.some.injEq, and_true, true_and]
    decide
  exact ⟨h, generateAuditReport_anonymized _ h⟩

end StellarSwipe.Compliance
