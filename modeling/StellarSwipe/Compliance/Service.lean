import Mathlib.Data.String.Basic
import StellarSwipe.Compliance.AuditReports

namespace StellarSwipe.Compliance

/-- How a compliance request fails: an `Error` the code throws, with its message, or a query
the database rejects. -/
inductive ServiceError
  | error (message : String)
  | queryFailed
  deriving DecidableEq, Repr

theorem intercalate_cons_eq {α : Type} (sep x : List α) (xs : List (List α)) :
    sep.intercalate (x :: xs) = x ++ (xs.map (sep ++ ·)).flatten := by
  induction xs generalizing x with
  | nil => simp [List.intercalate]
  | cons y ys ih =>
    rw [List.intercalate, List.intersperse_cons₂, List.flatten_cons, List.flatten_cons, ← List.intercalate, ih]
    simp [List.append_assoc]

theorem data_intercalate_go (s : String) :
    ∀ (acc : String) (l : List String),
      (String.intercalate.go acc s l).data = acc.data ++ (l.map fun a => s.data ++ a.data).flatten
  | acc, [] => by simp [String.intercalate.go]
  | acc, a :: l => by
    rw [String.intercalate.go, data_intercalate_go s _ l]
    simp [List.append_assoc]

theorem data_intercalate (s a : String) (l : List String) :
    (s.intercalate (a :: l)).data = s.data.intercalate ((a :: l).map String.data) := by
  rw [String.intercalate, data_intercalate_go, List.map_cons, intercalate_cons_eq, List.map_map]
  rfl

theorem intercalate_cons_cons (s a b : String) (l : List String) :
    s.intercalate (a :: b :: l) = a ++ s ++ s.intercalate (b :: l) := by
  apply String.ext
  simp only [String.intercalate, data_intercalate_go, String.data_append, List.map_cons, List.flatten_cons,
    List.append_assoc]

theorem mem_intercalate {α : Type} {c : α} {sep x : List α} {xs : List (List α)}
    (h : c ∈ sep.intercalate (x :: xs)) : c ∈ sep ∨ ∃ l ∈ x :: xs, c ∈ l := by
  rw [intercalate_cons_eq] at h
  simp only [List.mem_append, List.mem_flatten, List.mem_map, exists_exists_and_eq_and] at h
  rcases h with h | ⟨l, hl, h | h⟩
  · exact .inr ⟨x, List.mem_cons_self _ _, h⟩
  · exact .inl h
  · exact .inr ⟨l, List.mem_cons_of_mem _ hl, h⟩

theorem split_intercalate (c : Char) {fields : List String} (hne : fields ≠ []) (hc : ∀ f ∈ fields, c ∉ f.data) :
    ((String.mk [c]).intercalate fields).split (· == c) = fields := by
  obtain ⟨f, fs, rfl⟩ := List.exists_cons_of_ne_nil hne
  rw [String.split_of_valid]
  change (((String.mk [c]).intercalate (f :: fs)).data.splitOn c).map String.mk = f :: fs
  rw [data_intercalate, List.splitOn_intercalate _ c (by simpa using hc) (by simp), List.map_map]
  exact List.map_id' _

structure User where
  id : String
  walletAddress : String
  createdAt : Int
  role : String
  kycStatus : String
  deriving DecidableEq, Repr

/-- The columns of a trade the user export reads: DECIMAL columns are the strings the driver
returns, and `pnl` is nullable. -/
structure TradeRecord where
  id : String
  userId : String
  baseAsset : String
  quoteAsset : String
  amount : String
  price : String
  side : String
  status : String
  pnl : Option String
  createdAt : Int
  deriving DecidableEq, Repr

structure SignalRecord where
  id : String
  providerId : String
  assetPair : String
  direction : String
  entryPrice : String
  targetPrice : String
  stopLoss : String
  status : String
  createdAt : Int
  deriving DecidableEq, Repr

structure ExportTables where
  users : List User
  trades : List TradeRecord
  signals : List SignalRecord
  auditLogs : List AuditLog

/-- An entry of the export's `trades`. -/
structure ExportedTrade where
  id : String
  date : Int
  assetPair : String
  amount : String
  price : String
  side : String
  status : String
  pnl : Option String
  deriving DecidableEq, Repr

def TradeRecord.toExported (t : TradeRecord) : ExportedTrade :=
  ⟨t.id, t.createdAt, t.baseAsset ++ "/" ++ t.quoteAsset, t.amount, t.price, t.side, t.status, t.pnl⟩

/-- An entry of the export's `signals`. -/
structure ExportedSignal where
  id : String
  date : Int
  assetPair : String
  direction : String
  entryPrice : String
  targetPrice : String
  stopLoss : String
  status : String
  deriving DecidableEq, Repr

def SignalRecord.toExported (s : SignalRecord) : ExportedSignal :=
  ⟨s.id, s.createdAt, s.assetPair, s.direction, s.entryPrice, s.targetPrice, s.stopLoss, s.status⟩

/-- An entry of the export's `auditLog`. -/
structure ExportedAuditEntry where
  action : String
  timestamp : Int
  ipAddress : Option String
  status : String
  deriving DecidableEq, Repr

def AuditLog.toExported (a : AuditLog) : ExportedAuditEntry :=
  ⟨a.action, a.createdAt, a.ipAddress, a.status⟩

/-- The export's `user`. -/
structure ExportedUser where
  walletAddress : String
  createdAt : Int
  role : String
  kycStatus : String
  deriving DecidableEq, Repr

/-- What `UserDataExporterService.exportUserData` returns; `exportedAt` is the time it ran. -/
structure UserExport where
  user : ExportedUser
  trades : List ExportedTrade
  signals : List ExportedSignal
  auditLog : List ExportedAuditEntry
  exportedAt : Int
  deriving DecidableEq, Repr

/-- A `find` with `where: { <owner>, ...(dateFilter && { createdAt: dateFilter }) }` and
`order: { createdAt: 'DESC' }`: the owner's rows, of the window when there is a date filter,
newest first. -/
def findOwned {ρ : Type} (owned : ρ → Bool) (createdAt : ρ → Int) (dateFilter : Option (Option Int × Option Int))
    (rows : List ρ) : Option (List ρ) :=
  let mine := rows.filter owned
  (match dateFilter with
    | none => some mine
    | some window => findBetween createdAt window mine).map fun (ls : List ρ) =>
      ls.insertionSort fun a b => createdAt b ≤ createdAt a

/-- `UserDataExporterService.exportUserData(userId, startDate?, endDate?)` run at `now`. A date
is `none` when it is not passed and `some none` when it is the invalid date; the three queries of
the `Promise.all` fail together when one of them does. -/
def UserDataExporterService.exportUserData (tables : ExportTables) (now : Int) (userId : String) (startDate endDate : Option (Option Int)) :
    Except ServiceError UserExport := do
  let some user := tables.users.find? (·.id == userId) | throw (.error "User not found")
  let dateFilter := match startDate, endDate with
    | some s, some e => some (s, e)
    | _, _ => none
  let some trades := findOwned (·.userId == userId) (·.createdAt) dateFilter tables.trades | throw .queryFailed
  let some signals := findOwned (·.providerId == userId) (·.createdAt) dateFilter tables.signals
    | throw .queryFailed
  let some auditLogs := findOwned (·.userId == some userId) (·.createdAt) dateFilter tables.auditLogs
    | throw .queryFailed
  pure { user := ⟨user.walletAddress, user.createdAt, user.role, user.kycStatus⟩,
         trades := trades.map TradeRecord.toExported,
         signals := signals.map SignalRecord.toExported,
         auditLog := (auditLogs.take 1000).map AuditLog.toExported,
         exportedAt := now }

/-- What `GdprReportGenerator.generateGdprExport` returns, its `exportDate` apart. -/
structure GdprExport where
  data : UserExport
  encrypted : Bool
  gdprCompliant : Bool
  dataCategories : List String
  rightsNotice : String
  deriving DecidableEq, Repr

/-- `generateGdprExport(userId)` run at `now`: the user's whole export, without dates. -/
def GdprReportGenerator.generateGdprExport (tables : ExportTables) (now : Int) (userId : String) :
    Except ServiceError GdprExport := do
  let userData ← UserDataExporterService.exportUserData tables now userId none none
  pure { data := userData, encrypted := false, gdprCompliant := true,
         dataCategories := ["Personal Information", "Trading History", "Signal Submissions", "Audit Logs"],
         rightsNotice := "This export includes all personal data as per GDPR Article 15 (Right of Access)" }

/-- `Object.keys(data.trades[0])`: the keys of an exported trade, in the order of its literal. -/
def exportedTradeKeys : List String := ["id", "date", "assetPair", "amount", "price", "side", "status", "pnl"]

/-- `Object.values(trade)` as `join` prints them: the date as the host's `Date.prototype.toString`
prints it, and a null `pnl` as the empty string. -/
def ExportedTrade.csvValues (dateString : Int → String) (t : ExportedTrade) : List String :=
  [t.id, dateString t.date, t.assetPair, t.amount, t.price, t.side, t.status, t.pnl.getD ""]

/-- `convertToCSV(data)`: the empty string without trades, else the keys of the first trade and
one line of values per trade. -/
def convertToCSV (dateString : Int → String) (data : UserExport) : String :=
  match data.trades with
  | [] => ""
  | _ :: _ =>
    ",".intercalate exportedTradeKeys ++ "\n" ++
      "\n".intercalate (data.trades.map fun t => ",".intercalate (t.csvValues dateString))

/-- How a reader of the file takes it apart: its lines, then each line's comma-separated fields. -/
def parseCSV (text : String) : List (List String) :=
  (text.split (· == '\n')).map fun line => line.split (· == ',')

/-- A field that holds neither a comma nor a line break. -/
def CsvSafe (v : String) : Prop := ',' ∉ v.data ∧ '\n' ∉ v.data

instance : DecidablePred CsvSafe := fun _ => inferInstanceAs (Decidable (_ ∧ _))

theorem newline_not_mem_line {fields : List String} (hne : fields ≠ []) (h : ∀ v ∈ fields, CsvSafe v) :
    '\n' ∉ (",".intercalate fields).data := by
  obtain ⟨f, fs, rfl⟩ := List.exists_cons_of_ne_nil hne
  intro hmem
  rw [data_intercalate] at hmem
  rcases mem_intercalate hmem with hc | ⟨l, hl, hc⟩
  · exact absurd hc (by decide)
  · simp only [List.mem_cons, List.mem_map] at hl
    rcases hl with rfl | ⟨v, hv, rfl⟩
    · exact (h f (List.mem_cons_self _ _)).2 hc
    · exact (h v (List.mem_cons_of_mem _ hv)).2 hc

theorem parseCSV_convertToCSV (dateString : Int → String) {data : UserExport} (hne : data.trades ≠ [])
    (hsafe : ∀ t ∈ data.trades, ∀ v ∈ t.csvValues dateString, CsvSafe v) :
    parseCSV (convertToCSV dateString data) =
      exportedTradeKeys :: data.trades.map (ExportedTrade.csvValues dateString) := by
  have hkeys : ∀ v ∈ exportedTradeKeys, CsvSafe v := by decide
  have hlines : ∀ l ∈ ",".intercalate exportedTradeKeys ::
      data.trades.map (fun t => ",".intercalate (t.csvValues dateString)), '\n' ∉ l.data := by
    simp only [List.mem_cons, List.mem_map]
    rintro l (rfl | ⟨t, ht, rfl⟩)
    · exact newline_not_mem_line (by decide) hkeys
    · exact newline_not_mem_line (by simp [ExportedTrade.csvValues]) (hsafe t ht)
  obtain ⟨t, ts, hts⟩ := List.exists_cons_of_ne_nil hne
  have htext : convertToCSV dateString data = "\n".intercalate (",".intercalate exportedTradeKeys ::
      data.trades.map fun t => ",".intercalate (t.csvValues dateString)) := by
    rw [convertToCSV, hts, List.map_cons, intercalate_cons_cons]
  rw [parseCSV, htext, show "\n" = String.mk ['\n'] from rfl, split_intercalate '\n' (List.cons_ne_nil _ _) hlines,
    List.map_cons, List.map_map, show "," = String.mk [','] from rfl,
    split_intercalate ',' (by decide) fun v hv => (hkeys v hv).1]
  congr 1
  refine List.map_congr_left fun t ht => ?_
  exact split_intercalate ',' (by simp [ExportedTrade.csvValues]) fun v hv => (hsafe t ht v hv).1

inductive ExportFormat
  | json
  | csv
  | pdf
  deriving DecidableEq, Repr

/-- The string value of an `ExportFormat`. -/
def ExportFormat.value : ExportFormat → String
  | .json => "json"
  | .csv => "csv"
  | .pdf => "pdf"

/-- What an export depends on besides the tables: `JSON.stringify(_, null, 2)`, AES-256-CBC under
the key `scryptSync(ENCRYPTION_KEY, 'salt', 32)` (from an IV and the plaintext's bytes to the
ciphertext's), and the IV `randomBytes(16)` draws. Printing and the cipher are not modelled. -/
structure ExportCodec where
  stringify : UserExport → String
  aes : List UInt8 → List UInt8 → List UInt8
  iv : List UInt8

/-- `encryptFile(content)`: the IV and the ciphertext of the UTF-8 bytes of `content`, in hex,
as `JSON.stringify({ iv, data })` prints them. -/
def ExportCodec.encryptFile (codec : ExportCodec) (content : String) : String :=
  "\x7b\"iv\":\"" ++ String.mk (hexEncode codec.iv) ++ "\",\"data\":\"" ++
    String.mk (hexEncode (codec.aes codec.iv content.toUTF8.toList)) ++ "\"\x7d"

/-- A file `exportUserData` writes to the export directory. -/
structure ExportFile where
  fileName : String
  content : String
  deriving DecidableEq, Repr

/-- `ComplianceService.exportUserData(userId, format)` run at `now`: the exporter is called
without dates, and the PDF format fails once the export is read. -/
def ComplianceService.exportUserData (tables : ExportTables) (now : Int) (dateString : Int → String)
    (codec : ExportCodec) (userId : String) (format : ExportFormat) : Except ServiceError ExportFile := do
  let userData ← UserDataExporterService.exportUserData tables now userId none none
  let fileName := "user_export_" ++ userId ++ "_" ++ toString now ++ "." ++ format.value
  let fileContent ← match format with
    | .json => pure (codec.stringify userData)
    | .csv => pure (convertToCSV dateString userData)
    | .pdf => throw (ServiceError.error "PDF format not yet implemented")
  pure ⟨fileName, codec.encryptFile fileContent⟩

/-- `ExportRequestDto`; a format left out of the body is `none`. -/
structure ExportRequestDto where
  format : Option ExportFormat
  startDate : Option String
  endDate : Option String
  deriving DecidableEq, Repr

/-- What `POST compliance/export/user-data` answers. -/
structure ExportResponse where
  message : String
  format : Option ExportFormat
  expiresIn : String
  downloadUrl : String
  deriving DecidableEq, Repr

/-- `filePath.split('/').pop()`. -/
def lastPathSegment (path : String) : String :=
  (path.split (· == '/')).getLastD ""

/-- `ComplianceController.exportUserData(req, dto)` for the user `userId` of the request: the
export in the body's format, the service's default JSON when the body names none, written to
`join(exportDir, fileName)`. -/
def ComplianceController.exportUserData (exportDir : String) (tables : ExportTables) (now : Int)
    (dateString : Int → String) (codec : ExportCodec) (userId : String) (dto : ExportRequestDto) :
    Except ServiceError (ExportResponse × ExportFile) := do
  let file ← ComplianceService.exportUserData tables now dateString codec userId (dto.format.getD .json)
  let filePath := exportDir ++ "/" ++ file.fileName
  pure (⟨"Export initiated successfully", dto.format, "7 days", "/compliance/download/" ++ lastPathSegment filePath⟩,
    file)

theorem findOwned_none {ρ : Type} (owned : ρ → Bool) (createdAt : ρ → Int) (rows : List ρ) :
    findOwned owned createdAt none rows =
      some ((rows.filter owned).insertionSort fun a b => createdAt b ≤ createdAt a) := rfl

/-- Through the export endpoint, the CSV export of a user with trades is written enciphered,
and its plaintext reads back as the header and the values of every trade of the user, newest
first, whatever dates the request names, when no field of these trades holds a comma or a line
break. -/
theorem exportUserData_csv_roundTrip (exportDir : String) (tables : ExportTables) (now : Int)
    (dateString : Int → String) (codec : ExportCodec) (userId : String) (dto : ExportRequestDto)
    (hcsv : dto.format = some .csv) (huser : ∃ u ∈ tables.users, u.id = userId)
    (htrades : ∃ t ∈ tables.trades, t.userId = userId)
    (hsafe : ∀ t ∈ tables.trades, t.userId = userId → ∀ v ∈ t.toExported.csvValues dateString, CsvSafe v) :
    ∃ response text, ComplianceController.exportUserData exportDir tables now dateString codec userId dto =
        .ok (response, ⟨"user_export_" ++ userId ++ "_" ++ toString now ++ "." ++ ExportFormat.csv.value,
          codec.encryptFile text⟩) ∧
      parseCSV text = exportedTradeKeys :: ((tables.trades.filter (·.userId == userId)).insertionSort
        fun a b => b.createdAt ≤ a.createdAt).map fun t => t.toExported.csvValues dateString := by
  obtain ⟨u, hu⟩ : ∃ u, tables.users.find? (·.id == userId) = some u :=
    Option.isSome_iff_exists.1 (List.find?_isSome.2 (by simpa using huser))
  set sorted := (tables.trades.filter (·.userId == userId)).insertionSort fun a b => b.createdAt ≤ a.createdAt
  have hperm : List.Perm sorted (tables.trades.filter (·.userId == userId)) := List.perm_insertionSort _ _
  have hne : sorted.map TradeRecord.toExported ≠ [] := by
    obtain ⟨t, ht, htu⟩ := htrades
    exact List.ne_nil_of_mem (List.mem_map_of_mem _ (hperm.symm.subset (List.mem_filter.2 ⟨ht, by simpa using htu⟩)))
  simp only [ComplianceController.exportUserData, ComplianceService.exportUserData,
    UserDataExporterService.exportUserData, hcsv, hu, findOwned_none, Option.getD_some, pure_bind, bind_pure_comp,
    map_pure]
  refine ⟨_, _, rfl, (parseCSV_convertToCSV dateString hne ?_).trans (by rw [List.map_map]; rfl)⟩
  simp only [List.mem_map]
  rintro _ ⟨t, ht, rfl⟩
  obtain ⟨ht, htu⟩ := List.mem_filter.1 (hperm.subset ht)
  exact hsafe t ht (by simpa using htu)

/-- What `generateComplianceReport` returns, by report type. -/
inductive ReportData
  | tradeVolume (r : TradeVolumeReport)
  | financialSummary (r : FinancialSummary)
  | auditTrail (r : AuditReport)
  deriving DecidableEq

def ofQuery {α : Type} : Option α → Except ServiceError α
  | some a => .ok a
  | none => .error .queryFailed

/-- `ComplianceService.generateComplianceReport(type, startDate, endDate)` over the trade and
audit tables. -/
def ComplianceService.generateComplianceReport (trades : List Trade) (logs : List AuditLog) (type : String)
    (window : Option Int × Option Int) : Except ServiceError ReportData :=
  match type with
  | "trade_volume" => (ofQuery (generateTradeVolumeReport window trades)).map .tradeVolume
  | "financial_summary" => (ofQuery (generateFinancialSummary window trades)).map .financialSummary
  | "audit_trail" => (ofQuery (generateAuditReport window logs true)).map .auditTrail
  | _ => .error (.error ("Unknown report type: " ++ type))

/-- `ReportType`, the types the report endpoint's DTO admits. -/
inductive ReportType
  | tradeVolume
  | amlRisk
  | userActivity
  | financialSummary
  deriving DecidableEq, Repr

/-- The string value of a `ReportType`. -/
def ReportType.value : ReportType → String
  | .tradeVolume => "trade_volume"
  | .amlRisk => "aml_risk"
  | .userActivity => "user_activity"
  | .financialSummary => "financial_summary"

/-- `ComplianceReportDto` once validated: a `ReportType` and two date strings. -/
structure ComplianceReportDto where
  type : ReportType
  startDate : String
  endDate : String
  deriving DecidableEq, Repr

/-- What `POST compliance/reports/generate` answers. -/
structure GeneratedReport where
  reportType : ReportType
  period : String × String
  data : ReportData
  generatedAt : Int
  deriving DecidableEq

/-- `ComplianceController.generateReport(dto)` at `now`; `parseDate` is `new Date(s)` read as a
time value, `none` for the invalid date. -/
def ComplianceController.generateReport (parseDate : String → Option Int) (now : Int) (trades : List Trade)
    (logs : List AuditLog) (dto : ComplianceReportDto) : Except ServiceError GeneratedReport := do
  let report ← ComplianceService.generateComplianceReport trades logs dto.type.value
    (parseDate dto.startDate, parseDate dto.endDate)
  pure ⟨dto.type, (dto.startDate, dto.endDate), report, now⟩

def oneTradeTables : ExportTables :=
  ⟨[⟨"u1", "GABC", 0, "user", "approved"⟩], [⟨"t1", "u1", "XLM", "USDC", "100", "0.12", "buy", "closed", some "5", 1000⟩],
    [], []⟩

def plainCodec : ExportCodec := ⟨fun _ => "", fun _ m => m, List.replicate 16 0⟩

theorem exportUserData_csv_roundTrip_oneTrade :
    ∃ response text, ComplianceController.exportUserData "/tmp/exports" oneTradeTables 2000
        (fun _ => "Thu Jan 01 1970 00:00:01 GMT+0000") plainCodec "u1"
          ⟨some .csv, some "2030-01-01", some "2030-02-01"⟩ =
        .ok (response, ⟨"user_export_" ++ "u1" ++ "_" ++ toString (2000 : Int) ++ "." ++ ExportFormat.csv.value,
          plainCodec.encryptFile text⟩) ∧
      parseCSV text = exportedTradeKeys :: ((oneTradeTables.trades.filter (·.userId == "u1")).insertionSort
        fun a b => b.createdAt ≤ a.createdAt).map fun t => t.toExported.csvValues fun _ => "Thu Jan 01 1970 00:00:01 GMT+0000" :=
  exportUserData_csv_roundTrip _ _ _ _ _ _ _ rfl (by decide) (by decide) (by decide)

end StellarSwipe.Compliance
