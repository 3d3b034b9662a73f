import StellarSwipe.Prog
import StellarSwipe.Builtins
import StellarSwipe.Kyc.Entities
import StellarSwipe.Kyc.Providers
import StellarSwipe.Kyc.Service
import StellarSwipe.Kyc.Effects
import StellarSwipe.Kyc.System
import StellarSwipe.Kyc.ActiveLevel
import StellarSwipe.Kyc.Lifecycle
import StellarSwipe.Kyc.AuditTrail
import StellarSwipe.Kyc.LevelEvents
import StellarSwipe.Kyc.Pending
import StellarSwipe.Kyc.Expiry
import StellarSwipe.Kyc.Redelivery
import StellarSwipe.Kyc.Rollback
import StellarSwipe.Kyc.Signatures
import StellarSwipe.Kyc.Routing
import StellarSwipe.Contests.Service
import StellarSwipe.Contests.Finalize
import StellarSwipe.Contests.Decimal
import StellarSwipe.Contests.Prizes
import StellarSwipe.Contests.Entries
import StellarSwipe.Contests.Ranking
import StellarSwipe.Contests.Leaderboard
import StellarSwipe.Compliance.Dates
import StellarSwipe.Compliance.Reports
import StellarSwipe.Compliance.TradeReports
import StellarSwipe.Safety
import StellarSwipe.Contests.Lifecycle
import StellarSwipe.Compliance.AuditReports
import StellarSwipe.Compliance.MonthlyReport
import StellarSwipe.Compliance.Service
import StellarSwipe.Sentiment.Analyzer
import StellarSwipe.Kyc.Concurrent
import StellarSwipe.Kyc.Report
