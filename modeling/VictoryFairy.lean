import VictoryFairy.Lib.Table
import VictoryFairy.Lib.Runs
import VictoryFairy.Lib.Past
import VictoryFairy.Lib.OneTime
import VictoryFairy.Lib.Packed
import VictoryFairy.Lib.Paging
import VictoryFairy.Lib.Rounding
import VictoryFairy.Lib.Steps
import VictoryFairy.Lib.CheckInsert
import VictoryFairy.Lib.Interference
import VictoryFairy.Model.Errors
import VictoryFairy.Model.Game
import VictoryFairy.Model.RegisteredGame
import VictoryFairy.Model.Rank
import VictoryFairy.Model.User
import VictoryFairy.Model.Database
import VictoryFairy.Model.CoreServices
import VictoryFairy.Model.Terms
import VictoryFairy.Model.Throttler
import VictoryFairy.Model.Migrations
import VictoryFairy.Model.Redis
import VictoryFairy.Model.Application
import VictoryFairy.Model.ScoreJob
import VictoryFairy.Model.RankingQuery
import VictoryFairy.Model.JwtStrategy
import VictoryFairy.Model.Hooks
import VictoryFairy.Model.WarmUp
import VictoryFairy.Model.RankTransactions
import VictoryFairy.Model.RegisterRace
import VictoryFairy.Model.GameJobs
import VictoryFairy.Model.Schedule
import VictoryFairy.Model.ScoreCrawl
import VictoryFairy.Model.Season
import VictoryFairy.Model.Credentials
import VictoryFairy.Model.Sessions
import VictoryFairy.Model.TermRuns
import VictoryFairy.Model.Auth
import VictoryFairy.Model.OneTime
import VictoryFairy.Model.MyPage
import VictoryFairy.Model.GameQuery
import VictoryFairy.Model.CheeringSong
import VictoryFairy.Model.AccountSteps
import VictoryFairy.Model.Likes
import VictoryFairy.Proofs.Requests
import VictoryFairy.Proofs.Accounts
import VictoryFairy.Proofs.Ledger
import VictoryFairy.Proofs.RankRows
import VictoryFairy.Proofs.Rankings
import VictoryFairy.Proofs.Users
import VictoryFairy.Proofs.ProfileCache
import VictoryFairy.Proofs.RankEntries
import VictoryFairy.Proofs.Deletion
import VictoryFairy.Proofs.Credentials
import VictoryFairy.Proofs.Commits
import VictoryFairy.Proofs.Migrations
import VictoryFairy.Proofs.Throttler
import VictoryFairy.Proofs.SocialLogin
import VictoryFairy.Proofs.Images
import VictoryFairy.Proofs.Auth
import VictoryFairy.Proofs.PasswordReset
import VictoryFairy.Proofs.SocialLink
import VictoryFairy.Proofs.SocialUnlink
import VictoryFairy.Proofs.Isolation
import VictoryFairy.Proofs.Logins
import VictoryFairy.Proofs.OneTime
import VictoryFairy.Proofs.Winner
import VictoryFairy.Proofs.ScoreJob
import VictoryFairy.Proofs.RankingEndpoint
import VictoryFairy.Proofs.NearbyRanks
import VictoryFairy.Proofs.UserLookup
import VictoryFairy.Proofs.HookOrder
import VictoryFairy.Proofs.LostUpdate
import VictoryFairy.Proofs.RegisterRace
import VictoryFairy.Proofs.GameJobs
import VictoryFairy.Proofs.Polling
import VictoryFairy.Proofs.Polls
import VictoryFairy.Proofs.DailyCrawl
import VictoryFairy.Proofs.WarmUp
import VictoryFairy.Proofs.Sessions
import VictoryFairy.Proofs.Schedule
import VictoryFairy.Proofs.DoubleHeader
import VictoryFairy.Proofs.SavedLine
import VictoryFairy.Proofs.Season
import VictoryFairy.Proofs.Recrawl
import VictoryFairy.Proofs.Scores
import VictoryFairy.Proofs.MatchupCell
import VictoryFairy.Proofs.ScoreCrawl
import VictoryFairy.Proofs.ScheduleRows
import VictoryFairy.Proofs.GameIds
import VictoryFairy.Proofs.CrawlTwice
import VictoryFairy.Proofs.BadRow
import VictoryFairy.Proofs.InfiniteScroll
import VictoryFairy.Proofs.ScrollProgress
import VictoryFairy.Proofs.KeywordSearch
import VictoryFairy.Proofs.Acceptance
import VictoryFairy.Proofs.Registrations
import VictoryFairy.Proofs.VersusStats
import VictoryFairy.Proofs.Standings
import VictoryFairy.Proofs.Calendar
import VictoryFairy.Proofs.Interference
import VictoryFairy.Proofs.StoredRows
import VictoryFairy.Proofs.AccountSteps
import VictoryFairy.Proofs.Likes
import VictoryFairy.Proofs.TermAgreement
import VictoryFairy.Proofs.TermRuns
import VictoryFairy.Lib.Failures
import VictoryFairy.Model.ErrorFilters
import VictoryFairy.Proofs.Crashes
import VictoryFairy.Proofs.SignUpCrashes
import VictoryFairy.Proofs.ServerErrors
