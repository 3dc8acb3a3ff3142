import Gatehouse.Filter.Document
import Gatehouse.Server.Handler
import Gatehouse.Settings
import Gatehouse.Proofs.Auth.CurrentToken
import Gatehouse.Proofs.Auth.ReportedExpiry
import Gatehouse.Proofs.Auth.Races
import Gatehouse.Proofs.Filter.Meaning
import Gatehouse.Proofs.Filter.Rendering
import Gatehouse.Proofs.Filter.Conservation
import Gatehouse.Proofs.Filter.Translation
import Gatehouse.Proofs.Query.SortOrder
import Gatehouse.Proofs.Query.Selection
import Gatehouse.Proofs.Query.Refusal
import Gatehouse.Proofs.Filter.Grammar
import Gatehouse.Proofs.Server.Changes
import Gatehouse.Proofs.Server.TokenSubjects
import Gatehouse.Proofs.Auth.Authenticity
import Gatehouse.Proofs.Server.Refusals
import Gatehouse.Proofs.Server.Listing
import Gatehouse.Proofs.Server.Chronology
import Gatehouse.Proofs.Users.Runs
import Gatehouse.Proofs.Auth.Isolation
import Gatehouse.Proofs.Server.AdminOnly
import Gatehouse.Proofs.Server.Contest
import Gatehouse.Proofs.Server.Credentials
import Gatehouse.Proofs.Auth.RecordRuns
import Gatehouse.Proofs.Auth.TokenKinds
import Gatehouse.Proofs.Server.PasswordChange
import Gatehouse.Proofs.Server.HashSecrecy
import Gatehouse.Proofs.Server.Correlation
import Gatehouse.Proofs.Auth.Lifetimes
import Gatehouse.Proofs.Auth.Agreement
import Gatehouse.Proofs.Server.NormalForm
import Gatehouse.Proofs.Query.Paging
import Gatehouse.Proofs.Query.NullFields
import Gatehouse.Proofs.Query.Integers
import Gatehouse.Proofs.Query.Exclusion
import Gatehouse.Proofs.Instant.Truncation
import Gatehouse.Proofs.Users.ProfileTable
import Gatehouse.Proofs.Auth.Restarts
