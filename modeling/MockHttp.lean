import MockHttp.Main
import MockHttp.Template.Path
import MockHttp.Proofs.Regex.PlainSearch
import MockHttp.Proofs.Regex.StepSearch
import MockHttp.Proofs.Regex.Sense
import MockHttp.Proofs.Regex.Writing
import MockHttp.Proofs.Template.Fragment
import MockHttp.Proofs.Template.Language
import MockHttp.Proofs.Template.Store
import MockHttp.Proofs.Server.Selection
import MockHttp.Proofs.Regex.Openings
import MockHttp.Proofs.Template.Splicing
import MockHttp.Proofs.Template.Alignment
import MockHttp.Proofs.Regex.Recall
import MockHttp.Proofs.Template.Recency
import MockHttp.Proofs.Template.Splitting
import MockHttp.Proofs.Template.Filling
import MockHttp.Proofs.Template.Recovery
import MockHttp.Proofs.Template.Segments
import MockHttp.Proofs.Client.Stages
import MockHttp.Proofs.Server.Frame
import MockHttp.Proofs.Http.Headers
import MockHttp.Proofs.Server.Outcomes
import MockHttp.Proofs.Regex.Renumber
import MockHttp.Proofs.Template.Branches
import MockHttp.Proofs.Template.Alternatives
import MockHttp.Proofs.Template.Tokenizing
import MockHttp.Proofs.Members
import MockHttp.Proofs.Text.Digits
import MockHttp.Proofs.Template.Naming
import MockHttp.Proofs.Json.RoundTrip
import MockHttp.Proofs.Server.JsonAnswers
import MockHttp.Proofs.Server.Scan
import MockHttp.Proofs.Server.Unfailing
import MockHttp.Proofs.Server.Fixtures
import MockHttp.Proofs.Template.Relaxing
import MockHttp.Proofs.Middleware.History
import MockHttp.Proofs.Template.Accounting
import MockHttp.Proofs.Server.Registering
import MockHttp.Proofs.Client.Metrics
import MockHttp.Proofs.Template.Guarding
import MockHttp.Proofs.Http.HeaderHistory
import MockHttp.Proofs.Client.Discretion
