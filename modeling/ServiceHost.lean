import ServiceHost.Lifecycle.Shutdown
import ServiceHost.Main
import ServiceHost.Proofs.Admin.Reach
import ServiceHost.Proofs.Admin.Start
import ServiceHost.Proofs.Http.Bookkeeping
import ServiceHost.Proofs.Http.Dispatch
import ServiceHost.Proofs.Http.Path
import ServiceHost.Proofs.Http.Served
import ServiceHost.Proofs.Http.Uri
import ServiceHost.Proofs.Lifecycle.Hooks
import ServiceHost.Proofs.Serving.Binding
import ServiceHost.Proofs.Serving.Course
import ServiceHost.Proofs.Serving.Routers
import ServiceHost.Proofs.Bootstrap
import ServiceHost.Proofs.Startup
import ServiceHost.Proofs.Command.Check
import ServiceHost.Proofs.Setup
import ServiceHost.Scenario.Rehearsal
import ServiceHost.Scenario.Workbench
import ServiceHost.Proofs.Log.Levels
import ServiceHost.Proofs.Log.Filter
import ServiceHost.Proofs.Log.Directives
import ServiceHost.Proofs.Health
import ServiceHost.Proofs.Admin.Answers
import ServiceHost.Proofs.Metrics.History
import ServiceHost.Proofs.Metrics.Reporting
import ServiceHost.Proofs.Admin.Caching
import ServiceHost.Proofs.Admin.Frame
import ServiceHost.Proofs.Serving.Counting
import ServiceHost.Proofs.Http.Nesting
import ServiceHost.Proofs.Http.PublicPath
import ServiceHost.Proofs.Http.Segments
import ServiceHost.Proofs.Http.Takes
import ServiceHost.Proofs.Text.Utf8
import ServiceHost.Proofs.AdminClient.Query
import ServiceHost.Proofs.Lifecycle.Shutdown
import ServiceHost.Proofs.Admin.LogTask
import ServiceHost.Proofs.Confinement
import ServiceHost.Proofs.Admin.Confinement
import ServiceHost.Proofs.Serving.Isolation
import ServiceHost.Proofs.Http.Resource
import ServiceHost.Proofs.Log.Configured
import ServiceHost.Proofs.Metrics.Labels
import ServiceHost.Proofs.Decimal.Rounding
import ServiceHost.Proofs.Decimal.Shortest
import ServiceHost.Proofs.Json.Doubles
import ServiceHost.Proofs.Json.Literals
import ServiceHost.Proofs.Json.Reading
import ServiceHost.Proofs.Json.Splitting
import ServiceHost.Proofs.Metrics.ReadBack
import ServiceHost.Proofs.Config.Validation
import ServiceHost.Proofs.Serving.Checks
import ServiceHost.Proofs.Http.Verbs
import ServiceHost.Proofs.Config.Sections
import ServiceHost.Proofs.Demo.Hits
import ServiceHost.Proofs.Metrics.Schedule
