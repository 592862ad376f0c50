import IngressController.Annotations.Equality
import IngressController.Annotations.Json
import IngressController.Controller.Json
import IngressController.Controller.MetricsPage
import IngressController.DefaultBackend.Json
import IngressController.Logging.Json
import IngressController.Main
import IngressController.Status.Scene
import IngressController.TcpService.Json
import IngressController.Proofs.Status.Publication
import IngressController.Proofs.Status.Decision
import IngressController.Proofs.Status.Withdrawal
import IngressController.Proofs.Status.InFlight
import IngressController.Proofs.Status.Overlap
import IngressController.Proofs.Status.Leading
import IngressController.Proofs.Status.LastPod
import IngressController.Proofs.Annotations.Degraded
import IngressController.Proofs.Annotations.Reading
import IngressController.Proofs.Annotations.Extraction
import IngressController.Proofs.Annotations.Ownership
import IngressController.Proofs.Annotations.Fallback
import IngressController.Proofs.Annotations.Cascade
import IngressController.Proofs.Annotations.Inline
import IngressController.Proofs.Annotations.TextForms
import IngressController.Proofs.Annotations.ServerAuthority
import IngressController.Proofs.NameReference
import IngressController.Proofs.Stores
import IngressController.Proofs.DefaultBackend
import IngressController.Proofs.Configuration.Passes
import IngressController.Proofs.Configuration.History
import IngressController.Proofs.Configuration.Bookkeeping
import IngressController.Proofs.Configuration.HandOff
import IngressController.Proofs.TcpService.Table
import IngressController.Proofs.TcpService.Port
import IngressController.Proofs.TcpService.Directive
import IngressController.Proofs.TcpService.Selection
import IngressController.Proofs.TcpService.Endpoints
import IngressController.Proofs.TcpService.Verdict
import IngressController.Proofs.TcpService.Spelling
import IngressController.Proofs.TcpService.Unsynced
import IngressController.Proofs.Metrics
import IngressController.Proofs.Text.Map
import IngressController.Proofs.Text.Numeral
import IngressController.Proofs.Text.Fields
import IngressController.Proofs.Queue
import IngressController.Proofs.Leadership
import IngressController.Proofs.Election.Elector
import IngressController.Proofs.Election.Candidate
import IngressController.Proofs.Status.Run
import IngressController.Proofs.Status.Moments
import IngressController.Proofs.Status.Refetch
import IngressController.Proofs.Status.SteadyState
import IngressController.Proofs.Status.Addresses
import IngressController.Proofs.Status.RunningAddresses
import IngressController.Proofs.Status.RunEvents
import IngressController.Proofs.Status.Stopping
import IngressController.Proofs.Annotations.Equality
import IngressController.Proofs.Address.RoundTrip
import IngressController.Proofs.AllowList
import IngressController.Proofs.Annotations.Whitelist
import IngressController.Proofs.Annotations.AnyOrder
import IngressController.Proofs.Annotations.InheritedClients
import IngressController.Proofs.Annotations.Comparison
import IngressController.Proofs.Annotations.OlderKey
import IngressController.Proofs.Api.Publication
import IngressController.Proofs.IngressClass
import IngressController.Proofs.Controller.Steps
import IngressController.Proofs.Controller.Writes
import IngressController.Proofs.Controller.Shutdown
import IngressController.Proofs.Controller.StartUp
import IngressController.Proofs.JoinedNames
import IngressController.Proofs.Api.Pages
import IngressController.Proofs.Pool.RunBatch
