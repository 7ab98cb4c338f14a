import SenderPolicy.Api
import SenderPolicy.CommandLine.Run
import SenderPolicy.Main
import SenderPolicy.Proofs.CommandLine.ExitStatus
import SenderPolicy.Proofs.Dns.Acceptance
import SenderPolicy.Proofs.Dns.Sizes
import SenderPolicy.Proofs.Dns.Stability
import SenderPolicy.Proofs.Dns.Texts
import SenderPolicy.Proofs.Dns.Truncation
import SenderPolicy.Proofs.Dns.Walk
import SenderPolicy.Proofs.Lookup.Accounting
import SenderPolicy.Proofs.Lookup.Approval
import SenderPolicy.Proofs.Lookup.Dependence
import SenderPolicy.Proofs.Lookup.Document
import SenderPolicy.Proofs.Lookup.Faithful
import SenderPolicy.Proofs.Lookup.Itinerary
import SenderPolicy.Proofs.Lookup.QueryCount
import SenderPolicy.Proofs.Lookup.Refinement
import SenderPolicy.Proofs.Lookup.Relocation
import SenderPolicy.Proofs.Lookup.Session
import SenderPolicy.Proofs.Lookup.Spelling
import SenderPolicy.Proofs.Lookup.Termination
import SenderPolicy.Proofs.Record.Redisplay
import SenderPolicy.Proofs.Record.Rules
import SenderPolicy.Proofs.Report.Timing
import SenderPolicy.Proofs.Resolution.Fallback
import SenderPolicy.Proofs.Resolution.JsonDns
import SenderPolicy.Proofs.Resolution.Retry
import SenderPolicy.Proofs.Resolution.Waiting
import SenderPolicy.Proofs.Service.Bookkeeping
import SenderPolicy.Proofs.Service.Deadline
import SenderPolicy.Proofs.Service.Encodings
import SenderPolicy.Proofs.Service.Envelopes
import SenderPolicy.Proofs.Service.RequestedDomain
import SenderPolicy.Proofs.Settings.Nameservers
