import Lookout.Consul
import Lookout.Debouncer.Wait
import Lookout.Dict.Lemmas
import Lookout.Discovery
import Lookout.Json.Writer
import Lookout.Resolver.Run
import Lookout.Resolver.Setup
import Lookout.Registry.Run
import Lookout.Proofs.Config
import Lookout.Proofs.Registry
import Lookout.Proofs.Registry.Step
import Lookout.Proofs.Registry.Acceptance
import Lookout.Proofs.Registry.Isolation
import Lookout.Proofs.Resolver.Ledger
import Lookout.Proofs.Resolver.Orderly
import Lookout.Proofs.Resolver.Revision
import Lookout.Proofs.Resolver.Turn
import Lookout.Proofs.Resolver.Current
import Lookout.Proofs.Resolver.Calls
import Lookout.Proofs.Resolver.Answers
import Lookout.Proofs.Resolver.Members
import Lookout.Proofs.Resolver.Lifecycle
import Lookout.Proofs.Resolver.Delivery
import Lookout.Proofs.Source.Memory
import Lookout.Proofs.Source.Subscriptions
import Lookout.Proofs.Resolver.Activity
import Lookout.Proofs.Resolver.Audience
import Lookout.Proofs.Resolver.Silence
import Lookout.Proofs.Resolver.Mailbox
import Lookout.Proofs.Resolver.Newcomer
import Lookout.Proofs.Resolver.Effort
import Lookout.Proofs.Resolver.Accounts
import Lookout.Proofs.Resolver.Setback
import Lookout.Proofs.Resolver.Admission
import Lookout.Proofs.Resolver.Timers
import Lookout.Proofs.Resolver.Tuned
import Lookout.Proofs.Resolver.Freshness
import Lookout.Proofs.Share
import Lookout.Proofs.Source.Share
import Lookout.Proofs.Resolver.Share
import Lookout.Proofs.Resolver.Apart
import Lookout.Proofs.Resolver.Noninterference
import Lookout.Proofs.Debouncer.Timeline
import Lookout.Proofs.Debouncer.Waiting
import Lookout.Proofs.Debouncer.Coalescing
import Lookout.Proofs.Endpoint
import Lookout.Proofs.Discovery.Replay
import Lookout.Proofs.Discovery.Polling
import Lookout.Proofs.Discovery.Following
import Lookout.Proofs.Address
import Lookout.Proofs.Snapshot
import Lookout.Proofs.Consul.Signals
import Lookout.Proofs.Json
import Lookout.Proofs.Consul.Entries
import Lookout.Proofs.Source.Fixed
import Lookout.Source.Memory.Run
import Lookout.Proofs.Source.Signals
import Lookout.Proofs.Text.ByteOrder
import Lookout.Proofs.Snapshot.Matching
import Lookout.Proofs.Snapshot.Build
import Lookout.Proofs.Text.Blank
import Lookout.Proofs.Text.Digits
import Lookout.Proofs.Ip
import Lookout.Proofs.Address.Splitting
import Lookout.Proofs.Address.Canonical
import Lookout.Proofs.Address.Names
import Lookout.Proofs.Discovery.Effect
import Lookout.Proofs.Resolver.Contact
import Lookout.Proofs.Resolver.Recovery
import Lookout.Proofs.Resolver.Outcomes
import Lookout.Proofs.Backoff
import Lookout.Proofs.Source.Keyed
import Lookout.Proofs.Consul.Polling
import Lookout.Proofs.Url.Percent
import Lookout.Proofs.Url.Below
import Lookout.Proofs.Url.Segment
import Lookout.Proofs.Consul.Resources
import Lookout.Proofs.Config.Intervals
import Lookout.Proofs.Consul.Patience
