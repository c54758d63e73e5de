import MessageBus.Broker.Waiting
import MessageBus.Bus.Processing
import MessageBus.Bus.Wiring
import MessageBus.Report.Registration
import MessageBus.Transport.Fault
import MessageBus.Proofs.Broker.Calls
import MessageBus.Proofs.Outcome
import MessageBus.Proofs.Broker.Numbering
import MessageBus.Proofs.Broker.Conservation
import MessageBus.Proofs.Broker.Settlement
import MessageBus.Proofs.Broker.Order
import MessageBus.Proofs.Bus.Packing
import MessageBus.Proofs.Bus.Grouping
import MessageBus.Proofs.Bus.Publishing
import MessageBus.Proofs.Allocation
import MessageBus.Proofs.Bus.Composition
import MessageBus.Proofs.Broker.Schedule
import MessageBus.Proofs.Outgoing
import MessageBus.Proofs.Bus.TakingBack
import MessageBus.Proofs.Bus.Scheduling
import MessageBus.Proofs.Bus.Accounting
import MessageBus.Proofs.Bus.Logging
import MessageBus.Proofs.Bus.Handling
import MessageBus.Proofs.Broker.Senders
import MessageBus.Proofs.Bus.Cancelling
import MessageBus.Proofs.Bus.Rerouting
import MessageBus.Proofs.Registration.Lookup
import MessageBus.Proofs.Bus.Propagation
import MessageBus.Proofs.Bus.Registrations
import MessageBus.Proofs.Bus.Sharing
import MessageBus.Proofs.Bus.RoundTrip
import MessageBus.Proofs.Stamping
import MessageBus.Proofs.Bus.Deferral
import MessageBus.Proofs.Bus.Directory
import MessageBus.Proofs.Bus.Building
import MessageBus.Proofs.Bus.Closing
import MessageBus.Proofs.Bus.Serving
import MessageBus.Proofs.Bus.Declarations
import MessageBus.Proofs.Bus.FewestBatches
import MessageBus.Proofs.Drafting
import MessageBus.Proofs.Registration.Calls
import MessageBus.Proofs.Registration.Dispatch
import MessageBus.Proofs.Registration.Reception
import MessageBus.Proofs.Allocation.Names
import MessageBus.Proofs.Broker.Routing
import MessageBus.Proofs.Bus.StaleHandles
import MessageBus.Proofs.Topics
import MessageBus.Proofs.Broker.Refusals
import MessageBus.Proofs.Broker.Releases
import MessageBus.Proofs.Broker.Waiting
import MessageBus.Proofs.Bus.Paging
import MessageBus.Proofs.Applications
import MessageBus.Proofs.Settings
