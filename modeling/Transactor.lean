import Transactor.Main
import Transactor.Scenario.Run
import Transactor.Json.Printer
import Transactor.Json.Reader
import Transactor.Proofs.BreadthFirst
import Transactor.Proofs.Shop.Books
import Transactor.Proofs.Shop.EventCodec
import Transactor.Proofs.Shop.View
import Transactor.Proofs.Shop.Atomicity
import Transactor.Proofs.Shop.RollbackOnly
import Transactor.Proofs.Shop.Delivered
import Transactor.Proofs.Shop.Drained
import Transactor.Proofs.Shop.Work
import Transactor.Proofs.Shop.Refinement
import Transactor.Proofs.Protocol
import Transactor.Proofs.Callbacks
import Transactor.Proofs.Finality
import Transactor.Proofs.Consent
import Transactor.Proofs.Participants
import Transactor.Proofs.Bindings
import Transactor.Proofs.Shop.Ledger
import Transactor.Proofs.Shop.Working
import Transactor.Proofs.Shop.Access
import Transactor.Proofs.Shop.Overlap
import Transactor.Proofs.Shop.Tenure
import Transactor.Proofs.Shop.Traffic
import Transactor.Proofs.Shop.Isolation
import Transactor.Proofs.Shop.Overlay
import Transactor.Proofs.Operations
import Transactor.Proofs.CascadeBound
import Transactor.Proofs.StatusOrder
import Transactor.Proofs.Shop.SoundRows
import Transactor.Proofs.Shop.Dealings
import Transactor.Proofs.Timestamp
import Transactor.Proofs.Decoding
import Transactor.Proofs.MessageCodec
import Transactor.Proofs.Shop.MessageFormat
import Transactor.Proofs.Shop.Writes
import Transactor.Proofs.Handover
import Transactor.Proofs.LifecycleRun
import Transactor.Proofs.Shop.ReservationEffect
import Transactor.Proofs.SettingGrammar
import Transactor.Proofs.Routing
import Transactor.Proofs.RoutedDrain
import Transactor.Proofs.Shop.DeliveryPlan
import Transactor.Proofs.Shop.TimeLimit
import Transactor.Proofs.Shop.TimedCommit
import Transactor.Proofs.Shop.EventDelivery
import Transactor.Proofs.Shop.Custody
import Transactor.Proofs.Shop.Ownership
