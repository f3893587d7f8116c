import QueryBridge.Base64
import QueryBridge.Bridge.FarSide
import QueryBridge.Bridge.Inspect
import QueryBridge.Bridge.Run
import QueryBridge.Client
import QueryBridge.Config
import QueryBridge.History
import QueryBridge.Message.Decode
import QueryBridge.Message.Encode
import QueryBridge.Scenario.Run
import QueryBridge.Verbosity
import QueryBridge.Proofs.Allocations
import QueryBridge.Proofs.Appends
import QueryBridge.Proofs.Batches
import QueryBridge.Proofs.Bridge.Chronicle
import QueryBridge.Proofs.Bridge.Deeds
import QueryBridge.Proofs.Bridge.Dues
import QueryBridge.Proofs.Bridge.Errands
import QueryBridge.Proofs.Bridge.Readings
import QueryBridge.Proofs.Capacities
import QueryBridge.Proofs.Closes
import QueryBridge.Proofs.Commuting
import QueryBridge.Proofs.Conservation
import QueryBridge.Proofs.Delivery
import QueryBridge.Proofs.Drains
import QueryBridge.Proofs.FailedCreation
import QueryBridge.Proofs.FieldNames
import QueryBridge.Proofs.Histories
import QueryBridge.Proofs.InFlight
import QueryBridge.Proofs.Partings
import QueryBridge.Proofs.Payloads
import QueryBridge.Proofs.ReadAhead
import QueryBridge.Proofs.ReaderLife
import QueryBridge.Proofs.Registry.Reach
import QueryBridge.Proofs.Remnants
import QueryBridge.Proofs.Settings
import QueryBridge.Proofs.Shutdown
import QueryBridge.Proofs.Streams
import QueryBridge.Proofs.Verdicts
import QueryBridge.Proofs.WireCalls
