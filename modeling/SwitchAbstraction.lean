import SwitchAbstraction.EventLoop
import SwitchAbstraction.Clock
import SwitchAbstraction.OrderedMap.Lemmas
import SwitchAbstraction.Remote.Client
import SwitchAbstraction.Remote.MemoryStore
import SwitchAbstraction.Remote.Fleet
import SwitchAbstraction.VirtualSwitch
import SwitchAbstraction.Proofs.Registry
import SwitchAbstraction.Proofs.Objects
import SwitchAbstraction.Proofs.Drawing
import SwitchAbstraction.Proofs.Selections
import SwitchAbstraction.Proofs.NewSwitch
import SwitchAbstraction.Proofs.Construction
import SwitchAbstraction.Proofs.Moves
import SwitchAbstraction.Proofs.StoredEntries
import SwitchAbstraction.Proofs.LearnedIndex
import SwitchAbstraction.Proofs.Refusals
import SwitchAbstraction.Proofs.SwitchNames
import SwitchAbstraction.Proofs.FreshIds
import SwitchAbstraction.Proofs.Ledger
import SwitchAbstraction.Proofs.Creations
import SwitchAbstraction.Proofs.Blanks
import SwitchAbstraction.Proofs.Numerals
import SwitchAbstraction.Proofs.JsonTexts
import SwitchAbstraction.Proofs.Addresses
import SwitchAbstraction.Proofs.JsonRecords
import SwitchAbstraction.Proofs.WrittenValues
import SwitchAbstraction.Proofs.Transport
import SwitchAbstraction.Proofs.Conversations
import SwitchAbstraction.Proofs.ForwardingEvents
import SwitchAbstraction.Proofs.TypedStore
import SwitchAbstraction.Proofs.DebugCounters
import SwitchAbstraction.Proofs.Overrides
import SwitchAbstraction.Proofs.PrimaryState
import SwitchAbstraction.Proofs.Reads
import SwitchAbstraction.Proofs.Isolation
import SwitchAbstraction.Proofs.Effects
import SwitchAbstraction.Proofs.LastSteps
import SwitchAbstraction.Proofs.ReadOnly
import SwitchAbstraction.Proofs.LearnTimes
import SwitchAbstraction.Proofs.Statistics
import SwitchAbstraction.Proofs.HandedOn
import SwitchAbstraction.Proofs.Subscriptions
import SwitchAbstraction.Proofs.SharedStores
import SwitchAbstraction.Proofs.DrawnIds
import SwitchAbstraction.Proofs.VirtualIds
import SwitchAbstraction.Proofs.Restarts
import SwitchAbstraction.Proofs.Departures
import SwitchAbstraction.Proofs.Sightings
import SwitchAbstraction.Proofs.Flushes
import SwitchAbstraction.Proofs.RepeatedParts
import SwitchAbstraction.Proofs.ReportedEntries
import SwitchAbstraction.Proofs.CurrentValues
import SwitchAbstraction.Proofs.Negotiation
import SwitchAbstraction.Proofs.Members
import SwitchAbstraction.Proofs.ReadBack
import SwitchAbstraction.Proofs.Undoing
import SwitchAbstraction.Proofs.AcceptedCounts
import SwitchAbstraction.Proofs.Transactions
import SwitchAbstraction.Proofs.CompleteSwitches
import SwitchAbstraction.Proofs.BulkCalls
import SwitchAbstraction.Proofs.LaneMaps
import SwitchAbstraction.Proofs.AnsweredReads
import SwitchAbstraction.Proofs.Spellings
import SwitchAbstraction.Proofs.IdLayout
import SwitchAbstraction.Proofs.Profiles
import SwitchAbstraction.Proofs.DecodedCounts
