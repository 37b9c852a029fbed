import DeskUnlock.Pairing.TwoParty
import DeskUnlock.Pairing.PromotionOrder
import DeskUnlock.Recovery.JournalCrash
import DeskUnlock.Recovery.ReconcileOwnership
import DeskUnlock.Unlock.FallThrough
import DeskUnlock.Unlock.Startup
import DeskUnlock.Recovery.StoreInvariant
import DeskUnlock.Unlock.LateAnswers
import DeskUnlock.Unlock.Interference
import DeskUnlock.Pairing.StatusTruth
import DeskUnlock.Unlock.AuditText
import DeskUnlock.Daemon.PidFileLock
import DeskUnlock.Pairing.RegisterAccess
import DeskUnlock.Unlock.PhoneLink
import DeskUnlock.Unlock.PeerLocks
import DeskUnlock.Proximity.Departures
import DeskUnlock.Proximity.Provenance
import DeskUnlock.Proximity.LockDeadline
import DeskUnlock.Pairing.Coalescing
import DeskUnlock.Pairing.Inbox
import DeskUnlock.Recovery.StatusDecision
import DeskUnlock.Recovery.PromoteFaults
import DeskUnlock.Recovery.StagedPromotion
import DeskUnlock.Unlock.ChallengeRuns
import DeskUnlock.Recovery.StagingResidue
import DeskUnlock.Pairing.ScreenRecovery
import DeskUnlock.Pairing.ScreenFailures
import DeskUnlock.Pairing.BrokerMessages
import DeskUnlock.Pairing.BrokerRaces
import DeskUnlock.Pairing.PubkeyReader
import DeskUnlock.Pairing.RecoveryTransport
import DeskUnlock.Recovery.BondFile
import DeskUnlock.Recovery.BondKeyDeriver
import DeskUnlock.Unlock.RpcStreams
import DeskUnlock.Unlock.ReplayCache
import DeskUnlock.Daemon.PairableRestore
import DeskUnlock.Unlock.CompanionClients
import DeskUnlock.Unlock.GattGate
import DeskUnlock.Proximity.Bootstrap
import DeskUnlock.Proximity.ConfigOrder
import DeskUnlock.Unlock.Rotation
