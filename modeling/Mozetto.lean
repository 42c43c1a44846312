import Mozetto.Library.Guarded
import Mozetto.Library.TransitionSystem
import Mozetto.Library.Coverage
import Mozetto.Chain.Basic
import Mozetto.Chain.Token
import Mozetto.Chain.ArenaAccount
import Mozetto.Chain.SessionLifecycleV2
import Mozetto.Chain.Acceptance
import Mozetto.Chain.EmergencyExits
import Mozetto.Chain.Payouts
import Mozetto.Chain.Settleable
import Mozetto.Chain.Locks
import Mozetto.Chain.Stranding
import Mozetto.Dealer.HandSeeds
import Mozetto.Dealer.HiddenSeeds
import Mozetto.Library.ProportionalSplit
import Mozetto.Matchmaking.AttemptEffects
import Mozetto.Matchmaking.Roster
import Mozetto.Worker.Proposal
import Mozetto.Worker.ProposalAcceptance
import Mozetto.Chain.AccountDiscovery
import Mozetto.Chain.Books
import Mozetto.Chain.Finality
import Mozetto.Chain.GameRegistryV2
import Mozetto.Chain.ProofBatchRegistryV1
import Mozetto.Chain.RandomnessBeaconV2
import Mozetto.Chain.Redemption
import Mozetto.Chain.RequestRouting
import Mozetto.Chain.SessionFreeze
import Mozetto.Chain.TemplateTimelock
import Mozetto.Engine.Allocation
import Mozetto.Engine.Betting
import Mozetto.Engine.Conservation
import Mozetto.Engine.Offers
import Mozetto.Engine.Showdowns
import Mozetto.Engine.Termination
import Mozetto.EventStore.EventHashChain
import Mozetto.EventStore.Reload
import Mozetto.Lease.Exclusion
import Mozetto.Lease.Fencing
import Mozetto.Library.AdjacentDedup
import Mozetto.Library.NormalDoubles
import Mozetto.Outbox.AbiWords
import Mozetto.Outbox.Bindings
import Mozetto.Outbox.Delivery
import Mozetto.Commitments.BalanceRoot
import Mozetto.Commitments.MerkleProofs
import Mozetto.Database.Ledger
import Mozetto.GameServer.EscrowTracking
import Mozetto.Replay.EventChain
import Mozetto.Replay.Verifiers
import Mozetto.Worker.BalanceRoots
import Mozetto.Custody.SessionRows
import Mozetto.Custody.StatusOrder
import Mozetto.Replay.Attestations
import Mozetto.Replay.AttestedTranscripts
import Mozetto.Database.PlannedSeats
import Mozetto.Engine.ForcedFoldRuns
import Mozetto.Engine.NextBlinds
import Mozetto.Engine.ForcedFolds
import Mozetto.GameServer.BigBlindReturns
import Mozetto.GameServer.BoundaryPlans
import Mozetto.GameServer.EventWriter
import Mozetto.GameServer.EventOrder
import Mozetto.GameServer.LoneCalls
import Mozetto.Database.SessionOps
import Mozetto.Database.OpsSequence
import Mozetto.Engine.RakeShares
import Mozetto.GameServer.BlindPredictions
import Mozetto.GameServer.TableActors
import Mozetto.GameServer.SingleActors
import Mozetto.Watchtower.CheckNames
import Mozetto.Watchtower.Verified
import Mozetto.SignIn.OneSignature
import Mozetto.DealerEnclave.BoundDealer
import Mozetto.GameServer.SpectatorDelay
import Mozetto.Worker.EndingRepair
import Mozetto.Chain.SignatureQuorumVerifier
import Mozetto.DealerDeck.Unbiased
import Mozetto.PokerCore.BestHands
import Mozetto.Database.ExactPlans
import Mozetto.SessionSeal.SameSeats
import Mozetto.GameServer.TurnRuns
import Mozetto.Library.AbiEncoding
import Mozetto.Governance.HexCodec
import Mozetto.AgentRuntime.ExactReplay
import Mozetto.AgentRuntime.SchedulerRuns
import Mozetto.GameServer.EventRestarts
