import Omniphi.Lib.Footprint
import Omniphi.Encoding
import Omniphi.HotStuff.Agreement
import Omniphi.HotStuff.Equivocation
import Omniphi.HotStuff.Locking
import Omniphi.Crx.PartialFailure
import Omniphi.PoSeq.Attesting
import Omniphi.PoSeq.Finality
import Omniphi.PoSeq.BridgeRecovery
import Omniphi.PoSeq.FeeLifecycle
import Omniphi.PoSeq.FinalityHistory
import Omniphi.PoSeq.PoolInvariant
import Omniphi.PoSeq.Pipeline
import Omniphi.PoSeq.Bonding
import Omniphi.PoSeq.Ordering
import Omniphi.PoSeq.InclusionProofs
import Omniphi.PoSeq.Evidence
import Omniphi.PoSeq.AuctionOrdering
import Omniphi.PoSeq.AuctionWindow
import Omniphi.PoSeq.FairProposal
import Omniphi.Runtime.StoreInvariant
import Omniphi.Runtime.ScheduleOrder
import Omniphi.Runtime.Atomicity
import Omniphi.Runtime.Coverage
import Omniphi.Runtime.Serialisability
import Omniphi.Runtime.Conservation
import Omniphi.Runtime.ExactlyOnce
import Omniphi.Runtime.Duplicates
import Omniphi.Runtime.SpendingSafety
import Omniphi.Runtime.SigningBinds
import Omniphi.Runtime.SolverSafety
import Omniphi.Runtime.Confinement
import Omniphi.Runtime.Admission
import Omniphi.Runtime.FeeRoundTrip
import Omniphi.Runtime.Fallback
import Omniphi.Guard.GateSafety
import Omniphi.Guard.QueueIndex
import Omniphi.Guard.GovPoller
import Omniphi.Governance.Frozen
import Omniphi.Por.Bonds
import Omniphi.Tokenomics.SupplyRuns
import Omniphi.Poc.FinalityRuns
import Omniphi.Poc.VestingRuns
import Omniphi.HotStuff.ViewQuorum
import Omniphi.HotStuff.Monotone
import Omniphi.HotStuff.Acceptance
import Omniphi.PoSeq.ReplayGuards
import Omniphi.PoSeq.Slashing
import Omniphi.PoSeq.Inclusion
import Omniphi.PoSeq.PoolEviction
import Omniphi.Runtime.Versions
import Omniphi.Runtime.SwapSafety
import Omniphi.Runtime.FeeCollection
import Omniphi.Runtime.Mempool
import Omniphi.Runtime.ActionRoundTrip
import Omniphi.Runtime.PlanRanking
import Omniphi.Runtime.StateTree
import Omniphi.Runtime.SequencingFee
import Omniphi.Crx.TopologicalOrder
import Omniphi.Crx.GoalRespect
import Omniphi.Runtime.OwnershipHistory
import Omniphi.Runtime.NftRegistry
import Omniphi.Runtime.Randomness
import Omniphi.Runtime.SettlementBridge
import Omniphi.Guard.RiskiestMessage
import Omniphi.Guard.Reevaluations
import Omniphi.XPoSeq.Quorums
import Omniphi.Poc.ReviewRuns
import Omniphi.PoSeq.SolverAuction
import Omniphi.PoSeq.Priority
import Omniphi.PoSeq.Checkpoints
import Omniphi.PoSeq.LatestCheckpoint
import Omniphi.Guard.VotingThreshold
import Omniphi.Guard.FeatureVector
import Omniphi.XPoSeq.BondSlash
import Omniphi.FeeMarket.BlockFees
import Omniphi.Poc.RewardSplit
import Omniphi.Poc.ReviewOutcome
import Omniphi.Poc.Provenance
import Omniphi.Poc.ProvenanceIndex
import Omniphi.Runtime.SettledRoot
import Omniphi.Poc.CreditRuns
import Omniphi.Bridge.Relay
import Omniphi.RewardMult.Multipliers
