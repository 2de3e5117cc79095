import CatalystSvm.Library.MerkleLevels
import CatalystSvm.Library.TextFraming
import CatalystSvm.Library.PaddedNumerals
import CatalystSvm.Library.PathNames
import CatalystSvm.Library.StepFold
import CatalystSvm.Library.Runs
import CatalystSvm.Library.TaskLists
import CatalystSvm.MachineArithmetic
import CatalystSvm.CommonTypes
import CatalystSvm.CommonMerkle
import CatalystSvm.IssuedIds
import CatalystSvm.TraceBuilding
import CatalystSvm.LedgerMachine
import CatalystSvm.ExecutionEngine
import CatalystSvm.GuestProgram
import CatalystSvm.InterpreterSimulation
import CatalystSvm.ProverInputs
import CatalystSvm.ProvabilityBoundary
import CatalystSvm.HostGuestCompleteness
import CatalystSvm.StateRootBinding
import CatalystSvm.CommitmentBinding
import CatalystSvm.ProofVerifier
import CatalystSvm.ProofAttestation
import CatalystSvm.VerifiedChain
import CatalystSvm.BatchPolicy
import CatalystSvm.ValidatorNode
import CatalystSvm.ValidatorRuns
import CatalystSvm.ProofPolling
import CatalystSvm.CommonMetrics
import CatalystSvm.PipelineEngine
import CatalystSvm.PipelineBatches
import CatalystSvm.PipelineFailures
import CatalystSvm.LatencyReport
import CatalystSvm.CriticalLane
import CatalystSvm.BatchContinuity
import CatalystSvm.ProverFallback
import CatalystSvm.ContinuityRuns
import CatalystSvm.Library.Footprints
import CatalystSvm.WriteFrames
import CatalystSvm.Library.MapTotals
import CatalystSvm.ValueConservation
import CatalystSvm.BalanceSafety
import CatalystSvm.TraceShape
import CatalystSvm.PolicyQueries
import CatalystSvm.AdaptiveFeedback
import CatalystSvm.OnchainBatcher
import CatalystSvm.OnchainReceipts
import CatalystSvm.OnchainGuards
import CatalystSvm.MerkleTrees
import CatalystSvm.ReadSets
import CatalystSvm.EntryEncoding
import CatalystSvm.DataSlots
import CatalystSvm.LatencyAverage
import CatalystSvm.Library.RingBuffer
import CatalystSvm.Library.Words
import CatalystSvm.TrafficPatterns
import CatalystSvm.PatternInvariants
import CatalystSvm.TrafficDetection
import CatalystSvm.Ingress
import CatalystSvm.GeneratedWorkloads
import CatalystSvm.BatchSchedules
import CatalystSvm.AttestationOrigins
import CatalystSvm.BenchmarkSimulation
import CatalystSvm.ProofDelivery
import CatalystSvm.SealingProgress
import CatalystSvm.Library.Connections
import CatalystSvm.RpcMessages
import CatalystSvm.ValidatorService
import CatalystSvm.VerifierService
import CatalystSvm.Deployment
import CatalystSvm.PipelineAttempts
