import DirtyDataOlap.LeaseFencing
import DirtyDataOlap.LeaseClock
import DirtyDataOlap.RunCompletion
import DirtyDataOlap.RowHistories
import DirtyDataOlap.StageProvenance
import DirtyDataOlap.ReleasedStages
import DirtyDataOlap.UnknownOutcomes
import DirtyDataOlap.Cancellation
import DirtyDataOlap.HandlerDelivery
import DirtyDataOlap.AdmissionBound
import DirtyDataOlap.ExactAggregates
import DirtyDataOlap.ScheduleIndependence
import DirtyDataOlap.WarehouseIntegrity
import DirtyDataOlap.ReportCoherence
import DirtyDataOlap.PlanScheduling
import DirtyDataOlap.ReviewDecisions
import DirtyDataOlap.ReviewLog
import DirtyDataOlap.SubmissionIdempotence
import DirtyDataOlap.FailedRuns
import DirtyDataOlap.PlanMonotonicity
import DirtyDataOlap.PlanningProvenance
import DirtyDataOlap.ReviewCompleteness
import DirtyDataOlap.ResumeRecovery
import DirtyDataOlap.FilterRestriction
import DirtyDataOlap.AggregationRules
import DirtyDataOlap.ProviderAgreement
import DirtyDataOlap.GateEvidenceTruth
import DirtyDataOlap.StagedRegistration
import DirtyDataOlap.ArtifactIdentity
import DirtyDataOlap.CleanupConvergence
import DirtyDataOlap.CacheEntries
import DirtyDataOlap.DiskBudget
import DirtyDataOlap.CanonicalOrder
import DirtyDataOlap.AuxiliaryEvidence
import DirtyDataOlap.ClusterAuthorization
import DirtyDataOlap.FactKeys
import DirtyDataOlap.InsertColumns
import DirtyDataOlap.LiteralReading
import DirtyDataOlap.LiteralColumns
import DirtyDataOlap.RangeDescriptors
import DirtyDataOlap.MergeBarrier
import DirtyDataOlap.FusionScores
import DirtyDataOlap.MembershipValidation
import DirtyDataOlap.SurvivorshipRules
import DirtyDataOlap.FusionOrder
import DirtyDataOlap.RunListing
import DirtyDataOlap.StoreRestore
import DirtyDataOlap.SourceAssurance
import DirtyDataOlap.FailedExtraction
import DirtyDataOlap.InstanceSample
import DirtyDataOlap.SplitLeakage
import DirtyDataOlap.RankerSplits
import DirtyDataOlap.DiscoveryRetry
