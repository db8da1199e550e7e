/-!
# Errors

What a contract check and a platform operation report.
-/

namespace Threadbook

/-- The field a contract check complains about. -/
inductive SafeFieldV1
  | schemaVersion
  | timestamp
  | path
  | itemId
  | evidenceId
  | decisionId
  | expectedCatalogRevision
  | receiptImageCandidate
  | receiptImageAttempt
  | receiptFragment
  | receiptCitation
  | receiptEvidence
  | receiptReviewAction
  | expectedReceiptRevision
  | receiptPurchaseUnit
  | receiptPurchaseUnitProvenance
  | receiptPurchaseUnitAuthority
  | receiptPurchaseUnitSnapshot
  | receiptPromotion
  | receiptPromotionConfirmation
  | attributes
  | collection
  | limit
  | receiptProviderOutput
  | recommendationPrompt
  | recommendationConstraints
  | recommendationExclusions
  | recommendationRetention
  | recommendationTool
  | recommendationSnapshot
  | recommendationProposal
  | recommendationAssessment
  | deletionPlan
  | deletionRetention
  | deletionRevisions
  | photoKitCounts
  | photoKitAvailability
  | photoKitStatus
  deriving DecidableEq

/-- A failed contract check. -/
structure ValidationError where
  field : SafeFieldV1
  deriving DecidableEq

inductive IoErrorKind
  | interrupted
  | wouldBlock
  | timedOut
  | permissionDenied
  | other
  deriving DecidableEq

inductive PlatformError
  | conflict (code : String)
  | corrupt (code : String)
  | invalidInput (code : String)
  | io (kind : IoErrorKind)
  | json
  | keychain (code : String)
  | leaseLost
  | sqlite
  | unsupported (code : String)
  deriving DecidableEq

def schemaVersionV1 : Nat := 1

def requireSchemaV1 (version : Nat) : Except ValidationError Unit :=
  if version = schemaVersionV1 then .ok () else .error ⟨.schemaVersion⟩

end Threadbook
