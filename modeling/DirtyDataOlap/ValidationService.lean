import DirtyDataOlap.TargetChecks

/-!
# The validation service

`ValidationService.validate`: checks and discrepancies are two growing lists (`Ledger`), to which
`add_check` appends and in which `replace_check` overwrites a check but not its discrepancy.  The
gate is derived from the checks.
-/
namespace DirtyDataOlap.Validation

open Analytical

/-- The digests of the service and the interpreter it runs on. A discrepancy is identified by its
check, its normal values and the references it affects. -/
structure ValidationService where
  py : Interpreter
  discrepancyId : (checkId : String) → (expected observed : Value) → (refs : List String) → String
  reportId : (runId : String) → ValidationArtifactBindings → (policyHash : String) →
    List (String × ValidationStatus) → String
  metricId : (checkId : String) → String
  resultId : ValidationReport → String

/-- The checks and the discrepancies so far. -/
@[ext] structure Ledger where
  checks : List ValidationCheck
  discrepancies : List ValidationDiscrepancy

structure ValidationOutcome where
  report : ValidationReport
  reconciliation : ReconciliationResult

namespace ValidationService

variable (service : ValidationService)

/-- The reference of a check. -/
def evidenceRefs (checkId : String) : List String := ["validation:check:" ++ checkId]

def discrepancyIds (checkId : String) (status : ValidationStatus) (expected observed : Value)
    (refs : List String) : List String :=
  if status = .fail then
    ["disc_" ++ service.discrepancyId checkId expected.normal observed.normal refs]
  else []

def entryDiscrepancies (entry : CheckEntry) : List ValidationDiscrepancy :=
  (service.discrepancyIds entry.checkId entry.status entry.expected entry.observed
    entry.affectedRefs).map fun discrepancyId =>
      { discrepancyId := discrepancyId
        checkId := entry.checkId
        severity := entry.severity
        boundary := entry.scope
        summary := entry.details
        expected := entry.expected
        observed := entry.observed
        affectedRefs := entry.affectedRefs
        likelyStage := entry.likelyStage
        evidenceRefs := evidenceRefs entry.checkId }

/-- An entry as a check of the report. -/
def entryCheck (entry : CheckEntry) : ValidationCheck where
  checkId := entry.checkId
  name := entry.name
  status := entry.status
  severity := entry.severity
  scope := entry.scope
  required := entry.required
  details := entry.details
  expected := entry.expected
  observed := entry.observed
  evidenceRefs := evidenceRefs entry.checkId
  discrepancyIds := service.discrepancyIds entry.checkId entry.status entry.expected entry.observed
    entry.affectedRefs

/-- An entry is added, with its discrepancy if it fails. -/
def addCheck (ledger : Ledger) (entry : CheckEntry) : Ledger where
  checks := ledger.checks ++ [service.entryCheck entry]
  discrepancies := ledger.discrepancies ++ service.entryDiscrepancies entry

def addChecks (ledger : Ledger) (entries : List CheckEntry) : Ledger :=
  entries.foldl service.addCheck ledger

def replacementIds (replacement : Replacement) : List String :=
  service.discrepancyIds replacement.checkId replacement.status replacement.expected
    replacement.observed replacement.affectedRefs

/-- The discrepancy of a replacement that fails, at the place of the check it replaces. -/
def replacementDiscrepancies (old : ValidationCheck) (replacement : Replacement) :
    List ValidationDiscrepancy :=
  (service.replacementIds replacement).map fun discrepancyId =>
    { discrepancyId := discrepancyId
      checkId := replacement.checkId
      severity := old.severity
      boundary := old.scope
      summary := replacement.details
      expected := replacement.expected
      observed := replacement.observed
      affectedRefs := replacement.affectedRefs
      likelyStage := replacement.likelyStage
      evidenceRefs := evidenceRefs replacement.checkId }

/-- A check with the outcome of the second pass. -/
def replaced (old : ValidationCheck) (replacement : Replacement) : ValidationCheck :=
  { old with
    status := replacement.status
    details := replacement.details
    expected := replacement.expected
    observed := replacement.observed
    discrepancyIds := service.replacementIds replacement }

/-- The first check with the id is replaced. -/
def replaceFirst (replacement : Replacement) : List ValidationCheck → List ValidationCheck
  | [] => []
  | check :: checks =>
    if check.checkId = replacement.checkId then service.replaced check replacement :: checks
    else check :: replaceFirst replacement checks

/-- `replace_check`: nothing happens to a check that was never added. -/
def replaceCheck (ledger : Ledger) (replacement : Replacement) : Ledger :=
  match ledger.checks.find? fun check => check.checkId = replacement.checkId with
  | none => ledger
  | some old =>
    { checks := service.replaceFirst replacement ledger.checks
      discrepancies := ledger.discrepancies ++ service.replacementDiscrepancies old replacement }

/-- All replacements, one after the other. -/
def replaceChecks (ledger : Ledger) (replacements : List Replacement) : Ledger :=
  replacements.foldl service.replaceCheck ledger

variable (inputs : ValidationInputs)

/-- The measures whose class is not the reviewed one, and the status of the semantic validation. -/
def semanticErrors : List String :=
  let fields := inputs.compiledPlan.measureSpecs.map fun item =>
    (item.fieldName, item.aggregationClass)
  (inputs.semanticModel.measures.filter fun measure =>
    getItem fields measure.physicalFieldRef ≠ some measure.aggregationClass).map
      SemanticMeasure.semanticMeasureId ++
  errorIf (inputs.semanticValidation.status ≠ .pass)
    ("semantic_validation:" ++ inputs.semanticValidation.status.text)

/-- The check of the semantic model against the artifacts. -/
def semanticCrossCheck : CheckEntry :=
  let errors := semanticErrors inputs
  { checkId := "semantic_downstream_cross_check"
    name := "semantic downstream cross-check"
    status := statusOf errors
    scope := .semanticProjection
    details := detailsOf errors
      "semantic measures preserve reviewed analytical measure fields and aggregation classes"
      "semantic downstream metadata diverges from the reviewed analytical package"
    expected := .str "semantic validation PASS and exact measure classes"
    observed := .orText errors "exact" }

def monetaryReconciliation (policy : ValidationPolicy) : CheckEntry where
  checkId := "monetary_reconciliation"
  name := "monetary and revenue reconciliation"
  status := policy.monetaryStatus
  scope := .aggregate
  details := policy.monetaryReason
  severity := .informational
  required := false

/-- The required checks that block the gate. -/
def blockingChecks (checks : List ValidationCheck) : List ValidationCheck :=
  checks.filter fun check => check.required && check.severity = .g6Blocking

/-- The check that the others have passed. -/
def noBlockingDiscrepancy (checks : List ValidationCheck) : CheckEntry :=
  let blocking := blockingChecks checks
  let statuses := blocking.map ValidationCheck.status
  { checkId := "no_blocking_discrepancy"
    name := "no unexplained blocking discrepancy"
    status := overallStatus statuses
    scope := .crossStage
    details := if gateStatus statuses = .pass then "all required blocking checks passed"
      else "G6 is not eligible because required validation evidence is missing or discrepant"
    expected := .str "no FAIL/REVIEW_REQUIRED/NOT_EVALUATED blocking checks"
    observed := .dict [
      ("failures", .texts ((blocking.filter fun check => check.status = .fail).map
        ValidationCheck.checkId)),
      ("pending", .texts ((blocking.filter fun check => check.status.isPending).map
        ValidationCheck.checkId))] }

variable (target : Except String TargetSnapshot)

/-- The checks of a target snapshot, or of a target that could not be read. -/
def targetLedger (ledger : Ledger) : Except Raised Ledger :=
  match target with
  | .error error => .ok (service.addChecks ledger (unavailableEntries error))
  | .ok target => do
    let entries ← singleFactEntries inputs target service.py
    let replacements ← multiFactReplacements inputs target service.py
    return service.replaceChecks (service.addChecks ledger entries) replacements

/-- The ledger without its last check. -/
def ledgerBeforeGate : Except Raised Ledger := do
  let artifacts ← artifactEntries inputs service.py
  let ledger ← service.targetLedger inputs target (service.addChecks ⟨[], []⟩ artifacts)
  return service.addChecks ledger [semanticCrossCheck inputs, monetaryReconciliation inputs.policy]

def metric (check : ValidationCheck) : ReconciliationMetric where
  metricId := "recon_metric_" ++ service.metricId check.checkId
  name := check.name
  status := check.status
  expected := check.expected
  observed := check.observed
  evidenceRefs := check.evidenceRefs

/-- The report on a ledger whose blocking checks have these statuses. -/
def buildReport (ledger : Ledger) (statuses : List ValidationStatus) : ValidationReport where
  reportId := service.reportId inputs.accounting.runId inputs.bindings inputs.policy.contentHash
    (ledger.checks.map fun check => (check.checkId, check.status))
  runId := inputs.accounting.runId
  bindings := inputs.bindings
  policy := inputs.policy
  checks := ledger.checks
  discrepancies := ledger.discrepancies
  overallStatus := overallStatus statuses
  g6Status := gateStatus statuses
  g6Eligible := decide (gateStatus statuses = .pass)

/-- The reconciliation that goes with a report. -/
def buildReconciliation (report : ValidationReport) (statuses : List ValidationStatus) :
    ReconciliationResult where
  resultId := service.resultId report
  runId := report.runId
  validationReportId := report.reportId
  bindings := inputs.bindings
  metrics := (report.checks.filter ValidationCheck.required).map service.metric
  status := overallStatus statuses
  noBlockingDiscrepancy := !statuses.any (· = .fail)

/-- `validate`, on what the target reader returned or on the text of its exception. -/
def validate : Except Raised ValidationOutcome := do
  let before ← service.ledgerBeforeGate inputs target
  let statuses := (blockingChecks before.checks).map ValidationCheck.status
  let ledger := service.addCheck before (noBlockingDiscrepancy before.checks)
  let report := service.buildReport inputs ledger statuses
  report.statusIsDerived
  let reconciliation := service.buildReconciliation inputs report statuses
  reconciliation.statusMatchesMetrics
  return ⟨report, reconciliation⟩

end ValidationService

end DirtyDataOlap.Validation
