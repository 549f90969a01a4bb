import DirtyDataOlap.ArtifactReadings

/-!
# Gate evidence

`record_gate_evidence`, the service that calls it and `_valid_g6_evidence`, which decides by what
was recorded.  Each reads rows of the control database and the bytes of a report in the artifact
store: a transaction of the first around a program over the second.

Evidence of older databases is marked as **legacy** by a provenance reference of the row.  What
`json.loads` and the contract of `ValidationReport` make of a text is a parameter.
-/
namespace DirtyDataOlap.Gate

open Artifacts (Bytes FileAct FileState Files LocalArtifactStore Outside StoreExc file perform raising)

/-- `GateEvidence` with everything that is stored. -/
structure GateEvidence extends DirtyDataOlap.GateEvidence where
  (policyVersion verifiedContentCommit : String)
  recordedAt : Instant
  eligible_iff : eligible = true ↔ status = .pass
deriving DecidableEq

/-- `ValidationReport`; its bindings, checks and discrepancies are compared as one text. -/
structure ValidationReport extends DirtyDataOlap.ValidationReport where
  (policyVersion body : String)
  eligible_iff : g6Eligible = true ↔ g6Status = .pass
deriving DecidableEq

/-- The marker that the migration puts on evidence nobody verified. -/
def legacyMarker : String := "legacy:gate-evidence-unverified"

def placeholderReportId (artifactId : String) : String := "legacy:" ++ artifactId

/-- The evidence carries the marker of the migration. -/
def GateEvidence.legacy (g : GateEvidence) : Bool := g.provenanceRefs.contains legacyMarker

/-- What the bytes of a report turn out to be. -/
inductive Payload
  | notJson
  | notObject
  | invalid
  /-- A report, and the `content_hash` that the object declares for it. -/
  | report (declaredHash : Option String) (report : ValidationReport)

/-- How the bytes of a report are read. -/
structure ReportReader where
  loads : Bytes → Payload
  contentHash : ValidationReport → String

/-- `_decode_registered_report`, and word for word `_decode_report`. -/
def ReportReader.decodeReport (reader : ReportReader) (payload : Bytes) :
    Except StoreExc ValidationReport :=
  match reader.loads payload with
  | .notJson =>
    .error (.integrity "registered ValidationReport bytes are not valid UTF-8 JSON")
  | .notObject => .error (.integrity "registered ValidationReport payload must be a JSON object")
  | .invalid =>
    .error (.integrity "registered ValidationReport does not validate as the project contract")
  | .report declaredHash report =>
    if declaredHash ≠ none ∧ declaredHash ≠ some (reader.contentHash report) then
      .error (.integrity "registered ValidationReport semantic hash does not match its payload")
    else .ok report

/-! ## The control store -/

/-- A row of `gate_evidence` before there were columns for the identity of the report. -/
structure OldGateEvidence where
  (gateId runId : String)
  status : GateEvidenceStatus
  eligible : Bool
  (validationReportArtifactId validationReportContentHash policyVersion : String)
  verifiedContentCommit : String
  recordedAt : Instant
  provenanceRefs : List String := []
  eligible_iff : eligible = true ↔ status = .pass

/-- The tables of an open store that gate evidence touches. -/
structure GateTables where
  runs : Table RunRecord.runId
  artifacts : Table fun a : Artifacts.ArtifactRef => a.artifactId
  gateEvidence : Table fun g : GateEvidence => (g.gateId, g.runId)

/-- The tables of a version-2 database. -/
structure OldTables where
  runs : Table RunRecord.runId
  artifacts : Table fun a : Artifacts.ArtifactRef => a.artifactId
  gateEvidence : Table fun g : OldGateEvidence => (g.gateId, g.runId)

/-- What a store can find at its path. -/
inductive Database
  | missing
  | version2 (tables : OldTables)
  | current (tables : GateTables)

namespace GateTables
variable (t : GateTables)

def empty : GateTables := ⟨.empty, .empty, .empty⟩

def getRun (runId : String) : Option RunRecord := t.runs.find? runId

def getArtifact (artifactId : String) : Option Artifacts.ArtifactRef := t.artifacts.find? artifactId

/-- `get_gate_evidence(gate_id, run_id=...)`. -/
def getGateEvidence (gateId runId : String) : Option GateEvidence :=
  t.gateEvidence.find? (gateId, runId)

def createRun (run : RunRecord) : Except StoreExc (RunRecord × GateTables) :=
  match t.runs.insert? run with
  | some runs => .ok (run, { t with runs })
  | none => .error (.other "IntegrityError")

/-- The fields that `_insert_artifact` compares. -/
def sameIdentity (stored artifact : Artifacts.ArtifactRef) : Bool :=
  stored.runId = artifact.runId && stored.stageId = artifact.stageId &&
    stored.attemptId = artifact.attemptId && stored.artifactKind = artifact.artifactKind &&
    stored.contentHash = artifact.contentHash && stored.byteSize = artifact.byteSize &&
    stored.storageMode = artifact.storageMode && stored.storageKey = artifact.storageKey &&
    stored.externalLocator = artifact.externalLocator

def registerArtifact (artifact : Artifacts.ArtifactRef) :
    Except StoreExc (Artifacts.ArtifactRef × GateTables) :=
  if t.getRun artifact.runId = none then .error (.platform "artifact requires an existing run")
  else
    match t.getArtifact artifact.artifactId with
    | some stored =>
      if !sameIdentity stored artifact then
        .error (.conflict "artifact identity or immutable content conflicts with the existing row")
      else if stored.publicationState = .tombstoned ∧ artifact.publicationState ≠ .tombstoned then
        .error (.conflict "tombstoned artifact identity cannot be republished")
      else .ok (stored, t)
    | none =>
      match t.artifacts.insert? artifact with
      | some artifacts => .ok (artifact, { t with artifacts })
      | none => .error (.other "IntegrityError")

def markArtifactTombstoned (artifactId : String) : Except StoreExc (Unit × GateTables) :=
  if (t.getArtifact artifactId).any fun a => a.publicationState = .published then
    .ok ((),
      { t with
        artifacts := t.artifacts.update
          (fun a => a.artifactId = artifactId && a.publicationState = .published)
          (fun a => { a with publicationState := .tombstoned }) fun a => (rfl : a.artifactId = _) })
  else .error (.platform "only a published artifact can be tombstoned")

/-- `UPDATE gate_evidence SET ... WHERE gate_id = ? AND run_id = ?`. -/
def replaceEvidence (evidence : GateEvidence) : GateTables :=
  { t with
    gateEvidence := t.gateEvidence.update
      (fun g => g.gateId = evidence.gateId && g.runId = evidence.runId)
      (fun g => { evidence with gateId := g.gateId, runId := g.runId }) fun _ => rfl }

/-- The second half of `record_gate_evidence`: what is stored stays, unless it is legacy. -/
def writeEvidence (evidence : GateEvidence) : Except StoreExc (GateEvidence × GateTables) :=
  match t.getGateEvidence evidence.gateId evidence.runId with
  | some stored =>
    if stored.legacy then .ok (evidence, t.replaceEvidence evidence)
    else if { stored with recordedAt := evidence.recordedAt } ≠ evidence then
      .error (.conflict "gate evidence identity is already bound to different evidence")
    else .ok (stored, t)
  | none =>
    -- `REFERENCES runs(run_id)`
    if t.getRun evidence.runId = none then .error (.other "IntegrityError")
    else
      match t.gateEvidence.insert? evidence with
      | some gateEvidence => .ok (evidence, { t with gateEvidence })
      | none => .error (.other "IntegrityError")

end GateTables

/-- One turn of the loop of `_migrate_v2_to_v3`. -/
def migratedEvidence (old : OldTables) (row : OldGateEvidence) : GateEvidence where
  gateId := row.gateId
  runId := row.runId
  status := row.status
  eligible := row.eligible
  validationReportArtifactId := row.validationReportArtifactId
  validationReportRunId :=
    ((old.artifacts.find? row.validationReportArtifactId).map (·.runId)).getD ""
  validationReportId := placeholderReportId row.validationReportArtifactId
  validationReportContentHash := row.validationReportContentHash
  provenanceRefs :=
    if row.provenanceRefs.contains legacyMarker then row.provenanceRefs
    else row.provenanceRefs ++ [legacyMarker]
  policyVersion := row.policyVersion
  verifiedContentCommit := row.verifiedContentCommit
  recordedAt := row.recordedAt
  eligible_iff := row.eligible_iff

/-- The migration to version 3: old evidence is kept with a marker. -/
def migrateV2ToV3 (old : OldTables) : GateTables where
  runs := old.runs
  artifacts := old.artifacts
  gateEvidence :=
    { rows := old.gateEvidence.rows.map (migratedEvidence old)
      nodup := by
        rw [List.map_map]
        exact old.gateEvidence.nodup }

/-- `_migrate`: the other steps of the loop touch none of these tables. -/
def migrate : Database → GateTables
  | .missing => .empty
  | .version2 tables => migrateV2ToV3 tables
  | .current tables => tables

/-! ## Recording -/

/-- `except (KeyError, PlatformError)` around `stat`. -/
def notPresent {α : Type} : StoreExc → Files α
  | .key _ => raising
      (.integrity "gate evidence artifact is not present in the configured artifact store")
  | e =>
    if e.isPlatform then raising
      (.integrity "gate evidence artifact is not present in the configured artifact store")
    else raising e

section
variable (store : LocalArtifactStore) (reader : ReportReader)

/-- The bytes behind a registered reference, once they verify, decode to this report. -/
def matchReport (artifact : Artifacts.ArtifactRef) (report : ValidationReport) : Files Unit := do
  let stored ← Prog.tryCatch (LocalArtifactStore.stat artifact.artifactId) notPresent
  if stored ≠ artifact then
    raising (.conflict
      "gate evidence artifact metadata differs between control and artifact stores")
  else do
    let integrity ← store.verify artifact.artifactId
    if integrity.state ≠ .verified then
      raising (.integrity "gate evidence requires verified ValidationReport bytes")
    else do
      let payload ← LocalArtifactStore.read artifact.artifactId
      let parsed ← Prog.done (reader.decodeReport payload)
      if parsed ≠ report then
        raising (.integrity
          "typed ValidationReport does not correspond to the registered artifact bytes")
      else pure ()

/-- The end of `_validate_gate_report`: the evidence says what the report says. -/
def validateAgreement (evidence : GateEvidence) (parsed : ValidationReport) :
    Except StoreExc Unit :=
  if evidence.gateId ≠ "G6_DATA_CORRECTNESS" then
    .error (.platform "ValidationReport-backed gate evidence is scoped to G6_DATA_CORRECTNESS")
  else if evidence.status ≠ parsed.g6Status ∨ evidence.eligible ≠ parsed.g6Eligible then
    .error (.conflict "gate evidence status and eligibility must derive from ValidationReport")
  else if evidence.policyVersion ≠ parsed.policyVersion then
    .error (.conflict "gate evidence policy version must derive from ValidationReport")
  else if evidence.validationReportRunId ≠ parsed.runId ∨
      evidence.validationReportId ≠ parsed.reportId then
    .error (.conflict "gate evidence must bind the ValidationReport run and report identity")
  else .ok ()

/-- The checks between evidence and report, before a row is written. -/
def validateGateReport (evidence : GateEvidence) (report : ValidationReport) (t : GateTables) :
    Files Unit :=
  match t.getArtifact evidence.validationReportArtifactId with
  | none => raising (.platform "gate evidence requires a registered ValidationReport artifact")
  | some artifact =>
    if artifact.artifactKind ≠ "ValidationReport" then
      raising (.platform "gate evidence requires artifact_kind=ValidationReport")
    else if artifact.publicationState ≠ .published then
      raising (.platform "gate evidence requires a published ValidationReport")
    else if artifact.contentHash ≠ evidence.validationReportContentHash then
      raising (.conflict "gate evidence hash does not match its ValidationReport artifact")
    else do
      matchReport store reader artifact report
      Prog.done (validateAgreement evidence report)

/-- `record_gate_evidence`: the tables it returns are those it commits. -/
def recordGateEvidence (evidence : GateEvidence) (report : ValidationReport) (t : GateTables) :
    Files (GateEvidence × GateTables) := do
  validateGateReport store reader evidence report t
  Prog.done (t.writeEvidence evidence)

/-- The evidence that `record_from_validation_report` derives from a report. -/
def derivedEvidence (gateId platformRunId : String) (report : ValidationReport)
    (registered : Artifacts.ArtifactRef) (verifiedContentCommit : String)
    (provenanceRefs : List String) (recordedAt : Instant) : GateEvidence where
  gateId := gateId
  runId := platformRunId
  status := report.g6Status
  eligible := report.g6Eligible
  validationReportArtifactId := registered.artifactId
  validationReportRunId := report.runId
  validationReportId := report.reportId
  validationReportContentHash := registered.contentHash
  -- `dict.fromkeys` keeps the first of equal references
  provenanceRefs := (provenanceRefs ++
    ["validation-report:" ++ report.reportId, "validation-run:" ++ report.runId]).eraseDups
  policyVersion := report.policyVersion
  verifiedContentCommit := verifiedContentCommit
  recordedAt := recordedAt
  eligible_iff := report.eligible_iff

/-- `record_from_validation_report`. -/
def recordFromValidationReport (gateId platformRunId : String) (report : ValidationReport)
    (reportArtifact : Artifacts.ArtifactRef) (verifiedContentCommit : String)
    (provenanceRefs : List String) (recordedAt : Instant) (t : GateTables) :
    Files (GateEvidence × GateTables) :=
  if gateId ≠ "G6_DATA_CORRECTNESS" then
    raising (.platform
      "the ValidationReport-backed platform receipt is scoped to G6_DATA_CORRECTNESS")
  else
    match t.getArtifact reportArtifact.artifactId with
    | none => raising (.platform
        "gate evidence requires the exact registered ValidationReport artifact")
    | some registered =>
      if registered ≠ reportArtifact then
        raising (.conflict
          "gate evidence artifact reference is not the registered immutable reference")
      else if registered.artifactKind ≠ "ValidationReport" then
        raising (.platform "gate evidence requires artifact_kind=ValidationReport")
      else if registered.publicationState ≠ .published then
        raising (.platform "gate evidence requires a published ValidationReport")
      else do
        matchReport store reader registered report
        recordGateEvidence store reader
          (derivedEvidence gateId platformRunId report registered verifiedContentCommit
            provenanceRefs recordedAt) report t

/-- `except (KeyError, OSError, PlatformError, ValueError): return False`. -/
def noReport : StoreExc → Files (Option ValidationReport)
  | .key _ | .os | .value _ => pure none
  | e => if e.isPlatform then pure none else raising e

/-- The `try` of `_valid_g6_evidence`. -/
def verifiedReport (artifact : Artifacts.ArtifactRef) : Files (Option ValidationReport) :=
  Prog.tryCatch
    (do
      let stored ← LocalArtifactStore.stat artifact.artifactId
      if stored ≠ artifact then pure none
      else do
        let integrity ← store.verify artifact.artifactId
        if integrity.state ≠ .verified then pure none
        else do
          let payload ← LocalArtifactStore.read artifact.artifactId
          let report ← Prog.done (reader.decodeReport payload)
          pure (some report))
    noReport

/-- `_valid_g6_evidence`. -/
def validG6Evidence (runId : String) (t : GateTables) : Files Bool :=
  match t.getGateEvidence "G6_DATA_CORRECTNESS" runId with
  | none => pure false
  | some evidence =>
    if evidence.runId ≠ runId ∨ evidence.status ≠ .pass ∨ !evidence.eligible then pure false
    else
      match t.getArtifact evidence.validationReportArtifactId with
      | none => pure false
      | some artifact =>
        if artifact.runId ≠ runId ∨ artifact.artifactKind ≠ "ValidationReport" ∨
            artifact.publicationState ≠ .published then pure false
        else if artifact.contentHash ≠ evidence.validationReportContentHash then pure false
        else do
          match ← verifiedReport store reader artifact with
          | none => pure false
          | some report =>
            pure (report.runId = evidence.validationReportRunId &&
              report.reportId = evidence.validationReportId &&
              report.g6Status = evidence.status && report.g6Eligible)

end

end DirtyDataOlap.Gate
