import DirtyDataOlap.ArtifactReferences
import DirtyDataOlap.GateEvidenceRules

/-!
# Gate evidence tells the truth

An unmarked row says what its report says and stays for ever; a marked one goes only where such a
row comes, and lets no run succeed.  **`_validate_gate_report` does not ask which run the artifact
belongs to**, and it takes the legacy marker from whoever passes it.  What it asks is enough when
the evidence names an artifact of its own run and no PASS comes with the marker.
-/
namespace DirtyDataOlap.Gate

open Prog
open Artifacts (Bytes FileState LocalArtifactStore StoreExc during)

/-! ## Runs of the store -/

/-- What happens to an open store.  A recording comes with what the artifact store is like. -/
inductive Action
  | createRun (run : RunRecord)
  | registerArtifact (artifact : Artifacts.ArtifactRef)
  | markArtifactTombstoned (artifactId : String)
  | reopen
  | recordGateEvidence (evidence : GateEvidence) (report : ValidationReport) (files : FileState)
      (external : String → Except StoreExc Bytes)
  | recordFromValidationReport (gateId platformRunId : String) (report : ValidationReport)
      (reportArtifact : Artifacts.ArtifactRef) (verifiedContentCommit : String)
      (provenanceRefs : List String) (recordedAt : Instant) (files : FileState)
      (external : String → Except StoreExc Bytes)

/-- The tables after a transaction: what raises is rolled back. -/
def committed {α : Type} (t : GateTables) : Except StoreExc (α × GateTables) → GateTables
  | .ok (_, t') => t'
  | .error _ => t

section
variable (store : LocalArtifactStore) (reader : ReportReader)

variable (t : GateTables)

/-- One call of the store, as a relation on the tables. -/
def Step : Action → GateTables → Prop
  | .createRun run, t' => t' = committed t (t.createRun run)
  | .registerArtifact artifact, t' => t' = committed t (t.registerArtifact artifact)
  | .markArtifactTombstoned artifactId, t' => t' = committed t (t.markArtifactTombstoned artifactId)
  | .reopen, t' => t' = migrate (.current t)
  | .recordGateEvidence evidence report files external, t' =>
    ∃ r files', (recordGateEvidence store reader evidence report t).Runs (during external) files r
      files' ∧ t' = committed t r
  | .recordFromValidationReport gateId platformRunId report reportArtifact verifiedContentCommit
      provenanceRefs recordedAt files external, t' =>
    ∃ r files', (recordFromValidationReport store reader gateId platformRunId report reportArtifact
      verifiedContentCommit provenanceRefs recordedAt t).Runs (during external) files r files' ∧
      t' = committed t r

/-- The tables that actions within `P` lead to. -/
inductive Reaches (P : GateTables → Action → Prop) (t : GateTables) : GateTables → Prop
  | refl : Reaches P t t
  | step {t1 t2 : GateTables} {a : Action} :
    Reaches P t t1 → P t1 a → Step store reader t1 a t2 → Reaches P t t2

/-- What nobody asks of evidence: its artifact belongs to its run, and it is no PASS with the marker
of the migration. -/
structure InOrder (evidence : GateEvidence) : Prop where
  ownRun : ∀ artifact, t.getArtifact evidence.validationReportArtifactId = some artifact →
    artifact.runId = evidence.runId
  unmarked : evidence.status = .pass → evidence.legacy = false

/-- Evidence that passes the checks is written in order, where its row is open. -/
def WrittenInOrder (evidence : GateEvidence) (report : ValidationReport) (files : FileState)
    (external : String → Except StoreExc Bytes) : Prop :=
  (validateGateReport store reader evidence report t).Runs (during external) files (.ok ()) files →
    Open t evidence → InOrder t evidence

/-- What evidence the call writes, it writes in order. -/
def Conforms : Action → Prop
  | .recordGateEvidence evidence report files external =>
    WrittenInOrder store reader t evidence report files external
  | .recordFromValidationReport gateId platformRunId report reportArtifact verifiedContentCommit
      provenanceRefs recordedAt files external =>
    WrittenInOrder store reader t (derivedEvidence gateId platformRunId report reportArtifact
      verifiedContentCommit provenanceRefs recordedAt) report files external
  | _ => True

/-- A store starts without a database or on one of version 2.  No bytes that the PASS of an old row
could stand for are a report that has the made-up id for its own. -/
def Database.Conforms : Database → Prop
  | .missing => True
  | .version2 old => ∀ row ∈ old.gateEvidence.rows, row.status = .pass → ∀ bytes report,
      store.sha256 bytes = row.validationReportContentHash → reader.decodeReport bytes = .ok report →
        report.reportId ≠ placeholderReportId row.validationReportArtifactId
  | .current _ => False

/-- **The row says what the verified bytes of its artifact say, an artifact of its own run.** -/
def Truthful (g : GateEvidence) : Prop :=
  ∃ artifact report, t.getArtifact g.validationReportArtifactId = some artifact ∧
    artifact.runId = g.runId ∧ artifact.contentHash = g.validationReportContentHash ∧
    Decodes store reader artifact report ∧ DerivedFrom g report

/-- No bytes with the recorded hash are a report with the recorded id. -/
def Unmatched (g : GateEvidence) : Prop :=
  ∀ bytes report, store.sha256 bytes = g.validationReportContentHash →
    reader.decodeReport bytes = .ok report → report.reportId ≠ g.validationReportId

/-- **Evidence of this version tells the truth**, and a migrated row that passes matches no report.
-/
structure Sound : Prop where
  truthful : ∀ g ∈ t.gateEvidence.rows, g.legacy = false → Truthful store reader t g
  unmatched : ∀ g ∈ t.gateEvidence.rows, g.legacy = true → g.status = .pass →
    Unmatched store reader g

end

section
variable {store : LocalArtifactStore} {reader : ReportReader} {t t' : GateTables} {a : Action}

variable {report : ValidationReport} {files files' : FileState}
  {external : String → Except StoreExc Bytes} {r : Except StoreExc (GateEvidence × GateTables)}

/-- What `record_from_validation_report` commits, `record_gate_evidence` commits. -/
theorem recordFromValidationReport_runs {gateId platformRunId : String}
    {reportArtifact : Artifacts.ArtifactRef} {verifiedContentCommit : String}
    {provenanceRefs : List String} {recordedAt : Instant}
    (h : (recordFromValidationReport store reader gateId platformRunId report reportArtifact
      verifiedContentCommit provenanceRefs recordedAt t).Runs (during external) files r files') :
    committed t r = t ∨ (recordGateEvidence store reader (derivedEvidence gateId platformRunId report
      reportArtifact verifiedContentCommit provenanceRefs recordedAt) report t).Runs
        (during external) files r files' := by
  have hfail : ∀ {e : StoreExc}, r = .error e → committed t r = t := fun he => by rw [he]; rfl
  unfold recordFromValidationReport at h
  split at h
  · exact .inl (hfail h.1)
  · split at h
    · exact .inl (hfail h.1)
    · split at h
      · exact .inl (hfail h.1)
      · rename_i hregistered
        rw [not_not] at hregistered
        split at h
        · exact .inl (hfail h.1)
        · split at h
          · exact .inl (hfail h.1)
          · rcases runs_bind.1 h with ⟨u, files1, hmatch, hrecord⟩ | ⟨e, _, he⟩
            · have hfiles : files1 = files := ((finds_matchReport _ _).runs hmatch).1
              rw [hfiles, hregistered] at hrecord
              exact .inr hrecord
            · exact .inl (hfail he)

/-- A recording changes nothing, or writes evidence that it has validated. -/
theorem recordGateEvidence_step {evidence : GateEvidence}
    (h : (recordGateEvidence store reader evidence report t).Runs (during external) files r files') :
    committed t r = t ∨ ∃ artifact, Validated store reader t evidence artifact report ∧
      Wrote t evidence (committed t r) ∧
      (WrittenInOrder store reader t evidence report files external → InOrder t evidence) := by
  rcases r with e | ⟨g, t'⟩
  · exact .inl rfl
  · obtain ⟨⟨artifact, hvalidated⟩, hwrite⟩ :=
      (finds_recordGateEvidence evidence report t).value h rfl
    rcases writeEvidence_ok hwrite with hsame | ⟨hopen, hwrote⟩
    · exact .inl hsame
    · rcases runs_bind.1 h with ⟨u, files1, hvalidate, _⟩ | ⟨e, _, he⟩
      · have hfiles : files1 = files := ((finds_validateGateReport _ _ _).runs hvalidate).1
        rw [hfiles] at hvalidate
        exact .inr ⟨artifact, hvalidated, hwrote, fun hconforms => hconforms hvalidate hopen⟩
      · cases he

/-- **Everything that a step can do.** -/
theorem step_cases (h : Step store reader t a t') :
    (t'.gateEvidence = t.gateEvidence ∧ ArtifactsKept t t') ∨
      ∃ evidence report artifact, Validated store reader t evidence artifact report ∧
        Wrote t evidence t' ∧ (Conforms store reader t a → InOrder t evidence) := by
  have hsame : t.gateEvidence = t.gateEvidence ∧ ArtifactsKept t t :=
    ⟨rfl, artifactsKept_of_eq rfl⟩
  cases a with
  | createRun run =>
    left
    cases hrun : t.createRun run with
    | error e => rw [show t' = t by rw [h, hrun]; rfl]; exact hsame
    | ok v => rw [show t' = v.2 by rw [h, hrun]; rfl]; exact createRun_ok hrun
  | registerArtifact artifact =>
    left
    cases hregister : t.registerArtifact artifact with
    | error e => rw [show t' = t by rw [h, hregister]; rfl]; exact hsame
    | ok v => rw [show t' = v.2 by rw [h, hregister]; rfl]; exact registerArtifact_ok hregister
  | markArtifactTombstoned artifactId =>
    left
    cases hmark : t.markArtifactTombstoned artifactId with
    | error e => rw [show t' = t by rw [h, hmark]; rfl]; exact hsame
    | ok v => rw [show t' = v.2 by rw [h, hmark]; rfl]; exact markArtifactTombstoned_ok hmark
  | reopen =>
    left
    rw [show t' = t from h]
    exact hsame
  | recordGateEvidence evidence report files external =>
    obtain ⟨r, files', hrun, rfl⟩ := h
    rcases recordGateEvidence_step hrun with hnone | ⟨artifact, hvalidated, hwrote, hconforms⟩
    · left
      rw [hnone]
      exact hsame
    · exact .inr ⟨evidence, report, artifact, hvalidated, hwrote, hconforms⟩
  | recordFromValidationReport gateId platformRunId report reportArtifact verifiedContentCommit
      provenanceRefs recordedAt files external =>
    obtain ⟨r, files', hrun, rfl⟩ := h
    rcases recordFromValidationReport_runs hrun with hnone | hrecord
    · left
      rw [hnone]
      exact hsame
    · rcases recordGateEvidence_step hrecord with hnone | ⟨artifact, hvalidated, hwrote, hconforms⟩
      · left
        rw [hnone]
        exact hsame
      · exact .inr ⟨_, report, artifact, hvalidated, hwrote, hconforms⟩

theorem Truthful.mono {g : GateEvidence} (h : Truthful store reader t g)
    (hkept : ArtifactsKept t t') : Truthful store reader t' g := by
  obtain ⟨artifact, report, hartifact, hrun, hhash, ⟨bytes, hbytes, hsize, hdecode⟩, hderived⟩ := h
  obtain ⟨artifact', hartifact', hrun', hhash', hsize'⟩ := hkept _ _ hartifact
  exact ⟨artifact', report, hartifact', hrun'.trans hrun, hhash'.trans hhash,
    ⟨bytes, hbytes.trans hhash'.symm, hsize.trans hsize'.symm, hdecode⟩, hderived⟩

theorem Validated.truthful {evidence : GateEvidence} {artifact : Artifacts.ArtifactRef}
    (h : Validated store reader t evidence artifact report) (horder : InOrder t evidence) :
    Truthful store reader t evidence :=
  ⟨artifact, report, h.registered, horder.ownRun artifact h.registered, h.contentHash, h.decodes,
    h.derived⟩

theorem sound_migrate {db : Database} (h : db.Conforms store reader) :
    Sound store reader (migrate db) := by
  cases db with
  | missing =>
    refine ⟨fun g hg => ?_, fun g hg => ?_⟩
    · cases hg
    · cases hg
  | current tables => exact h.elim
  | version2 old =>
    refine ⟨fun g hg hlegacy => ?_, fun g hg _ hpass => ?_⟩
    · obtain ⟨row, _, rfl⟩ := List.mem_map.1 hg
      have hmarked : (migratedEvidence old row).legacy = true := by
        unfold GateEvidence.legacy migratedEvidence
        split
        · assumption
        · simp
      rw [hmarked] at hlegacy
      cases hlegacy
    · obtain ⟨row, hrow, rfl⟩ := List.mem_map.1 hg
      exact h row hrow hpass

/-- **One step keeps the invariant**, and every row that it takes away was marked and has a truthful
one in its place. -/
theorem step_sound (h : Sound store reader t) (ha : Conforms store reader t a)
    (hstep : Step store reader t a t') :
    Sound store reader t' ∧ ArtifactsKept t t' ∧ ∀ g ∈ t.gateEvidence.rows,
      g ∈ t'.gateEvidence.rows ∨ (g.legacy = true ∧ ∃ g' ∈ t'.gateEvidence.rows,
        g'.gateId = g.gateId ∧ g'.runId = g.runId ∧ Truthful store reader t' g') := by
  rcases step_cases hstep with ⟨hrows, hkept⟩ | ⟨evidence, report, artifact, hvalidated, hwrote, ho⟩
  · refine ⟨⟨fun g hg hlegacy => ?_, fun g hg => ?_⟩, hkept, fun g hg => ?_⟩
    · rw [hrows] at hg
      exact (h.truthful g hg hlegacy).mono hkept
    · rw [hrows] at hg
      exact h.unmatched g hg
    · rw [hrows]
      exact .inl hg
  · have horder := ho ha
    have hkept : ArtifactsKept t t' := artifactsKept_of_eq hwrote.artifacts
    have htruthful : Truthful store reader t' evidence := (hvalidated.truthful horder).mono hkept
    refine ⟨⟨fun g hg hlegacy => ?_, fun g hg hlegacy hpass => ?_⟩, hkept, fun g hg => ?_⟩
    · rcases hwrote.rows g hg with rfl | hold
      · exact htruthful
      · exact (h.truthful g hold hlegacy).mono hkept
    · rcases hwrote.rows g hg with rfl | hold
      · rw [horder.unmarked hpass] at hlegacy
        cases hlegacy
      · exact h.unmatched g hold hlegacy hpass
    · rcases hwrote.kept g hg with hstays | ⟨hlegacy, hgate, hrun⟩
      · exact .inl hstays
      · exact .inr ⟨hlegacy, evidence, hwrote.written, hgate.symm, hrun.symm, htruthful⟩

theorem reaches_sound (h : Sound store reader t)
    (hrun : Reaches store reader (Conforms store reader) t t') :
    Sound store reader t' ∧ ∀ g ∈ t.gateEvidence.rows,
      g ∈ t'.gateEvidence.rows ∨ (g.legacy = true ∧ ∃ g' ∈ t'.gateEvidence.rows,
        g'.gateId = g.gateId ∧ g'.runId = g.runId ∧ Truthful store reader t' g') := by
  induction hrun with
  | refl => exact ⟨h, fun g hg => .inl hg⟩
  | step _ ha hstep ih =>
    obtain ⟨hsound, hrows⟩ := ih
    obtain ⟨hsound', hkept, hrows'⟩ := step_sound hsound ha hstep
    refine ⟨hsound', fun g hg => ?_⟩
    rcases hrows g hg with hstays | ⟨hlegacy, g1, hg1, hgate, hr, htruthful⟩
    · exact hrows' g hstays
    · -- the truthful row in its place stays, or has a truthful one in its own
      rcases hrows' g1 hg1 with hstays | ⟨_, g2, hg2, hgate2, hr2, htruthful2⟩
      · exact .inr ⟨hlegacy, g1, hstays, hgate, hr, htruthful.mono hkept⟩
      · exact .inr ⟨hlegacy, g2, hg2, hgate2.trans hgate, hr2.trans hr, htruthful2⟩

/-- A marked row of a sound store lets no run succeed, whatever the artifact store holds. -/
theorem Sound.marked_invalid (h : Sound store reader t) {g : GateEvidence}
    (hg : g ∈ t.gateEvidence.rows) (hlegacy : g.legacy = true)
    (hgate : g.gateId = "G6_DATA_CORRECTNESS") {valid : Bool}
    (hrun : (validG6Evidence store reader g.runId t).Runs (during external) files (.ok valid)
      files') : valid = false := by
  by_contra hvalid
  obtain ⟨g', artifact, report, hfound, hpass, hhash, ⟨bytes, hbytes, _, hdecode⟩, hid⟩ :=
    (finds_validG6Evidence g.runId t).value hrun rfl (Bool.eq_true_of_not_eq_false hvalid)
  have hself : t.getGateEvidence "G6_DATA_CORRECTNESS" g.runId = some g :=
    hgate ▸ Table.find?_of_mem hg
  rw [hself] at hfound
  cases hfound
  exact h.unmatched g hg hlegacy hpass bytes report (hbytes.trans hhash) hdecode hid

end

/-- **Gate evidence tells the truth** in every run that records evidence in order. -/
theorem gate_evidence_tells_the_truth (store : LocalArtifactStore) (reader : ReportReader)
    {db : Database} (hdb : db.Conforms store reader) {t : GateTables}
    (ht : Reaches store reader (Conforms store reader) (migrate db) t) :
    (∀ g ∈ t.gateEvidence.rows, g.legacy = false → Truthful store reader t g ∧
      ∀ t', Reaches store reader (Conforms store reader) t t' → g ∈ t'.gateEvidence.rows) ∧
    (∀ g ∈ t.gateEvidence.rows, g.legacy = true →
      (∀ t', Reaches store reader (Conforms store reader) t t' → g ∈ t'.gateEvidence.rows ∨
        ∃ g' ∈ t'.gateEvidence.rows, g'.gateId = g.gateId ∧ g'.runId = g.runId ∧
          Truthful store reader t' g') ∧
      (g.gateId = "G6_DATA_CORRECTNESS" → ∀ external files files' valid,
        (validG6Evidence store reader g.runId t).Runs (during external) files (.ok valid) files' →
          valid = false)) := by
  have hsound := (reaches_sound (sound_migrate hdb) ht).1
  refine ⟨fun g hg hlegacy => ⟨hsound.truthful g hg hlegacy, fun t' hrun => ?_⟩,
    fun g hg hlegacy => ⟨fun t' hrun => ?_, fun hgate external files files' valid hvalid => ?_⟩⟩
  · rcases (reaches_sound hsound hrun).2 g hg with hstays | ⟨hmarked, _⟩
    · exact hstays
    · rw [hlegacy] at hmarked
      cases hmarked
  · rcases (reaches_sound hsound hrun).2 g hg with hstays | ⟨_, hreplaced⟩
    · exact .inl hstays
    · exact .inr hreplaced
  · exact hsound.marked_invalid hg hlegacy hgate hvalid

/-! ## A recording, and one for another run -/

/-- The tables after an action that nothing disturbs. -/
def next (store : LocalArtifactStore) (reader : ReportReader) (t : GateTables) : Action → GateTables
  | .createRun run => committed t (t.createRun run)
  | .registerArtifact artifact => committed t (t.registerArtifact artifact)
  | .markArtifactTombstoned artifactId => committed t (t.markArtifactTombstoned artifactId)
  | .reopen => migrate (.current t)
  | .recordGateEvidence evidence report files external =>
    committed t ((recordGateEvidence store reader evidence report t).run (during external) none
      files).1
  | .recordFromValidationReport gateId platformRunId report reportArtifact verifiedContentCommit
      provenanceRefs recordedAt files external =>
    committed t ((recordFromValidationReport store reader gateId platformRunId report reportArtifact
      verifiedContentCommit provenanceRefs recordedAt t).run (during external) none files).1

theorem step_next (store : LocalArtifactStore) (reader : ReportReader) (t : GateTables) (a : Action) :
    Step store reader t a (next store reader t a) := by
  cases a with
  | recordGateEvidence | recordFromValidationReport => exact ⟨_, _, runs_run _ _ _, rfl⟩
  | _ => rfl

def demoReport : ValidationReport where
  runId := "validation-1"
  reportId := "vreport-1"
  g6Status := .pass
  g6Eligible := true
  policyVersion := "1.0"
  body := "{}"
  eligible_iff := by decide

/-- The text `a` is the report. -/
def demoReader : ReportReader where
  loads bytes := if bytes = [97] then .report none demoReport else .notJson
  contentHash _ := ""

def demoManifest : Artifacts.ArtifactManifest :=
  { Artifacts.demoManifest "report-1" with artifactKind := "ValidationReport" }

def demoFiles : FileState := Artifacts.after Artifacts.demoStore .empty
  (.publish demoManifest (.bytes [97]))

def demoArtifact : Artifacts.ArtifactRef :=
  LocalArtifactStore.publishedManaged demoManifest (Artifacts.demoSha256 [97]) 1

def demoRun (runId : String) : RunRecord where
  runId := runId
  projectId := "project-1"
  createdAt := 0
  configurationFingerprint := "config-1"

/-- Two runs, and a report of the first. -/
def demoRegistered : GateTables :=
  [.createRun (demoRun "run-1"), .createRun (demoRun "run-2"), .registerArtifact demoArtifact].foldl
    (next Artifacts.demoStore demoReader) (migrate .missing)

variable (platformRunId : String)

def demoRecording : Action :=
  .recordFromValidationReport "G6_DATA_CORRECTNESS" platformRunId demoReport demoArtifact
    "0123456789012345678901234567890123456789" [] 0 demoFiles fun _ => .error .os

def demoRecorded : GateTables :=
  next Artifacts.demoStore demoReader demoRegistered (demoRecording platformRunId)

def demoEvidence : GateEvidence :=
  derivedEvidence "G6_DATA_CORRECTNESS" platformRunId demoReport demoArtifact
    "0123456789012345678901234567890123456789" [] 0

theorem reaches_demoRegistered {P : GateTables → Action → Prop}
    (h : ∀ t run, P t (.createRun run)) (h' : ∀ t artifact, P t (.registerArtifact artifact)) :
    Reaches Artifacts.demoStore demoReader P (migrate .missing) demoRegistered :=
  ((Reaches.refl.step (h _ _) (step_next _ _ _ (.createRun (demoRun "run-1")))).step (h _ _)
    (step_next _ _ _ (.createRun (demoRun "run-2")))).step (h' _ _)
    (step_next _ _ _ (.registerArtifact demoArtifact))

theorem demoRecorded_rows : (demoRecorded "run-1").gateEvidence.rows = [demoEvidence "run-1"] ∧
      (demoRecorded "run-2").gateEvidence.rows = [demoEvidence "run-2"] := by
  decide +kernel

theorem demoRegistered_artifact : demoRegistered.getArtifact "report-1" = some demoArtifact := by
  decide +kernel

/-- Recorded for its own run, the row is truthful. -/
theorem gate_evidence_tells_the_truth_own_run :
    Truthful Artifacts.demoStore demoReader (demoRecorded "run-1") (demoEvidence "run-1") := by
  have horder : InOrder demoRegistered (demoEvidence "run-1") := by
    refine ⟨fun artifact hartifact => ?_, fun _ => by decide +kernel⟩
    rw [show (demoEvidence "run-1").validationReportArtifactId = "report-1" from rfl,
      demoRegistered_artifact] at hartifact
    cases hartifact
    rfl
  have hmissing : Database.missing.Conforms Artifacts.demoStore demoReader := trivial
  exact ((gate_evidence_tells_the_truth Artifacts.demoStore demoReader hmissing
    ((reaches_demoRegistered (fun _ _ => trivial) fun _ _ => trivial).step
      (a := demoRecording "run-1") (fun _ _ => horder) (step_next _ _ _ _))).1
    (demoEvidence "run-1") (by
      show _ ∈ (demoRecorded "run-1").gateEvidence.rows
      rw [demoRecorded_rows.1]
      exact List.mem_singleton_self _) (by decide +kernel)).1

/-- **The report of one run is recorded as the evidence of another.** -/
theorem another_runs_report_recorded :
    Reaches Artifacts.demoStore demoReader (fun _ _ => True) (migrate .missing)
      (demoRecorded "run-2") ∧ ∃ g ∈ (demoRecorded "run-2").gateEvidence.rows, g.legacy = false ∧
      ¬ Truthful Artifacts.demoStore demoReader (demoRecorded "run-2") g := by
  refine ⟨(reaches_demoRegistered (fun _ _ => trivial) fun _ _ => trivial).step
    (a := demoRecording "run-2") trivial (step_next _ _ _ _), demoEvidence "run-2", ?_, ?_, ?_⟩
  · rw [demoRecorded_rows.2]
    exact List.mem_singleton_self _
  · decide +kernel
  · rintro ⟨artifact, report, hartifact, hrun, _⟩
    have hregistered : (demoRecorded "run-2").getArtifact "report-1" = some demoArtifact := by
      decide +kernel
    rw [show (demoEvidence "run-2").validationReportArtifactId = "report-1" from rfl,
      hregistered] at hartifact
    cases hartifact
    exact absurd hrun (by decide)

end DirtyDataOlap.Gate
