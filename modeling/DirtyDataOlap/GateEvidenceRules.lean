import DirtyDataOlap.GateEvidenceRecords

/-!
# What the steps of a recording do

`_validate_gate_report` lets evidence through that says what a report says, one that verified bytes
decode to (`Validated`); writing it takes away no unmarked row (`Wrote`); the other statements leave
the evidence alone (`ArtifactsKept`).  `_valid_g6_evidence` says yes only of a row whose report it
has read.
-/
namespace DirtyDataOlap.Gate

open Prog List GateTables Table
open Artifacts (Bytes FileState Files Finds LocalArtifactStore StoreExc during finds_bind finds_done
  finds_pure finds_raising finds_read finds_stat finds_tryCatch finds_verifiedBytes finds_verify raising)

/-! ## What is checked -/

section
variable {external : String → Except StoreExc Bytes} {s : FileState} {α : Type} {A : α → Prop}
  {store : LocalArtifactStore}

/-- Bytes that verify against the reference decode to the report. -/
def Decodes (store : LocalArtifactStore) (reader : ReportReader) (artifact : Artifacts.ArtifactRef)
    (report : ValidationReport) : Prop :=
  ∃ bytes, store.sha256 bytes = artifact.contentHash ∧ bytes.length = artifact.byteSize ∧
    reader.decodeReport bytes = .ok report

variable {reader : ReportReader}

theorem finds_notPresent (e : StoreExc) : Finds external (notPresent e : Files α) s A := by
  unfold notPresent
  split
  · exact finds_raising
  · split
    · exact finds_raising
    · exact finds_raising

theorem finds_matchReport (artifact : Artifacts.ArtifactRef) (report : ValidationReport) :
    Finds external (matchReport store reader artifact report) s fun _ =>
      Decodes store reader artifact report := by
  refine finds_bind (finds_tryCatch (finds_stat _) finds_notPresent) fun stored hstat => ?_
  split
  · exact finds_raising
  · rename_i hstored
    refine finds_bind (finds_verify _) fun integrity hverify => ?_
    split
    · exact finds_raising
    · rename_i hstate
      refine finds_bind (finds_read _) fun payload hread => ?_
      refine finds_bind (finds_done (A := fun parsed => reader.decodeReport payload = .ok parsed)
        fun _ h => h) fun parsed hparsed => ?_
      split
      · exact finds_raising
      · rename_i heq
        obtain ⟨hhash, hsize⟩ := finds_verifiedBytes hstat (not_not.1 hstored)
          (hverify (not_not.1 hstate)) hread
        exact finds_pure ⟨payload, hhash, hsize, by rw [hparsed, not_not.1 heq]⟩

/-- The evidence says what the report says. -/
structure DerivedFrom (g : GateEvidence) (report : ValidationReport) : Prop where
  status : g.status = report.g6Status
  eligible : g.eligible = report.g6Eligible
  policyVersion : g.policyVersion = report.policyVersion
  reportRunId : g.validationReportRunId = report.runId
  reportId : g.validationReportId = report.reportId

theorem validateAgreement_ok {evidence : GateEvidence} {report : ValidationReport} {u : Unit}
    (h : validateAgreement evidence report = .ok u) :
    evidence.gateId = "G6_DATA_CORRECTNESS" ∧ DerivedFrom evidence report := by
  unfold validateAgreement at h
  split at h
  · cases h
  · rename_i hgate
    split at h
    · cases h
    · rename_i hstatus
      split at h
      · cases h
      · rename_i hpolicy
        split at h
        · cases h
        · rename_i hidentity
          rw [not_or, not_not, not_not] at hstatus hidentity
          exact ⟨not_not.1 hgate, hstatus.1, hstatus.2, not_not.1 hpolicy, hidentity.1, hidentity.2⟩

variable (store reader) in
/-- What `_validate_gate_report` has checked when it lets evidence through. -/
structure Validated (t : GateTables) (evidence : GateEvidence) (artifact : Artifacts.ArtifactRef)
    (report : ValidationReport) : Prop where
  registered : t.getArtifact evidence.validationReportArtifactId = some artifact
  kind : artifact.artifactKind = "ValidationReport"
  published : artifact.publicationState = .published
  contentHash : artifact.contentHash = evidence.validationReportContentHash
  decodes : Decodes store reader artifact report
  gate : evidence.gateId = "G6_DATA_CORRECTNESS"
  derived : DerivedFrom evidence report

theorem finds_validateGateReport (evidence : GateEvidence) (report : ValidationReport)
    (t : GateTables) : Finds external (validateGateReport store reader evidence report t) s fun _ =>
      ∃ artifact, Validated store reader t evidence artifact report := by
  unfold validateGateReport
  split
  · exact finds_raising
  · rename_i artifact hartifact
    split
    · exact finds_raising
    · rename_i hkind
      split
      · exact finds_raising
      · rename_i hpublished
        split
        · exact finds_raising
        · rename_i hhash
          refine finds_bind (finds_matchReport artifact report) fun _ hdecodes => ?_
          refine finds_done fun u hu => ?_
          obtain ⟨hgate, hderived⟩ := validateAgreement_ok hu
          exact ⟨artifact, hartifact, not_not.1 hkind, not_not.1 hpublished, not_not.1 hhash,
            hdecodes, hgate, hderived⟩

theorem finds_recordGateEvidence (evidence : GateEvidence) (report : ValidationReport)
    (t : GateTables) : Finds external (recordGateEvidence store reader evidence report t) s fun r =>
      (∃ artifact, Validated store reader t evidence artifact report) ∧
        t.writeEvidence evidence = .ok r :=
  finds_bind (finds_validateGateReport evidence report t) fun _ hvalidated =>
    finds_done fun _ hr => ⟨hvalidated, hr⟩

theorem finds_noReport (e : StoreExc) {A : Option ValidationReport → Prop} (h : A none) :
    Finds external (noReport e) s A := by
  unfold noReport
  split
  · exact finds_pure h
  · exact finds_pure h
  · exact finds_pure h
  · split
    · exact finds_pure h
    · exact finds_raising

theorem finds_verifiedReport (artifact : Artifacts.ArtifactRef) :
    Finds external (verifiedReport store reader artifact) s fun found =>
      ∀ report, found = some report → Decodes store reader artifact report := by
  have hnone : ∀ report : ValidationReport, none = some report →
      Decodes store reader artifact report := fun _ he => by cases he
  refine finds_tryCatch ?_ fun e => finds_noReport e hnone
  refine finds_bind (finds_stat _) fun stored hstat => ?_
  split
  · exact finds_pure hnone
  · rename_i hstored
    refine finds_bind (finds_verify _) fun integrity hverify => ?_
    split
    · exact finds_pure hnone
    · rename_i hstate
      refine finds_bind (finds_read _) fun payload hread => ?_
      refine finds_bind (finds_done (A := fun parsed => reader.decodeReport payload = .ok parsed)
        fun _ h => h) fun parsed hparsed => ?_
      obtain ⟨hhash, hsize⟩ := finds_verifiedBytes hstat (not_not.1 hstored)
        (hverify (not_not.1 hstate)) hread
      exact finds_pure fun _ he => by cases he; exact ⟨payload, hhash, hsize, hparsed⟩

/-- **What `_valid_g6_evidence` has seen when it says yes.** -/
theorem finds_validG6Evidence (runId : String) (t : GateTables) :
    Finds external (validG6Evidence store reader runId t) s fun valid => valid = true →
      ∃ g artifact report, t.getGateEvidence "G6_DATA_CORRECTNESS" runId = some g ∧
        g.status = .pass ∧ artifact.contentHash = g.validationReportContentHash ∧
        Decodes store reader artifact report ∧ report.reportId = g.validationReportId := by
  unfold validG6Evidence
  split
  · exact finds_pure fun he => by cases he
  · rename_i g hg
    split
    · exact finds_pure fun he => by cases he
    · rename_i hpass
      split
      · exact finds_pure fun he => by cases he
      · rename_i artifact hartifact
        split
        · exact finds_pure fun he => by cases he
        · split
          · exact finds_pure fun he => by cases he
          · rename_i hhash
            refine finds_bind (finds_verifiedReport artifact) fun found hfound => ?_
            split
            · exact finds_pure fun he => by cases he
            · rename_i report
              refine finds_pure fun hvalid => ?_
              simp only [Bool.and_eq_true, decide_eq_true_eq] at hvalid
              rw [not_or, not_or, not_not] at hpass
              exact ⟨g, artifact, report, hg, not_not.1 hpass.2.1, not_not.1 hhash,
                hfound report rfl, hvalid.1.1.2⟩

end

/-! ## What the statements do to the tables -/

/-- One row is written, and no unmarked one goes. -/
structure Wrote (t : GateTables) (evidence : GateEvidence) (t' : GateTables) : Prop where
  artifacts : t'.artifacts = t.artifacts
  written : evidence ∈ t'.gateEvidence.rows
  rows : ∀ g ∈ t'.gateEvidence.rows, g = evidence ∨ g ∈ t.gateEvidence.rows
  kept : ∀ g ∈ t.gateEvidence.rows, g ∈ t'.gateEvidence.rows ∨
    (g.legacy = true ∧ g.gateId = evidence.gateId ∧ g.runId = evidence.runId)

/-- No unmarked row has the gate and the run of the evidence. -/
def Open (t : GateTables) (evidence : GateEvidence) : Prop :=
  ∀ stored, t.getGateEvidence evidence.gateId evidence.runId = some stored → stored.legacy = true

variable {t t' : GateTables}

theorem wrote_replaceEvidence {evidence stored : GateEvidence}
    (hstored : t.getGateEvidence evidence.gateId evidence.runId = some stored)
    (hlegacy : stored.legacy = true) : Wrote t evidence (t.replaceEvidence evidence) := by
  have hrows : (t.replaceEvidence evidence).gateEvidence.rows =
      t.gateEvidence.rows.map fun g =>
        if g.gateId = evidence.gateId ∧ g.runId = evidence.runId then evidence else g := by
    refine map_congr_left fun g _ => ?_
    by_cases hkey : g.gateId = evidence.gateId ∧ g.runId = evidence.runId
    · obtain ⟨hgate, hrun⟩ := hkey
      simp [hgate, hrun]
    · simp [hkey]
  have hkey := find?_key hstored
  obtain ⟨hgate, hrun⟩ := Prod.mk.injEq _ _ _ _ ▸ hkey
  refine ⟨rfl, ?_, ?_, ?_⟩
  · rw [hrows]
    exact mem_map.2 ⟨stored, mem_of_find? hstored, if_pos ⟨hgate, hrun⟩⟩
  · intro g hg
    rw [hrows] at hg
    obtain ⟨old, hold, rfl⟩ := mem_map.1 hg
    split
    · exact .inl rfl
    · exact .inr hold
  · intro g hg
    by_cases hsame : g.gateId = evidence.gateId ∧ g.runId = evidence.runId
    · -- the row of this key is the one that was found
      have hfound := find?_of_mem hg
      rw [show (g.gateId, g.runId) = (evidence.gateId, evidence.runId) by
        rw [hsame.1, hsame.2]] at hfound
      have heq : g = stored := Option.some.inj (hfound.symm.trans hstored)
      exact .inr ⟨heq ▸ hlegacy, hsame⟩
    · rw [hrows]
      exact .inl (mem_map.2 ⟨g, hg, if_neg hsame⟩)

theorem writeEvidence_ok {evidence g : GateEvidence} (h : t.writeEvidence evidence = .ok (g, t')) :
    t' = t ∨ (Open t evidence ∧ Wrote t evidence t') := by
  unfold writeEvidence at h
  split at h
  · rename_i stored hstored
    split at h
    · rename_i hlegacy
      cases h
      exact .inr ⟨fun _ he => Option.some.inj (hstored.symm.trans he) ▸ hlegacy,
        wrote_replaceEvidence hstored hlegacy⟩
    · split at h
      · cases h
      · cases h
        exact .inl rfl
  · rename_i hnone
    split at h
    · cases h
    · split at h
      · rename_i gateEvidence hinsert
        cases h
        have hrows := insert?_rows hinsert
        refine .inr ⟨fun _ he => ?_, rfl, ?_, ?_, ?_⟩
        · rw [hnone] at he
          cases he
        · rw [hrows]
          exact mem_append_right _ (mem_singleton_self _)
        · intro g hg
          rw [hrows, mem_append, mem_singleton] at hg
          exact hg.symm
        · intro g hg
          rw [hrows]
          exact .inl (mem_append_left _ hg)
      · cases h

/-- Registered artifacts stay, and stay what they are but for being tombstoned. -/
def ArtifactsKept (t t' : GateTables) : Prop :=
  ∀ artifactId artifact, t.getArtifact artifactId = some artifact →
    ∃ artifact', t'.getArtifact artifactId = some artifact' ∧ artifact'.runId = artifact.runId ∧
      artifact'.contentHash = artifact.contentHash ∧ artifact'.byteSize = artifact.byteSize

theorem artifactsKept_of_eq (h : t'.artifacts = t.artifacts) : ArtifactsKept t t' := by
  intro artifactId artifact hartifact
  refine ⟨artifact, ?_, rfl, rfl, rfl⟩
  rw [getArtifact, h]
  exact hartifact

theorem createRun_ok {run stored : RunRecord} (h : t.createRun run = .ok (stored, t')) :
    t'.gateEvidence = t.gateEvidence ∧ ArtifactsKept t t' := by
  unfold createRun at h
  split at h
  · cases h
    exact ⟨rfl, artifactsKept_of_eq rfl⟩
  · cases h

theorem registerArtifact_ok {artifact stored : Artifacts.ArtifactRef}
    (h : t.registerArtifact artifact = .ok (stored, t')) :
    t'.gateEvidence = t.gateEvidence ∧ ArtifactsKept t t' := by
  unfold registerArtifact at h
  split at h
  · cases h
  · split at h
    · split at h
      · cases h
      · split at h
        · cases h
        · cases h
          exact ⟨rfl, artifactsKept_of_eq rfl⟩
    · split at h
      · rename_i artifacts hinsert
        cases h
        refine ⟨rfl, fun artifactId old hold => ⟨old, ?_, rfl, rfl, rfl⟩⟩
        show artifacts.find? artifactId = some old
        rw [find?_insert? hinsert, show t.artifacts.find? artifactId = some old from hold]
        rfl
      · cases h

theorem markArtifactTombstoned_ok {artifactId : String} {u : Unit}
    (h : t.markArtifactTombstoned artifactId = .ok (u, t')) :
    t'.gateEvidence = t.gateEvidence ∧ ArtifactsKept t t' := by
  unfold markArtifactTombstoned at h
  split at h
  · cases h
    refine ⟨rfl, fun other artifact hartifact => ?_⟩
    have hfind := find?_update t.artifacts
      (fun a => a.artifactId = artifactId && a.publicationState = .published)
      (fun a => { a with publicationState := .tombstoned }) (fun _ => rfl) other
    rw [show t.artifacts.find? other = some artifact from hartifact, Option.map_some] at hfind
    refine ⟨_, hfind, ?_⟩
    split <;> exact ⟨rfl, rfl, rfl⟩
  · cases h

end DirtyDataOlap.Gate
