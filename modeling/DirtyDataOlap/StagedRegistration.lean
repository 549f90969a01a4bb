import DirtyDataOlap.ArtifactReferences
import DirtyDataOlap.GateEvidenceRecords

/-!
# Registering staged datasets

`LocalStagingStore.register_manifest` of `adapters/platform/staging.py`.  It registers the parts of
a manifest one by one, in a transaction each, and names an exception that its module does not
import.  **So a registration is all or nothing exactly if it is not stopped after a part that it
registered, and no store raises before** (`register_manifest_iff`).
-/
namespace DirtyDataOlap.Staging

open List
open Artifacts (ArtifactIntegrityResult FileState LocalArtifactStore Outside RetentionClass StoreExc
  perform)
open Gate (GateTables)

/-- One file of a staged table, with the reference under which the artifact store published it. -/
structure StagedDatasetPart where
  partId : String
  logicalKey : String
  artifactRef : Artifacts.ArtifactRef
  rowCount : Option Nat := none
  schemaFingerprint : String
  samplingScope : Option String := none
deriving DecidableEq

/-- `StagedDatasetManifest`, with what `unique_parts` says of the runs and states of the parts. -/
structure StagedDatasetManifest where
  datasetId : String
  datasetVersion : String
  identityVersion : String := "run-scoped-v2"
  runId : String
  sourceId : String
  snapshotId : String
  tableId : String
  schemaFingerprint : String
  format : String
  parts : List StagedDatasetPart
  rowCount : Option Nat := none
  schemaMetadataRef : Option String := none
  samplingScope : Option String := none
  provenanceRefs : List String := []
  retentionClass : RetentionClass := .runScoped
  nonempty : parts ≠ []
  distinct : (parts.map (·.partId)).Nodup
  ofRun : ∀ part ∈ parts, part.artifactRef.runId = runId
  published : ∀ part ∈ parts, part.artifactRef.publicationState = .published
deriving DecidableEq

/-- The tables that a registration touches. -/
structure StagingTables extends GateTables where
  stagedDatasets : Table fun m : StagedDatasetManifest => (m.runId, m.datasetId, m.datasetVersion)

/-- What an artifact store answers during one call. -/
structure ArtifactStorePort where
  stat : String → Except StoreExc Artifacts.ArtifactRef
  verify : String → Except StoreExc ArtifactIntegrityResult

/-- The answers of a local store from its files. -/
def localPort (store : LocalArtifactStore) (ω : Outside) (s : FileState) : ArtifactStorePort where
  stat artifactId := ((LocalArtifactStore.stat artifactId).run perform ω s).1
  verify artifactId := ((store.verify artifactId).run perform ω s).1

/-- What `register_manifest` raises, by where it comes from. -/
inductive RegistrationExc
  | value (detail : String)
  /-- `NameError`. -/
  | name
  | artifacts (e : StoreExc)
  | control (e : StoreExc)
deriving DecidableEq

/-- `ValueError`, or the conflict error of the control store. -/
def RegistrationExc.Expected : RegistrationExc → Prop
  | value _ | control (.conflict _) => True
  | _ => False

variable (port : ArtifactStorePort)

/-- `verify`, and the error for bytes that are not verified. -/
def checkBytes (part : StagedDatasetPart) (detail : String) : Except RegistrationExc Unit :=
  match port.verify part.artifactRef.artifactId with
  | .error e => .error (.artifacts e)
  | .ok integrity => if integrity.state = .verified then .ok () else .error (.value detail)

/-- One turn of the loop.  An exception of `stat` is compared with `PlatformError`, a name that
`staging.py` does not have. -/
def registerPart (part : StagedDatasetPart) (t : StagingTables) :
    Except RegistrationExc Unit × StagingTables :=
  match port.stat part.artifactRef.artifactId with
  | .error _ => (.error .name, t)
  | .ok stored =>
    if stored ≠ part.artifactRef then
      (.error (.value "staged manifest part differs between control and artifact stores"), t)
    else
      match t.getArtifact part.artifactRef.artifactId with
      | none =>
        match checkBytes port part
          "staged part bytes are not verified before manifest registration" with
        | .error e => (.error e, t)
        | .ok () =>
          match t.registerArtifact part.artifactRef with
          | .error e => (.error (.control e), t)
          | .ok (_, tables) => (checkBytes port part "staged manifest part bytes are not verified",
              { t with toGateTables := tables })
      | some registered =>
        if registered ≠ part.artifactRef then
          (.error (.value "staged manifest part does not match the registered artifact"), t)
        else if registered.publicationState ≠ .published then
          (.error (.value "staged manifest part artifact is not published"), t)
        else (checkBytes port part "staged manifest part bytes are not verified", t)

/-- `record_staged_dataset`. -/
def recordStagedDataset (manifest : StagedDatasetManifest) (t : StagingTables) :
    Except StoreExc StagedDatasetManifest × StagingTables :=
  if t.getRun manifest.runId = none then
    (.error (.platform "staged dataset requires an existing run"), t)
  else if manifest.parts.any fun part =>
      t.getArtifact part.artifactRef.artifactId ≠ some part.artifactRef then
    (.error (.platform "staged manifest part must match a registered artifact"), t)
  else
    match t.stagedDatasets.find? (manifest.runId, manifest.datasetId, manifest.datasetVersion),
      t.stagedDatasets.insert? manifest with
    | some stored, _ =>
      if stored ≠ manifest then
        (.error (.conflict "staged dataset identity is already bound to a different manifest"), t)
      else (.ok stored, t)
    | none, some stagedDatasets => (.ok manifest, { t with stagedDatasets })
    | none, none => (.error (.other "IntegrityError"), t)

/-- The loop over the parts. -/
def registerParts : List StagedDatasetPart → StagingTables →
    Except RegistrationExc Unit × StagingTables
  | [], t => (.ok (), t)
  | part :: rest, t =>
    match registerPart port part t with
    | (.ok (), t') => registerParts rest t'
    | (.error e, t') => (.error e, t')

/-- `register_manifest` with a control store; a manifest is valid already. -/
def registerManifest (manifest : StagedDatasetManifest) (t : StagingTables) :
    Except RegistrationExc StagedDatasetManifest × StagingTables :=
  match registerParts port manifest.parts t with
  | (.error e, t') => (.error e, t')
  | (.ok (), t') => ((recordStagedDataset manifest t').1.mapError .control,
      (recordStagedDataset manifest t').2)

/-! ## What stops a registration -/

variable {port} {t t' : StagingTables} {part : StagedDatasetPart} {parts : List StagedDatasetPart}
  {manifest : StagedDatasetManifest}

/-- The store finds the bytes of the part, and they are those of its reference. -/
def Verified (port : ArtifactStorePort) (part : StagedDatasetPart) : Prop :=
  ∃ integrity, port.verify part.artifactRef.artifactId = .ok integrity ∧ integrity.state = .verified

/-- The control store has the artifact of the part, as the manifest names it. -/
def Registered (t : StagingTables) (part : StagedDatasetPart) : Prop :=
  t.getArtifact part.artifactRef.artifactId = some part.artifactRef

/-- Nothing is registered under the id of the part, or the part is. -/
def Free (t : StagingTables) (part : StagedDatasetPart) : Prop :=
  t.getArtifact part.artifactRef.artifactId = none ∨ Registered t part

/-- The part is in the artifact store, as it is registered, and its bytes are verified. -/
structure Passes (port : ArtifactStorePort) (t : StagingTables) (part : StagedDatasetPart) :
    Prop where
  present : port.stat part.artifactRef.artifactId = .ok part.artifactRef
  free : Free t part
  verified : Verified port part

/-- The artifact store raises instead of answering. -/
def Raises (port : ArtifactStorePort) (t : StagingTables) (part : StagedDatasetPart) : Prop :=
  (∃ e, port.stat part.artifactRef.artifactId = .error e) ∨
    port.stat part.artifactRef.artifactId = .ok part.artifactRef ∧ Free t part ∧
      ∃ e, port.verify part.artifactRef.artifactId = .error e

theorem checkBytes_ok {detail : String} (h : Verified port part) :
    checkBytes port part detail = .ok () := by
  obtain ⟨integrity, hverify, hstate⟩ := h
  simp only [checkBytes, hverify, hstate, if_true]

/-- Bytes that are not verified are reported, where the store answers. -/
theorem checkBytes_not (h : ¬ Verified port part) :
    ∃ exc : String → RegistrationExc, (∀ detail, checkBytes port part detail = .error (exc detail)) ∧
      ∀ detail, (exc detail).Expected ↔ ¬ ∃ e, port.verify part.artifactRef.artifactId = .error e := by
  unfold checkBytes
  cases hverify : port.verify part.artifactRef.artifactId with
  | error e => exact ⟨fun _ => .artifacts e, fun _ => rfl, fun _ => iff_of_false id (· ⟨e, rfl⟩)⟩
  | ok integrity =>
    have hstate : integrity.state ≠ .verified := fun hstate => h ⟨integrity, hverify, hstate⟩
    exact ⟨.value, fun _ => if_neg hstate, fun _ => iff_of_true trivial nofun⟩

/-- **The part is registered**, if its run is there. -/
theorem registerPart_of_fresh (h : Passes port t part)
    (hfresh : t.getArtifact part.artifactRef.artifactId = none) :
    (t.getRun part.artifactRef.runId = none ∧ ∃ detail,
      registerPart port part t = (.error (.control (.platform detail)), t)) ∨
    (t.getRun part.artifactRef.runId ≠ none ∧ ∃ artifacts,
      t.artifacts.insert? part.artifactRef = some artifacts ∧
      registerPart port part t = (.ok (), { t with artifacts })) := by
  simp only [registerPart, h.present, hfresh, checkBytes_ok h.verified, GateTables.registerArtifact,
    ne_eq, not_true, if_false]
  by_cases hrun : t.getRun part.artifactRef.runId = none
  · simp only [if_pos hrun]
    exact .inl ⟨hrun, _, rfl⟩
  · obtain ⟨artifacts, hinsert⟩ := Table.exists_insert? hfresh
    simp only [if_neg hrun, hinsert]
    exact .inr ⟨hrun, artifacts, rfl, rfl⟩

section

variable (hpublished : part.artifactRef.publicationState = .published)
include hpublished

theorem registerPart_of_registered (h : Passes port t part) (hr : Registered t part) :
    registerPart port part t = (.ok (), t) := by
  have hget : t.getArtifact part.artifactRef.artifactId = some part.artifactRef := hr
  simp only [registerPart, h.present, hget, hpublished, checkBytes_ok h.verified, ne_eq, not_true,
    if_false]

/-- A part that does not pass stops the loop, with an expected error unless a store raises. -/
theorem registerPart_of_not (h : ¬ Passes port t part) :
    ∃ e, registerPart port part t = (.error e, t) ∧ (e.Expected ↔ ¬ Raises port t part) := by
  unfold registerPart Raises
  cases hstat : port.stat part.artifactRef.artifactId with
  | error e => exact ⟨.name, rfl, iff_of_false id (not_not.2 (.inl ⟨e, rfl⟩))⟩
  | ok stored =>
    simp only [reduceCtorEq, exists_false, false_or, Except.ok.injEq]
    by_cases hsame : stored = part.artifactRef
    swap
    · rw [if_pos hsame]
      exact ⟨_, rfl, iff_of_true trivial fun hraises => hsame hraises.1⟩
    subst hsame
    have hcheck (hfree : Free t part) := checkBytes_not fun hv => h ⟨hstat, hfree, hv⟩
    simp only [ne_eq, not_true, if_false, true_and]
    cases hget : t.getArtifact part.artifactRef.artifactId with
    | none =>
      have hfree : Free t part := .inl hget
      obtain ⟨exc, hexc, hexpected⟩ := hcheck hfree
      simp only [hexc, hfree, true_and]
      exact ⟨_, rfl, hexpected _⟩
    | some registered =>
      by_cases hregistered : registered = part.artifactRef
      · subst hregistered
        have hfree : Free t part := .inr hget
        obtain ⟨exc, hexc, hexpected⟩ := hcheck hfree
        simp only [hexc, hfree, hpublished, not_true, if_false, true_and]
        exact ⟨_, rfl, hexpected _⟩
      · simp only [hregistered, not_false_eq_true, if_true]
        refine ⟨_, rfl, iff_of_true trivial fun ⟨hfree, _⟩ => ?_⟩
        rcases hfree with hnone | hsome
        · cases hget.symm.trans hnone
        · exact hregistered (Option.some.inj (hget.symm.trans hsome))

/-- What one turn of the loop does. -/
theorem registerPart_cases (port : ArtifactStorePort) (t : StagingTables) :
    (¬ Passes port t part ∧ ∃ e, registerPart port part t = (.error e, t) ∧
      (e.Expected ↔ ¬ Raises port t part)) ∨
    (Passes port t part ∧ Registered t part ∧ registerPart port part t = (.ok (), t)) ∨
    (Passes port t part ∧ ¬ Registered t part ∧
      ((t.getRun part.artifactRef.runId = none ∧ ∃ detail,
        registerPart port part t = (.error (.control (.platform detail)), t)) ∨
      t.getRun part.artifactRef.runId ≠ none ∧ ∃ artifacts,
        t.artifacts.insert? part.artifactRef = some artifacts ∧
        registerPart port part t = (.ok (), { t with artifacts }))) := by
  by_cases h : Passes port t part
  · by_cases hr : Registered t part
    · exact .inr (.inl ⟨h, hr, registerPart_of_registered hpublished h hr⟩)
    · have hfresh := h.free.resolve_right hr
      exact .inr (.inr ⟨h, hr, registerPart_of_fresh h hfresh⟩)
  · exact .inl ⟨h, registerPart_of_not hpublished h⟩

end

/-! ## The loop -/

/-- Only artifacts are added. -/
structure Adds (t t' : StagingTables) : Prop where
  runs : t'.runs = t.runs
  stagedDatasets : t'.stagedDatasets = t.stagedDatasets
  rows : t.artifacts.rows <+: t'.artifacts.rows

theorem Adds.refl (t : StagingTables) : Adds t t := ⟨rfl, rfl, prefix_rfl⟩

theorem Adds.trans {t'' : StagingTables} (h : Adds t t') (h' : Adds t' t'') : Adds t t'' :=
  ⟨h'.runs.trans h.runs, h'.stagedDatasets.trans h.stagedDatasets, h.rows.trans h'.rows⟩

theorem Adds.registered (h : Adds t t') (hr : Registered t part) : Registered t' part := by
  obtain ⟨extra, hrows⟩ := h.rows
  unfold Registered GateTables.getArtifact Table.find? at hr ⊢
  rw [← hrows, find?_append, hr]
  rfl

variable {artifacts : Table fun a : Artifacts.ArtifactRef => a.artifactId}

theorem adds_insert (h : t.artifacts.insert? part.artifactRef = some artifacts) :
    Adds t { t with artifacts } :=
  ⟨rfl, rfl, [part.artifactRef], (Table.insert?_rows h).symm⟩

theorem registered_insert (h : t.artifacts.insert? part.artifactRef = some artifacts) :
    Registered { t with artifacts } part := by
  unfold Registered GateTables.getArtifact
  rw [Table.find?_insert? h, Table.insert?_fresh h, if_pos rfl]
  rfl

/-- The registration of a part that passes changes nothing for another one. -/
theorem passes_insert {other : StagedDatasetPart} (hpart : Passes port t part)
    (h : t.artifacts.insert? part.artifactRef = some artifacts) :
    Passes port { t with artifacts } other ↔ Passes port t other := by
  have hfree : port.stat other.artifactRef.artifactId = .ok other.artifactRef →
      (Free { t with artifacts } other ↔ Free t other) := by
    intro hpresent
    by_cases hid : part.artifactRef.artifactId = other.artifactRef.artifactId
    · have hsame : part.artifactRef = other.artifactRef := by
        rw [← hid, hpart.present] at hpresent
        exact Except.ok.inj hpresent
      have hr := registered_insert h
      have hfresh := Table.insert?_fresh h
      unfold Registered at hr
      unfold Free Registered
      rw [hsame] at hr hfresh
      exact iff_of_true (.inr hr) (.inl hfresh)
    · unfold Free Registered GateTables.getArtifact
      rw [Table.find?_insert? h, if_neg hid, Option.or_none]
  exact ⟨fun hp => ⟨hp.present, (hfree hp.present).1 hp.free, hp.verified⟩,
    fun hp => ⟨hp.present, (hfree hp.present).2 hp.free, hp.verified⟩⟩

/-- The first part that does not pass comes after registered ones, and the store answers for it. -/
def StopsCleanly (port : ArtifactStorePort) (t : StagingTables) : List StagedDatasetPart → Prop
  | [] => False
  | part :: rest => (¬ Passes port t part ∧ ¬ Raises port t part) ∨
      Passes port t part ∧ Registered t part ∧ StopsCleanly port t rest

/-- Every part passes, and the run is there unless nothing is to be registered. -/
def Complete (port : ArtifactStorePort) (t : StagingTables) (runId : String)
    (parts : List StagedDatasetPart) : Prop :=
  (∀ part ∈ parts, Passes port t part) ∧
    (t.getRun runId ≠ none ∨ ∀ part ∈ parts, Registered t part)

/-- **How the loop ends**, and that it changes nothing exactly if nothing is to be registered. -/
theorem registerParts_cases {runId : String}
    (hpublished : ∀ part ∈ parts, part.artifactRef.publicationState = .published)
    (hrun : ∀ part ∈ parts, part.artifactRef.runId = runId) (t : StagingTables) :
    (¬ Complete port t runId parts ∧ ∃ e t', registerParts port parts t = (.error e, t') ∧
      Adds t t' ∧ (e.Expected ∧ t' = t ↔ StopsCleanly port t parts)) ∨
    (Complete port t runId parts ∧ ¬ StopsCleanly port t parts ∧ ∃ t',
      registerParts port parts t = (.ok (), t') ∧ Adds t t' ∧
      (∀ part ∈ parts, Registered t' part) ∧ (t' = t ↔ ∀ part ∈ parts, Registered t part)) := by
  induction parts generalizing t with
  | nil =>
    exact .inr ⟨⟨forall_mem_nil _, .inr (forall_mem_nil _)⟩, id, t, rfl, .refl t, forall_mem_nil _,
      iff_of_true rfl (forall_mem_nil _)⟩
  | cons part rest ih =>
    obtain ⟨hpart, hrest⟩ := forall_mem_cons.1 hpublished
    obtain ⟨hpartRun, hrestRun⟩ := forall_mem_cons.1 hrun
    unfold registerParts StopsCleanly Complete
    simp only [forall_mem_cons]
    rcases registerPart_cases hpart port t with ⟨hp, e, hstep, he⟩ | ⟨hp, hr, hstep⟩ |
      ⟨hp, hr, ⟨hnone, detail, hstep⟩ | ⟨hsome, artifacts, hinsert, hstep⟩⟩
    · refine .inl ⟨fun h => hp h.1.1, e, t, by rw [hstep], .refl t, ?_⟩
      simp only [he, hp, not_false_eq_true, true_and, and_true, false_and, or_false]
    · simp only [hstep, hp, hr, not_true, false_and, false_or, true_and]
      rcases ih hrest hrestRun t with hfail | ⟨hcomplete, hstops, t', hloop, hadds, hall, hsame⟩
      · exact .inl hfail
      · exact .inr ⟨hcomplete, hstops, t', hloop, hadds, ⟨hadds.registered hr, hall⟩, hsame⟩
    · rw [hpartRun] at hnone
      refine .inl ⟨fun h => h.2.elim (· hnone) (hr ·.1), _, t, by rw [hstep], .refl t, ?_⟩
      simp only [hp, hr, RegistrationExc.Expected, not_true, false_and, and_false, or_false]
    · -- from here on the tables are not those of the start
      have hadds := adds_insert hinsert
      have hne : ∀ {t'}, Adds { t with artifacts } t' → t' ≠ t := by
        rintro _ h rfl
        have hlength := h.rows.length_le
        simp only [Table.insert?_rows hinsert, length_append, length_singleton] at hlength
        omega
      rw [hpartRun] at hsome
      simp only [hstep, hp, hr, not_true, false_and, and_false, or_false, true_and, iff_false]
      have hpasses : (∀ part ∈ rest, Passes port { t with artifacts } part) ↔
          ∀ part ∈ rest, Passes port t part :=
        forall₂_congr fun _ _ => passes_insert hp hinsert
      rcases ih hrest hrestRun { t with artifacts } with ⟨hcomplete, e, t', hloop, hadds', -⟩ |
        ⟨hcomplete, -, t', hloop, hadds', hall, -⟩
      · exact .inl ⟨fun h => hcomplete ⟨hpasses.2 h.1, .inl hsome⟩, e, t', hloop,
          hadds.trans hadds', fun h => hne hadds' h.2⟩
      · exact .inr ⟨⟨hpasses.1 hcomplete.1, hsome⟩, id, t', hloop, hadds.trans hadds',
          ⟨hadds'.registered (registered_insert hinsert), hall⟩, hne hadds'⟩

/-! ## All or nothing -/

/-- The parts are registered, published and verified, or an expected error has changed nothing. -/
def AllOrNothing (port : ArtifactStorePort) (manifest : StagedDatasetManifest) (t : StagingTables) :
    Prop :=
  match registerManifest port manifest t with
  | (.ok _, t') => ∀ part ∈ manifest.parts, Registered t' part ∧
      part.artifactRef.publicationState = .published ∧ Verified port part
  | (.error e, t') => e.Expected ∧ t' = t

/-- The identity of the manifest is not bound to another one. -/
def Unbound (manifest : StagedDatasetManifest) (t : StagingTables) : Prop :=
  ∀ stored, t.stagedDatasets.find?
    (manifest.runId, manifest.datasetId, manifest.datasetVersion) = some stored → stored = manifest

/-- The loop stops cleanly, or the manifest can be recorded, or a conflict comes after nothing. -/
def Orderly (port : ArtifactStorePort) (manifest : StagedDatasetManifest) (t : StagingTables) :
    Prop :=
  StopsCleanly port t manifest.parts ∨
  (∀ part ∈ manifest.parts, Passes port t part) ∧ t.getRun manifest.runId ≠ none ∧
    (Unbound manifest t ∨ ∀ part ∈ manifest.parts, Registered t part)

/-- **A registration is all or nothing exactly if it is orderly.** -/
theorem register_manifest_iff (port : ArtifactStorePort) (manifest : StagedDatasetManifest)
    (t : StagingTables) : AllOrNothing port manifest t ↔ Orderly port manifest t := by
  unfold AllOrNothing registerManifest Orderly
  rcases registerParts_cases manifest.published manifest.ofRun t with
    ⟨hcomplete, e, t', hloop, -, hstops⟩ | ⟨hcomplete, hstops, t', hloop, hadds, hall, hsame⟩
  · rw [hloop]
    exact ⟨fun h => .inl (hstops.1 h), fun h => h.elim hstops.2 fun hpass =>
      absurd ⟨hpass.1, .inl hpass.2.1⟩ hcomplete⟩
  · have hmatch : ¬ (manifest.parts.any fun part => t'.getArtifact part.artifactRef.artifactId ≠
        some part.artifactRef) = true := by
      simpa [Registered] using hall
    have hdone : ∀ t'', t''.artifacts = t'.artifacts → ∀ part ∈ manifest.parts,
        Registered t'' part ∧ part.artifactRef.publicationState = .published ∧ Verified port part := by
      intro t'' hartifacts part hpart
      refine ⟨?_, manifest.published part hpart, (hcomplete.1 part hpart).verified⟩
      unfold Registered GateTables.getArtifact
      rw [hartifacts]
      exact hall part hpart
    have hruns : t'.getRun manifest.runId = t.getRun manifest.runId := by
      unfold GateTables.getRun
      rw [hadds.runs]
    rw [hloop, or_iff_right hstops, and_iff_right hcomplete.1]
    simp only [recordStagedDataset, hruns, if_neg hmatch]
    by_cases hnone : t.getRun manifest.runId = none
    · rw [if_pos hnone]
      exact iff_of_false And.left fun h => h.1 hnone
    rw [if_neg hnone, and_iff_right hnone]
    unfold Unbound
    rw [← hadds.stagedDatasets]
    cases hfind : t'.stagedDatasets.find?
        (manifest.runId, manifest.datasetId, manifest.datasetVersion) with
    | none =>
      obtain ⟨stagedDatasets, hinsert⟩ := Table.exists_insert? (r := manifest) hfind
      rw [hinsert]
      refine iff_of_true (hdone _ rfl) (.inl fun stored h => ?_)
      simp at h
    | some stored =>
      by_cases hstored : stored = manifest
      · simp only [hstored, ne_eq, not_true, if_false]
        refine iff_of_true (hdone _ rfl) (.inl fun _ h => ?_)
        exact (Option.some.inj h).symm
      · simp only [ne_eq, hstored, not_false_eq_true, if_true]
        rw [or_iff_right fun h => hstored (h stored rfl), ← hsame]
        exact and_iff_right trivial

/-! ## A missing part -/

def demoKey (partId : String) : String :=
  "runs/run-1/source/s/snapshot/n/table/t/dataset/d/version/1/part/" ++ partId ++ ".parquet"

def demoManifest (partId : String) : Artifacts.ArtifactManifest :=
  { Artifacts.demoManifest partId with
    stageId := "SOURCE_SNAPSHOT_STAGE"
    artifactKind := "STAGED_DATASET_PART"
    mediaType := "application/vnd.apache.parquet"
    logicalKey := some (demoKey partId) }

def demoPart (partId : String) : StagedDatasetPart where
  partId := partId
  logicalKey := demoKey partId
  artifactRef :=
    LocalArtifactStore.publishedManaged (demoManifest partId) (Artifacts.demoSha256 [97]) 1
  schemaFingerprint := "f"

/-- A manifest of two parts, with the artifact ids of the first version. -/
def demoStaged : StagedDatasetManifest where
  datasetId := "d"
  datasetVersion := "1"
  identityVersion := "legacy-v1"
  runId := "run-1"
  sourceId := "s"
  snapshotId := "n"
  tableId := "t"
  schemaFingerprint := "f"
  format := "parquet"
  parts := [demoPart "part-1", demoPart "part-2"]
  nonempty := by decide
  distinct := by decide
  ofRun := by decide
  published := by decide

/-- Only the first part was published. -/
def demoFiles : FileState :=
  Artifacts.after Artifacts.demoStore .empty (.publish (demoManifest "part-1") (.bytes [97]))

/-- The control store of the run, before anything is registered. -/
def demoTables : StagingTables where
  runs :=
    { rows := [{ runId := "run-1", projectId := "demo", createdAt := 0,
                 configurationFingerprint := "c" }]
      nodup := nodup_singleton _ }
  artifacts := .empty
  gateEvidence := .empty
  stagedDatasets := .empty

theorem demoStaged_stops :
    (registerManifest (localPort Artifacts.demoStore {} demoFiles) demoStaged demoTables).1 =
      .error .name ∧
    Registered (registerManifest (localPort Artifacts.demoStore {} demoFiles) demoStaged
      demoTables).2 (demoPart "part-1") := by
  unfold Registered
  decide +kernel

/-- **A part that is not in the artifact store**: the call raises a `NameError`, and the part
before it stays registered. -/
theorem register_manifest_missing : ¬ ∀ (store : LocalArtifactStore) (ω : Outside) (s : FileState)
    (manifest : StagedDatasetManifest) (t : StagingTables),
    AllOrNothing (localPort store ω s) manifest t := by
  intro h
  have hall := h Artifacts.demoStore {} demoFiles demoStaged demoTables
  have hname := demoStaged_stops.1
  unfold AllOrNothing at hall
  split at hall
  next hrun => cases (congrArg Prod.fst hrun).symm.trans hname
  next e _ hrun =>
    have he : e = .name := Except.error.inj ((congrArg Prod.fst hrun).symm.trans hname)
    rw [he] at hall
    exact hall.1

end DirtyDataOlap.Staging
