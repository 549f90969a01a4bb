import DirtyDataOlap.ArtifactReferences

/-!
# An artifact id means one artifact

Over any calls the record of an id goes from a reservation to a reference to a tombstone, and a
reference never changes (`Evolves`).  `reserve` and `publish` compare identities;
**`register_external` does not**.  Where no call overrides a reservation (`Orderly`), it binds every
later publication.
-/
namespace DirtyDataOlap.Artifacts

open Prog LocalArtifactStore

/-- Calls one after the other, however they end, none an external registration of a reserved
artifact. -/
inductive Orderly (store : LocalArtifactStore) : FileState → FileState → Prop
  | refl (s : FileState) : Orderly store s s
  | call {s s1 s2 : FileState} {c : Call} {o : Outcome} :
      Orderly store s s1 → ¬ c.Overrides s1 → c.Happens store s1 o s2 → Orderly store s s2

namespace Orderly
variable {store : LocalArtifactStore} {s s' : FileState}

theorem intact (h : Orderly store s s') (hs : Intact store s.toDurable) :
    Intact store s'.toDurable := by
  induction h with
  | refl => exact hs
  | @call s1 s2 c _ _ horderly hc ih =>
    have hkept : Kept store c.KeepsBlobs False c.artifactId s1 s2 := hc.kept ih horderly
    exact hkept.1

/-- **The run lemma**: every record has only gone on. -/
theorem evolves (h : Orderly store s s') (hs : Intact store s.toDurable) (artifactId : String) :
    Evolves False (s.record? artifactId) (s'.record? artifactId) := by
  induction h with
  | refl => exact Evolves.refl _
  | @call s1 s2 c _ hrun horderly hc ih =>
    have hkept : Kept store c.KeepsBlobs False c.artifactId s1 s2 :=
      hc.kept (hrun.intact hs) horderly
    refine ih.trans ?_
    by_cases hid : artifactId = c.artifactId
    · subst hid
      exact hkept.2.own
    · rw [hkept.2.record? hid]
      exact Evolves.refl _

end Orderly

variable {store : LocalArtifactStore} {s : FileState} {ref : ArtifactRef}

theorem stat_published (h : Intact store s.toDurable) {artifactId : String}
    (href : s.record? artifactId = some (.ref ref)) {ω : Outside} (hω : ω.fault = none) :
    (stat artifactId).run perform ω s = (.ok ref, s) := by
  have hread : (readRecord artifactId).run perform ω s = (.ok (some (.ref ref)), s) := by
    have hlookup := Durable.record?_eq_some.1 href
    simp [readRecord, refPath, h.named _ _ href, file, call, Prog.bind, Prog.tryCatch, Prog.run,
      perform, hω, FileAct.effect, hlookup]
  rw [stat, bind_def, run_bind, hread]
  rfl

/-- A call that returns a reference keeps what is not a reservation, and publishes it. -/
theorem kept_of_returned {s' : FileState} (h : Intact store s.toDurable) {c : Call}
    {returned : ArtifactRef} {old : Record} (hold : s.record? c.artifactId = some old)
    (hfinal : ∀ manifest, old ≠ .manifest manifest)
    (hc : c.Happens store s (.returned (some returned)) s') :
    Kept store c.KeepsBlobs False c.artifactId s s' ∧
      s'.record? c.artifactId = some (.ref returned) := by
  have horderly : ¬ c.Overrides s := by
    rintro ⟨manifest, locator, reserved, rfl, hreserved⟩
    rw [Call.artifactId] at hold
    exact hfinal reserved (Option.some.inj (hold.symm.trans hreserved))
  exact ⟨hc.kept h horderly, (Call.kept h c horderly).runs hc returned rfl⟩

theorem returned_eq_published {s' : FileState} (h : Intact store s.toDurable) {c : Call}
    {returned : ArtifactRef} (href : s.record? c.artifactId = some (.ref ref))
    (hc : c.Happens store s (.returned (some returned)) s') : returned = ref := by
  obtain ⟨hkept, hnow⟩ := kept_of_returned h href (fun _ heq => by cases heq) hc
  have hown := hkept.2.own
  rw [href, hnow] at hown
  exact hown

theorem tombstone_returns_nothing {s' : FileState} (h : Intact store s.toDurable) {c : Call}
    {returned : ArtifactRef} {planId planHash : String}
    (href : s.record? c.artifactId = some (.tombstone ref planId planHash)) :
    ¬ c.Happens store s (.returned (some returned)) s' := by
  intro hc
  obtain ⟨hkept, hnow⟩ := kept_of_returned h href (fun _ heq => by cases heq) hc
  have hown := hkept.2.own
  rw [href, hnow] at hown
  exact hown

/-- **Artifact identities are immutable where no external registration meets a reservation**: a
reserved artifact is only published under the identity of its reservation, a published one keeps its
reference until a deletion, and a deleted one is never published again. -/
theorem identities_immutable (store : LocalArtifactStore) {s s' : FileState}
    (hs : Reachable store s) (hrun : Orderly store s s') (artifactId : String) :
    (∀ reserved ref, s.record? artifactId = some (.manifest reserved) →
      s'.record? artifactId = some (.ref ref) → ref.identity = reserved.identity) ∧
    (∀ ref, s.record? artifactId = some (.ref ref) →
      (∀ (c : Call) s'' returned, c.artifactId = artifactId →
        c.Happens store s' (.returned (some returned)) s'' → returned = ref) ∧
      ((s'.record? artifactId = some (.ref ref) ∧ ∀ ω : Outside, ω.fault = none →
          (stat artifactId).run perform ω s' = (.ok ref, s')) ∨
        ∃ planId planHash, s'.record? artifactId = some (.tombstone ref planId planHash))) ∧
    (∀ ref planId planHash, s.record? artifactId = some (.tombstone ref planId planHash) →
      (∀ ref', s'.record? artifactId ≠ some (.ref ref')) ∧
      ∀ (c : Call) s'' returned, c.artifactId = artifactId →
        ¬ c.Happens store s' (.returned (some returned)) s'') := by
  have hintact := hrun.intact hs.intact
  have hevolves := hrun.evolves hs.intact artifactId
  refine ⟨?_, ?_, ?_⟩
  · intro reserved ref hreserved href
    rw [hreserved, href] at hevolves
    exact hevolves.resolve_right id
  · intro ref href
    rw [href] at hevolves
    cases hnow : s'.record? artifactId with
    | none =>
      rw [hnow] at hevolves
      exact hevolves.elim
    | some record =>
      rw [hnow] at hevolves
      cases record with
      | manifest m => exact hevolves.elim
      | ref now =>
        obtain rfl : now = ref := hevolves
        refine ⟨?_, .inl ⟨rfl, fun ω hω => stat_published hintact hnow hω⟩⟩
        rintro c s'' returned rfl hc
        exact returned_eq_published hintact hnow hc
      | tombstone now planId planHash =>
        obtain rfl : now = ref := hevolves
        refine ⟨?_, .inr ⟨planId, planHash, rfl⟩⟩
        rintro c s'' returned rfl hc
        exact absurd hc (tombstone_returns_nothing hintact hnow)
  · intro ref planId planHash href
    rw [href] at hevolves
    cases hnow : s'.record? artifactId with
    | none =>
      rw [hnow] at hevolves
      exact hevolves.elim
    | some record =>
      rw [hnow] at hevolves
      cases record with
      | manifest m => exact hevolves.elim
      | ref now => exact hevolves.elim
      | tombstone now planId' planHash' =>
        refine ⟨?_, ?_⟩
        · intro ref' href'
          cases href'
        · rintro c s'' returned rfl
          exact tombstone_returns_nothing hintact hnow

/-- Reserved, published and published again with the same bytes. -/
theorem identities_immutable_published : ∃ s s', Reachable demoStore s ∧ Orderly demoStore s s' ∧
      s.record? "profile-1" = some (.manifest (demoManifest "profile-1")) ∧
      s'.record? "profile-1" = some (.ref (publishedManaged
        (demoManifest "profile-1") (demoSha256 [97]) 1)) ∧
      (publishedManaged (demoManifest "profile-1") (demoSha256 [97]) 1).identity =
        (demoManifest "profile-1").identity := by
  have hreach : Reachable demoStore
      (after demoStore .empty (.reserve (demoManifest "profile-1"))) := Reachable.new.after _
  have hrun : Orderly demoStore (after demoStore .empty (.reserve (demoManifest "profile-1")))
      (after demoStore (after demoStore .empty (.reserve (demoManifest "profile-1")))
        (.publish (demoManifest "profile-1") (.bytes [97]))) := by
    refine (Orderly.refl _).call (o := .crashed) ?_ (Runs.stops (runs_run _ _ _))
    rintro ⟨_, _, _, ⟨⟩, _⟩
  refine ⟨_, _, hreach, hrun, by decide +kernel, by decide +kernel, ?_⟩
  exact (identities_immutable demoStore hreach hrun "profile-1").1 _ _ (by decide +kernel)
    (by decide +kernel)

/-- A file of another run, registered under an id that run-1 has reserved. -/
def demoExternal : ArtifactManifest :=
  { demoManifest "profile-1" with
    runId := "run-2", storageMode := .external, externalLocator := some "data/export.csv" }

/-- The file is there. -/
def demoOutside : Outside := { external := fun _ => .ok [98] }

/-- **The reservation of run-1 is published under run-2**, as an external file. -/
theorem reservation_published_under_another_run : ∃ s s' ref, Reachable demoStore s ∧
      s.record? "profile-1" = some (.manifest (demoManifest "profile-1")) ∧
      (Call.registerExternal demoExternal "data/export.csv").Happens demoStore s
        (.returned (some ref)) s' ∧ s'.record? "profile-1" = some (.ref ref) ∧ ref.runId = "run-2" ∧
      ref.storageMode = .external ∧ ref.identity ≠ (demoManifest "profile-1").identity := by
  have hreach : Reachable demoStore
      (after demoStore .empty (.reserve (demoManifest "profile-1"))) := Reachable.new.after _
  refine ⟨_, (((Call.registerExternal demoExternal "data/export.csv").program demoStore).run perform
    demoOutside (after demoStore .empty (.reserve (demoManifest "profile-1")))).2,
    publishedExternal demoExternal "data/export.csv" (demoSha256 [98]) 1,
    hreach, by decide +kernel, ?_, by decide +kernel, rfl, rfl, by decide +kernel⟩
  have hresult : (((Call.registerExternal demoExternal "data/export.csv").program demoStore).run
      perform demoOutside (after demoStore .empty (.reserve (demoManifest "profile-1")))).1 =
      .ok (some (publishedExternal demoExternal "data/export.csv"
        (demoSha256 [98]) 1)) := by
    rfl
  show Runs perform _ _ (.ok _) _
  rw [← hresult]
  exact runs_run _ _ _

end DirtyDataOlap.Artifacts
