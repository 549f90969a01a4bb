import DirtyDataOlap.CleanupRules

/-!
# Executions that nothing disturbs

Where no operation raises by itself (`ω.fault = none`), what a method does is a function of the
directory it finds.  These are the equations for the methods that a cleanup calls, on the directories
on which it gets as far as deleting, and the passage from one store to both.
-/
namespace DirtyDataOlap.Artifacts

open Prog

variable {ω : Outside} {s : FileState} {α : Type}

theorem run_file (hω : ω.fault = none) (a : FileAct) : (file a).run perform ω s = a.effect ω s := by
  simp only [file, call, Prog.run, perform, hω]

variable {artifactId : String}

theorem run_refPath (hsafe : safeFilename artifactId = true) :
    (refPath artifactId).run perform ω s = (.ok (), s) := by
  rw [refPath, if_pos hsafe]
  rfl

section
variable (hω : ω.fault = none) (hsafe : safeFilename artifactId = true)
include hω hsafe

theorem run_readRecord {record : Record} (hrecord : s.record? artifactId = some record) :
    (readRecord artifactId).run perform ω s = (.ok (some record.read), s) := by
  have hlookup := Durable.record?_eq_some.1 hrecord
  rw [readRecord, bind_def, run_bind, run_refPath hsafe]
  simp only [bind_def, run_bind, run_tryCatch, run_file hω, FileAct.effect, hlookup]
  cases record <;> rfl

theorem run_publishedRef {ref : ArtifactRef} (href : s.record? artifactId = some (.ref ref))
    (hpublished : ref.publicationState = .published) :
    (publishedRef artifactId).run perform ω s = (.ok ref, s) := by
  rw [publishedRef, bind_def, run_bind, run_readRecord hω hsafe href]
  simp only [Record.read, hpublished, if_true]
  rfl

theorem run_stat {ref : ArtifactRef} (href : s.record? artifactId = some (.ref ref)) :
    (LocalArtifactStore.stat artifactId).run perform ω s = (.ok ref, s) := by
  rw [LocalArtifactStore.stat, bind_def, run_bind, run_readRecord hω hsafe href]
  rfl

theorem run_writeRecord (record : Record) :
    ∃ s', (writeRecord record artifactId).run perform ω s = (.ok (), s') ∧
      s'.toDurable = s.putRef artifactId record := by
  refine ⟨{ s with
    refs := s.refs.insert artifactId (.record record)
    partials := ((s.partials.insert s.nextName .unreadable).insert s.nextName
      (.record record)).erase s.nextName
    nextName := s.nextName + 1 }, ?_, rfl⟩
  rw [writeRecord, bind_def, run_bind, run_refPath hsafe]
  simp only [bind_def, run_bind, run_tryCatch, run_file hω, FileAct.effect, FileState.replaceRef,
    AList.lookup_insert]

end

/-- Every file of `refs` is a record. -/
def Durable.Readable (d : Durable) : Prop := ∀ artifactId, d.refs.lookup artifactId ≠ some .unreadable

theorem Durable.Readable.putRef {d : Durable} (h : d.Readable) (artifactId : String) (record : Record) :
    (d.putRef artifactId record).Readable := by
  intro id hid
  by_cases he : id = artifactId
  · subst he
    simp [Durable.putRef] at hid
  · rw [Durable.putRef, AList.lookup_insert_ne he] at hid
    exact h id hid

theorem run_allRefs (hω : ω.fault = none) (h : s.Readable) :
    allRefs.run perform ω s = (.ok s.inventory, s) := by
  have hreadable : (s.refs.entries.map fun file => file.2).contains .unreadable = false := by
    rw [List.contains_eq_any_beq, Bool.eq_false_iff]
    intro hany
    obtain ⟨file, hfile, he⟩ := List.any_eq_true.1 hany
    obtain ⟨⟨artifactId, stored⟩, hentry, rfl⟩ := List.mem_map.1 hfile
    have hstored : stored = .unreadable := (beq_iff_eq.1 he).symm
    exact h artifactId (hstored ▸ Option.mem_def.1 (AList.mem_lookup_iff.2 hentry))
  rw [allRefs, bind_def, run_bind, run_tryCatch, run_file hω]
  simp only [FileAct.effect, hreadable]
  rfl

namespace LocalArtifactStore
variable {store : LocalArtifactStore}

variable {ref : ArtifactRef}

theorem run_verify (hω : ω.fault = none) {artifactId : String}
    (hsafe : safeFilename artifactId = true) (href : s.record? artifactId = some (.ref ref))
    (hpublished : ref.publicationState = .published) (hmanaged : ref.storageMode = .managed)
    (hverified : Verified store s.toDurable ref) :
    ∃ result, (store.verify artifactId).run perform ω s = (.ok result, s) ∧
      result.state = .verified := by
  obtain ⟨bytes, hbytes, hsound⟩ := hverified
  refine ⟨store.compared ref bytes, ?_, compared_verified.2 hsound⟩
  rw [verify, bind_def, run_bind, run_readRecord hω hsafe href]
  simp only [Record.read, bind_def, run_bind, run_publishedRef hω hsafe href hpublished, hmanaged,
    verifyFile, run_tryCatch, run_file hω, FileAct.effect, FileState.readBlob, hbytes,
    Option.isSome_some, if_true]
  rfl

theorem run_bury (hω : ω.fault = none) (hsafe : safeFilename ref.artifactId = true) (h : s.Readable)
    (permit : CleanupDeletionPermit) : ∃ s', (bury ref permit).run perform ω s = (.ok (), s') ∧
      s'.toDurable = s.removed ref permit := by
  obtain ⟨s1, hrun, hs1⟩ := run_writeRecord (s := s) hω hsafe
    (.tombstone ref permit.planId permit.planContentHash)
  have hreadable : s1.Readable := by
    rw [hs1]
    exact h.putRef _ _
  have hshares : (s1.inventory.any fun item =>
      item.contentHash = ref.contentHash && item.artifactId ≠ ref.artifactId) =
      (s.buried ref permit).shares ref := by
    rw [hs1]
    rfl
  rw [bury, bind_def, run_bind, hrun]
  simp only [bind_def, run_bind, run_allRefs hω hreadable, hshares]
  unfold Durable.removed
  split
  · exact ⟨s1, rfl, hs1⟩
  · split
    · refine ⟨{ s1 with blobs := s1.blobs.erase ref.contentHash }, ?_, ?_⟩
      · rw [run_file hω]
        rfl
      · show s1.toDurable.dropBlob ref.contentHash = _
        rw [hs1]
        rfl
    · exact ⟨s1, rfl, hs1⟩

/-- **A deletion that nothing disturbs.** -/
theorem run_delete (hω : ω.fault = none) (hsafe : safeFilename ref.artifactId = true)
    {permit : CleanupDeletionPermit} (href : s.record? ref.artifactId = some (.ref ref))
    (hpublished : ref.publicationState = .published) (hcovered : permitCovers permit ref = true)
    (hmanaged : ref.storageMode = .managed) (hverified : Verified store s.toDurable ref)
    (h : s.Readable) : ∃ s', (store.delete ref.artifactId permit).run perform ω s = (.ok (), s') ∧
      s'.toDurable = s.removed ref permit := by
  obtain ⟨result, hverify, hstate⟩ := run_verify hω hsafe href hpublished hmanaged hverified
  rw [delete, bind_def, run_bind, run_publishedRef hω hsafe href hpublished]
  simp only [hcovered, hmanaged, bind_def, run_bind, hverify, hstate, Bool.not_true,
    Bool.false_eq_true, if_false, reduceCtorEq, ne_eq, not_true_eq_false]
  exact run_bury hω hsafe h permit

end LocalArtifactStore

theorem run_onStore (place : Nat) (p : Files α) (w : Platform) : (onStore place p).run act ω w =
      ((p.run perform ω (w.directory place)).1, w.atPlace place (p.run perform ω (w.directory place)).2) := by
  suffices hgen : ∀ (p : Files α) (s : FileState), (onStore place p).run act ω (w.atPlace place s) =
      ((p.run perform ω s).1, w.atPlace place (p.run perform ω s).2) by
    have := hgen p (w.directory place)
    rwa [Platform.atPlace_self] at this
  intro p
  induction p with
  | done v => exact fun _ => rfl
  | act a k ih =>
    intro s
    rw [onStore, Prog.run, act_file]
    exact ih _ _

section
variable (hω : ω.fault = none)
include hω

theorem run_control {a : PlatformAct} (h : ∀ place b, a ≠ .file place b)
    (w : Platform) : (control a).run act ω w =
      ((w.control.execute a).1, { w with control := (w.control.execute a).2 }) := by
  simp only [control, call, Prog.run, act_statement h, statement, hω]

theorem run_getArtifact (artifactId : String) (w : Platform) :
    (control (.getArtifact artifactId)).run act ω w = (.ok (w.control.getArtifact artifactId), w) :=
  run_control hω (fun _ _ he => by cases he) w

theorem run_getRun (runId : String) (w : Platform) :
    (control (.getRun runId)).run act ω w = (.ok (w.control.getRun runId), w) :=
  run_control hω (fun _ _ he => by cases he) w

theorem run_getDependents (artifactId : String) (w : Platform) :
    (control (.getDependents artifactId)).run act ω w =
      (.ok (w.control.getDependents artifactId), w) :=
  run_control hω (fun _ _ he => by cases he) w

theorem run_mark {artifactId : String} {w : Platform} {artifact : ArtifactRef}
    (h : w.control.getArtifact artifactId = some artifact)
    (hpublished : artifact.publicationState = .published) :
    (control (.markArtifactTombstoned artifactId)).run act ω w =
      (.ok (), { w with control := w.control.tombstoned artifactId }) := by
  rw [run_control hω (fun _ _ he => by cases he)]
  have hmark : w.control.markArtifactTombstoned artifactId =
      (.ok (), w.control.tombstoned artifactId) := by
    rw [ControlTables.markArtifactTombstoned, h]
    exact if_pos hpublished
  simp only [ControlTables.execute, hmark]

end

end DirtyDataOlap.Artifacts
