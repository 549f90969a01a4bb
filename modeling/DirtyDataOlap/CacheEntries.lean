import DirtyDataOlap.CleanupSafety
import Mathlib.Data.List.Induction

/-!
# Cache entries

`PlatformCacheService.resolve` over the `cache_entries` of the control store.  An answer is always
sound.  But `record_cache_entry` compares a new output with the row of the key and never looks at
its status: **a key whose entry was invalidated is dead** (`cache_sound_recovers_iff`).
-/
namespace DirtyDataOlap.Artifacts

open List LocalArtifactStore Option Table

/-- An input of a cached computation. -/
structure CacheInputRef where
  (artifactId contentHash : String)
deriving DecidableEq

/-- `CacheKey`; the versions in the order of their names, in which a dict is dumped. -/
structure CacheKey where
  (stageId componentId : String)
  inputArtifacts : List CacheInputRef := []
  contractVersions : List (String × String) := []
  (policyVersion configurationFingerprint engineVersion codeVersion : String)
  seed : Option Int := none
  domainScopeFingerprint : Option String := none
  reviewSubjectArtifactId : Option String := none
  reviewSubjectContentHash : Option String := none
  reviewApplicabilityFingerprint : Option String := none
deriving DecidableEq

/-- Whether an entry may be used. -/
inductive CacheEntryStatus
  | active | invalidated | expired
deriving DecidableEq

/-- `CacheEntry`; `key_hash` is the digest of the key. -/
structure CacheEntry (keyHash : CacheKey → String) where
  cacheKeyHash : String
  cacheKey : CacheKey
  (outputArtifactId outputContentHash : String)
  status : CacheEntryStatus := .active
  createdAt : Instant
  invalidatedReason : Option String := none
  keyMatches : cacheKeyHash = keyHash cacheKey

/-- The rows of `cache_entries`, and everything that an answer is checked against. -/
structure CacheWorld (keyHash : CacheKey → String) where
  platform : Platform
  entries : Table fun entry : CacheEntry keyHash => entry.cacheKeyHash

def integrityValue : ArtifactIntegrityState → String
  | .verified => "VERIFIED"
  | .missing => "MISSING"
  | .hashMismatch => "HASH_MISMATCH"
  | .sizeMismatch => "SIZE_MISMATCH"
  | .unreadable => "UNREADABLE"
  | .externalUnavailable => "EXTERNAL_UNAVAILABLE"
  | .notChecked => "NOT_CHECKED"

namespace CacheWorld
variable {keyHash : CacheKey → String}

/-- `record_cache_entry`: an entry needs a registered output. -/
def recordCacheEntry (w : CacheWorld keyHash) (entry : CacheEntry keyHash) :
    Except StoreExc (CacheEntry keyHash) × CacheWorld keyHash :=
  if w.platform.control.getArtifact entry.outputArtifactId = none then
    (.error (.platform "cache entry requires a registered output artifact"), w)
  else
    match w.entries.find? entry.cacheKeyHash, w.entries.insert? entry with
    | some stored, _ =>
      if stored.outputArtifactId ≠ entry.outputArtifactId ∨
          stored.outputContentHash ≠ entry.outputContentHash then
        (.error (.conflict "cache key is already bound to a different immutable output"), w)
      else (.ok stored, w)
    | none, some entries => (.ok entry, { w with entries := entries })
    | none, none => (.error .os, w)

/-- `get_cache_entry`. -/
def getCacheEntry (w : CacheWorld keyHash) (key : CacheKey) : Option (CacheEntry keyHash) :=
  w.entries.find? (keyHash key)

/-- `invalidate_cache_entry`. -/
def invalidateCacheEntry (w : CacheWorld keyHash) (key : CacheKey) (reason : String) :
    CacheWorld keyHash :=
  { w with
    entries := w.entries.update (fun row => row.cacheKeyHash = keyHash key)
      (fun row => { row with status := .invalidated, invalidatedReason := some reason })
      fun _ => rfl }

/-- The first store that knows the artifact verifies it. -/
def verifyFirst (ω : Outside) (directory : Nat → FileState) (artifactId : String) :
    List LocalArtifactStore → Nat → Except StoreExc (Option ArtifactIntegrityResult)
  | [], _ => .ok none
  | store :: rest, place =>
    match ((store.verify artifactId).run perform ω (directory place)).1 with
    | .ok result => .ok (some result)
    | .error (.key _) => verifyFirst ω directory artifactId rest (place + 1)
    | .error e => .error e

/-- `resolve`: the output of an active entry that is intact, or none. -/
def resolve (stores : List LocalArtifactStore) (ω : Outside) (key : CacheKey)
    (w : CacheWorld keyHash) : Except StoreExc (Option ArtifactRef) × CacheWorld keyHash :=
  match w.getCacheEntry key with
  | none => (.ok none, w)
  | some entry =>
    if entry.status ≠ .active ∨ entry.cacheKeyHash ≠ keyHash key then (.ok none, w)
    else
      match (w.platform.control.getArtifact entry.outputArtifactId).filter
          (·.contentHash = entry.outputContentHash) with
      | none => (.ok none, w.invalidateCacheEntry key
          "output metadata is missing or hash-bound output changed")
      | some artifact =>
        match verifyFirst ω w.platform.directory artifact.artifactId stores 0 with
        | .error e => (.error e, w)
        | .ok integrity =>
          let state := (integrity.map (·.state)).getD .missing
          if state ≠ .verified then
            (.ok none, w.invalidateCacheEntry key ("output integrity is " ++ integrityValue state))
          else (.ok (some artifact), w)

end CacheWorld

/-- What happens around the cache. -/
inductive CacheStep (keyHash : CacheKey → String)
  | record (entry : CacheEntry keyHash)
  | resolve (stores : List LocalArtifactStore) (ω : Outside) (key : CacheKey)
  | invalidate (key : CacheKey) (reason : String)
  /-- Artifacts are registered, deleted or corrupted: the entries do not change. -/
  | elsewhere (platform : Platform)

variable {keyHash : CacheKey → String}

/-- The world after one call of the cache. -/
def CacheStep.next (w : CacheWorld keyHash) : CacheStep keyHash → CacheWorld keyHash
  | .record entry => (w.recordCacheEntry entry).2
  | .resolve stores ω key => (w.resolve stores ω key).2
  | .invalidate key reason => w.invalidateCacheEntry key reason
  | .elsewhere platform => { w with platform := platform }

namespace CacheWorld

/-- The steps from the empty cache of a new control store. -/
def run (platform : Platform) (steps : List (CacheStep keyHash)) : CacheWorld keyHash :=
  steps.foldl CacheStep.next ⟨platform, .empty⟩

/-! ## Soundness -/

variable {w : CacheWorld keyHash} {key : CacheKey} {hash : String} {row : CacheEntry keyHash}

/-- An active row is never written over. -/
theorem active_of_invalidated {reason : String}
    (h : (w.invalidateCacheEntry key reason).entries.find? hash = some row)
    (hactive : row.status = .active) : w.entries.find? hash = some row := by
  rw [invalidateCacheEntry, find?_update, map_eq_some_iff] at h
  obtain ⟨old, hold, rfl⟩ := h
  split at hactive
  · cases hactive
  · rename_i hkey
    rw [if_neg hkey]
    exact hold

/-- **One step**: an active row was there before, or is recorded now. -/
theorem active_step {step : CacheStep keyHash} (h : (step.next w).entries.find? hash = some row)
    (hactive : row.status = .active) :
    w.entries.find? hash = some row ∨ (step = .record row ∧ hash = keyHash row.cacheKey) := by
  cases step with
  | record entry =>
    change (w.recordCacheEntry entry).2.entries.find? hash = some row at h
    unfold recordCacheEntry at h
    split at h
    · exact .inl h
    split at h
    · split at h <;> exact .inl h
    · rename_i entries _ hinsert
      rw [find?_insert? hinsert] at h
      cases hold : w.entries.find? hash with
      | some old =>
        rw [hold, some_or] at h
        exact .inl h
      | none =>
        rw [hold, none_or] at h
        split at h
        · rename_i hkey
          cases h
          exact .inr ⟨rfl, hkey.symm.trans row.keyMatches⟩
        · cases h
    · exact .inl h
  | resolve stores ω key =>
    change (w.resolve stores ω key).2.entries.find? hash = some row at h
    unfold resolve at h
    split at h
    · exact .inl h
    split at h
    · exact .inl h
    split at h
    · exact .inl (active_of_invalidated h hactive)
    split at h
    · exact .inl h
    · simp only at h
      split at h
      · exact .inl (active_of_invalidated h hactive)
      · exact .inl h
  | invalidate key reason => exact .inl (active_of_invalidated h hactive)
  | elsewhere platform => exact .inl h

/-- **A run**: an active row was recorded, and has been there as it is ever since. -/
theorem active_run {platform : Platform} {steps : List (CacheStep keyHash)}
    (h : (run platform steps).entries.find? hash = some row) (hactive : row.status = .active) :
    ∃ before after, steps = before ++ .record row :: after ∧ hash = keyHash row.cacheKey ∧
      ∀ a b, after = a ++ b →
        (run platform (before ++ .record row :: a)).entries.find? hash = some row := by
  induction steps using reverseRecOn with
  | nil => cases h
  | append_singleton steps step ih =>
    have hlast := h
    rw [run, foldl_append, foldl_cons, foldl_nil] at h
    by_cases hbefore : (run platform steps).entries.find? hash = some row
    · obtain ⟨before, after, rfl, hhash, hsince⟩ := ih hbefore
      refine ⟨before, after ++ [step], by simp, hhash, fun a b hab => ?_⟩
      rcases append_eq_append_iff.1 hab with ⟨c, rfl, hc⟩ | ⟨c, rfl, hc⟩
      · cases c with
        | nil =>
          rw [append_nil]
          exact hbefore
        | cons x c =>
          obtain ⟨rfl, hnil⟩ := cons.inj hc
          obtain ⟨rfl, rfl⟩ := append_eq_nil_iff.1 hnil.symm
          rwa [append_assoc, cons_append] at hlast
      · exact hsince a c rfl
    · rcases active_step h hactive with hsame | ⟨rfl, hhash⟩
      · exact absurd hsame hbefore
      · refine ⟨steps, [], rfl, hhash, fun a b hab => ?_⟩
        obtain ⟨rfl, rfl⟩ := append_eq_nil_iff.1 hab.symm
        exact hlast

/-- One of the stores has a reference under the id, and for a managed one the blob with its digest and
size.  **Of the bytes of an external artifact nothing is said**: they lie outside the directories, and
can change after any check. -/
def Verifies (w : CacheWorld keyHash) (stores : List LocalArtifactStore) (artifactId : String) : Prop :=
  ∃ place, ∃ store ∈ stores, ∃ ref,
    (w.platform.directory place).record? artifactId = some (.ref ref) ∧
      (ref.storageMode = .managed →
        LocalArtifactStore.Verified store (w.platform.directory place).toDurable ref)

variable {stores : List LocalArtifactStore} {ω : Outside} {artifact : ArtifactRef}
  {result : ArtifactIntegrityResult}

theorem verifies_of_verifyFirst {artifactId : String} {rest : List LocalArtifactStore} {place : Nat}
    (hrest : ∀ store ∈ rest, store ∈ stores)
    (h : verifyFirst ω w.platform.directory artifactId rest place = .ok (some result))
    (hverified : result.state = .verified) : w.Verifies stores artifactId := by
  induction rest generalizing place with
  | nil => cases h
  | cons store rest ih =>
    unfold verifyFirst at h
    split at h
    · rename_i found hfound
      cases h
      have hruns : (store.verify artifactId).Runs perform (w.platform.directory place)
          ((store.verify artifactId).run perform ω (w.platform.directory place)).1 _ :=
        Prog.runs_run ω _ _
      rw [hfound] at hruns
      have hsafe : Safely (fun _ => True) (store.verify artifactId) (w.platform.directory place)
          fun r _ => ∀ found, r = .ok found → found.state = .verified → ∃ ref,
            (w.platform.directory place).record? artifactId = some (.ref ref) ∧
              (ref.storageMode = .managed → LocalArtifactStore.Verified store
                (w.platform.directory place).toDurable ref) :=
        safely_verify trivial (fun _ hfound _ he => by cases he; exact hfound)
          fun _ _ he => by cases he
      exact ⟨place, store, hrest store mem_cons_self, hsafe.runs hruns result rfl hverified⟩
    · exact ih (fun s hs => hrest s (mem_cons_of_mem _ hs)) h
    · cases h

/-- **What `resolve` asks of the row of a key.** -/
theorem resolve_eq_some : (w.resolve stores ω key).1 = .ok (some artifact) ↔
    ∃ row, w.getCacheEntry key = some row ∧ (row.status = .active ∧ row.cacheKeyHash = keyHash key) ∧
      w.platform.control.getArtifact row.outputArtifactId = some artifact ∧
      artifact.contentHash = row.outputContentHash ∧
      ∃ result, verifyFirst ω w.platform.directory artifact.artifactId stores 0 = .ok (some result) ∧
        result.state = .verified := by
  unfold resolve
  constructor
  · intro h
    split at h
    · cases h
    rename_i row hrow
    split at h
    · cases h
    rename_i hactive
    split at h
    · cases h
    rename_i found hfound
    obtain ⟨hget, hhash⟩ := filter_eq_some_iff.1 hfound
    split at h
    · cases h
    rename_i integrity hfirst
    simp only at h
    split at h
    · cases h
    rename_i hstate
    cases h
    rw [not_or, not_not, not_not] at hactive
    cases integrity with
    | none => cases not_not.1 hstate
    | some result =>
      exact ⟨row, hrow, hactive, hget, of_decide_eq_true hhash, result, hfirst, not_not.1 hstate⟩
  · rintro ⟨row, hrow, hactive, hget, hhash, result, hfirst, hverified⟩
    simp [hrow, hactive, hget, hhash, filter_some, hfirst, hverified]

/-! ## Recovery -/

variable (w stores ω) in
/-- The entry is active, its output is registered as it says, and a store finds the bytes intact. -/
structure Computed (entry : CacheEntry keyHash) (artifact : ArtifactRef) : Prop where
  active : entry.status = .active
  registered : w.platform.control.getArtifact entry.outputArtifactId = some artifact
  bound : artifact.contentHash = entry.outputContentHash
  verified : ∃ result, verifyFirst ω w.platform.directory artifact.artifactId stores 0 =
    .ok (some result) ∧ result.state = .verified

/-- The key has no row, or an active one with the same output: none that was invalidated. -/
def Usable (w : CacheWorld keyHash) (entry : CacheEntry keyHash) : Prop :=
  ∀ row, w.getCacheEntry entry.cacheKey = some row → row.status = .active ∧
    row.outputArtifactId = entry.outputArtifactId ∧ row.outputContentHash = entry.outputContentHash

theorem recovers_iff {entry : CacheEntry keyHash} (h : w.Computed stores ω entry artifact) :
    ((w.recordCacheEntry entry).2.resolve stores ω entry.cacheKey).1 = .ok (some artifact) ∧
        (w.recordCacheEntry entry).1.isOk = true ↔ w.Usable entry := by
  have hregistered : w.platform.control.getArtifact entry.outputArtifactId ≠ none := by
    rw [h.registered]
    exact some_ne_none _
  unfold recordCacheEntry
  rw [if_neg hregistered, resolve_eq_some, entry.keyMatches]
  show _ ↔ ∀ row, w.entries.find? (keyHash entry.cacheKey) = some row → _
  cases hrow : w.entries.find? (keyHash entry.cacheKey) with
  | none =>
    obtain ⟨entries, hinsert⟩ := exists_insert? (entry.keyMatches ▸ hrow)
    rw [hinsert]
    refine iff_of_true ⟨⟨entry, ?_, ⟨h.active, entry.keyMatches⟩, h.registered, h.bound, h.verified⟩,
      rfl⟩ nofun
    rw [getCacheEntry, find?_insert? hinsert, hrow, if_pos entry.keyMatches]
    rfl
  | some row =>
    simp only [some.injEq, forall_eq']
    have hhash := find?_key hrow
    split
    · rename_i hother
      refine iff_of_false (fun ⟨_, hok⟩ => by cases hok) ?_
      rintro ⟨-, hid, hcontent⟩
      exact hother.elim (absurd hid) (absurd hcontent)
    · rename_i hsame
      rw [not_or, not_not, not_not] at hsame
      constructor
      · rintro ⟨⟨row', hrow', hactive, -⟩, -⟩
        cases hrow.symm.trans hrow'
        exact ⟨hactive.1, hsame⟩
      · rintro ⟨hactive, -⟩
        refine ⟨⟨row, hrow, ⟨hactive, hhash⟩, ?_, ?_, h.verified⟩, rfl⟩
        · rw [hsame.1]
          exact h.registered
        · rw [hsame.2]
          exact h.bound

end CacheWorld

open CacheWorld

/-- **Cache entries.**  `resolve` answers with an artifact only where its entry was recorded for the
key and is untouched since, and the artifact verifies now; and a computed output that is recorded is
what `resolve` answers exactly where no entry of the key was invalidated. -/
theorem cache_sound_recovers_iff (platform : Platform) (steps : List (CacheStep keyHash))
    (stores : List LocalArtifactStore) (ω : Outside) (key : CacheKey)
    (hkey : ∀ other, keyHash other = keyHash key → other = key) :
    (∀ artifact, ((run platform steps).resolve stores ω key).1 = .ok (some artifact) →
      (∃ before entry after, steps = before ++ .record entry :: after ∧ entry.cacheKey = key ∧
        entry.outputArtifactId = artifact.artifactId ∧
        entry.outputContentHash = artifact.contentHash ∧ ∀ a b, after = a ++ b →
          (run platform (before ++ .record entry :: a)).getCacheEntry key = some entry) ∧
      (run platform steps).Verifies stores artifact.artifactId) ∧
    ∀ entry artifact, entry.cacheKey = key → (run platform steps).Computed stores ω entry artifact →
      ((((run platform steps).recordCacheEntry entry).2.resolve stores ω key).1 =
          .ok (some artifact) ∧ ((run platform steps).recordCacheEntry entry).1.isOk = true ↔
      (run platform steps).Usable entry) := by
  constructor
  · intro artifact h
    obtain ⟨row, hrow, ⟨hactive, -⟩, hartifact, hbound, result, hfirst, hverified⟩ :=
      resolve_eq_some.1 h
    obtain ⟨before, after, hsteps, hhash, hsince⟩ := active_run hrow hactive
    refine ⟨⟨before, row, after, hsteps, hkey _ hhash.symm, ?_, hbound.symm, hsince⟩, ?_⟩
    · exact (find?_key hartifact).symm
    · exact verifies_of_verifyFirst (fun _ hs => hs) hfirst hverified
  · rintro entry artifact rfl hcomputed
    exact recovers_iff hcomputed

def demoKey : CacheKey where
  stageId := "PROFILING"
  componentId := "profiler"
  policyVersion := "1.0"
  configurationFingerprint := "default"
  engineVersion := "1.0"
  codeVersion := "1.0"

def demoKeyHash (key : CacheKey) : String := if key = demoKey then "key-1" else ""

theorem demoKeyHash_eq (other : CacheKey) (h : demoKeyHash other = demoKeyHash demoKey) :
    other = demoKey := by
  by_contra hne
  rw [demoKeyHash, demoKeyHash, if_neg hne, if_pos rfl] at h
  exact absurd h (by decide)

def demoEntry : CacheEntry demoKeyHash where
  cacheKeyHash := "key-1"
  cacheKey := demoKey
  outputArtifactId := "profile-1"
  outputContentHash := demoSha256 [97]
  createdAt := 0
  keyMatches := rfl

theorem cache_sound_recovers_iff_recorded :
    (run (demoPlatform .running) [.record demoEntry]).Verifies [demoStore] "profile-1" :=
  ((cache_sound_recovers_iff (demoPlatform .running) [.record demoEntry] [demoStore] {} demoKey
    demoKeyHash_eq).1
      (publishedManaged (demoManifest "profile-1") (demoSha256 [97]) 1) rfl).2

/-- **An invalidated entry is dead**: the same output is recorded without an error and not
answered. -/
theorem invalidated_entry_dead : ¬ ∀ (keyHash : CacheKey → String) (platform : Platform)
    (steps : List (CacheStep keyHash)) (stores : List LocalArtifactStore) (ω : Outside)
    (entry : CacheEntry keyHash) (artifact : ArtifactRef) (reason : String),
    .invalidate entry.cacheKey reason ∈ steps →
    (run platform steps).Computed stores ω entry artifact →
    (((run platform steps).recordCacheEntry entry).2.resolve stores ω entry.cacheKey).1 =
      .ok (some artifact) := by
  intro h
  have hanswered := h demoKeyHash (demoPlatform .running)
    [.record demoEntry, .invalidate demoKey "policy changed"] [demoStore] {} demoEntry
    (publishedManaged (demoManifest "profile-1") (demoSha256 [97]) 1)
    "policy changed" (mem_cons_of_mem _ (mem_singleton_self _))
    ⟨rfl, rfl, rfl, _, rfl, rfl⟩
  have hnothing : (((run (demoPlatform .running) [.record demoEntry, .invalidate demoKey
      "policy changed"]).recordCacheEntry demoEntry).2.resolve [demoStore] {} demoKey).1 =
        .ok none := rfl
  cases hnothing.symm.trans hanswered

end DirtyDataOlap.Artifacts
