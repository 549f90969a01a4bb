import DirtyDataOlap.CleanupRules

/-!
# Reading the artifact store

`Finds external p s A`: the program `p` leaves the directory `s` as it is, and `A` holds of what it
returns.  A program that raises has returned nothing, so **a rule follows only the paths on which
every operation went through**.
-/
namespace DirtyDataOlap.Artifacts

open Prog LocalArtifactStore

/-- `read`: the bytes of a published reference, as they are. -/
def LocalArtifactStore.read (artifactId : String) : Files Bytes := do
  let ref ← publishedRef artifactId
  match ref.storageMode with
  | .managed => file (.readBlob ref.contentHash)
  | .external => do
    file (.resolveExternal (ref.externalLocator.getD ""))
    file (.readExternal (ref.externalLocator.getD ""))

/-- A file operation while the files outside the store stay as they are. -/
def during (external : String → Except StoreExc Bytes) (a : FileAct) (fault : Option (StoreExc × Nat))
    (s : FileState) : Except StoreExc a.Reply × FileState :=
  perform a ⟨fault, external⟩ s

/-- The program changes nothing, and `A` holds of a value that it returns. -/
def Finds {α : Type} (external : String → Except StoreExc Bytes) (p : Files α) (s : FileState)
    (A : α → Prop) : Prop :=
  p.Throughout (during external) (fun _ => True) s fun r s' => s' = s ∧ ∀ a, r = .ok a → A a

section
variable {external : String → Except StoreExc Bytes} {s : FileState} {α β : Type} {A : α → Prop}
  {B : β → Prop}

theorem Finds.value {p : Files α} (h : Finds external p s A) {r : Except StoreExc α} {s' : FileState}
    (hrun : p.Runs (during external) s r s') {a : α} (hr : r = .ok a) : A a :=
  (h.runs hrun).2 a hr

theorem finds_pure {a : α} (h : A a) : Finds external (pure a) s A :=
  ⟨rfl, fun _ he => by cases he; exact h⟩

theorem finds_raising {e : StoreExc} : Finds external (raising e) s A :=
  ⟨rfl, fun _ he => by cases he⟩

theorem finds_done {v : Except StoreExc α} (h : ∀ a, v = .ok a → A a) :
    Finds external (Prog.done v) s A :=
  ⟨rfl, h⟩

theorem finds_bind {p : Files α} {f : α → Files β} (hp : Finds external p s A)
    (hf : ∀ a, A a → Finds external (f a) s B) : Finds external (p.bind f) s B := by
  refine throughout_bind _ hp ?_ ?_
  · rintro a s' ⟨rfl, ha⟩
    exact hf a (ha a rfl)
  · rintro e s' ⟨rfl, _⟩
    exact ⟨rfl, fun _ he => by cases he⟩

theorem finds_tryCatch {p : Files α} {f : StoreExc → Files α} (hp : Finds external p s A)
    (hf : ∀ e, Finds external (f e) s A) : Finds external (p.tryCatch f) s A := by
  refine throughout_tryCatch _ hp (fun _ _ ha => ha) ?_
  rintro e s' ⟨rfl, _⟩
  exact hf e

theorem Finds.mono {p : Files α} {A' : α → Prop} (h : Finds external p s A)
    (hA : ∀ a, A a → A' a) : Finds external p s A' :=
  Throughout.mono h (fun _ _ => trivial) fun _ _ ha => ⟨ha.1, fun a hr => hA a (ha.2 a hr)⟩

theorem finds_file {a : FileAct} {A : a.Reply → Prop} (ha : a.Reads)
    (h : ∀ r, (a.effect ⟨none, external⟩ s).1 = .ok r → A r) : Finds external (file a) s A := by
  intro fault
  refine ⟨trivial, ?_⟩
  cases fault with
  | none => exact ⟨(ha s).1 _, h⟩
  | some fault => exact ⟨(ha s).2 _, fun _ he => by cases he⟩

/-- What every world outside leaves true, this one does. -/
theorem finds_of_safely {p : Files α}
    (h : Safely (fun _ => True) p s fun r s' => s' = s ∧ ∀ a, r = .ok a → A a) :
    Finds external p s A := by
  have hworlds : ∀ (s1 : FileState) {Q : Except StoreExc α → FileState → Prop},
      p.Throughout perform (fun _ => True) s1 Q →
        p.Throughout (during external) (fun _ => True) s1 Q := by
    clear h
    induction p with
    | done v => exact fun _ _ hq => hq
    | act a k ih => exact fun s1 _ hq fault => ⟨trivial, ih _ _ (hq ⟨fault, external⟩).2⟩
  exact hworlds s h

theorem finds_publishedRef (artifactId : String) :
    Finds external (publishedRef artifactId) s fun ref => s.record? artifactId = some (.ref ref) :=
  finds_of_safely (safely_publishedRef trivial
    (fun _ href _ => ⟨rfl, fun _ he => by cases he; exact href⟩)
    fun _ => ⟨rfl, fun _ he => by cases he⟩)

theorem finds_stat (artifactId : String) : Finds external (stat artifactId) s fun ref =>
      s.stat? artifactId = some ref :=
  finds_of_safely (safely_stat trivial
    (fun _ href => ⟨rfl, fun _ he => by cases he; exact href⟩)
    fun _ => ⟨rfl, fun _ he => by cases he⟩)

/-- The bytes behind a reference. -/
def heldBytes (external : String → Except StoreExc Bytes) (d : Durable)
    (ref : ArtifactRef) : Option Bytes :=
  match ref.storageMode with
  | .managed => d.blobs.lookup ref.contentHash
  | .external => (external (ref.externalLocator.getD "")).toOption

theorem finds_readBlob {contentHash : String} :
    Finds external (file (.readBlob contentHash)) s fun bytes =>
      s.blobs.lookup contentHash = some bytes := by
  refine finds_file (fun _ => ⟨fun _ => rfl, fun _ => rfl⟩) fun bytes hbytes => ?_
  simp only [FileAct.effect, FileState.readBlob] at hbytes
  split at hbytes
  · cases hbytes
    assumption
  · cases hbytes

theorem finds_readExternal {locator : String} :
    Finds external (file (.readExternal locator)) s fun bytes =>
      (external locator).toOption = some bytes := by
  refine finds_file (fun _ => ⟨fun _ => rfl, fun _ => rfl⟩) fun bytes hbytes => ?_
  have hread : external locator = .ok bytes := hbytes
  rw [hread]
  rfl

def VerifiedBytes (store : LocalArtifactStore) (external : String → Except StoreExc Bytes)
    (s : FileState) (ref : ArtifactRef) (result : ArtifactIntegrityResult) : Prop :=
  result.state = .verified → ∃ bytes, heldBytes external s.toDurable ref = some bytes ∧
    store.sha256 bytes = ref.contentHash ∧ bytes.length = ref.byteSize

variable {store : LocalArtifactStore}

theorem finds_verifyFile {ref : ArtifactRef} {isFile : Files Bool} {read : Files Bytes}
    (hisFile : Finds external isFile s fun _ => True) (hread : Finds external read s fun bytes =>
      heldBytes external s.toDurable ref = some bytes) :
    Finds external (store.verifyFile ref isFile read) s (VerifiedBytes store external s ref) := by
  refine finds_bind hisFile fun found _ => ?_
  split
  · refine finds_tryCatch (finds_bind hread fun bytes hbytes => finds_pure fun hv => ?_) fun e => ?_
    · exact ⟨bytes, hbytes, compared_verified.1 hv⟩
    · split
      · exact finds_pure fun hv => by cases hv
      · exact finds_raising
  · exact finds_pure fun hv => by cases hv

theorem finds_externalAvailable (locator : String) :
    Finds external (externalAvailable locator) s fun _ => True := by
  refine finds_tryCatch (finds_bind (A := fun _ => True) ?_ fun _ _ => finds_pure trivial)
    fun e => ?_
  · exact finds_file (fun _ => ⟨fun _ => rfl, fun _ => rfl⟩) fun _ _ => trivial
  · split
    · exact finds_pure trivial
    · exact finds_pure trivial
    · exact finds_raising

theorem finds_verify (artifactId : String) :
    Finds external (store.verify artifactId) s fun result =>
      result.state = .verified → ∃ ref bytes, s.record? artifactId = some (.ref ref) ∧
        heldBytes external s.toDurable ref = some bytes ∧ store.sha256 bytes = ref.contentHash ∧
        bytes.length = ref.byteSize := by
  have hrecord : Safely (fun _ => True) (readRecord artifactId) s fun _ s' => s' = s :=
    (onlyReads_readRecord artifactId).safely trivial
  refine finds_bind (A := fun _ => True) (finds_of_safely
    (hrecord.mono (fun _ _ => trivial) fun _ _ hs => ⟨hs, fun _ _ => trivial⟩)) fun record _ => ?_
  split
  · exact finds_raising
  · exact finds_pure fun hv => by cases hv
  · refine finds_bind (finds_publishedRef artifactId) fun ref href => ?_
    have hresult : ∀ result, VerifiedBytes store external s ref result →
        result.state = .verified → ∃ ref bytes, s.record? artifactId = some (.ref ref) ∧
          heldBytes external s.toDurable ref = some bytes ∧ store.sha256 bytes = ref.contentHash ∧
          bytes.length = ref.byteSize := by
      intro result hverified hv
      obtain ⟨bytes, hbytes⟩ := hverified hv
      exact ⟨ref, bytes, href, hbytes⟩
    split
    · rename_i hmode
      refine (finds_verifyFile ?_ (finds_readBlob.mono fun bytes hbytes => ?_)).mono hresult
      · exact finds_file (fun _ => ⟨fun _ => rfl, fun _ => rfl⟩) fun _ _ => trivial
      · rw [heldBytes, hmode]
        exact hbytes
    · rename_i hmode
      refine finds_bind (finds_externalAvailable _) fun found _ => ?_
      split
      · refine (finds_verifyFile ?_ (finds_readExternal.mono fun bytes hbytes => ?_)).mono hresult
        · exact finds_file (fun _ => ⟨fun _ => rfl, fun _ => rfl⟩) fun _ _ => trivial
        · rw [heldBytes, hmode]
          exact hbytes
      · exact finds_pure fun hv => by cases hv

theorem finds_read (artifactId : String) : Finds external (read artifactId) s fun bytes =>
      ∃ ref, s.record? artifactId = some (.ref ref) ∧
        heldBytes external s.toDurable ref = some bytes := by
  refine finds_bind (finds_publishedRef artifactId) fun ref href => ?_
  split
  · rename_i hmode
    refine finds_readBlob.mono fun bytes hbytes => ⟨ref, href, ?_⟩
    rw [heldBytes, hmode]
    exact hbytes
  · rename_i hmode
    refine finds_bind (A := fun _ => True) ?_ fun _ _ => ?_
    · exact finds_file (fun _ => ⟨fun _ => rfl, fun _ => rfl⟩) fun _ _ => trivial
    · refine finds_readExternal.mono fun bytes hbytes => ⟨ref, href, ?_⟩
      rw [heldBytes, hmode]
      exact hbytes

/-- **The three questions together**: the store holds the registered reference, its bytes verify,
and they are the bytes that are decoded. -/
theorem finds_verifiedBytes {artifact : ArtifactRef} {stored : ArtifactRef}
    {payload : Bytes} (hstat : s.stat? artifact.artifactId = some stored) (hstored : stored = artifact)
    (hverified : ∃ ref bytes, s.record? artifact.artifactId = some (.ref ref) ∧
      heldBytes external s.toDurable ref = some bytes ∧ store.sha256 bytes = ref.contentHash ∧
      bytes.length = ref.byteSize) (hread : ∃ ref, s.record? artifact.artifactId = some (.ref ref) ∧
      heldBytes external s.toDurable ref = some payload) :
    store.sha256 payload = artifact.contentHash ∧ payload.length = artifact.byteSize := by
  obtain ⟨ref, bytes, href, hbytes, hhash, hsize⟩ := hverified
  obtain ⟨ref', href', hpayload⟩ := hread
  rw [href] at href'
  cases href'
  have hsame : stored = ref := by
    rw [stat?_ref href] at hstat
    cases hstat
    rfl
  rw [hbytes] at hpayload
  cases hpayload
  rw [← hstored, hsame]
  exact ⟨hhash, hsize⟩

end

end DirtyDataOlap.Artifacts
