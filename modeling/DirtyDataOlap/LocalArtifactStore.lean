import Mathlib.Data.List.AList
import DirtyDataOlap.CrashRuns
import DirtyDataOlap.JobContracts

/-!
# The local artifact store

`LocalArtifactStore`: the directory below its root, with the records of `refs`, the contents of
`blobs` under their SHA-256 and what is being written in `tmp`.

A method is a program of file operations (`Files`), which can fail at each of them (`Outside.fault`)
and crash between any two; only a write can raise with part of it done.  The lock serialises the
methods.  The digest is a parameter; a record file is the record it spells, or unreadable text.
-/
namespace DirtyDataOlap.Artifacts

/-! ## Contracts -/

/-- The content of a file. -/
abbrev Bytes := List UInt8

/-- How long an artifact is kept. -/
inductive RetentionClass
  | ephemeral | runScoped | cache | persistent | pinnedGateEvidence
deriving DecidableEq

/-- What a cleanup does about an artifact. -/
inductive CleanupAction
  | deleteReference | deleteBlobIfUnreferenced | invalidateCachePointer | retainExternalReference
deriving DecidableEq

/-- What an artifact is published under, for ever. -/
structure Identity where
  (runId stageId attemptId artifactKind producer : String)
  storageMode : ArtifactStorageMode
deriving DecidableEq

/-- `ArtifactRef`, with the fields that only the platform reads. -/
structure ArtifactRef extends DirtyDataOlap.ArtifactRef where
  (schemaVersion mediaType : String)
  logicalKey : Option String := none
  producer : String
  retentionClass : RetentionClass
  sensitivityRef : Option String := none
  createdAt : Instant
  provenanceRefs : List String := []
deriving DecidableEq

/-- `ArtifactManifest`, as far as the store reads it. -/
structure ArtifactManifest where
  (artifactId runId stageId attemptId artifactKind schemaVersion mediaType producer : String)
  storageMode : ArtifactStorageMode := .managed
  logicalKey : Option String := none
  storageKey : Option String := none
  externalLocator : Option String := none
  contentHash : Option String := none
  byteSize : Option Nat := none
  provenanceRefs : List String := []
  retentionClass : RetentionClass := .runScoped
  sensitivityRef : Option String := none
  publicationState : ArtifactPublicationState := .reserved
  createdAt : Instant
deriving DecidableEq

/-- What a reservation answers. -/
structure ArtifactPublication where
  (artifactId contentHash : String)
  byteSize : Nat
  storageKey : Option String
  state : ArtifactPublicationState
  idempotent : Bool := false

/-- What a comparison of the bytes says. -/
structure ArtifactIntegrityResult where
  artifactId : String
  state : ArtifactIntegrityState
  expectedContentHash : String
  actualContentHash : Option String := none
  expectedByteSize : Nat
  actualByteSize : Option Nat := none
  detail : String

/-- The permission to delete exactly one artifact. -/
structure CleanupDeletionPermit where
  (planId planContentHash : String)
  runId : Option String := none
  (artifactId expectedContentHash : String)
  expectedByteSize : Nat
  retentionClass : RetentionClass
  plannedAction : CleanupAction
  dependentArtifactIds : List String := []

/-- What a reference may never change. -/
def ArtifactRef.identity (r : ArtifactRef) : Identity :=
  ⟨r.runId, r.stageId, r.attemptId, r.artifactKind, r.producer, r.storageMode⟩

/-- The same of a manifest. -/
def ArtifactManifest.identity (m : ArtifactManifest) : Identity :=
  ⟨m.runId, m.stageId, m.attemptId, m.artifactKind, m.producer, m.storageMode⟩

/-- The exceptions of the store. -/
inductive StoreExc
  /-- `ArtifactConflictError`. -/
  | conflict (detail : String)
  /-- `ArtifactIntegrityError`. -/
  | integrity (detail : String)
  /-- `PathConfinementError`. -/
  | confinement (detail : String)
  /-- `CleanupAuthorizationError`. -/
  | authorization (detail : String)
  /-- `PlatformError` itself. -/
  | platform (detail : String)
  | value (detail : String)
  | type (detail : String)
  | key (artifactId : String)
  | os
  | other (typeName : String)
deriving DecidableEq

/-- `isinstance(exc, PlatformError)`. -/
def StoreExc.isPlatform : StoreExc → Bool
  | .conflict _ | .integrity _ | .confinement _ | .authorization _ | .platform _ => true
  | _ => false

/-! ## Files -/

/-- What a file of `refs` spells: `record_type` and `payload`. -/
inductive Record
  | manifest (manifest : ArtifactManifest)
  | ref (ref : ArtifactRef)
  | tombstone (artifact : ArtifactRef) (planId planContentHash : String)
deriving DecidableEq

/-- The artifact that a record is about. -/
def Record.artifactId : Record → String
  | .manifest m => m.artifactId
  | .ref r => r.artifactId
  | .tombstone r _ _ => r.artifactId

/-- A file of `refs`, or one on its way there. -/
inductive RefFile
  | record (record : Record)
  /-- Text that is no record, such as the first half of one. -/
  | unreadable
deriving DecidableEq

/-- The part of the directory that other calls read. -/
structure Durable where
  refs : AList fun _ : String => RefFile
  blobs : AList fun _ : String => Bytes

/-- The directory below the root. -/
structure FileState extends Durable where
  /-- `tmp/ref-<name>.partial`. -/
  partials : AList fun _ : Nat => RefFile
  /-- `tmp/artifact-<name>.partial`. -/
  temps : AList fun _ : Nat => Bytes
  /-- The next name `uuid4` gives. -/
  nextName : Nat

/-- A new store. -/
def FileState.empty : FileState := ⟨⟨∅, ∅⟩, ∅, ∅, 0⟩

/-- The file operations of the store. -/
inductive FileAct
  | readRef (artifactId : String)
  | uuid4
  | openPartial (name : Nat)
  | writePartial (name : Nat) (record : Record)
  | replaceRef (name : Nat) (artifactId : String)
  | unlinkPartial (name : Nat)
  | openTemp (name : Nat)
  | writeTemp (name : Nat) (chunk : Bytes)
  | replaceBlob (name : Nat) (contentHash : String)
  | unlinkTemp (name : Nat)
  | blobIsFile (contentHash : String)
  | readBlob (contentHash : String)
  | unlinkBlob (contentHash : String)
  | usedBytes
  | refFiles
  | resolveExternal (locator : String)
  | externalIsFile (locator : String)
  | readExternal (locator : String)

/-- What they answer. -/
abbrev FileAct.Reply : FileAct → Type
  | .readRef _ => Option RefFile
  | .uuid4 => Nat
  | .blobIsFile _ | .externalIsFile _ => Bool
  | .readBlob _ | .readExternal _ => Bytes
  | .usedBytes => Nat
  | .refFiles => List RefFile
  | _ => Unit

/-- Whether the operation raises, how much of a write is done when it does, and what lies behind a
locator. -/
structure Outside where
  fault : Option (StoreExc × Nat) := none
  external : String → Except StoreExc Bytes := fun _ => .error .os

namespace FileState

variable (s : FileState)

/-- `os.replace(partial, path)`. -/
def replaceRef (name : Nat) (artifactId : String) : Except StoreExc Unit × FileState :=
  match s.partials.lookup name with
  | some file =>
    (.ok (), { s with refs := s.refs.insert artifactId file, partials := s.partials.erase name })
  | none => (.error .os, s)

/-- `os.replace(temp_path, blob)`. -/
def replaceBlob (name : Nat) (contentHash : String) : Except StoreExc Unit × FileState :=
  match s.temps.lookup name with
  | some bytes =>
    (.ok (), { s with blobs := s.blobs.insert contentHash bytes, temps := s.temps.erase name })
  | none => (.error .os, s)

/-- `target.write(chunk)`. -/
def writeTemp (name : Nat) (chunk : Bytes) : FileState :=
  match s.temps.lookup name with
  | some bytes => { s with temps := s.temps.insert name (bytes ++ chunk) }
  | none => s

/-- The bytes under a content hash. -/
def readBlob (contentHash : String) : Except StoreExc Bytes :=
  match s.blobs.lookup contentHash with
  | some bytes => .ok bytes
  | none => .error .os

end FileState

/-- A file operation that goes through. -/
def FileAct.effect : (a : FileAct) → Outside → FileState → Except StoreExc a.Reply × FileState
  | .readRef artifactId, _, s => (.ok (s.refs.lookup artifactId), s)
  | .uuid4, _, s => (.ok s.nextName, { s with nextName := s.nextName + 1 })
  | .openPartial name, _, s => (.ok (), { s with partials := s.partials.insert name .unreadable })
  | .writePartial name record, _, s =>
    (.ok (), { s with partials := s.partials.insert name (.record record) })
  | .replaceRef name artifactId, _, s => s.replaceRef name artifactId
  | .unlinkPartial name, _, s => (.ok (), { s with partials := s.partials.erase name })
  | .openTemp name, _, s => (.ok (), { s with temps := s.temps.insert name [] })
  | .writeTemp name chunk, _, s => (.ok (), s.writeTemp name chunk)
  | .replaceBlob name contentHash, _, s => s.replaceBlob name contentHash
  | .unlinkTemp name, _, s => (.ok (), { s with temps := s.temps.erase name })
  | .blobIsFile contentHash, _, s => (.ok (s.blobs.lookup contentHash).isSome, s)
  | .readBlob contentHash, _, s => (s.readBlob contentHash, s)
  | .unlinkBlob contentHash, _, s => (.ok (), { s with blobs := s.blobs.erase contentHash })
  | .usedBytes, _, s => (.ok (s.blobs.entries.map fun file => file.2.length).sum, s)
  | .refFiles, _, s => (.ok (s.refs.entries.map fun file => file.2), s)
  | .resolveExternal locator, ω, s => ((ω.external locator).map fun _ => (), s)
  | .externalIsFile locator, ω, s => (.ok (ω.external locator).isOk, s)
  | .readExternal locator, ω, s => (ω.external locator, s)

/-- What is left of a file operation that raises: the first `written` bytes of a write. -/
def FileAct.remains (written : Nat) : FileAct → FileState → FileState
  | .writePartial name _, s => { s with partials := s.partials.insert name .unreadable }
  | .writeTemp name chunk, s => s.writeTemp name (chunk.take written)
  | _, s => s

/-- One file operation. -/
def perform (a : FileAct) (ω : Outside) (s : FileState) : Except StoreExc a.Reply × FileState :=
  match ω.fault with
  | none => a.effect ω s
  | some (e, written) => (.error e, a.remains written s)

/-- A program over files. -/
abbrev Files (α : Type) := Prog FileAct.Reply StoreExc α

/-- A program that raises. -/
def raising {α : Type} (e : StoreExc) : Files α := Prog.raise e

/-- A program of one operation. -/
def file (a : FileAct) : Files a.Reply := Prog.call a

section

variable (artifactId : String)

/-- `_ref_filename`: ids that cannot name a file. -/
def safeFilename : Bool :=
  artifactId ≠ "" && artifactId.toList.all fun c => c ≠ '\x00' && c ≠ '/' && c ≠ '\\'

/-- The path of a record; the id must be a file name. -/
def refPath : Files Unit :=
  if safeFilename artifactId then pure ()
  else raising (.confinement "artifact identity cannot be used as a filesystem path")

/-- `_write_record`: to `tmp` first, then in one step over the record that is there. -/
def writeRecord (record : Record) (artifactId : String) : Files Unit := do
  refPath artifactId
  let name ← file .uuid4
  Prog.tryCatch
    (do
      file (.openPartial name)
      file (.writePartial name record)
      file (.replaceRef name artifactId))
    fun e => do
      file (.unlinkPartial name)
      raising e

/-- `except (OSError, ValueError, TypeError, KeyError)`: what cannot be read is an integrity error. -/
def readingFails {α : Type} (detail : String) (e : StoreExc) : Files α :=
  match e with
  | .os | .value _ | .type _ | .key _ => raising (.integrity detail)
  | e => raising e

/-- `_read_record`: a tombstone is read as the artifact in the state TOMBSTONED. -/
def readRecord : Files (Option Record) := do
  refPath artifactId
  match ← Prog.tryCatch (file (.readRef artifactId))
      (readingFails ("artifact reference metadata is unreadable: " ++ artifactId)) with
  | none => pure none
  | some (.record (.tombstone artifact planId planContentHash)) =>
    pure (some (.tombstone { artifact with publicationState := .tombstoned } planId planContentHash))
  | some (.record record) => pure (some record)
  | some .unreadable =>
    raising (.integrity ("artifact reference metadata is unreadable: " ++ artifactId))

/-- The record of a published artifact. -/
def publishedRef : Files ArtifactRef := do
  match ← readRecord artifactId with
  | none => raising (.key artifactId)
  | some (.ref ref) =>
    if ref.publicationState = .published then pure ref
    else raising (.integrity ("artifact is not published: " ++ artifactId))
  | some _ => raising (.integrity ("artifact is not published: " ++ artifactId))

end

/-- All references; an unreadable one makes the inventory fail. -/
def allRefs : Files (List ArtifactRef) := do
  let files ← Prog.tryCatch (file .refFiles)
    (readingFails "artifact reference inventory contains unreadable metadata")
  if files.contains .unreadable then
    raising (.integrity "artifact reference inventory contains unreadable metadata")
  else
    pure (files.filterMap fun
      | .record (.ref ref) => some ref
      | _ => none)

/-- `_identity_matches`; only a manifest of an external artifact compares locators. -/
def identityMatches (existing : Identity) (locator : Option String) (manifest : ArtifactManifest) :
    Bool :=
  existing = manifest.identity &&
    !(manifest.storageMode = .external && locator ≠ none && locator ≠ manifest.externalLocator)

/-! ## The store -/

/-- What a store is configured with, and the digest. -/
structure LocalArtifactStore where
  sha256 : Bytes → String
  diskBudgetBytes : Option Nat := none

namespace LocalArtifactStore
variable (store : LocalArtifactStore)

/-- `reserve`. -/
def reserve (manifest : ArtifactManifest) : Files ArtifactPublication := do
  if manifest.storageMode ≠ .managed then
    raising (.value "reserve is only valid for managed artifacts")
  else
    match ← readRecord manifest.artifactId with
    | some (.tombstone _ _ _) =>
      raising (.conflict "tombstoned artifact identity cannot be reused")
    | some (.ref ref) =>
      if identityMatches ref.identity ref.externalLocator manifest then
        pure
          { artifactId := ref.artifactId
            contentHash := ref.contentHash
            byteSize := ref.byteSize
            storageKey := ref.storageKey
            state := ref.publicationState
            idempotent := true }
      else
        raising (.conflict "artifact identity metadata conflicts with the existing reference")
    | some (.manifest reserved) =>
      if identityMatches reserved.identity reserved.externalLocator manifest then
        pure
          { artifactId := manifest.artifactId
            contentHash := manifest.contentHash.getD (String.ofList (List.replicate 64 '0'))
            byteSize := manifest.byteSize.getD 0
            storageKey := manifest.storageKey
            state := manifest.publicationState
            idempotent := true }
      else
        raising (.conflict "artifact identity metadata conflicts with the existing reference")
    | none =>
      writeRecord (.manifest { manifest with publicationState := .reserved }) manifest.artifactId
      pure
        { artifactId := manifest.artifactId
          contentHash := manifest.contentHash.getD (String.ofList (List.replicate 64 '0'))
          byteSize := manifest.byteSize.getD 0
          storageKey := manifest.storageKey
          state := .reserved }

/-- The disk budget must leave room for the new bytes. -/
def checkQuota (additionalBytes : Nat) : Files Unit :=
  match store.diskBudgetBytes with
  | none => pure ()
  | some budget => do
    let used ← file .usedBytes
    if used + additionalBytes > budget then
      raising (.integrity "artifact publication exceeds the configured disk budget")
    else pure ()

/-- One `read` of a payload stream. -/
inductive Read
  | chunk (bytes : Bytes)
  /-- An object that is no bytes. -/
  | other
  | raised (e : StoreExc)

/-- Bytes, or a stream given by its successive reads; it ends at the first empty chunk. -/
inductive Payload
  | bytes (value : Bytes)
  | stream (reads : List Read)

/-- The reads of a payload: `_BytesReader` gives the bytes one mebibyte at a time. -/
def Payload.reads : Payload → List Read
  | .bytes value => (value.toChunks (1024 * 1024)).map .chunk
  | .stream reads => reads

/-- `_sha256_stream`: everything the reads give. -/
def readAll : List Read → Bytes → Files Bytes
  | [], all => pure all
  | .chunk bytes :: rest, all => if bytes = [] then pure all else readAll rest (all ++ bytes)
  | .other :: _, _ => raising (.type "artifact stream must yield bytes")
  | .raised e :: _, _ => raising e

/-- `_payload_hash`, as the bytes it digests and counts. -/
def payloadBytes : Payload → Files Bytes
  | .bytes value => pure value
  | .stream reads => readAll reads []

variable (manifest : ArtifactManifest)

/-- The check of the quota while a payload of unknown size is read. -/
def checkGrowth (size : Nat) : Files Unit :=
  if manifest.byteSize = none then store.checkQuota size else pure ()

/-- The loop of `publish` over the reads of its payload. -/
def copyChunks (manifest : ArtifactManifest) (temp : Nat) : List Read → Bytes → Files Bytes
  | [], all => pure all
  | .chunk bytes :: rest, all =>
    if bytes = [] then pure all
    else do
      store.checkGrowth manifest (all ++ bytes).length
      file (.writeTemp temp bytes)
      copyChunks manifest temp rest (all ++ bytes)
  | .other :: _, _ => raising (.type "artifact stream must yield bytes")
  | .raised e :: _, _ => raising e

/-- Where the bytes with a content hash are kept. -/
def blobKey (contentHash : String) : String :=
  "blobs/sha256/" ++ String.ofList (contentHash.toList.take 2) ++ "/" ++ contentHash

/-- The reference to a published content. -/
def publishedManaged (contentHash : String) (size : Nat) : ArtifactRef where
  artifactId := manifest.artifactId
  runId := manifest.runId
  stageId := manifest.stageId
  attemptId := manifest.attemptId
  artifactKind := manifest.artifactKind
  schemaVersion := manifest.schemaVersion
  mediaType := manifest.mediaType
  contentHash := contentHash
  byteSize := size
  storageMode := .managed
  logicalKey := manifest.logicalKey
  storageKey := some (blobKey contentHash)
  producer := manifest.producer
  retentionClass := manifest.retentionClass
  sensitivityRef := manifest.sensitivityRef
  publicationState := .published
  createdAt := manifest.createdAt
  provenanceRefs := manifest.provenanceRefs

/-- The construction of an `ArtifactRef` refuses an empty schema version. -/
def newRef (ref : ArtifactRef) : Files ArtifactRef :=
  if ref.schemaVersion = "" then raising (.value "schema_version") else pure ref

/-- The content gets its place: what is there already is compared, else the temporary file is moved
there. -/
def placeBlob (temp : Nat) (contentHash : String) (size : Nat) : Files Unit := do
  if ← file (.blobIsFile contentHash) then
    let actual ← file (.readBlob contentHash)
    if store.sha256 actual ≠ contentHash ∨ actual.length ≠ size then
      raising (.integrity "existing content-addressed blob is corrupt")
    else file (.unlinkTemp temp)
  else do
    store.checkQuota size
    file (.replaceBlob temp contentHash)

/-- The body of the `try` in `publish`. -/
def publishBytes (payload : Payload) (temp : Nat) : Files ArtifactRef := do
  file (.openTemp temp)
  let bytes ← store.copyChunks manifest temp payload.reads []
  if manifest.contentHash ≠ none ∧ manifest.contentHash ≠ some (store.sha256 bytes) then
    raising (.integrity "claimed artifact hash does not match the payload")
  else if manifest.byteSize ≠ none ∧ manifest.byteSize ≠ some bytes.length then
    raising (.integrity "claimed artifact size does not match the payload")
  else do
    store.placeBlob temp (store.sha256 bytes) bytes.length
    let ref ← newRef (publishedManaged manifest (store.sha256 bytes) bytes.length)
    writeRecord (.ref ref) ref.artifactId
    pure ref

/-- `publish`. -/
def publish (manifest : ArtifactManifest) (payload : Payload) : Files ArtifactRef := do
  if manifest.storageMode ≠ .managed then
    raising (.value "publish is only valid for managed artifacts")
  else
    match ← readRecord manifest.artifactId with
    | some (.tombstone _ _ _) =>
      raising (.conflict "tombstoned artifact identity cannot be republished")
    | some (.ref existing) => do
      let bytes ← payloadBytes payload
      if store.sha256 bytes ≠ existing.contentHash ∨ bytes.length ≠ existing.byteSize then
        raising (.conflict "immutable artifact identity was reused with a different hash")
      else if identityMatches existing.identity existing.externalLocator manifest then pure existing
      else raising (.conflict "artifact identity metadata conflicts with the existing reference")
    | _ => do
      let _ ← reserve manifest
      let temp ← file .uuid4
      Prog.tryCatch (store.publishBytes manifest payload temp) fun e => do
        file (.unlinkTemp temp)
        raising e

/-- The reference to a registered file. -/
def publishedExternal (locator contentHash : String) (size : Nat) : ArtifactRef where
  artifactId := manifest.artifactId
  runId := manifest.runId
  stageId := manifest.stageId
  attemptId := manifest.attemptId
  artifactKind := manifest.artifactKind
  schemaVersion := manifest.schemaVersion
  mediaType := manifest.mediaType
  contentHash := contentHash
  byteSize := size
  storageMode := .external
  logicalKey := manifest.logicalKey
  externalLocator := some locator
  producer := manifest.producer
  retentionClass := manifest.retentionClass
  sensitivityRef := manifest.sensitivityRef
  publicationState := .published
  createdAt := manifest.createdAt
  provenanceRefs := manifest.provenanceRefs

/-- The part of `register_external` that runs under the lock. -/
def recordExternal (locator : String) (bytes : Bytes) : Files ArtifactRef := do
  match ← readRecord manifest.artifactId with
  | some (.tombstone _ _ _) =>
    raising (.conflict "tombstoned external artifact identity cannot be reused")
  | some (.ref existing) =>
    if existing.contentHash ≠ store.sha256 bytes ∨
        !identityMatches existing.identity existing.externalLocator manifest then
      raising (.conflict "external artifact identity conflicts with the existing reference")
    else pure existing
  | _ => do
    let ref ← newRef (publishedExternal manifest locator (store.sha256 bytes) bytes.length)
    writeRecord (.ref ref) ref.artifactId
    pure ref

/-- `register_external`. -/
def registerExternal (locator : String) : Files ArtifactRef := do
  if manifest.storageMode ≠ .external then
    raising (.value "external registration requires EXTERNAL storage mode")
  else do
    file (.resolveExternal locator)
    if manifest.externalLocator ≠ some locator then
      raising (.conflict "external locator must exactly match the manifest locator")
    else do
      let bytes ← file (.readExternal locator)
      if manifest.contentHash ≠ none ∧ manifest.contentHash ≠ some (store.sha256 bytes) then
        raising (.integrity "claimed external artifact hash does not match the file")
      else if manifest.byteSize ≠ none ∧ manifest.byteSize ≠ some bytes.length then
        raising (.integrity "claimed external artifact size does not match the file")
      else store.recordExternal manifest locator bytes

/-- An integrity result about a reference whose bytes were not compared. -/
def uncompared (ref : ArtifactRef) (state : ArtifactIntegrityState) (detail : String) :
    ArtifactIntegrityResult where
  artifactId := ref.artifactId
  state := state
  expectedContentHash := ref.contentHash
  expectedByteSize := ref.byteSize
  detail := detail

/-- The comparison at the end of `verify`. -/
def compared (ref : ArtifactRef) (actual : Bytes) : ArtifactIntegrityResult where
  artifactId := ref.artifactId
  state :=
    if store.sha256 actual ≠ ref.contentHash then .hashMismatch
    else if actual.length ≠ ref.byteSize then .sizeMismatch
    else .verified
  expectedContentHash := ref.contentHash
  actualContentHash := some (store.sha256 actual)
  expectedByteSize := ref.byteSize
  actualByteSize := some actual.length
  detail :=
    if store.sha256 actual ≠ ref.contentHash then
      "artifact bytes do not match the registered content hash"
    else if actual.length ≠ ref.byteSize then "artifact bytes do not match the registered size"
    else "content hash and byte size verified"

/-- The end of `verify`, over the file that holds the bytes. -/
def verifyFile (ref : ArtifactRef) (isFile : Files Bool) (read : Files Bytes) :
    Files ArtifactIntegrityResult := do
  if ← isFile then
    Prog.tryCatch
      (do
        let actual ← read
        pure (store.compared ref actual))
      fun e =>
        if e = .os then pure (uncompared ref .unreadable "artifact bytes could not be read")
        else raising e
  else pure (uncompared ref .missing "managed artifact blob is missing")

/-- Whether `_resolve_external` finds the file, with the exceptions that `verify` catches. -/
def externalAvailable (locator : String) : Files Bool :=
  Prog.tryCatch
    (do
      file (.resolveExternal locator)
      pure true)
    fun e => match e with
      | .os | .confinement _ => pure false
      | e => raising e

variable (artifactId : String)

/-- `verify`. -/
def verify : Files ArtifactIntegrityResult := do
  match ← readRecord artifactId with
  | none => raising (.key artifactId)
  | some (.tombstone ref _ _) =>
    pure (uncompared ref .notChecked "tombstoned artifact is not consumable")
  | some _ => do
    let ref ← publishedRef artifactId
    match ref.storageMode with
    | .managed =>
      store.verifyFile ref (file (.blobIsFile ref.contentHash)) (file (.readBlob ref.contentHash))
    | .external => do
      let locator := ref.externalLocator.getD ""
      if ← externalAvailable locator then
        store.verifyFile ref (file (.externalIsFile locator)) (file (.readExternal locator))
      else
        pure (uncompared ref .externalUnavailable "controlled external artifact is unavailable")

/-- `stat`. -/
def stat : Files ArtifactRef := do
  match ← readRecord artifactId with
  | some (.ref ref) | some (.tombstone ref _ _) => pure ref
  | _ => raising (.key artifactId)

/-- The permit is for this artifact, with these bytes and this run. -/
def permitCovers (permit : CleanupDeletionPermit) (ref : ArtifactRef) : Bool :=
  permit.artifactId = ref.artifactId && permit.expectedContentHash = ref.contentHash &&
    permit.expectedByteSize = ref.byteSize &&
    (permit.runId = none || permit.runId = some ref.runId) &&
    permit.retentionClass = ref.retentionClass &&
    permit.plannedAction = .deleteBlobIfUnreferenced && permit.dependentArtifactIds = [] &&
    ref.retentionClass ≠ .pinnedGateEvidence

/-- The end of `delete`: a tombstone first, then the blob unless another reference has its content. -/
def bury (ref : ArtifactRef) (permit : CleanupDeletionPermit) : Files Unit := do
  writeRecord (.tombstone ref permit.planId permit.planContentHash) ref.artifactId
  let refs ← allRefs
  if refs.any fun item => item.contentHash = ref.contentHash && item.artifactId ≠ ref.artifactId then
    pure ()
  else if ref.storageMode = .managed then file (.unlinkBlob ref.contentHash)
  else pure ()

/-- `delete`. -/
def delete (permit : CleanupDeletionPermit) : Files Unit := do
  let ref ← publishedRef artifactId
  if !permitCovers permit ref then
    raising (.authorization "deletion permit does not cover this exact artifact")
  else if ref.storageMode = .external then
    raising (.authorization "pinned gate evidence cannot be deleted")
  else do
    let integrity ← store.verify ref.artifactId
    if integrity.state ≠ .verified then
      raising (.authorization "artifact bytes must verify before deletion")
    else bury ref permit

end LocalArtifactStore
end DirtyDataOlap.Artifacts
