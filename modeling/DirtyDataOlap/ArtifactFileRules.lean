import DirtyDataOlap.CrashLogic
import DirtyDataOlap.LocalArtifactStore

/-!
# What the methods of the artifact store do to its directory

One rule for each method: the directories it can pass through and how it can end.  Nobody reads the
files of `tmp` but the call that wrote them, so only the durable part matters; **each method changes
it by one replacement at a time**.
-/
namespace DirtyDataOlap.Artifacts

open Prog

/-- `J` of the durable part throughout, `Q` at the end. -/
abbrev Safely {α : Type} (J : Durable → Prop) (p : Files α) (s : FileState)
    (Q : Except StoreExc α → FileState → Prop) : Prop :=
  p.Throughout perform (fun s' => J s'.toDurable) s Q

namespace Durable

section

variable (d : Durable)

/-- One record replaced. -/
def putRef (artifactId : String) (record : Record) : Durable :=
  { d with refs := d.refs.insert artifactId (.record record) }

def putBlob (contentHash : String) (bytes : Bytes) : Durable :=
  { d with blobs := d.blobs.insert contentHash bytes }

def dropBlob (contentHash : String) : Durable :=
  { d with blobs := d.blobs.erase contentHash }

def record? (artifactId : String) : Option Record :=
  match d.refs.lookup artifactId with
  | some (.record record) => some record
  | _ => none

/-- The directory once a reference has its tombstone. -/
def buried (ref : ArtifactRef) (permit : CleanupDeletionPermit) : Durable :=
  d.putRef ref.artifactId (.tombstone ref permit.planId permit.planContentHash)

/-- The published references, in the order of the directory. -/
def inventory : List ArtifactRef :=
  (d.refs.entries.map fun file => file.2).filterMap fun
    | .record (.ref ref) => some ref
    | _ => none

/-- A reference to another artifact has the content of this one. -/
def shares (ref : ArtifactRef) : Bool :=
  d.inventory.any fun item => item.contentHash = ref.contentHash && item.artifactId ≠ ref.artifactId

/-- The directory once a reference is deleted. -/
def removed (ref : ArtifactRef) (permit : CleanupDeletionPermit) : Durable :=
  if (d.buried ref permit).shares ref then d.buried ref permit
  else if ref.storageMode = .managed then (d.buried ref permit).dropBlob ref.contentHash
  else d.buried ref permit

@[simp] theorem record?_putRef (artifactId other : String) (record : Record) :
    (d.putRef artifactId record).record? other =
      if other = artifactId then some record else d.record? other := by
  by_cases h : other = artifactId
  · subst h
    simp [record?, putRef]
  · simp [record?, putRef, AList.lookup_insert_ne h, h]

@[simp] theorem record?_removed (ref : ArtifactRef) (permit : CleanupDeletionPermit) (id : String) :
    (d.removed ref permit).record? id = (d.buried ref permit).record? id := by
  unfold removed
  split
  · rfl
  · split <;> rfl

end

variable {d : Durable}

theorem record?_eq_some {artifactId : String} {record : Record} :
    d.record? artifactId = some record ↔ d.refs.lookup artifactId = some (.record record) := by
  unfold record?
  split
  · rename_i r h
    simp [h]
  · rename_i h
    simp only [reduceCtorEq, false_iff]
    exact h record

theorem mem_inventory {ref : ArtifactRef} :
    ref ∈ d.inventory ↔ ∃ artifactId, d.record? artifactId = some (.ref ref) := by
  simp only [inventory, List.mem_filterMap, List.mem_map]
  constructor
  · rintro ⟨file, ⟨⟨artifactId, stored⟩, hentry, rfl⟩, href⟩
    refine ⟨artifactId, record?_eq_some.2 ?_⟩
    have hlookup := AList.mem_lookup_iff.2 hentry
    split at href
    · rename_i found heq
      cases href
      exact (Option.mem_def.1 hlookup).trans (congrArg some heq)
    · cases href
  · rintro ⟨artifactId, href⟩
    have hentry := AList.mem_lookup_iff.1 (Option.mem_def.2 (record?_eq_some.1 href))
    exact ⟨_, ⟨_, hentry, rfl⟩, rfl⟩

theorem shares_iff {ref : ArtifactRef} :
    d.shares ref = true ↔ ∃ artifactId other, d.record? artifactId = some (.ref other) ∧
      other.contentHash = ref.contentHash ∧ other.artifactId ≠ ref.artifactId := by
  simp only [shares, List.any_eq_true, Bool.and_eq_true, decide_eq_true_eq, mem_inventory]
  constructor
  · rintro ⟨other, ⟨artifactId, hother⟩, hsame, hne⟩
    exact ⟨artifactId, other, hother, hsame, hne⟩
  · rintro ⟨artifactId, other, hother, hsame, hne⟩
    exact ⟨other, ⟨artifactId, hother⟩, hsame, hne⟩

end Durable

/-! ## File operations -/

variable {J : Durable → Prop} {s : FileState} {α : Type}

theorem remains_durable (a : FileAct) (n : Nat) (s : FileState) :
    (a.remains n s).toDurable = s.toDurable := by
  unfold FileAct.remains
  split
  · rfl
  · rename_i name chunk s
    unfold FileState.writeTemp
    split <;> rfl
  · rfl

variable {artifactId : String} {a : FileAct} {record : Record}
  {Q : Except StoreExc a.Reply → FileState → Prop} {manifest : ArtifactManifest}

theorem safely_file (h : J s.toDurable)
    (herror : ∀ e s', s'.toDurable = s.toDurable → Q (.error e) s')
    (hdone : ∀ ω, J (a.effect ω s).2.toDurable ∧ Q (a.effect ω s).1 (a.effect ω s).2) :
    Safely J (file a) s Q := by
  intro ω
  unfold perform
  cases ω.fault with
  | none => exact hdone ω
  | some fault =>
    have hd := remains_durable a fault.2 s
    refine ⟨?_, herror _ _ hd⟩
    show J (a.remains fault.2 s).toDurable
    rw [hd]
    exact h

theorem safely_quiet (h : J s.toDurable) (hquiet : ∀ ω, (a.effect ω s).2.toDurable = s.toDurable)
    (herror : ∀ e s', s'.toDurable = s.toDurable → Q (.error e) s')
    (hdone : ∀ ω, Q (a.effect ω s).1 (a.effect ω s).2) : Safely J (file a) s Q := by
  refine safely_file h herror fun ω => ⟨?_, hdone ω⟩
  rw [hquiet ω]
  exact h

/-- The operation leaves the directory as it is. -/
def FileAct.Reads (a : FileAct) : Prop :=
  ∀ s, (∀ ω, (a.effect ω s).2 = s) ∧ ∀ n, a.remains n s = s

/-- A program of such operations. -/
def OnlyReads (p : Files α) : Prop := p.Only FileAct.Reads fun _ => True

theorem OnlyReads.safely {p : Files α} (hp : OnlyReads p) (h : J s.toDurable) :
    Safely J p s fun _ s' => s' = s := by
  induction p with
  | done v => exact rfl
  | act a k ih =>
    intro ω
    have hkeep : (perform a ω s).2 = s := by
      unfold perform
      cases ω.fault with
      | none => exact (hp.1 s).1 ω
      | some fault => exact (hp.1 s).2 fault.2
    rw [hkeep]
    exact ⟨h, ih _ (hp.2 _)⟩

/-- A program of such operations, whatever it returns. -/
theorem OnlyReads.safely_any {p : Files α} {Q : Except StoreExc α → FileState → Prop}
    (hp : OnlyReads p) (h : J s.toDurable) (hok : ∀ a, Q (.ok a) s) (herror : ∀ e, Q (.error e) s) :
    Safely J p s Q := by
  refine (hp.safely h).mono (fun _ hJ => hJ) ?_
  rintro (e | a) s' rfl
  · exact herror e
  · exact hok a

/-- Such a program, and then another one. -/
theorem OnlyReads.safely_then {α β : Type} {p : Files α} {f : α → Files β}
    {Q : Except StoreExc β → FileState → Prop} (hp : OnlyReads p) (h : J s.toDurable)
    (hok : ∀ a, Safely J (f a) s Q) (herror : ∀ e, Q (.error e) s) : Safely J (p.bind f) s Q :=
  throughout_then fun _ hnext hraise =>
    hp.safely_any h (fun a => hnext a s (hok a)) fun e => hraise e s (herror e)

theorem safely_reading (ha : a.Reads) (h : J s.toDurable) (hok : ∀ ω, Q (a.effect ω s).1 s)
    (herror : ∀ e, Q (.error e) s) : Safely J (file a) s Q := by
  intro ω
  unfold perform
  cases ω.fault with
  | none =>
    rw [(ha s).1 ω]
    exact ⟨h, hok ω⟩
  | some fault =>
    dsimp only
    rw [(ha s).2 fault.2]
    exact ⟨h, herror _⟩

theorem safely_refPath {Q : Except StoreExc Unit → FileState → Prop}
    (hok : safeFilename artifactId = true → Q (.ok ()) s) (herror : ∀ e, Q (.error e) s) :
    Safely J (refPath artifactId) s Q := by
  unfold refPath
  split
  · rename_i h
    exact hok h
  · exact herror _

/-- **`_write_record` replaces the record or changes nothing.** -/
theorem safely_writeRecord {Q : Except StoreExc Unit → FileState → Prop} (h : J s.toDurable)
    (hput : safeFilename artifactId = true → J (s.putRef artifactId record))
    (hok : ∀ s', safeFilename artifactId = true → s'.toDurable = s.putRef artifactId record →
      Q (.ok ()) s') (herror : ∀ e s', s'.toDurable = s.toDurable → Q (.error e) s') :
    Safely J (writeRecord record artifactId) s Q := by
  -- the same end whatever raised
  have hclean : ∀ (name : Nat) (e : StoreExc) (s' : FileState), s'.toDurable = s.toDurable →
      Safely J ((file (.unlinkPartial name)).bind fun _ => raising e : Files Unit) s' Q := by
    intro name e s' hs'
    exact throughout_then fun P hnext hraise => safely_quiet (hs' ▸ h) (fun _ => rfl)
      (fun e' s1 h1 => hraise _ _ (herror e' s1 (h1.trans hs'))) fun _ => hnext _ _ (herror e _ hs')
  refine throughout_then fun P hnext hraise =>
    safely_refPath (fun hsafe => hnext _ _ ?_) fun e => hraise _ _ (herror e s rfl)
  refine throughout_then fun P hnext hraise => safely_quiet h (fun _ => rfl)
    (fun e s1 h1 => hraise _ _ (herror e s1 h1)) fun _ => hnext s.nextName _ ?_
  refine throughout_except fun P hreturn hfail => ?_
  have hfails : ∀ e s', s'.toDurable = s.toDurable → P (.error e) s' := fun e s' hs' =>
    hfail e s' (hclean s.nextName e s' hs')
  refine throughout_then fun P hnext hraise => safely_quiet h (fun _ => rfl)
    (fun e s2 h2 => hraise _ _ (hfails e s2 h2)) fun _ => hnext _ _ ?_
  refine throughout_then fun P hnext hraise => safely_quiet h (fun _ => rfl)
    (fun e s3 h3 => hraise _ _ (hfails e s3 h3)) fun _ => hnext _ _ ?_
  refine safely_file h hfails fun _ => ?_
  simp only [FileAct.effect, FileState.replaceRef, AList.lookup_insert]
  exact ⟨hput hsafe, hreturn _ _ (hok _ hsafe rfl)⟩

/-! ## Reading -/

theorem safely_readingFails {detail : String} {e : StoreExc}
    {Q : Except StoreExc α → FileState → Prop} (h : ∀ e, Q (.error e) s) :
    Safely J (readingFails detail e) s Q := by
  unfold readingFails
  split <;> exact h _

def Record.read : Record → Record
  | .tombstone artifact planId planContentHash =>
    .tombstone { artifact with publicationState := .tombstoned } planId planContentHash
  | record => record

@[simp] theorem Record.read_eq_ref {ref : ArtifactRef} :
    record.read = .ref ref ↔ record = .ref ref := by
  cases record <;> simp [Record.read]

@[simp] theorem Record.read_eq_manifest :
    record.read = .manifest manifest ↔ record = .manifest manifest := by
  cases record <;> simp [Record.read]

theorem map_read_eq_ref {record : Option Record} {ref : ArtifactRef} :
    record.map Record.read = some (.ref ref) ↔ record = some (.ref ref) := by
  cases record <;> simp

theorem map_read_eq_manifest {record : Option Record} :
    record.map Record.read = some (.manifest manifest) ↔ record = some (.manifest manifest) := by
  cases record <;> simp

theorem safely_readRecord {Q : Except StoreExc (Option Record) → FileState → Prop}
    (h : J s.toDurable) (hok : ∀ record, (s.record? artifactId).map Record.read = record →
      (s.refs.lookup artifactId = none ↔ record = none) → Q (.ok record) s)
    (herror : ∀ e, Q (.error e) s) : Safely J (readRecord artifactId) s Q := by
  refine throughout_then fun P hnext hraise =>
    safely_refPath (fun _ => hnext _ _ ?_) fun e => hraise _ _ (herror e)
  refine throughout_then fun P hnext hraise => throughout_except fun P' hreturn hfail =>
    safely_reading (fun _ => ⟨fun _ => rfl, fun _ => rfl⟩) h (fun _ => hreturn _ _ (hnext _ _ ?_))
      fun _ => hfail _ _ (safely_readingFails fun e => hraise _ _ (herror e))
  have hread : ∀ record, s.refs.lookup artifactId = some (.record record) →
      (s.record? artifactId).map Record.read = some record.read := by
    intro record hr
    rw [Durable.record?_eq_some.2 hr, Option.map_some]
  split
  · rename_i hnone
    exact hok none (by simp [Durable.record?, hnone]) (by simp [hnone])
  · rename_i artifact planId planContentHash hf
    exact hok _ (hread _ hf) (by simp [hf])
  · rename_i record hnot hf
    refine hok _ ((hread _ hf).trans (congrArg some ?_)) (by simp [hf])
    cases record with
    | tombstone a p c => exact absurd rfl (hnot a p c)
    | manifest m => rfl
    | ref r => rfl
  · exact herror _

theorem safely_publishedRef {Q : Except StoreExc ArtifactRef → FileState → Prop} (h : J s.toDurable)
    (hok : ∀ ref, s.record? artifactId = some (.ref ref) → ref.publicationState = .published →
      Q (.ok ref) s) (herror : ∀ e, Q (.error e) s) : Safely J (publishedRef artifactId) s Q := by
  refine throughout_then fun P hnext hraise =>
    safely_readRecord h (fun record hrecord _ => hnext _ _ ?_) fun e => hraise _ _ (herror e)
  split
  · exact herror _
  · rename_i ref _
    split
    · rename_i hpublished
      exact hok ref (map_read_eq_ref.1 hrecord) hpublished
    · exact herror _
  · exact herror _

theorem safely_allRefs {Q : Except StoreExc (List ArtifactRef) → FileState → Prop}
    (h : J s.toDurable) (hok : Q (.ok s.inventory) s) (herror : ∀ e, Q (.error e) s) :
    Safely J allRefs s Q := by
  refine throughout_then fun P hnext hraise => throughout_except fun P' hreturn hfail =>
    safely_reading (fun _ => ⟨fun _ => rfl, fun _ => rfl⟩) h (fun _ => hreturn _ _ (hnext _ _ ?_))
      fun _ => hfail _ _ (safely_readingFails fun e => hraise _ _ (herror e))
  split
  · exact herror _
  · exact hok

theorem onlyReads_file (h : a.Reads) : OnlyReads (file a) := only_call h

theorem OnlyReads.bind {β : Type} {p : Files α} {f : α → Files β} (hp : OnlyReads p)
    (hf : ∀ a, OnlyReads (f a)) : OnlyReads (p.bind f) :=
  Only.bind hp fun a _ => hf a

variable (artifactId : String)

theorem onlyReads_refPath : OnlyReads (refPath artifactId) := by
  unfold refPath
  split
  · exact trivial
  · exact trivial

theorem onlyReads_readingFails (detail : String) (e : StoreExc) :
    OnlyReads (readingFails detail e : Files α) := by
  unfold readingFails
  split <;> exact trivial

theorem onlyReads_readRecord : OnlyReads (readRecord artifactId) := by
  refine (onlyReads_refPath artifactId).bind fun _ => OnlyReads.bind (Only.tryCatch
    (onlyReads_file fun _ => ⟨fun _ => rfl, fun _ => rfl⟩) (onlyReads_readingFails _)) fun file => ?_
  split <;> exact trivial

theorem onlyReads_publishedRef : OnlyReads (publishedRef artifactId) := by
  refine (onlyReads_readRecord artifactId).bind fun record => ?_
  split
  · exact trivial
  · split <;> exact trivial
  · exact trivial

namespace LocalArtifactStore
variable {store : LocalArtifactStore}

theorem onlyReads_checkQuota (additionalBytes : Nat) : OnlyReads (store.checkQuota additionalBytes) := by
  unfold checkQuota
  split
  · exact trivial
  · refine (onlyReads_file fun _ => ⟨fun _ => rfl, fun _ => rfl⟩).bind fun used => ?_
    split <;> exact trivial

theorem onlyReads_checkGrowth (manifest : ArtifactManifest) (size : Nat) :
    OnlyReads (store.checkGrowth manifest size) := by
  unfold checkGrowth
  split
  · exact onlyReads_checkQuota size
  · exact trivial

variable {ref : ArtifactRef} {permit : CleanupDeletionPermit}
  {Q : Except StoreExc Unit → FileState → Prop}

theorem onlyReads_verifyFile {isFile : Files Bool} {read : Files Bytes} (hisFile : OnlyReads isFile)
    (hread : OnlyReads read) : OnlyReads (store.verifyFile ref isFile read) := by
  refine hisFile.bind fun found => ?_
  split
  · refine Only.tryCatch (hread.bind fun _ => trivial) fun e => ?_
    split <;> exact trivial
  · exact trivial

theorem onlyReads_externalAvailable (locator : String) : OnlyReads (externalAvailable locator) := by
  refine Only.tryCatch
    ((onlyReads_file fun _ => ⟨fun _ => rfl, fun _ => rfl⟩).bind fun _ => trivial) fun e => ?_
  split <;> exact trivial

theorem onlyReads_verify (artifactId : String) : OnlyReads (store.verify artifactId) := by
  refine (onlyReads_readRecord artifactId).bind fun record => ?_
  split
  · exact trivial
  · exact trivial
  · refine (onlyReads_publishedRef artifactId).bind fun ref => ?_
    split
    · exact onlyReads_verifyFile (onlyReads_file fun _ => ⟨fun _ => rfl, fun _ => rfl⟩)
        (onlyReads_file fun _ => ⟨fun _ => rfl, fun _ => rfl⟩)
    · refine (onlyReads_externalAvailable _).bind fun found => ?_
      split
      · exact onlyReads_verifyFile (onlyReads_file fun _ => ⟨fun _ => rfl, fun _ => rfl⟩)
          (onlyReads_file fun _ => ⟨fun _ => rfl, fun _ => rfl⟩)
      · exact trivial

theorem onlyReads_readAll (reads : List Read) (all : Bytes) : OnlyReads (readAll reads all) := by
  induction reads generalizing all with
  | nil => exact trivial
  | cons read rest ih =>
    cases read with
    | chunk bytes =>
      unfold readAll
      split
      · exact trivial
      · exact ih _
    | other => exact trivial
    | raised e => exact trivial

theorem onlyReads_payloadBytes (payload : Payload) : OnlyReads (payloadBytes payload) := by
  cases payload with
  | bytes value => exact trivial
  | stream reads => exact onlyReads_readAll reads []

/-! ## Deletion -/

def Verified (store : LocalArtifactStore) (d : Durable) (ref : ArtifactRef) : Prop :=
  ∃ bytes, d.blobs.lookup ref.contentHash = some bytes ∧ store.sha256 bytes = ref.contentHash ∧
    bytes.length = ref.byteSize

theorem compared_verified {bytes : Bytes} : (store.compared ref bytes).state = .verified ↔
      store.sha256 bytes = ref.contentHash ∧ bytes.length = ref.byteSize := by
  unfold compared
  by_cases hhash : store.sha256 bytes = ref.contentHash
  · by_cases hsize : bytes.length = ref.byteSize <;> simp [hhash, hsize]
  · simp [hhash]

/-- **`verify` answers VERIFIED for a managed reference only when its bytes verify.** -/
theorem safely_verify {artifactId : String}
    {Q : Except StoreExc ArtifactIntegrityResult → FileState → Prop} (h : J s.toDurable)
    (hok : ∀ result, (result.state = .verified → ∃ ref, s.record? artifactId = some (.ref ref) ∧
      (ref.storageMode = .managed → Verified store s.toDurable ref)) → Q (.ok result) s)
    (herror : ∀ e, Q (.error e) s) : Safely J (store.verify artifactId) s Q := by
  refine (onlyReads_readRecord artifactId).safely_then h (fun record => ?_) herror
  split
  · exact herror _
  · exact hok _ fun hv => by cases hv
  refine throughout_then fun P hnext hraise =>
    safely_publishedRef h (fun ref href _ => hnext _ _ ?_) fun e => hraise _ _ (herror e)
  split
  · refine throughout_then fun P hnext hraise => safely_reading (fun _ => ⟨fun _ => rfl, fun _ => rfl⟩)
      h (fun _ => hnext _ _ ?_) fun e => hraise _ _ (herror e)
    split
    · refine throughout_except fun P hreturn hfail => throughout_then fun P' hnext hraise => ?_
      have hfails : ∀ e, P' (.error e) s := fun e => hraise _ _ (hfail _ _ (by
        split
        · exact hok _ fun hv => by cases hv
        · exact herror e))
      refine safely_reading (fun _ => ⟨fun _ => rfl, fun _ => rfl⟩) h (fun _ => ?_) hfails
      simp only [FileAct.effect, FileState.readBlob]
      split
      · rename_i bytes hbytes
        exact hnext _ _ (hreturn _ _ (hok _ fun hv => ⟨ref, href, fun _ =>
          ⟨bytes, hbytes, compared_verified.1 hv⟩⟩))
      · exact hfails _
    · exact hok _ fun hv => by cases hv
  · rename_i hmode
    have hext : ∀ result : ArtifactIntegrityResult, Q (.ok result) s := fun result =>
      hok result fun _ => ⟨ref, href, fun hm => by rw [hmode] at hm; cases hm⟩
    refine (onlyReads_externalAvailable _).safely_then h (fun found => ?_) herror
    split
    · exact (onlyReads_verifyFile (onlyReads_file fun _ => ⟨fun _ => rfl, fun _ => rfl⟩)
        (onlyReads_file fun _ => ⟨fun _ => rfl, fun _ => rfl⟩)).safely_any h hext herror
    · exact hext _

/-- **The end of `delete`**: a tombstone, then no blob where no other reference has its content. -/
theorem safely_bury (h : J s.toDurable)
    (hburied : safeFilename ref.artifactId = true → J (s.buried ref permit))
    (hremoved : safeFilename ref.artifactId = true → J (s.removed ref permit))
    (hok : ∀ s', safeFilename ref.artifactId = true → s'.toDurable = s.removed ref permit →
      Q (.ok ()) s')
    (herror : ∀ e s', s'.toDurable = s.toDurable ∨ s'.toDurable = s.buried ref permit →
      Q (.error e) s') : Safely J (bury ref permit) s Q := by
  refine throughout_then fun P hnext hraise => safely_writeRecord h hburied
    (fun s1 hsafe (hs1 : _ = s.buried ref permit) => hnext _ _ ?_)
    fun e s1 hs1 => hraise _ _ (herror e s1 (.inl hs1))
  have hJ : J s1.toDurable := hs1 ▸ hburied hsafe
  have hremoved1 := hremoved hsafe
  unfold Durable.removed at hremoved1 hok
  refine throughout_then fun P hnext hraise =>
    safely_allRefs hJ (hnext _ _ ?_) fun e => hraise _ _ (herror e _ (.inr hs1))
  rw [hs1]
  change Safely J (if (s.buried ref permit).shares ref = true then pure ()
    else if ref.storageMode = .managed then file (.unlinkBlob ref.contentHash) else pure ()) s1 Q
  split
  · rename_i hshares
    rw [if_pos hshares] at hok
    exact hok _ hsafe hs1
  · rename_i hunshared
    rw [if_neg hunshared] at hok hremoved1
    split
    · rename_i hmanaged
      rw [if_pos hmanaged] at hok hremoved1
      have hdropped : s1.toDurable.dropBlob ref.contentHash =
          (s.buried ref permit).dropBlob ref.contentHash := by
        rw [hs1]
      refine safely_file hJ (fun e s2 hs2 => herror e s2 (.inr (hs2.trans hs1)))
        fun ω => ⟨?_, hok _ hsafe hdropped⟩
      show J (s1.toDurable.dropBlob ref.contentHash)
      rw [hdropped]
      exact hremoved1
    · rename_i hexternal
      rw [if_neg hexternal] at hok
      exact hok _ hsafe hs1

/-- What `delete` has checked when it writes the tombstone. -/
structure Deletable (store : LocalArtifactStore) (d : Durable) (artifactId : String)
    (permit : CleanupDeletionPermit) (ref : ArtifactRef) : Prop where
  held : d.record? artifactId = some (.ref ref)
  published : ref.publicationState = .published
  covered : permitCovers permit ref = true
  managed : ref.storageMode = .managed
  verified : ∃ named, d.record? ref.artifactId = some (.ref named) ∧
    (named.storageMode = .managed → Verified store d named)
  safe : safeFilename ref.artifactId = true

/-- **`delete`** leaves everything, or does what `bury` does with a reference that it has checked. -/
theorem safely_delete {artifactId : String} (h : J s.toDurable)
    (hburied : ∀ ref, Deletable store s.toDurable artifactId permit ref → J (s.buried ref permit))
    (hremoved : ∀ ref, Deletable store s.toDurable artifactId permit ref → J (s.removed ref permit))
    (hok : ∀ ref s', Deletable store s.toDurable artifactId permit ref →
      s'.toDurable = s.removed ref permit → Q (.ok ()) s')
    (herror : ∀ e s', J s'.toDurable → Q (.error e) s') :
    Safely J (store.delete artifactId permit) s Q := by
  refine throughout_then fun P hnext hraise => safely_publishedRef h
    (fun ref hheld hpublished => hnext _ _ ?_) fun e => hraise _ _ (herror _ _ h)
  split
  · exact herror _ _ h
  · rename_i hcovers
    split
    · exact herror _ _ h
    · rename_i hmode
      have hmanaged : ref.storageMode = .managed := by
        cases hm : ref.storageMode with
        | managed => rfl
        | external => exact absurd hm hmode
      refine throughout_then fun P hnext hraise => safely_verify h
        (fun integrity hverified => hnext _ _ ?_) fun e => hraise _ _ (herror _ _ h)
      split
      · exact herror _ _ h
      · rename_i hstate
        have hdeletable : safeFilename ref.artifactId = true →
            Deletable store s.toDurable artifactId permit ref := fun hsafe =>
          ⟨hheld, hpublished, by simpa using hcovers, hmanaged, hverified (not_not.1 hstate), hsafe⟩
        refine ((safely_bury (Q := fun r s' => ∀ u, r = .ok u → Q (.ok u) s') h
          (fun hsafe => hburied ref (hdeletable hsafe))
          (fun hsafe => hremoved ref (hdeletable hsafe))
          (fun s' hsafe hs' _ _ => hok ref s' (hdeletable hsafe) hs')
          fun e s' _ _ hu => by cases hu).and_self h).mono (fun _ hJ => hJ) ?_
        rintro (e | u) s' ⟨hJ, hs'⟩
        · exact herror e s' hJ
        · exact hs' u rfl

end LocalArtifactStore
end DirtyDataOlap.Artifacts
