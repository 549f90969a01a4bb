import DirtyDataOlap.ArtifactFileRules

/-!
# References are never dangling

A directory is `Intact` when every managed reference in it names a blob with the recorded digest and
size.  A call changes one record, and **a blob goes only when no other reference has its content**
(`Change`); both hold in every directory that calls reach, returned, raised or crashed.
-/
namespace DirtyDataOlap.Artifacts

open Prog Durable

/-- How the record of one artifact may change; `free` is for a reservation that may be published
under another identity. -/
def Evolves (free : Prop) : Option Record → Option Record → Prop
  | none, _ => True
  | some (.manifest m), some (.manifest m') => m' = m
  | some (.manifest m), some (.ref r) => r.identity = m.identity ∨ free
  | some (.manifest m), some (.tombstone r _ _) => r.identity = m.identity ∨ free
  | some (.ref r), some (.ref r') => r' = r
  | some (.ref r), some (.tombstone r' _ _) => r' = r
  | some (.tombstone r p c), some (.tombstone r' p' c') => r' = r ∧ p' = p ∧ c' = c
  | _, _ => False

theorem Evolves.refl {free : Prop} : ∀ record, Evolves free record record
  | none => trivial
  | some (.manifest _) => rfl
  | some (.ref _) => rfl
  | some (.tombstone _ _ _) => ⟨rfl, rfl, rfl⟩

theorem Evolves.trans {free : Prop} {a b c : Option Record} (hab : Evolves free a b)
    (hbc : Evolves free b c) : Evolves free a c := by
  rcases a with _ | a
  · trivial
  rcases b with _ | b
  · cases a <;> exact hab.elim
  rcases c with _ | c
  · cases b <;> exact hbc.elim
  cases a <;> cases b <;> cases c <;> simp_all [Evolves]

/-- Another artifact than `artifactId` is published with the content `contentHash`. -/
def Durable.Shared (d : Durable) (artifactId contentHash : String) : Prop :=
  ∃ other ref, other ≠ artifactId ∧ d.record? other = some (.ref ref) ∧
    ref.storageMode = .managed ∧ ref.contentHash = contentHash

/-- What a call about one artifact changes; `kept` is for calls that remove no blob. -/
structure Change (kept free : Prop) (artifactId : String) (d d' : Durable) : Prop where
  others : ∀ other, other ≠ artifactId → d'.refs.lookup other = d.refs.lookup other
  blobs : ∀ contentHash bytes, d.blobs.lookup contentHash = some bytes →
    kept ∨ d.Shared artifactId contentHash → d'.blobs.lookup contentHash = some bytes
  own : Evolves free (d.record? artifactId) (d'.record? artifactId)

namespace Change
variable {kept free : Prop} {artifactId : String} {d d1 d2 : Durable}

theorem refl : Change kept free artifactId d d :=
  ⟨fun _ _ => rfl, fun _ _ h _ => h, Evolves.refl _⟩

theorem record? (h : Change kept free artifactId d d1) {other : String} (ho : other ≠ artifactId) :
    d1.record? other = d.record? other := by
  unfold Durable.record?
  rw [h.others other ho]

variable {contentHash : String}

theorem shared (h : Change kept free artifactId d d1) (hs : d.Shared artifactId contentHash) :
    d1.Shared artifactId contentHash := by
  obtain ⟨other, ref, ho, hr, hm, hc⟩ := hs
  exact ⟨other, ref, ho, (h.record? ho).trans hr, hm, hc⟩

theorem trans (h1 : Change kept free artifactId d d1) (h2 : Change kept free artifactId d1 d2) :
    Change kept free artifactId d d2 where
  others other ho := (h2.others other ho).trans (h1.others other ho)
  blobs contentHash bytes hb hk :=
    h2.blobs contentHash bytes (h1.blobs contentHash bytes hb hk) (hk.imp_right h1.shared)
  own := h1.own.trans h2.own

theorem putRef {record : Record} (h : Evolves free (d.record? artifactId) (some record)) :
    Change kept free artifactId d (d.putRef artifactId record) where
  others other ho := AList.lookup_insert_ne ho
  blobs _ _ hb _ := hb
  own := by
    rw [record?_putRef, if_pos rfl]
    exact h

theorem putBlob {bytes : Bytes} (h : d.blobs.lookup contentHash = none) :
    Change kept free artifactId d (d.putBlob contentHash bytes) where
  others _ _ := rfl
  blobs other _ hb _ := by
    have hne : other ≠ contentHash := by
      rintro rfl
      rw [h] at hb
      cases hb
    exact (AList.lookup_insert_ne hne).trans hb
  own := Evolves.refl _

theorem dropBlob (h : ¬ d.Shared artifactId contentHash) :
    Change False free artifactId d (d.dropBlob contentHash) where
  others _ _ := rfl
  blobs other _ hb hk := by
    have hne : other ≠ contentHash := by
      rintro rfl
      rcases hk with hk | hk
      · exact hk
      · exact h hk
    exact (AList.lookup_erase_ne hne).trans hb
  own := Evolves.refl _

end Change

/-- **Every managed reference has its blob**, and every record is where it belongs. -/
structure Intact (store : LocalArtifactStore) (d : Durable) : Prop where
  readable : ∀ artifactId, d.refs.lookup artifactId ≠ some .unreadable
  keyed : ∀ artifactId record, d.record? artifactId = some record → record.artifactId = artifactId
  named : ∀ artifactId record, d.record? artifactId = some record → safeFilename artifactId = true
  published : ∀ artifactId ref, d.record? artifactId = some (.ref ref) →
    ref.publicationState = .published
  backed : ∀ artifactId ref, d.record? artifactId = some (.ref ref) → ref.storageMode = .managed →
    ∃ bytes, d.blobs.lookup ref.contentHash = some bytes ∧
      store.sha256 bytes = ref.contentHash ∧ bytes.length = ref.byteSize

namespace Intact
variable {store : LocalArtifactStore} {d : Durable}

theorem empty : Intact store FileState.empty.toDurable where
  readable _ h := by cases h
  keyed _ _ h := by cases h
  named _ _ h := by cases h
  published _ _ h := by cases h
  backed _ _ h := by cases h

theorem putRef (h : Intact store d) {artifactId : String} {record : Record}
    (hkey : record.artifactId = artifactId) (hnamed : safeFilename artifactId = true)
    (hpublished : ∀ ref, record = .ref ref → ref.publicationState = .published)
    (hbacked : ∀ ref, record = .ref ref → ref.storageMode = .managed →
      ∃ bytes, d.blobs.lookup ref.contentHash = some bytes ∧
        store.sha256 bytes = ref.contentHash ∧ bytes.length = ref.byteSize) :
    Intact store (d.putRef artifactId record) where
  readable id hid := by
    by_cases he : id = artifactId
    · subst he
      simp [Durable.putRef] at hid
    · rw [Durable.putRef, AList.lookup_insert_ne he] at hid
      exact h.readable id hid
  keyed id stored hstored := by
    rw [record?_putRef] at hstored
    split at hstored
    · rename_i he
      cases hstored
      rw [hkey, he]
    · exact h.keyed id stored hstored
  named id stored hstored := by
    rw [record?_putRef] at hstored
    split at hstored
    · rename_i he
      rw [he]
      exact hnamed
    · exact h.named id stored hstored
  published id ref hstored := by
    rw [record?_putRef] at hstored
    split at hstored
    · exact hpublished ref (Option.some.inj hstored)
    · exact h.published id ref hstored
  backed id ref hstored hmanaged := by
    rw [record?_putRef] at hstored
    split at hstored
    · exact hbacked ref (Option.some.inj hstored) hmanaged
    · exact h.backed id ref hstored hmanaged

theorem putBlob (h : Intact store d) {contentHash : String} {bytes : Bytes}
    (hnone : d.blobs.lookup contentHash = none) : Intact store (d.putBlob contentHash bytes) where
  readable := h.readable
  keyed := h.keyed
  named := h.named
  published := h.published
  backed id ref hstored hmanaged := by
    obtain ⟨stored, hb, hsound⟩ := h.backed id ref hstored hmanaged
    have hne : ref.contentHash ≠ contentHash := by
      intro he
      rw [he, hnone] at hb
      cases hb
    exact ⟨stored, (AList.lookup_insert_ne hne).trans hb, hsound⟩

theorem dropBlob (h : Intact store d) {contentHash : String}
    (hunused : ∀ id ref, d.record? id = some (.ref ref) → ref.storageMode = .managed →
      ref.contentHash ≠ contentHash) : Intact store (d.dropBlob contentHash) where
  readable := h.readable
  keyed := h.keyed
  named := h.named
  published := h.published
  backed id ref hstored hmanaged := by
    obtain ⟨stored, hb, hsound⟩ := h.backed id ref hstored hmanaged
    exact ⟨stored, (AList.lookup_erase_ne (hunused id ref hstored hmanaged)).trans hb, hsound⟩

end Intact

/-- The directories a call about one artifact may pass through. -/
def Kept (store : LocalArtifactStore) (kept free : Prop) (artifactId : String) (s s' : FileState) :
    Prop :=
  Intact store s'.toDurable ∧ Change kept free artifactId s.toDurable s'.toDurable

variable {store : LocalArtifactStore}

theorem Kept.trans {kept free : Prop} {artifactId : String} {a b c : FileState}
    (hab : Kept store kept free artifactId a b) (hbc : Kept store kept free artifactId b c) :
    Kept store kept free artifactId a c :=
  ⟨hbc.1, hab.2.trans hbc.2⟩

theorem Kept.of_eq {kept free : Prop} {artifactId : String} {s s' : FileState}
    (h : Intact store s.toDurable) (he : s'.toDurable = s.toDurable) :
    Kept store kept free artifactId s s' := by
  unfold Kept
  rw [he]
  exact ⟨h, Change.refl⟩

namespace LocalArtifactStore
variable {store : LocalArtifactStore} {kept free : Prop} {s : FileState}

variable {artifactId : String} {ref : ArtifactRef} {d : Durable}

theorem kept_writeRecord (h : Intact store s.toDurable) {record : Record}
    (hkey : record.artifactId = artifactId)
    (hevolves : Evolves free (s.record? artifactId) (some record))
    (hpublished : ∀ ref, record = .ref ref → ref.publicationState = .published)
    (hbacked : ∀ ref, record = .ref ref → ref.storageMode = .managed →
      ∃ bytes, s.blobs.lookup ref.contentHash = some bytes ∧
        store.sha256 bytes = ref.contentHash ∧ bytes.length = ref.byteSize) :
    (writeRecord record artifactId).Throughout perform (Kept store kept free artifactId s) s
      fun r s' => (∀ e, r = .error e → s'.toDurable = s.toDurable) ∧
        ∀ u, r = .ok u → s'.toDurable = s.putRef artifactId record := by
  refine safely_writeRecord (J := fun d => Intact store d ∧
    Change kept free artifactId s.toDurable d) ⟨h, Change.refl⟩
    (fun hnamed => ⟨h.putRef hkey hnamed hpublished hbacked, Change.putRef hevolves⟩) ?_ ?_
  · intro s' _ hs'
    refine ⟨?_, fun _ _ => hs'⟩
    intro e he
    cases he
  · intro e s' hs'
    refine ⟨fun _ _ => hs', ?_⟩
    intro u hu
    cases hu

/-- **`reserve`**: afterwards the artifact is reserved under this identity, unless it is published. -/
theorem kept_reserve (h : Intact store s.toDurable) (manifest : ArtifactManifest) :
    (reserve manifest).Throughout perform (Kept store kept free manifest.artifactId s) s
      fun r s' => ∀ publication, r = .ok publication →
        (∀ ref, s.record? manifest.artifactId ≠ some (.ref ref)) →
        ∃ reserved, s'.record? manifest.artifactId = some (.manifest reserved) ∧
          reserved.identity = manifest.identity := by
  unfold reserve
  split
  · intro _ hp
    cases hp
  · refine throughout_then fun P hnext hraise => safely_readRecord (J := fun d => Intact store d ∧
      Change kept free manifest.artifactId s.toDurable d) ⟨h, Change.refl⟩
      (fun record hrecord _ => hnext _ _ ?_) fun e => hraise _ _ fun _ hp => by cases hp
    split
    · exact fun _ hp => by cases hp
    · rename_i ref _
      split
      · intro _ _ hnot
        exact absurd (map_read_eq_ref.1 hrecord) (hnot ref)
      · exact fun _ hp => by cases hp
    · rename_i reserved _
      split
      · rename_i hmatch
        intro _ _ _
        rw [identityMatches, Bool.and_eq_true, decide_eq_true_eq] at hmatch
        exact ⟨reserved, map_read_eq_manifest.1 hrecord, hmatch.1⟩
      · exact fun _ hp => by cases hp
    · have hnone : s.record? manifest.artifactId = none := Option.map_eq_none_iff.1 hrecord
      refine throughout_bind (fun r s' => ∀ u, r = .ok u → s'.toDurable = s.putRef
        manifest.artifactId (.manifest { manifest with publicationState := .reserved }))
        ((kept_writeRecord h rfl (hnone ▸ trivial) (fun _ hr => by cases hr)
          fun _ hr => by cases hr).mono (fun _ hJ => hJ) fun _ _ hw => hw.2) ?_ ?_
      · rintro _ s2 hput _ _ _
        refine ⟨{ manifest with publicationState := .reserved }, ?_, rfl⟩
        rw [hput () rfl, record?_putRef, if_pos rfl]
      · rintro e s2 - _ hp
        cases hp

/-- The bytes of the payload are in the temporary file, and nothing else has changed. -/
theorem safely_copyChunks {J : Durable → Prop} (manifest : ArtifactManifest) (temp : Nat)
    (reads : List Read) (all : Bytes) (h : J s.toDurable) (htemp : s.temps.lookup temp = some all) :
    Safely J (store.copyChunks manifest temp reads all) s fun r s' =>
      s'.toDurable = s.toDurable ∧ ∀ bytes, r = .ok bytes → s'.temps.lookup temp = some bytes := by
  induction reads generalizing all s with
  | nil => exact ⟨rfl, fun _ hb => by cases hb; exact htemp⟩
  | cons read rest ih =>
    cases read with
    | other => exact ⟨rfl, fun _ hb => by cases hb⟩
    | raised e => exact ⟨rfl, fun _ hb => by cases hb⟩
    | chunk bytes =>
      unfold copyChunks
      split
      · exact ⟨rfl, fun _ hb => by cases hb; exact htemp⟩
      · have hraise : ∀ (e : StoreExc) (s' : FileState), s'.toDurable = s.toDurable →
            s'.toDurable = s.toDurable ∧
            ∀ b, (.error e : Except StoreExc Bytes) = .ok b → s'.temps.lookup temp = some b :=
          fun e s' hs' => ⟨hs', fun _ hb => by cases hb⟩
        refine (onlyReads_checkGrowth _ _).safely_then h (fun _ => ?_) fun e => hraise e s rfl
        -- one chunk appended, then the rest of the reads
        have hwrite : ∀ ω, ((FileAct.writeTemp temp bytes).effect ω s).2 =
            { s with temps := s.temps.insert temp (all ++ bytes) } := by
          intro _
          rw [FileAct.effect, FileState.writeTemp, htemp]
        refine throughout_then fun P hnext hfail => safely_quiet h (fun ω => by rw [hwrite])
          (fun e s' hs' => hfail _ _ (hraise e s' hs')) fun _ => hnext _ _ ?_
        rw [hwrite]
        exact ih _ h (AList.lookup_insert _)

section
variable (h : Intact store s.toDurable)
include h

/-- **The content has its place**: it was there, or the temporary file is there now. -/
theorem kept_placeBlob (artifactId : String) {temp : Nat}
    {bytes : Bytes} (htemp : s.temps.lookup temp = some bytes) :
    (store.placeBlob temp (store.sha256 bytes) bytes.length).Throughout perform
      (Kept store kept free artifactId s) s fun r s' => ∀ u, r = .ok u → s'.refs = s.refs ∧
          ∃ stored, s'.blobs.lookup (store.sha256 bytes) = some stored ∧
            store.sha256 stored = store.sha256 bytes ∧ stored.length = bytes.length := by
  have hstart : Intact store s.toDurable ∧ Change kept free artifactId s.toDurable s.toDurable :=
    ⟨h, Change.refl⟩
  refine throughout_then fun P hnext hraise => safely_reading
    (J := fun d => Intact store d ∧ Change kept free artifactId s.toDurable d)
    (fun _ => ⟨fun _ => rfl, fun _ => rfl⟩) hstart (fun _ => hnext _ _ ?_)
    fun e => hraise _ _ fun _ hu => by cases hu
  split
  · rename_i hsome
    obtain ⟨stored, hstored⟩ := Option.isSome_iff_exists.1 hsome
    refine throughout_then fun P hnext hraise => safely_reading
      (J := fun d => Intact store d ∧ Change kept free artifactId s.toDurable d)
      (fun _ => ⟨fun _ => rfl, fun _ => rfl⟩) hstart (fun _ => ?_)
      fun e => hraise _ _ fun _ hu => by cases hu
    simp only [FileAct.effect, FileState.readBlob, hstored]
    refine hnext _ _ ?_
    split
    · exact fun _ hu => by cases hu
    · rename_i hsame
      rw [not_or, not_not, not_not] at hsame
      refine safely_quiet (J := fun d => Intact store d ∧ Change kept free artifactId _ d) hstart
        (fun _ => rfl) (fun _ _ _ _ hu => by cases hu) ?_
      exact fun _ _ _ => ⟨rfl, stored, hstored, hsame⟩
  · rename_i hnone
    rw [Bool.not_eq_true, Option.isSome_eq_false_iff, Option.isNone_iff_eq_none] at hnone
    refine throughout_then fun P hnext hraise => (onlyReads_checkQuota _).safely_any
      (J := fun d => Intact store d ∧ Change kept free artifactId s.toDurable d) hstart
      (fun _ => hnext _ _ ?_) fun e => hraise _ _ fun _ hu => by cases hu
    have hreplaced : ∀ ω, (FileAct.replaceBlob temp (store.sha256 bytes)).effect ω s = (.ok (),
        { s with
          blobs := s.blobs.insert (store.sha256 bytes) bytes
          temps := s.temps.erase temp }) := by
      intro _
      rw [FileAct.effect, FileState.replaceBlob, htemp]
    refine safely_file (J := fun d => Intact store d ∧ Change kept free artifactId s.toDurable d)
      hstart (fun _ _ _ _ hu => by cases hu) fun ω => ?_
    rw [hreplaced]
    exact ⟨⟨h.putBlob hnone, Change.putBlob hnone⟩,
      fun _ _ => ⟨rfl, bytes, AList.lookup_insert _, rfl, rfl⟩⟩

theorem kept_writeRef (hkey : ref.artifactId = artifactId)
    (hpublished : ref.publicationState = .published)
    (hevolves : Evolves free (s.record? artifactId) (some (.ref ref)))
    (hbacked : ref.storageMode = .managed → ∃ bytes, s.blobs.lookup ref.contentHash = some bytes ∧
        store.sha256 bytes = ref.contentHash ∧ bytes.length = ref.byteSize) :
    ((newRef ref).bind fun ref => (writeRecord (.ref ref) ref.artifactId).bind fun _ =>
      pure ref : Files ArtifactRef).Throughout perform (Kept store kept free artifactId s) s
      fun r s' => ∀ published, r = .ok published → s'.record? artifactId = some (.ref published) := by
  subst hkey
  unfold newRef
  split
  · exact fun _ hr => by cases hr
  · simp only [pure_def, done_ok_bind]
    refine throughout_bind_rel (T := Kept store kept free ref.artifactId) Kept.trans _
      (Kept.of_eq h rfl) (kept_writeRecord h rfl hevolves ?_ ?_) ?_ ?_
    · rintro _ ⟨⟩
      exact hpublished
    · rintro _ ⟨⟩
      exact hbacked
    · rintro _ s' - ⟨_, hput⟩ _ ⟨⟩
      rw [hput () rfl, record?_putRef, if_pos rfl]
    · rintro e s' - _ _ hr
      cases hr

variable (manifest : ArtifactManifest)

theorem kept_publishBytes (hmanaged : manifest.storageMode = .managed) (payload : Payload)
    (temp : Nat) {reserved : ArtifactManifest}
    (hreserved : s.record? manifest.artifactId = some (.manifest reserved))
    (hidentity : reserved.identity = manifest.identity) :
    (store.publishBytes manifest payload temp).Throughout perform
      (Kept store kept free manifest.artifactId s) s fun r s' => ∀ published, r = .ok published →
        s'.record? manifest.artifactId = some (.ref published) := by
  have hstart : Intact store s.toDurable ∧
      Change kept free manifest.artifactId s.toDurable s.toDurable := ⟨h, Change.refl⟩
  refine throughout_then fun P hnext hraise => safely_quiet
    (J := fun d => Intact store d ∧ Change kept free _ s.toDurable d) hstart (fun _ => rfl)
    (fun _ _ _ => hraise _ _ fun _ hr => by cases hr) fun _ => hnext _ _ ?_
  refine throughout_bind _ (safely_copyChunks (J := fun d => Intact store d ∧
    Change kept free manifest.artifactId s.toDurable d) manifest temp payload.reads []
    hstart (AList.lookup_insert _)) ?_ ?_
  · rintro bytes s2 ⟨hs2, hbytes⟩
    have hdurable : s2.toDurable = s.toDurable := hs2
    split
    · exact fun _ hr => by cases hr
    · split
      · exact fun _ hr => by cases hr
      · refine Throughout.mono (I := Kept store kept free manifest.artifactId s2) ?_
          (fun s3 h3 => by rw [Kept, ← hdurable]; exact h3) fun _ _ hQ => hQ
        refine throughout_bind_rel (T := Kept store kept free manifest.artifactId) Kept.trans _
          (Kept.of_eq (hdurable ▸ h) rfl)
          (kept_placeBlob (hdurable ▸ h) manifest.artifactId (hbytes bytes rfl)) ?_ ?_
        · rintro _ s3 ⟨hintact, _⟩ hplaced
          obtain ⟨hrefs, hstored⟩ := hplaced () rfl
          have hrecord : s3.record? manifest.artifactId = some (.manifest reserved) := by
            rw [← hreserved, record?, record?, hrefs, hdurable]
          refine kept_writeRef hintact rfl rfl ?_ fun _ => hstored
          rw [hrecord]
          refine .inl ?_
          rw [hidentity]
          simp [ArtifactRef.identity, ArtifactManifest.identity, publishedManaged, hmanaged]
        · rintro e s3 - _ _ hr
          cases hr
  · rintro e s2 _ _ hr
    cases hr

/-- **`publish`**: where it returns, the artifact is published with the reference returned. -/
theorem kept_publish (payload : Payload) : (store.publish manifest payload).Throughout perform
      (Kept store kept free manifest.artifactId s) s fun r s' => ∀ published, r = .ok published →
        s'.record? manifest.artifactId = some (.ref published) := by
  unfold publish
  split
  · exact fun _ hr => by cases hr
  · rename_i hmode
    rw [not_not] at hmode
    have hstart : Intact store s.toDurable ∧
        Change kept free manifest.artifactId s.toDurable s.toDurable := ⟨h, Change.refl⟩
    refine throughout_then fun P hnext hraise => safely_readRecord
      (J := fun d => Intact store d ∧ Change kept free _ s.toDurable d) hstart
      (fun record hrecord _ => hnext _ _ ?_) fun e => hraise _ _ fun _ hr => by cases hr
    split
    · exact fun _ hr => by cases hr
    · rename_i existing _
      refine throughout_then fun P hnext hraise => (onlyReads_payloadBytes payload).safely_any
        (J := fun d => Intact store d ∧ Change kept free _ s.toDurable d) hstart
        (fun bytes => hnext _ _ ?_) fun e => hraise _ _ fun _ hr => by cases hr
      split
      · exact fun _ hr => by cases hr
      · split
        · rintro _ ⟨⟩
          exact map_read_eq_ref.1 hrecord
        · exact fun _ hr => by cases hr
    · rename_i hnotTombstone hnotRef
      have hunpublished : ∀ ref, s.record? manifest.artifactId ≠ some (.ref ref) := by
        intro ref href
        exact hnotRef ref (by rw [← hrecord, href]; rfl)
      refine throughout_bind_rel (T := Kept store kept free manifest.artifactId) Kept.trans _
        (Kept.of_eq h rfl) (kept_reserve h manifest) ?_ ?_
      · rintro publication s1 ⟨hintact, _⟩ hreserve
        obtain ⟨reserved, hreserved, hidentity⟩ := hreserve publication rfl hunpublished
        refine throughout_then fun P hnext hraise => safely_quiet (J := fun d =>
          Intact store d ∧ Change kept free manifest.artifactId s1.toDurable d)
          ⟨hintact, Change.refl⟩ (fun _ => rfl) (fun _ _ _ => hraise _ _ fun _ hr => by cases hr)
          fun _ => hnext s1.nextName _ ?_
        refine throughout_tryCatch _ ((kept_publishBytes (s := { s1 with
          nextName := s1.nextName + 1 }) hintact manifest hmode payload s1.nextName hreserved
          hidentity).and_self (Kept.of_eq hintact rfl)) ?_ ?_
        · rintro published s3 ⟨_, hpublished⟩
          exact hpublished
        · rintro e s3 ⟨hkept, _⟩
          -- the temporary file goes, whatever has been written
          exact throughout_then fun P hnext hraise => safely_quiet (J := fun d =>
            Intact store d ∧ Change kept free manifest.artifactId s1.toDurable d) hkept
            (fun _ => rfl) (fun _ _ _ => hraise _ _ fun _ hr => by cases hr)
            fun _ => hnext _ _ fun _ hr => by cases hr
      · exact fun _ _ _ _ _ hr => by cases hr

/-- **`register_external`**: the same, but it does not look at the identity of a reservation. -/
theorem kept_registerExternal (locator : String)
    (hfree : ∀ reserved, s.record? manifest.artifactId = some (.manifest reserved) → free) :
    (store.registerExternal manifest locator).Throughout perform
      (Kept store kept free manifest.artifactId s) s fun r s' => ∀ published, r = .ok published →
        s'.record? manifest.artifactId = some (.ref published) := by
  unfold registerExternal
  have hstart : Intact store s.toDurable ∧
      Change kept free manifest.artifactId s.toDurable s.toDurable := ⟨h, Change.refl⟩
  have hraise : ∀ (e : StoreExc) (published : ArtifactRef),
      (Except.error e : Except StoreExc ArtifactRef) = .ok published →
        s.record? manifest.artifactId = some (.ref published) := fun _ _ hr => by cases hr
  split
  · exact hraise _
  · refine (onlyReads_file fun _ => ⟨fun _ => rfl, fun _ => rfl⟩).safely_then
      (J := fun d => Intact store d ∧ Change kept free _ s.toDurable d) hstart (fun _ => ?_) hraise
    split
    · exact hraise _
    refine (onlyReads_file fun _ => ⟨fun _ => rfl, fun _ => rfl⟩).safely_then
      (J := fun d => Intact store d ∧ Change kept free _ s.toDurable d) hstart (fun _ => ?_) hraise
    split
    · exact hraise _
    split
    · exact hraise _
    refine throughout_then fun P hnext hfail => safely_readRecord
      (J := fun d => Intact store d ∧ Change kept free _ s.toDurable d) hstart
      (fun record hrecord _ => hnext _ _ ?_) fun e => hfail _ _ (hraise e)
    split
    · exact hraise _
    · split
      · exact hraise _
      · rintro _ ⟨⟩
        exact map_read_eq_ref.1 hrecord
    · rename_i hnotTombstone hnotRef
      refine kept_writeRef h rfl rfl ?_ fun hm => by cases hm
      -- what is there is nothing or a reservation
      cases hold : s.record? manifest.artifactId with
      | none => trivial
      | some old =>
        rw [hold, Option.map_some] at hrecord
        cases old with
        | manifest reserved => exact .inr (hfree reserved hold)
        | ref r => exact absurd hrecord.symm (hnotRef r)
        | tombstone r p c => exact absurd hrecord.symm (hnotTombstone _ p c)

end

section
variable (h : Intact store d) (href : d.record? artifactId = some (.ref ref))
  (permit : CleanupDeletionPermit)
include h href permit

theorem tombstone_buried : (d.buried ref permit).record? artifactId =
      some (.tombstone ref permit.planId permit.planContentHash) := by
  have hkey : ref.artifactId = artifactId := h.keyed _ _ href
  rw [buried, record?_putRef, hkey, if_pos rfl]

theorem kept_buried :
    Intact store (d.buried ref permit) ∧ Change False free artifactId d (d.buried ref permit) := by
  have hkey : ref.artifactId = artifactId := h.keyed _ _ href
  constructor
  · refine h.putRef rfl ?_ (fun _ hr => by cases hr) fun _ hr => by cases hr
    rw [hkey]
    exact h.named _ _ href
  · rw [buried, hkey]
    refine Change.putRef ?_
    rw [href]
    rfl

/-- **A deletion**: the blob goes only when no other reference names it. -/
theorem kept_removed :
    Intact store (d.removed ref permit) ∧ Change False free artifactId d (d.removed ref permit) := by
  have hburied : _ ∧ Change False free artifactId d (d.buried ref permit) :=
    kept_buried h href permit
  obtain ⟨hintact, hchange⟩ := hburied
  unfold removed
  split
  · exact ⟨hintact, hchange⟩
  split
  · rename_i hunshared _
    -- the reference itself is a tombstone by now, and the inventory has no other
    have hnone : ∀ id other, (d.buried ref permit).record? id = some (.ref other) →
        other.contentHash ≠ ref.contentHash := by
      intro id other hother hsame
      refine hunshared (shares_iff.2 ⟨id, other, hother, hsame, fun he => ?_⟩)
      have hid : id = artifactId := calc
        id = other.artifactId := (hintact.keyed _ _ hother).symm
        _ = ref.artifactId := he
        _ = artifactId := h.keyed _ _ href
      rw [hid, tombstone_buried h href permit] at hother
      cases hother
    refine ⟨hintact.dropBlob fun id other hother _ => hnone id other hother,
      hchange.trans (Change.dropBlob ?_)⟩
    rintro ⟨id, other, _, hother, _, hsame⟩
    exact hnone id other hother hsame
  · exact ⟨hintact, hchange⟩

end

/-- **`delete`**: where it returns, the artifact has a tombstone. -/
theorem kept_delete (h : Intact store s.toDurable) (artifactId : String)
    (permit : CleanupDeletionPermit) :
    (store.delete artifactId permit).Throughout perform (Kept store False free artifactId s) s
      fun r s' => ∀ u, r = .ok u → ∃ ref, s'.record? artifactId =
        some (.tombstone ref permit.planId permit.planContentHash) := by
  refine safely_delete (J := fun d => Intact store d ∧ Change False free artifactId s.toDurable d)
    ⟨h, Change.refl⟩ (fun ref hd => kept_buried h hd.held permit)
    (fun ref hd => kept_removed h hd.held permit) ?_ ?_
  · intro ref s' hd hs' _ _
    refine ⟨ref, ?_⟩
    rw [hs', record?_removed]
    exact tombstone_buried h hd.held permit
  · intro e s' _ u hu
    cases hu

end LocalArtifactStore

/-! ## Sequences of calls -/

/-- A call of one of the four methods that change the directory. -/
inductive Call
  | reserve (manifest : ArtifactManifest)
  | publish (manifest : ArtifactManifest) (payload : LocalArtifactStore.Payload)
  | registerExternal (manifest : ArtifactManifest) (locator : String)
  | delete (artifactId : String) (permit : CleanupDeletionPermit)

/-- How a call ended.  A call that crashed performed some of its file operations and no more. -/
inductive Outcome
  | returned (ref : Option ArtifactRef)
  | raised (e : StoreExc)
  | crashed

namespace Call

def artifactId : Call → String
  | .reserve manifest | .publish manifest _ | .registerExternal manifest _ => manifest.artifactId
  | .delete artifactId _ => artifactId

/-- The method, with the reference it returns. -/
def program (store : LocalArtifactStore) : Call → Files (Option ArtifactRef)
  | .reserve manifest => (LocalArtifactStore.reserve manifest).bind fun _ => pure none
  | .publish manifest payload => (store.publish manifest payload).bind fun ref => pure (some ref)
  | .registerExternal manifest locator =>
    (store.registerExternal manifest locator).bind fun ref => pure (some ref)
  | .delete artifactId permit => (store.delete artifactId permit).bind fun _ => pure none

/-- The call takes the directory from `s` to `s'`. -/
def Happens (store : LocalArtifactStore) (c : Call) (s : FileState) : Outcome → FileState → Prop
  | .returned ref, s' => (c.program store).Runs perform s (.ok ref) s'
  | .raised e, s' => (c.program store).Runs perform s (.error e) s'
  | .crashed, s' => (c.program store).Stops perform s s'

/-- The calls that remove nothing. -/
def KeepsBlobs : Call → Prop
  | .delete _ _ => False
  | _ => True

def Overrides (c : Call) (s : FileState) : Prop :=
  ∃ manifest locator reserved, c = .registerExternal manifest locator ∧
    s.record? manifest.artifactId = some (.manifest reserved)

variable {store : LocalArtifactStore} {s s' : FileState} {free : Prop}

/-- **Every method**, whole or crashed. -/
theorem kept (h : Intact store s.toDurable) (c : Call) (hfree : c.Overrides s → free) :
    (c.program store).Throughout perform (Kept store c.KeepsBlobs free c.artifactId s) s
      fun r s' => ∀ ref, r = .ok (some ref) → s'.record? c.artifactId = some (.ref ref) := by
  cases c with
  | reserve manifest =>
    refine throughout_bind (fun _ _ => True)
      ((LocalArtifactStore.kept_reserve h manifest).mono (fun _ hk => hk) fun _ _ _ => trivial) ?_ ?_
    · rintro _ s1 - _ ⟨⟩
    · rintro e s1 - _ ⟨⟩
  | publish manifest payload =>
    refine throughout_bind _ (LocalArtifactStore.kept_publish h manifest payload) ?_ ?_
    · rintro ref s1 hpublished _ ⟨⟩
      exact hpublished ref rfl
    · rintro e s1 _ _ ⟨⟩
  | registerExternal manifest locator =>
    refine throughout_bind _ (LocalArtifactStore.kept_registerExternal h manifest locator
      fun reserved hr => hfree ⟨manifest, locator, reserved, rfl, hr⟩) ?_ ?_
    · rintro ref s1 hpublished _ ⟨⟩
      exact hpublished ref rfl
    · rintro e s1 _ _ ⟨⟩
  | delete artifactId permit =>
    refine throughout_bind (fun _ _ => True)
      ((LocalArtifactStore.kept_delete h artifactId permit).mono (fun _ hk => hk)
        fun _ _ _ => trivial) ?_ ?_
    · rintro _ s1 - _ ⟨⟩
    · rintro e s1 - _ ⟨⟩

theorem Happens.stops {c : Call} {o : Outcome} (hc : c.Happens store s o s') :
    (c.program store).Stops perform s s' := by
  cases o with
  | returned ref => exact Runs.stops hc
  | raised e => exact Runs.stops hc
  | crashed => exact hc

/-- **One step**: the directory it leaves is intact and differs from the one it found in one record.
-/
theorem Happens.kept {c : Call} {o : Outcome} (hc : c.Happens store s o s')
    (h : Intact store s.toDurable) (hfree : c.Overrides s → free) :
    Kept store c.KeepsBlobs free c.artifactId s s' :=
  (Call.kept h c hfree).stops (Kept.of_eq h rfl) hc.stops

end Call

/-- The directories that calls lead to from a new store. -/
inductive Reachable (store : LocalArtifactStore) : FileState → Prop
  | new : Reachable store .empty
  | call {s s' : FileState} {c : Call} {o : Outcome} :
      Reachable store s → c.Happens store s o s' → Reachable store s'

variable {store : LocalArtifactStore}

theorem Reachable.intact {s : FileState} (h : Reachable store s) : Intact store s.toDurable := by
  induction h with
  | new => exact Intact.empty
  | @call s s' c _ _ hc ih =>
    have hkept : Kept store c.KeepsBlobs True c.artifactId s s' := hc.kept ih fun _ => trivial
    exact hkept.1

/-- **The artifact store never has a dangling reference**, whatever becomes of the calls; a deletion
leaves every blob that another reference names, and a publication that fails or crashes leaves every
other record and every blob. -/
theorem references_never_dangle (store : LocalArtifactStore) {s : FileState}
    (h : Reachable store s) :
    (∀ artifactId ref, s.record? artifactId = some (.ref ref) → ref.storageMode = .managed →
      ∃ bytes, s.blobs.lookup ref.contentHash = some bytes ∧
        store.sha256 bytes = ref.contentHash ∧ bytes.length = ref.byteSize) ∧
    (∀ artifactId permit o s', (Call.delete artifactId permit).Happens store s o s' →
      ∀ other ref, other ≠ artifactId → s.record? other = some (.ref ref) →
        ref.storageMode = .managed →
        s'.blobs.lookup ref.contentHash = s.blobs.lookup ref.contentHash) ∧
    (∀ manifest payload o s', (Call.publish manifest payload).Happens store s o s' →
      (∀ ref, o ≠ .returned ref) →
      (∀ other, other ≠ manifest.artifactId → s'.refs.lookup other = s.refs.lookup other) ∧
        ∀ contentHash bytes, s.blobs.lookup contentHash = some bytes →
          s'.blobs.lookup contentHash = some bytes) := by
  have hintact := h.intact
  refine ⟨hintact.backed, ?_, ?_⟩
  · intro artifactId permit o s' hc other ref hne href hmanaged
    have hkept : Kept store False True artifactId s s' := hc.kept hintact fun _ => trivial
    obtain ⟨bytes, hbytes, _⟩ := hintact.backed other ref href hmanaged
    rw [hbytes]
    exact hkept.2.blobs _ _ hbytes (.inr ⟨other, ref, hne, href, hmanaged, rfl⟩)
  · intro manifest payload o s' hc _
    have hkept : Kept store True True manifest.artifactId s s' := hc.kept hintact fun _ => trivial
    exact ⟨hkept.2.others, fun contentHash bytes hb => hkept.2.blobs _ _ hb (.inl trivial)⟩

/-- The digests of the texts `a` and `b`, and of the empty text for all others. -/
def demoSha256 : Bytes → String
  | [97] => "ca978112ca1bbdcafac231b39a23dc4da786eff8147c4e72b9807785afee48bb"
  | [98] => "3e23e8160039594a33894f6564e1b1348bbd7a0088d42c4acb73eeaed59c009d"
  | _ => "e3b0c44298fc1c149afbf4c8996fb92427ae41e4649b934ca495991b7852b855"

def demoStore : LocalArtifactStore := { sha256 := demoSha256 }

def demoManifest (artifactId : String) : ArtifactManifest where
  artifactId := artifactId
  runId := "run-1"
  stageId := "PROFILING"
  attemptId := "attempt-1"
  artifactKind := "ProfileReport"
  schemaVersion := "1.0"
  mediaType := "application/json"
  producer := "profiler"
  createdAt := 0

/-- The directory after a call that nothing disturbs. -/
def after (store : LocalArtifactStore) (s : FileState) (c : Call) : FileState :=
  ((c.program store).run perform {} s).2

theorem Reachable.after {s : FileState} (h : Reachable store s) (c : Call) :
    Reachable store (after store s c) :=
  h.call (c := c) (o := .crashed) (Runs.stops (runs_run _ _ _))

/-- Two artifacts with the same content. -/
def demoShared : FileState :=
  after demoStore (after demoStore .empty (.publish (demoManifest "profile-1") (.bytes [97])))
    (.publish (demoManifest "profile-2") (.stream [.chunk [97]]))

/-- The second publication found the blob of the first, and its reference has it. -/
theorem references_never_dangle_shared :
    demoShared.record? "profile-2" = some (.ref (LocalArtifactStore.publishedManaged
      (demoManifest "profile-2") (demoSha256 [97]) 1)) ∧
    ∃ bytes, demoShared.blobs.lookup (demoSha256 [97]) = some bytes ∧
      demoSha256 bytes = demoSha256 [97] ∧ bytes.length = 1 := by
  have hrecord : demoShared.record? "profile-2" = some (.ref (LocalArtifactStore.publishedManaged
      (demoManifest "profile-2") (demoSha256 [97]) 1)) := by
    decide +kernel
  exact ⟨hrecord, (references_never_dangle demoStore ((Reachable.new.after _).after _)).1 _ _
    hrecord rfl⟩

end DirtyDataOlap.Artifacts
