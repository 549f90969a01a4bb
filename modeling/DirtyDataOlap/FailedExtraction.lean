import DirtyDataOlap.ExtractionScripts

/-!
# Failed extractions

What an extraction that fails leaves in the staging directory.  Batches are found by their content,
so a retry takes over the files of a finished snapshot, and **what it discards may be theirs**.  Whether
it is can be told from the chunks of its script up to the step that raises (`failed_extraction_iff`).
-/
namespace DirtyDataOlap.Extraction

variable {Row Bytes α β : Type} {outside : Outside Row Bytes} {policy : ExtractionPolicy}
  {tableId : String} {first : Loop Row Bytes → Nat} {a : Loop Row Bytes}
  {files : BatchKey → Option Bytes}

/-! ## Files are never overwritten -/

/-- What the staging directory had, it has. -/
def Keeps (files files' : BatchKey → Option Bytes) : Prop :=
  ∀ key, (files key).isSome → files' key = files key

theorem keeps_next {s : Step Row Bytes α} {f : α → Loop Row Bytes → Step Row Bytes β}
    (hs : Keeps files s.2.files) (hf : ∀ x a, Keeps files a.files → Keeps files (f x a).2.files) :
    Keeps files (s.next f).2.files := by
  obtain ⟨_ | x, a⟩ := s
  · exact hs
  · exact hf x a hs

theorem keeps_raises (e : Option SourceExc) (x : α) (h : Keeps files a.files) :
    Keeps files (raises e x a).2.files := by
  cases e <;> exact h

theorem keeps_stageRows (h : Keeps files a.files) :
    Keeps files (stageRows outside tableId first a).2 := by
  fun_cases stageRows outside tableId first a
  case case5 hnone _ =>
    -- a new file has a name that no file had
    intro other hother
    refine (Function.update_of_ne ?_ _ _).trans (h other hother)
    rintro rfl
    simp [← h _ hother, hnone] at hother
  all_goals exact h

theorem keeps_stageBatch (h : Keeps files a.files) :
    Keeps files (stageBatch outside tableId first a).2.files := by
  have hs : Keeps files (stageRows outside tableId first a).2 := keeps_stageRows h
  unfold stageBatch
  split
  · next hrows => rw [hrows] at hs; exact hs
  · next hrows => rw [hrows] at hs; exact keeps_next (keeps_raises _ _ hs) fun _ _ h => h

theorem keeps_takeRow (ordinal : Nat) (row : Row) (h : Keeps files a.files) :
    Keeps files (takeRow outside policy tableId first ordinal row a).2.files := by
  dsimp only [takeRow]
  split
  · exact keeps_stageBatch h
  · exact h

theorem keeps_flush (h : Keeps files a.files) :
    Keeps files (flush outside tableId first a).2.files := by
  unfold flush
  split
  · exact h
  · exact keeps_stageBatch h

theorem keeps_fileRows (ending : Option SourceExc) :
    ∀ (rows : List (Nat × Row)) (a : Loop Row Bytes), Keeps files a.files →
      Keeps files (fileRows outside policy tableId first ending rows a).2.files
  | [], _, h => keeps_raises _ _ h
  | (ordinal, row) :: rest, a, h => by
    unfold fileRows
    split
    · exact h
    · exact keeps_next (keeps_takeRow ordinal row h) fun _ a => keeps_fileRows ending rest a

theorem keeps_extractFile (source : FileSource Row) (h : Keeps files a.files) :
    Keeps files (extractFile outside policy source a).2.files :=
  keeps_next (keeps_raises _ _ h) fun _ _ h =>
    keeps_next (keeps_fileRows _ _ _ h) fun _ _ h =>
      keeps_next (keeps_flush h) fun _ _ h => keeps_raises _ _ h

theorem keeps_nativeRows : ∀ (rows : List Row) (a : Loop Row Bytes), Keeps files a.files →
      Keeps files (nativeRows outside policy tableId first rows a).2.files
  | [], _, h => h
  | row :: rest, a, h => by
    unfold nativeRows
    split
    · exact h
    · exact keeps_next (keeps_takeRow _ row h) fun _ a => keeps_nativeRows rest a

theorem keeps_nativeBatches (ending : Option SourceExc) :
    ∀ (batches : List (List Row)) (exhausted : Bool) (a : Loop Row Bytes), Keeps files a.files →
      Keeps files (nativeBatches outside policy tableId first ending batches exhausted a).2.files
  | [], _, _, h => keeps_raises _ _ h
  | batch :: rest, exhausted, a, h => by
    refine keeps_next (keeps_nativeRows batch a h) fun all a h => ?_
    split
    · exact h
    · exact keeps_nativeBatches ending rest _ a h

theorem keeps_extractTable (table : SqlTable Row) (h : Keeps files a.files) :
    Keeps files (extractTable outside policy table a).2.files := by
  unfold extractTable
  split
  · exact h
  split
  · exact h
  exact keeps_next (keeps_nativeBatches _ _ _ _ h) fun _ _ h =>
    keeps_next (keeps_flush h) fun _ _ h => h

theorem keeps_extractTables :
    ∀ (tables : List (SqlTable Row)) (a : Loop Row Bytes), Keeps files a.files →
      Keeps files (extractTables outside policy tables a).2.files
  | [], _, h => h
  | table :: rest, _, h =>
    keeps_next (keeps_extractTable table h) fun _ a => keeps_extractTables rest a

/-! ## What is discarded -/

theorem discardBatches_apply (key : BatchKey) :
    ∀ (batches : List (StagedBatch Row)) (files : BatchKey → Option Bytes),
      discardBatches batches files key = if key ∈ batches.map (·.key) then none else files key
  | [], _ => by simp [discardBatches]
  | batch :: rest, files => by
    refine (discardBatches_apply key rest _).trans ?_
    by_cases hkey : key = batch.key <;> simp [hkey]

def Published (outside : Outside Row Bytes) (files : BatchKey → Option Bytes)
    (batch : StagedBatch Row) : Prop :=
  (files batch.key).map outside.sha256 = some batch.contentHash

/-- The batches of an earlier snapshot are published as before, and every new file is removed. -/
def FailsCleanly (outside : Outside Row Bytes) (earlier : List (StagedBatch Row))
    (files files' : BatchKey → Option Bytes) : Prop :=
  (∀ batch ∈ earlier, Published outside files batch → Published outside files' batch) ∧
    ∀ key, files key = none → files' key = none

/-- How the loop ends: a failure that is handled comes with batches that are not those of the
earlier snapshot, and no file was made but theirs; else no file was made. -/
def EndsCleanly (outside : Outside Row Bytes) (earlier : List (StagedBatch Row))
    (files : BatchKey → Option Bytes) (catches : SourceExc → Bool) : Step Row Bytes Unit → Prop
  | (.error e, a) =>
    if catches e then
      (∀ batch ∈ earlier, Published outside files batch → batch.key ∉ a.batches.map (·.key)) ∧
        ∀ key, files key = none → (a.files key).isSome → key ∈ a.batches.map (·.key)
    else ∀ key, files key = none → a.files key = none
  | (.ok (), a) => ∀ key, files key = none → a.files key = none

/-- What is left of a loop that keeps the files, when the attempt fails. -/
theorem createBoundedSnapshot_failsCleanly_iff {catches : SourceExc → Bool}
    {body : Loop Row Bytes → Step Row Bytes Unit} {writes : Option SourceExc}
    {earlier : List (StagedBatch Row)} {e : SourceExc}
    (hkeeps : Keeps files (body { files }).2.files)
    (he : (createBoundedSnapshot catches body writes files).1 = .error e) :
    FailsCleanly outside earlier files (createBoundedSnapshot catches body writes files).2 ↔
      EndsCleanly outside earlier files catches (body { files }) := by
  have hpublished : ∀ {files'}, Keeps files files' →
      ∀ batch, Published outside files batch → Published outside files' batch := by
    intro files' h batch hbatch
    have hsome : (files batch.key).isSome := by
      unfold Published at hbatch
      cases hfile : files batch.key <;> simp [hfile] at hbatch ⊢
    rwa [Published, h _ hsome]
  unfold createBoundedSnapshot at he ⊢
  generalize body { files } = ending at hkeeps he ⊢
  obtain ⟨e' | _, a⟩ := ending
  · by_cases hc : catches e'
    · simp only [FailsCleanly, EndsCleanly, hc, if_true, Published, discardBatches_apply]
      refine and_congr (forall₃_congr fun batch _ hb => ?_) (forall₂_congr fun key hkey => ?_)
      · have ha := hpublished hkeeps batch hb
        split <;> simp_all [Published]
      · cases hfile : a.files key <;> simp
    · simpa [FailsCleanly, EndsCleanly, hc] using fun _ batch _ => hpublished hkeeps batch
  · have hfiles : FailsCleanly outside earlier files a.files ↔
        ∀ key, files key = none → a.files key = none :=
      and_iff_right fun batch _ => hpublished hkeeps batch
    dsimp only at he ⊢
    split <;> [skip; split] <;> simp_all [EndsCleanly]

/-! ## What a script leaves -/

variable (outside files) in
/-- What a step raises, with the staging directory as it was before the attempt. -/
def ScriptStep.failure : ScriptStep Row → Option SourceExc
  | .stop e => some e
  | .chunk c =>
    match c.place outside files with
    | none => some .ingestion
    | some (key, _) =>
      if outside.acceptsReference key then outside.recordReferences key else some .ingestion

variable (outside files) in
/-- The place of a chunk that finds or gets its file. -/
def ScriptStep.placed : ScriptStep Row → Option BatchKey
  | .stop _ => none
  | .chunk c => (c.place outside files).map Prod.fst

variable (outside files) in
/-- The steps up to the first one that raises. -/
def attempted : List (ScriptStep Row) → List (ScriptStep Row)
  | [] => []
  | step :: rest => step :: if (step.failure outside files).isNone then attempted rest else []

variable (outside files) in
/-- The places of the chunks of an attempt. -/
def places (steps : List (ScriptStep Row)) : List BatchKey :=
  (attempted outside files steps).filterMap (·.placed outside files)

/-- Every chunk up to the step that raises is harmless.  Where the failure is handled and the reference
of the chunk was accepted, its file is discarded, and is none of the earlier snapshot; else it stays, and
is no new one. -/
def CleanScript (outside : Outside Row Bytes) (earlier : List (StagedBatch Row))
    (files : BatchKey → Option Bytes) (catches : SourceExc → Bool) (steps : List (ScriptStep Row)) :
    Prop :=
  ∀ key ∈ places outside files steps,
    if (steps.findSome? (·.failure outside files)).any catches ∧ outside.acceptsReference key then
      ∀ batch ∈ earlier, Published outside files batch → batch.key ≠ key
    else (files key).isSome

/-- The digests of an attempt do not collide. -/
structure Outside.CollisionFree (outside : Outside Row Bytes) : Prop where
  ids : ∀ tableId i j h h', outside.batchIdFor tableId i h = outside.batchIdFor tableId j h' → h = h'
  hashes : ∀ b b', outside.sha256 b = outside.sha256 b' → outside.numRows b = outside.numRows b'

/-- The files of an attempt so far: each is as it was before, or new under the name of its content. -/
def Grown (outside : Outside Row Bytes) (files files' : BatchKey → Option Bytes) : Prop :=
  ∀ key, files' key = files key ∨ files key = none ∧ outside.replaces key = true ∧
    ∃ bytes i, files' key = some bytes ∧
      key.batchId = outside.batchIdFor key.tableId i (outside.sha256 bytes)

variable {c : Chunk Row} {files' out : BatchKey → Option Bytes} {key : BatchKey} {bytes : Bytes}
  {steps : List (ScriptStep Row)} {t : Trail Bytes}

theorem written_spec (h : c.written outside = some (bytes, key)) :
    outside.numRows bytes = some c.rows.length ∧
      key.batchId = outside.batchIdFor key.tableId c.batchIndex (outside.sha256 bytes) := by
  obtain ⟨bytes', -, h⟩ := Option.bind_eq_some_iff.1 h
  split at h
  · next hcount =>
    cases h
    exact ⟨hcount, rfl⟩
  · cases h

/-- Where a chunk settles does not depend on what the attempt has staged before. -/
theorem settle_isSome (hfree : outside.CollisionFree) (h : Grown outside files files')
    (hwritten : c.written outside = some (bytes, key)) :
    (settle outside files' bytes key c.rows.length).isSome =
      (settle outside files bytes key c.rows.length).isSome := by
  rcases h key with hsame | ⟨hnone, hreplaces, existing, i, hexisting, hid⟩
  · unfold settle
    rw [hsame]
    cases files key <;> simp only [] <;> split <;> rfl
  · -- the file is one that the attempt made of the same bytes
    obtain ⟨hcount, hid'⟩ := written_spec hwritten
    have hhash : outside.sha256 existing = outside.sha256 bytes :=
      hfree.ids _ _ _ _ _ (hid.symm.trans hid')
    have hrows : outside.numRows existing = some c.rows.length :=
      (hfree.hashes _ _ hhash).trans hcount
    simp [settle, hexisting, hnone, hhash, hrows, hreplaces]

theorem settle_spec (h : Grown outside files files')
    (hwritten : c.written outside = some (bytes, key))
    (hout : settle outside files' bytes key c.rows.length = some out) :
    Grown outside files out ∧
      ∀ other, (out other).isSome = true ↔ (files' other).isSome = true ∨ other = key := by
  unfold settle at hout
  cases hfile : files' key with
  | some existing =>
    rw [hfile] at hout
    dsimp only at hout
    split at hout
    · cases hout
      refine ⟨h, fun other => ⟨.inl, ?_⟩⟩
      rintro (hsome | rfl)
      · exact hsome
      · rw [hfile]
        rfl
    · cases hout
  | none =>
    rw [hfile] at hout
    dsimp only at hout
    split at hout
    · next hreplaces =>
      cases hout
      have hold : files key = none := by
        rcases h key with hsame | ⟨hnone, -⟩
        · exact hsame.symm.trans hfile
        · exact hnone
      constructor
      · intro other
        by_cases hother : other = key
        · subst hother
          refine .inr ⟨hold, hreplaces, bytes, c.batchIndex, ?_, (written_spec hwritten).2⟩
          rw [Function.update_self]
        · rw [Function.update_of_ne hother]
          exact h other
      · intro other
        by_cases hother : other = key
        · subst hother
          simp
        · rw [Function.update_of_ne hother]
          simp [hother]
    · cases hout

/-- A chunk is placed as it would be in the directory that the attempt starts with. -/
theorem place_spec (hfree : outside.CollisionFree) (h : Grown outside files files') :
    (c.place outside files' = none ∧ c.place outside files = none) ∨
      ∃ key out out', c.place outside files' = some (key, out) ∧
        c.place outside files = some (key, out') ∧ Grown outside files out ∧
        ∀ other, (out other).isSome = true ↔ (files' other).isSome = true ∨ other = key := by
  unfold Chunk.place
  cases hwritten : c.written outside with
  | none => exact .inl ⟨rfl, rfl⟩
  | some found =>
    obtain ⟨bytes, key⟩ := found
    rw [Option.bind_some, Option.bind_some]
    have hsame := settle_isSome hfree h hwritten
    cases hout : settle outside files' bytes key c.rows.length with
    | none =>
      rw [hout, Option.isSome_none] at hsame
      rw [Option.isSome_eq_false_iff.1 hsame.symm |> Option.isNone_iff_eq_none.1]
      exact .inl ⟨rfl, rfl⟩
    | some out =>
      rw [hout, Option.isSome_some] at hsame
      obtain ⟨out', hout'⟩ := Option.isSome_iff_exists.1 hsame.symm
      obtain ⟨hgrown, hsome⟩ := settle_spec h hwritten hout
      exact .inr ⟨key, out, out', rfl, by rw [hout']; rfl, hgrown, hsome⟩

variable (steps) in
/-- **What an attempt leaves is told by the directory that it starts with.** -/
theorem follow_spec (hfree : outside.CollisionFree) (h : Grown outside files t.files) :
    ∃ t', follow outside steps t = (steps.findSome? (·.failure outside files), t') ∧
      t'.keys = t.keys ++ (places outside files steps).filter (outside.acceptsReference ·) ∧
      ∀ key, (t'.files key).isSome = true ↔
        (t.files key).isSome = true ∨ key ∈ places outside files steps := by
  induction steps generalizing t with
  | nil => exact ⟨t, rfl, by simp [places, attempted], by simp [places, attempted]⟩
  | cons step rest ih =>
    cases step with
    | stop e =>
      refine ⟨t, by simp [follow, ScriptStep.failure], ?_, ?_⟩ <;>
        simp [places, attempted, ScriptStep.failure, ScriptStep.placed]
    | chunk c =>
      rcases place_spec (c := c) hfree h with ⟨hplace, hbefore⟩ | ⟨key, out, out', hplace, hbefore, hgrown, hsome⟩
      · refine ⟨t, by simp [follow, ScriptStep.failure, hplace, hbefore], ?_, ?_⟩ <;>
          simp [places, attempted, ScriptStep.failure, ScriptStep.placed, hbefore]
      · by_cases haccepts : outside.acceptsReference key = true
        · cases hreferences : outside.recordReferences key with
          | some e =>
            refine ⟨⟨out, t.keys ++ [key]⟩, by
              simp [follow, ScriptStep.failure, hplace, hbefore, haccepts, hreferences], ?_, ?_⟩
            · simp [places, attempted, ScriptStep.failure, ScriptStep.placed, hbefore, haccepts,
                hreferences]
            · simpa [places, attempted, ScriptStep.failure, ScriptStep.placed, hbefore, haccepts,
                hreferences] using hsome
          | none =>
            obtain ⟨t', hfollow, hkeys, hfiles⟩ := ih (t := ⟨out, t.keys ++ [key]⟩) hgrown
            have hplaces : places outside files (.chunk c :: rest) =
                key :: places outside files rest := by
              simp [places, attempted, ScriptStep.failure, ScriptStep.placed, hbefore, haccepts,
                hreferences]
            refine ⟨t', ?_, ?_, fun other => ?_⟩
            · simp [follow, ScriptStep.failure, hplace, hbefore, haccepts, hreferences, hfollow]
            · rw [hkeys, hplaces, List.filter_cons_of_pos (by simpa using haccepts)]
              simp
            · rw [hfiles, hsome, hplaces, List.mem_cons, or_assoc]
        · refine ⟨{ t with files := out }, by
            simp [follow, ScriptStep.failure, hplace, hbefore, haccepts], ?_, ?_⟩
          · simp [places, attempted, ScriptStep.failure, ScriptStep.placed, hbefore, haccepts]
          · simpa [places, attempted, ScriptStep.failure, ScriptStep.placed, hbefore, haccepts]
              using hsome

/-- A loop that follows its script ends cleanly exactly when the script is clean. -/
theorem endsCleanly_iff {catches : SourceExc → Bool} {earlier : List (StagedBatch Row)}
    {s : Step Row Bytes Unit} (hfree : outside.CollisionFree)
    (h : Follows outside steps ⟨files, []⟩ (fun _ _ => []) s) :
    EndsCleanly outside earlier files catches s ↔
      CleanScript outside earlier files catches steps := by
  have hgrown : Grown outside files (⟨files, []⟩ : Trail Bytes).files := fun _ => .inl rfl
  obtain ⟨t', hfollow, hkeys, hfiles⟩ := follow_spec steps hfree hgrown
  dsimp only at hfollow hkeys hfiles
  have hmem : ∀ key, key ∈ t'.keys ↔
      key ∈ places outside files steps ∧ outside.acceptsReference key = true := by
    simp [hkeys]
  have hnew : (∀ key, files key = none → t'.files key = none) ↔
      ∀ key ∈ places outside files steps, (files key).isSome = true := by
    constructor
    · intro hall key hkey
      by_contra hnone
      have hfile := (hfiles key).2 (.inr hkey)
      rw [hall key (Option.not_isSome_iff_eq_none.1 hnone)] at hfile
      cases hfile
    · intro hall key hnone
      by_contra hsome
      rcases (hfiles key).1 (Option.isSome_iff_ne_none.2 hsome) with hfile | hkey
      · rw [hnone] at hfile
        cases hfile
      · have hfile := hall key hkey
        rw [hnone] at hfile
        cases hfile
  obtain ⟨e | x, a⟩ := s
  · obtain ⟨hraises, htrail⟩ := Prod.mk.inj (hfollow.symm.trans h)
    subst htrail
    unfold CleanScript
    rw [hraises]
    by_cases hcaught : catches e = true
    · simp only [EndsCleanly, hcaught, if_true, Option.any_some, true_and]
      constructor
      · rintro ⟨hearlier, hstays⟩ key hkey
        split
        · next haccepts =>
          rintro batch hbatch hpublished rfl
          exact hearlier batch hbatch hpublished ((hmem _).2 ⟨hkey, haccepts⟩)
        · next hrefused =>
          by_contra hnone
          have hnamed := hstays key (Option.not_isSome_iff_eq_none.1 hnone) ((hfiles key).2 (.inr hkey))
          exact hrefused ((hmem key).1 hnamed).2
      · intro hall
        constructor
        · intro batch hbatch hpublished hnamed
          obtain ⟨hkey, haccepts⟩ := (hmem _).1 hnamed
          have hone := hall batch.key hkey
          rw [if_pos haccepts] at hone
          exact hone batch hbatch hpublished rfl
        · intro key hnone hsome
          rcases (hfiles key).1 hsome with hold | hkey
          · rw [hnone] at hold
            cases hold
          by_contra hunnamed
          have hone := hall key hkey
          rw [if_neg fun haccepts => hunnamed ((hmem key).2 ⟨hkey, haccepts⟩), hnone] at hone
          cases hone
    · simp only [EndsCleanly, hcaught, Option.any_some]
      exact hnew
  · obtain ⟨hraises, htrail⟩ := Prod.mk.inj (hfollow.symm.trans h)
    subst htrail
    unfold CleanScript
    rw [hraises]
    simp only [EndsCleanly, Option.any_none, Bool.false_eq_true, false_and, if_false]
    exact hnew

theorem fileSnapshot_failsCleanly_iff {earlier : List (StagedBatch Row)} {writes : Option SourceExc}
    {source : FileSource Row} {e : SourceExc} (hfree : outside.CollisionFree)
    (h : (fileSnapshot outside policy source writes files).1 = .error e) :
    FailsCleanly outside earlier files (fileSnapshot outside policy source writes files).2 ↔
      CleanScript outside earlier files (· = .ingestion) (fileScript policy source) := by
  rw [← endsCleanly_iff hfree (extractFile_follows source files)]
  exact createBoundedSnapshot_failsCleanly_iff (keeps_extractFile source fun _ _ => rfl) h

theorem sqlSnapshot_failsCleanly_iff {earlier : List (StagedBatch Row)} {writes : Option SourceExc}
    {opens : Option SourceExc} {tables : List (SqlTable Row)} {e : SourceExc}
    (hfree : outside.CollisionFree)
    (h : (sqlSnapshot outside policy opens tables writes files).1 = .error e) :
    FailsCleanly outside earlier files (sqlSnapshot outside policy opens tables writes files).2 ↔
      CleanScript outside earlier files (fun _ => true) (stops opens ++ sqlScript policy 0 tables) := by
  have hfollows : Follows outside (stops opens ++ sqlScript policy 0 tables) ⟨files, []⟩ (fun _ _ => [])
      ((raises opens () { files }).next fun _ a => extractTables outside policy tables a) := by
    have hopens : Follows outside (stops opens ++ sqlScript policy 0 tables) ⟨files, []⟩
        (fun _ _ => sqlScript policy 0 tables) (raises opens () ({ files } : Loop Row Bytes)) :=
      follows_raises opens () fun _ _ => sqlScript policy 0 tables
    refine hopens.next fun _ a hok => ?_
    obtain ⟨-, -, rfl⟩ := raises_eq_ok.1 hok
    exact extractTables_follows tables (settled_start files)
  rw [← endsCleanly_iff hfree hfollows]
  exact createBoundedSnapshot_failsCleanly_iff
    (keeps_next (keeps_raises _ _ fun _ _ => rfl) fun _ => keeps_extractTables tables) h

/-- **An extraction that fails leaves the batches of an earlier snapshot and no new file exactly when
its script is clean**: the file adapter handles `SourceIngestionError` only, and neither adapter handles
what fails after the loop. -/
theorem failed_extraction_iff (outside : Outside Row Bytes) (hfree : outside.CollisionFree)
    (policy : ExtractionPolicy) (source : FileSource Row) (opens : Option SourceExc)
    (tables : List (SqlTable Row)) (writes : Option SourceExc) (earlier : List (StagedBatch Row))
    (files : BatchKey → Option Bytes) (e : SourceExc) :
    ((fileSnapshot outside policy source writes files).1 = .error e →
      (FailsCleanly outside earlier files (fileSnapshot outside policy source writes files).2 ↔
        CleanScript outside earlier files (· = .ingestion) (fileScript policy source))) ∧
    ((sqlSnapshot outside policy opens tables writes files).1 = .error e →
      (FailsCleanly outside earlier files (sqlSnapshot outside policy opens tables writes files).2 ↔
        CleanScript outside earlier files (fun _ => true)
          (stops opens ++ sqlScript policy 0 tables))) :=
  ⟨fileSnapshot_failsCleanly_iff hfree, sqlSnapshot_failsCleanly_iff hfree⟩

def oneRow : FileSource String where
  tableId := "orders"
  rows := [(0, "a")]

/-- The row is staged again, from a file that is changed while it is read. -/
theorem failed_extraction_discards_published : let policy : ExtractionPolicy := { chunkSize := 1 }
    let retry := { oneRow with changedAfter := some .ingestion }
    ∃ a files, fileSnapshot plainFiles policy oneRow none (fun _ => none) = (.ok a, files) ∧
      (fileSnapshot plainFiles policy retry none files).1 = .error .ingestion ∧
      ¬ FailsCleanly plainFiles a.batches files
        (fileSnapshot plainFiles policy retry none files).2 := by
  refine ⟨_, _, rfl, rfl, fun h => ?_⟩
  have hgone : none = some "a" := h.1 _ (List.mem_singleton_self _) rfl
  cases hgone

/-- Rows of one character, whose bytes are their own digest. -/
def charFiles : Outside Char (List Char) where
  encode := some
  numRows bytes := some bytes.length
  sha256 := String.ofList
  batchIdFor _ _ contentHash := contentHash

theorem charFiles_collisionFree : charFiles.CollisionFree where
  ids _ _ _ _ _ h := h
  hashes b b' h := by
    obtain rfl : b = b' := String.ofList_injective h
    rfl

def letters (rows : List Char) : FileSource Char where
  tableId := "orders"
  rows := rows.zipIdx.map Prod.swap

/-- After a snapshot of three rows, the file has others and is changed while these are read: both
batches of the snapshot stay, and the two new files are removed. -/
theorem failed_extraction_of_changed_file : let policy : ExtractionPolicy := { chunkSize := 2 }
    let retry := { letters ['d', 'e', 'f'] with changedAfter := some .ingestion }
    ∃ a files,
      fileSnapshot charFiles policy (letters ['a', 'b', 'c']) none (fun _ => none) = (.ok a, files) ∧
      a.batches.map (·.rows) = [['a', 'b'], ['c']] ∧
      (fileSnapshot charFiles policy retry none files).1 = .error .ingestion ∧
      FailsCleanly charFiles a.batches files (fileSnapshot charFiles policy retry none files).2 := by
  refine ⟨_, _, rfl, rfl, rfl, ?_⟩
  refine ((failed_extraction_iff charFiles charFiles_collisionFree { chunkSize := 2 }
    { letters ['d', 'e', 'f'] with changedAfter := some .ingestion } none [] none _ _ .ingestion).1
      rfl).2 ?_
  unfold CleanScript Published
  decide +kernel

end DirtyDataOlap.Extraction
