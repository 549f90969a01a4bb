import DirtyDataOlap.RowConservation

/-!
# Scripts of extractions

What an attempt to extract will do is known before it runs: it stages the rows that the limit allows, cut
into chunks, and meets what raises between them (`fileScript`, `sqlScript`).  **Both loops follow their
scripts** (`extractFile_follows`, `extractTables_follows`), whatever the staging directory holds.
-/
namespace DirtyDataOlap.Extraction

open List

variable {Row Bytes α β : Type}

/-! ## Scripts -/

/-- Rows that are staged as one batch. -/
structure Chunk (Row : Type) where
  tableId : String
  batchIndex : Nat
  rows : List Row

inductive ScriptStep (Row : Type)
  | chunk (c : Chunk Row)
  | stop (e : SourceExc)

/-- Some pending rows and those after them, in chunks of `n`; what raises when the rows end; and the
chunk that is left. -/
def chunkSteps (tableId : String) (n : Nat) (ending : List (ScriptStep Row)) :
    (batchIndex : Nat) → (pending rows : List Row) → List (ScriptStep Row)
  | i, pending, [] => ending ++ if pending.isEmpty then [] else [.chunk ⟨tableId, i, pending⟩]
  | i, pending, row :: rows =>
    if n ≤ (pending ++ [row]).length then
      .chunk ⟨tableId, i, pending ++ [row]⟩ :: chunkSteps tableId n ending (i + 1) [] rows
    else chunkSteps tableId n ending i (pending ++ [row]) rows

def stops (e : Option SourceExc) : List (ScriptStep Row) := e.toList.map .stop

/-- What an extraction of a file does.  Its reader comes to the end if the limit leaves no row. -/
def fileScript (policy : ExtractionPolicy) (source : FileSource Row) : List (ScriptStep Row) :=
  let rows := source.rows.map Prod.snd
  stops source.changedBefore ++ (chunkSteps source.tableId policy.chunkSize
    (if policy.maxRows.any (· < rows.length) then [] else stops source.ending) 0 []
    (policy.allowed 0 [] rows) ++ stops source.changedAfter)

/-- The limit of the whole source is reached with so many rows. -/
def full (policy : ExtractionPolicy) (n : Nat) : Bool :=
  policy.maxRowsScope = .sourceWide && policy.maxRows.any (· ≤ n)

/-- What an extraction does with a table after it has observed some rows of other tables.  Only the
limit of the whole source ends a table before its native batches do. -/
def tableScript (policy : ExtractionPolicy) (observed : Nat) (table : SqlTable Row) :
    List (ScriptStep Row) :=
  let rows := table.nativeBatches.flatten
  if full policy observed then []
  else if !table.found then [.stop .ingestion]
  else chunkSteps table.tableId policy.chunkSize
    (if full policy (observed + rows.length) then [] else stops table.ending) 0 []
    (policy.allowed observed [] rows)

/-- What an extraction of a database does. -/
def sqlScript (policy : ExtractionPolicy) : (observed : Nat) → List (SqlTable Row) →
    List (ScriptStep Row)
  | _, [] => []
  | observed, table :: rest => tableScript policy observed table ++ sqlScript policy
      (observed + (policy.allowed observed [] table.nativeBatches.flatten).length) rest

/-! ## Following a script -/

/-- The files of the staging directory, and the batches that an attempt has references to. -/
structure Trail (Bytes : Type) where
  files : BatchKey → Option Bytes
  keys : List BatchKey

def Loop.trail (a : Loop Row Bytes) : Trail Bytes := ⟨a.files, a.batches.map (·.key)⟩

variable (outside : Outside Row Bytes)

/-- The bytes of a chunk, with the place that they name. -/
def Chunk.written (c : Chunk Row) : Option (Bytes × BatchKey) :=
  (outside.encode c.rows).bind fun bytes =>
    if outside.numRows bytes = some c.rows.length then
      some (bytes, ⟨c.tableId, outside.batchIdFor c.tableId c.batchIndex (outside.sha256 bytes)⟩)
    else none

/-- The bytes of some rows find their file, or are put in its place. -/
def settle (files : BatchKey → Option Bytes) (bytes : Bytes) (key : BatchKey) (rowCount : Nat) :
    Option (BatchKey → Option Bytes) :=
  match files key with
  | some existing =>
    if outside.sha256 existing = outside.sha256 bytes ∧ outside.numRows existing = some rowCount then
      some files
    else none
  | none => if outside.replaces key then some (Function.update files key (some bytes)) else none

def Chunk.place (c : Chunk Row) (files : BatchKey → Option Bytes) :
    Option (BatchKey × (BatchKey → Option Bytes)) :=
  (c.written outside).bind fun w =>
    (settle outside files w.1 w.2 c.rows.length).map fun files => (w.2, files)

/-- What raises first, and what the attempt leaves by then. -/
def follow : List (ScriptStep Row) → Trail Bytes → Option SourceExc × Trail Bytes
  | [], t => (none, t)
  | .stop e :: _, t => (some e, t)
  | .chunk c :: rest, t =>
    match c.place outside t.files with
    | none => (some .ingestion, t)
    | some (key, files) =>
      if outside.acceptsReference key then
        match outside.recordReferences key with
        | some e => (some e, ⟨files, t.keys ++ [key]⟩)
        | none => follow rest ⟨files, t.keys ++ [key]⟩
      else (some .ingestion, { t with files := files })

/-- A part of a loop does what a part of the script says, and leaves the rest of the script. -/
def Follows (steps : List (ScriptStep Row)) (t : Trail Bytes) (rest : α → Loop Row Bytes →
    List (ScriptStep Row)) : Step Row Bytes α → Prop
  | (.error e, a) => follow outside steps t = (some e, a.trail)
  | (.ok x, a) => follow outside steps t = follow outside (rest x a) a.trail

variable {outside} {policy : ExtractionPolicy} {tableId : String} {first : Loop Row Bytes → Nat}
  {start a : Loop Row Bytes} {t : Trail Bytes} {steps rest : List (ScriptStep Row)}
  {taken : List Row} {new : List (StagedBatch Row)} {s : Step Row Bytes α}

theorem Follows.next {mid : α → Loop Row Bytes → List (ScriptStep Row)}
    {last : β → Loop Row Bytes → List (ScriptStep Row)} {f : α → Loop Row Bytes → Step Row Bytes β}
    (hs : Follows outside steps t mid s)
    (hf : ∀ x a, s = (.ok x, a) → Follows outside (mid x a) a.trail last (f x a)) :
    Follows outside steps t last (s.next f) := by
  obtain ⟨e | x, a⟩ := s
  · exact hs
  · have hnext := hf x a rfl
    show Follows outside steps t last (f x a)
    generalize f x a = s' at hnext
    obtain ⟨e | y, a'⟩ := s'
    · exact Eq.trans hs hnext
    · exact Eq.trans hs hnext

theorem Follows.congr {mid last : α → Loop Row Bytes → List (ScriptStep Row)}
    (hs : Follows outside steps t mid s) (h : ∀ x a, s = (.ok x, a) → mid x a = last x a) :
    Follows outside steps t last s := by
  obtain ⟨e | x, a⟩ := s
  · exact hs
  · have hrest := h x a rfl
    show follow outside steps t = follow outside (last x a) a.trail
    rw [← hrest]
    exact hs

theorem follows_raises (e : Option SourceExc) (x : α) (last : α → Loop Row Bytes →
    List (ScriptStep Row)) :
    Follows outside (stops e ++ last x a) a.trail last (raises e x a) := by
  cases e <;> rfl

/-! ## One batch -/

theorem stageRows_eq : stageRows outside tableId first a =
    match (⟨tableId, a.batchIndex, a.pending⟩ : Chunk Row).place outside a.files with
    | none => (none, a.files)
    | some (key, files) => (if outside.acceptsReference key then
        some ⟨key, a.batchIndex, a.pending.length,
          ((outside.encode a.pending).map outside.sha256).getD "", first a, a.pending⟩ else none,
        files) := by
  unfold stageRows Chunk.place Chunk.written settle
  cases hbytes : outside.encode a.pending with
  | none => rfl
  | some bytes =>
    by_cases hcount : outside.numRows bytes = some a.pending.length
    · simp only [hcount, ne_eq, not_true_eq_false, if_false, Option.bind_some, if_true]
      cases a.files ⟨tableId, outside.batchIdFor tableId a.batchIndex (outside.sha256 bytes)⟩ with
      | none =>
        by_cases hplace : outside.replaces
            ⟨tableId, outside.batchIdFor tableId a.batchIndex (outside.sha256 bytes)⟩ = true <;>
          simp [hplace]
      | some existing =>
        by_cases hsame : outside.sha256 existing = outside.sha256 bytes ∧
            outside.numRows existing = some a.pending.length <;> simp [hsame]
    · simp [hcount]

theorem stageBatch_follows : Follows outside (.chunk ⟨tableId, a.batchIndex, a.pending⟩ :: rest)
    a.trail (fun _ _ => rest) (stageBatch outside tableId first a) := by
  unfold stageBatch
  rw [stageRows_eq]
  cases hplace : (⟨tableId, a.batchIndex, a.pending⟩ : Chunk Row).place outside a.files with
  | none =>
    show follow _ _ _ = _
    rw [follow, show a.trail.files = a.files from rfl, hplace]
  | some placed =>
    obtain ⟨key, files⟩ := placed
    by_cases haccepts : outside.acceptsReference key = true
    · simp only [haccepts, if_true]
      cases hreferences : outside.recordReferences key with
      | none =>
        show follow _ _ _ = _
        rw [follow, show a.trail.files = a.files from rfl, hplace]
        simp only [haccepts, if_true, hreferences]
        simp [Loop.trail]
      | some e =>
        show follow _ _ _ = _
        rw [follow, show a.trail.files = a.files from rfl, hplace]
        simp only [haccepts, if_true, hreferences]
        simp [Loop.trail]
    · simp only [haccepts]
      show follow _ _ _ = _
      rw [follow, show a.trail.files = a.files from rfl, hplace]
      simp only [haccepts]
      rfl

theorem takeRow_follows {ending : List (ScriptStep Row)} (ordinal : Nat) (row : Row)
    (rows : List Row) : Follows outside
      (chunkSteps tableId policy.chunkSize ending a.batchIndex a.pending (row :: rows) ++ rest)
      a.trail
      (fun _ a => chunkSteps tableId policy.chunkSize ending a.batchIndex a.pending rows ++ rest)
      (takeRow outside policy tableId first ordinal row a) := by
  dsimp only [takeRow]
  rw [chunkSteps]
  split
  · refine Follows.congr stageBatch_follows fun _ a' hok => ?_
    obtain ⟨batch, files, -, -, -, -, rfl⟩ := stageBatch_eq_ok hok
    rfl
  · rfl

/-- The chunk that is left after the rows. -/
def lastStep (tableId : String) (a : Loop Row Bytes) : List (ScriptStep Row) :=
  if a.pending.isEmpty then [] else [.chunk ⟨tableId, a.batchIndex, a.pending⟩]

theorem flush_follows : Follows outside (lastStep tableId a ++ rest) a.trail (fun _ _ => rest)
    (flush outside tableId first a) := by
  unfold flush lastStep
  split
  · rfl
  · exact stageBatch_follows

/-! ## The loops -/

/-- The rows of a file, after some of them were taken. -/
theorem fileRows_follows {ending : Option SourceExc} {all : List Row} {rows : List (Nat × Row)}
    (hstart : start.observed = 0) :
    ∀ {taken : List Row} {new : List (StagedBatch Row)} {a : Loop Row Bytes},
      InTable tableId start taken new a → Buffered policy new a →
      (∀ m ∈ policy.maxRows, taken.length ≤ m) → all = taken ++ rows.map Prod.snd →
      Follows outside (chunkSteps tableId policy.chunkSize
          (if policy.maxRows.any (· < all.length) then [] else stops ending) a.batchIndex a.pending
          (policy.allowed start.observed taken (rows.map Prod.snd)) ++ rest) a.trail
        (fun _ a => lastStep tableId a ++ rest)
        (fileRows outside policy tableId first ending rows a) := by
  induction rows with
  | nil =>
    intro taken new a h hb hroom hall
    rw [map_nil, append_nil] at hall
    have hends : policy.maxRows.any (· < all.length) = false := by
      rw [hall]
      cases hm : policy.maxRows with
      | none => rfl
      | some m => simpa using hroom m (by rw [hm]; rfl)
    rw [map_nil, allowed_nil, chunkSteps, hends, if_neg Bool.false_ne_true, append_assoc]
    exact follows_raises ending true fun _ a => lastStep tableId a ++ rest
  | cons row rows ih =>
    intro taken new a h hb hroom hall
    have hlimit := h.limitReached_eq policy hstart
    have hobserved : a.observed = taken.length := by rw [h.observed, hstart, Nat.zero_add]
    rw [map_cons] at hall ⊢
    unfold fileRows
    rw [← hlimit]
    by_cases hfull : limitReached policy a = true
    · rw [if_pos hfull]
      have hends : policy.maxRows.any (· < all.length) = true := by
        rw [hlimit] at hfull
        rw [hall, length_append, length_cons]
        cases hm : policy.maxRows with
        | none => simp [hm] at hfull
        | some m =>
          have hm' : m ≤ taken.length := by simpa [hm, hobserved] using hfull
          simp only [Option.any_some, decide_eq_true_eq, length_map]
          omega
      rw [h.allowed_eq_nil hfull, hends, chunkSteps]
      rfl
    · rw [if_neg hfull, h.allowed_cons hfull]
      refine (takeRow_follows row.1 row.2 _).next fun _ a1 htake => ?_
      obtain ⟨new1, h1, hb1⟩ := h.takeRow hb htake
      refine ih h1 hb1 (fun m hm => ?_) (by simp [hall])
      have hless : ¬ m ≤ taken.length := by
        rw [hlimit, Option.mem_def.1 hm] at hfull
        simpa [hobserved] using hfull
      rw [length_append, length_singleton]
      omega

/-- The rows of a native batch, in front of those of the later ones. -/
theorem nativeRows_follows {ending : List (ScriptStep Row)} (later : List Row) {rows : List Row} :
    ∀ {taken : List Row} {new : List (StagedBatch Row)} {a : Loop Row Bytes},
      InTable tableId start taken new a → Buffered policy new a →
      Follows outside (chunkSteps tableId policy.chunkSize ending a.batchIndex a.pending
          (policy.allowed start.observed taken (rows ++ later)) ++ rest) a.trail
        (fun _ a => chunkSteps tableId policy.chunkSize ending a.batchIndex a.pending
          (policy.allowed start.observed (taken ++ policy.allowed start.observed taken rows) later) ++
            rest)
        (nativeRows outside policy tableId first rows a) := by
  induction rows with
  | nil =>
    intro taken new a h hb
    rw [allowed_nil, append_nil]
    rfl
  | cons row rows ih =>
    intro taken new a h hb
    unfold nativeRows
    split
    · next hfull =>
      simp only [h.allowed_eq_nil hfull, append_nil]
      rfl
    · next hfree =>
      rw [cons_append, h.allowed_cons hfree, h.allowed_cons hfree]
      refine (takeRow_follows a.tableRows row _).next fun _ a1 htake => ?_
      obtain ⟨new1, h1, hb1⟩ := h.takeRow hb htake
      simpa using ih h1 hb1

/-- Where the source has room after a native batch, all of the batch was taken. -/
theorem allowed_of_not_sourceFull {batch : List Row}
    (h : InTable tableId start (taken ++ policy.allowed start.observed taken batch) new a)
    (hscope : policy.maxRowsScope = .sourceWide) (hfree : sourceFull policy a = false) :
    policy.allowed start.observed taken batch = batch := by
  have hobserved := h.observed
  unfold sourceFull at hfree
  unfold ExtractionPolicy.allowed at hobserved ⊢
  rw [hscope] at hfree hobserved ⊢
  cases hm : policy.maxRows with
  | none => rfl
  | some m =>
    simp only [hm, Option.elim_some, length_append, length_take, decide_true, Bool.true_and,
      Option.any_some, decide_eq_false_iff_not] at hobserved hfree ⊢
    refine take_of_length_le ?_
    omega

theorem full_mono {m n : Nat} (h : full policy m = true) (hmn : m ≤ n) : full policy n = true := by
  unfold full at h ⊢
  rw [Bool.and_eq_true] at h ⊢
  refine ⟨h.1, ?_⟩
  cases hm : policy.maxRows with
  | none => simp [hm] at h
  | some k =>
    have hk : k ≤ m := by simpa [hm] using h.2
    simpa using Nat.le_trans hk hmn

/-- The native batches of a table, after some were read. -/
theorem nativeBatches_follows {ending : Option SourceExc} {all : List Row}
    {batches : List (List Row)} : ∀ {exhausted : Bool} {taken : List Row}
      (offered : List Row) {new : List (StagedBatch Row)} {a : Loop Row Bytes},
      InTable tableId start taken new a → Buffered policy new a → sourceFull policy a = false →
      (policy.maxRowsScope = .sourceWide → taken = offered) → taken.length ≤ offered.length →
      all = offered ++ batches.flatten →
      Follows outside (chunkSteps tableId policy.chunkSize
          (if full policy (start.observed + all.length) then [] else stops ending) a.batchIndex a.pending
          (policy.allowed start.observed taken batches.flatten) ++ rest) a.trail
        (fun _ a => lastStep tableId a ++ rest)
        (nativeBatches outside policy tableId first ending batches exhausted a) := by
  induction batches with
  | nil =>
    intro exhausted taken offered new a h hb hfree hscope hle hall
    rw [flatten_nil, append_nil] at hall
    have hends : full policy (start.observed + all.length) = false := by
      by_contra hfull
      rw [Bool.not_eq_false] at hfull
      have hwide : policy.maxRowsScope = .sourceWide := by
        have hboth := hfull
        unfold full at hboth
        exact of_decide_eq_true (Bool.and_eq_true_iff.1 hboth).1
      rw [hall, ← hscope hwide, ← h.observed] at hfull
      exact absurd (hfull.symm.trans hfree) (by decide)
    rw [flatten_nil, allowed_nil, chunkSteps, hends, if_neg Bool.false_ne_true, append_assoc]
    exact follows_raises ending exhausted fun _ a => lastStep tableId a ++ rest
  | cons batch batches ih =>
    intro exhausted taken offered new a h hb hfree hscope hle hall
    rw [flatten_cons] at hall ⊢
    refine (nativeRows_follows batches.flatten h hb).next fun all' a1 hrows => ?_
    obtain ⟨new1, h1, hb1, -⟩ := h.nativeRows hb hrows
    have hshort : (policy.allowed start.observed taken batch).length ≤ batch.length := by
      unfold ExtractionPolicy.allowed
      cases policy.maxRows with
      | none => exact Nat.le_refl _
      | some m =>
        rw [Option.elim_some, length_take]
        exact Nat.min_le_right _ _
    by_cases hfull : sourceFull policy a1 = true
    · rw [if_pos hfull]
      -- the limit leaves no room, and the reader is not asked for more
      have hends : full policy (start.observed + all.length) = true := by
        have hnow : full policy a1.observed = true := hfull
        refine full_mono hnow ?_
        rw [h1.observed, hall, length_append, length_append, length_append]
        omega
      rw [h1.allowed_eq_nil (limitReached_of_sourceFull hfull), hends, chunkSteps]
      rfl
    · rw [if_neg hfull]
      have hroom' : sourceFull policy a1 = false := Bool.not_eq_true _ ▸ hfull
      refine ih (offered ++ batch) h1 hb1 hroom' (fun hwide => ?_) ?_ (by rw [hall, append_assoc])
      · rw [allowed_of_not_sourceFull h1 hwide hroom', hscope hwide]
      · rw [length_append, length_append]
        omega

/-! ## Whole attempts -/

/-- **The loop over a file follows its script.** -/
theorem extractFile_follows (source : FileSource Row) (files : BatchKey → Option Bytes) :
    Follows outside (fileScript policy source) ⟨files, []⟩ (fun _ _ => [])
      (extractFile outside policy source { files }) := by
  have htrail : (⟨files, []⟩ : Trail Bytes) = Loop.trail ({ files } : Loop Row Bytes) := rfl
  rw [htrail, fileScript]
  refine (follows_raises source.changedBefore () fun _ _ => _).next fun _ a hbefore => ?_
  obtain ⟨-, -, rfl⟩ := raises_eq_ok.1 hbefore
  refine Follows.next (fileRows_follows (by exact rfl)
    ((settled_start files).inTable source.tableId) ⟨by simp, policy.chunkSize_pos⟩ (by simp) rfl)
    fun exhausted a _ => ?_
  refine flush_follows.next fun _ a _ => ?_
  have hends : Follows outside (stops source.changedAfter ++ [])
      (observe source.tableId a.tableRows (statusOf exhausted a.tableRows) a).trail (fun _ _ => [])
      (raises source.changedAfter () (observe source.tableId a.tableRows
        (statusOf exhausted a.tableRows) a)) :=
    follows_raises source.changedAfter () fun _ _ => []
  rw [append_nil] at hends
  exact hends

theorem extractTable_follows (h : Settled a) (table : SqlTable Row) :
    Follows outside (tableScript policy a.observed table ++ rest) a.trail (fun _ _ => rest)
      (extractTable outside policy table a) := by
  have hfull : sourceFull policy a = full policy a.observed := rfl
  unfold extractTable tableScript
  rw [hfull]
  by_cases hskipped : full policy a.observed = true
  · rw [if_pos hskipped, if_pos hskipped]
    rfl
  · rw [if_neg hskipped, if_neg hskipped]
    by_cases hmissing : (!table.found) = true
    · rw [if_pos hmissing, if_pos hmissing]
      rfl
    · rw [if_neg hmissing, if_neg hmissing]
      refine Follows.next (nativeBatches_follows [] (h.inTable table.tableId)
        ⟨by simp, policy.chunkSize_pos⟩ (Bool.not_eq_true _ ▸ hskipped) (fun _ => rfl)
        (Nat.le_refl _) rfl) fun exhausted a1 _ => ?_
      exact flush_follows.next fun _ a2 _ => rfl

/-- **The loop over the tables of a database follows its script.** -/
theorem extractTables_follows (tables : List (SqlTable Row)) :
    ∀ {a : Loop Row Bytes}, Settled a →
      Follows outside (sqlScript policy a.observed tables) a.trail (fun _ _ => [])
        (extractTables outside policy tables a) := by
  induction tables with
  | nil =>
    intro a _
    rfl
  | cons table tables ih =>
    intro a h
    rw [sqlScript]
    refine (extractTable_follows h table).next fun _ a1 htable => ?_
    obtain ⟨new, status, -, -, -, h1, hobserved, -, -⟩ := h.extractTable_adds htable
    have hrest := ih h1
    rw [hobserved] at hrest
    exact hrest

end DirtyDataOlap.Extraction
