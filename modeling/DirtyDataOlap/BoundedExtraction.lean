import Mathlib.Data.List.Forall2

/-!
# Bounded extraction

`create_bounded_snapshot` of the file and of the SQL source adapter, with `stage_rows` and
`discard_batches` of `adapters/sources/staging.py`.  Both loops collect rows in a pending buffer and
stage it whenever it is full; they test the limit on different sides of a row, and clean up after
different failures.  Everything outside (pyarrow, the file system, the contracts of references, the
readers of the sources) may raise at any point.
-/
namespace DirtyDataOlap.Extraction

open List

/-- What the limit on rows is for. -/
inductive MaxRowsScope
  | sourceWide | perTable
deriving DecidableEq

/-- The batch size and the limit of an extraction. -/
structure ExtractionPolicy where
  chunkSize : Nat
  maxRows : Option Nat := none
  maxRowsScope : MaxRowsScope := .sourceWide
  chunkSize_pos : 0 < chunkSize := by decide
  maxRows_pos : ∀ m ∈ maxRows, 0 < m := by decide

inductive SourceExc
  /-- `SourceIngestionError`. -/
  | ingestion
  | other
deriving DecidableEq

/-- The place of a batch under the staging root. -/
structure BatchKey where
  tableId : String
  batchId : String
deriving DecidableEq

/-- `BatchReference`, and the rows that were handed over to be staged. -/
structure StagedBatch (Row : Type) where
  key : BatchKey
  batchIndex : Nat
  rowCount : Nat
  contentHash : String
  firstExtractionOrdinal : Nat
  rows : List Row

/-- A staged record, by its batch and its place in the extraction. -/
structure SourceRecordReference where
  batch : BatchKey
  extractionOrdinal : Nat

/-- How much of a table was read. -/
inductive TableObservationStatus
  | fullyObserved | partiallyObserved | notObserved

/-- What a snapshot says of a table. -/
structure TableSnapshotObservation where
  tableId : String
  rowsObserved : Nat
  status : TableObservationStatus

/-- What an attempt meets outside: the Parquet writer and its files, the digests of its snapshot,
and what raises about a batch. -/
structure Outside (Row Bytes : Type) where
  encode : List Row → Option Bytes
  numRows : Bytes → Option Nat
  sha256 : Bytes → String
  batchIdFor : String → Nat → String → String
  replaces : BatchKey → Bool := fun _ => true
  acceptsReference : BatchKey → Bool := fun _ => true
  recordReferences : BatchKey → Option SourceExc := fun _ => none

/-- The files of the staging directory, and the variables of a loop. -/
structure Loop (Row Bytes : Type) where
  files : BatchKey → Option Bytes
  batches : List (StagedBatch Row) := []
  references : List SourceRecordReference := []
  observations : List TableSnapshotObservation := []
  observed : Nat := 0
  staged : Nat := 0
  pending : List Row := []
  pendingFirst : Nat := 0
  batchIndex : Nat := 0
  tableRows : Nat := 0

abbrev Step (Row Bytes α : Type) := Except SourceExc α × Loop Row Bytes

variable {Row Bytes α β : Type}

/-- What comes after a step that does not raise. -/
def Step.next (s : Step Row Bytes α) (f : α → Loop Row Bytes → Step Row Bytes β) :
    Step Row Bytes β :=
  match s with
  | (.ok x, a) => f x a
  | (.error e, a) => (.error e, a)

def raises (e : Option SourceExc) (x : α) (a : Loop Row Bytes) : Step Row Bytes α :=
  match e with
  | some e => (.error e, a)
  | none => (.ok x, a)

variable (outside : Outside Row Bytes) (policy : ExtractionPolicy) (tableId : String)
  (first : Loop Row Bytes → Nat) (ending : Option SourceExc)

/-- `stage_rows` of the pending rows; every exception becomes a `SourceIngestionError`. -/
def stageRows (a : Loop Row Bytes) : Option (StagedBatch Row) × (BatchKey → Option Bytes) :=
  match outside.encode a.pending with
  | none => (none, a.files)
  | some bytes =>
    if outside.numRows bytes ≠ some a.pending.length then (none, a.files)
    else
      let contentHash := outside.sha256 bytes
      let key : BatchKey := ⟨tableId, outside.batchIdFor tableId a.batchIndex contentHash⟩
      let reference : Option (StagedBatch Row) :=
        if outside.acceptsReference key then
          some ⟨key, a.batchIndex, a.pending.length, contentHash, first a, a.pending⟩
        else none
      match a.files key with
      | some existing =>
        if outside.sha256 existing = contentHash ∧
          outside.numRows existing = some a.pending.length then (reference, a.files)
        else (none, a.files)
      | none =>
        if outside.replaces key then (reference, Function.update a.files key (some bytes))
        else (none, a.files)

/-- The references of the rows of a batch. -/
def StagedBatch.references (batch : StagedBatch Row) : List SourceRecordReference :=
  (range batch.rows.length).map fun offset => ⟨batch.key, batch.firstExtractionOrdinal + offset⟩

/-- The pending rows become a batch. -/
def stageBatch (a : Loop Row Bytes) : Step Row Bytes Unit :=
  match stageRows outside tableId first a with
  | (none, files) => (.error .ingestion, { a with files })
  | (some batch, files) =>
    let a := { a with files, batches := a.batches ++ [batch] }
    (raises (outside.recordReferences batch.key) () a).next fun _ a =>
      (.ok (),
        { a with
          references := a.references ++ batch.references
          staged := a.staged + a.pending.length
          pending := []
          batchIndex := a.batchIndex + 1 })

/-- A row is taken into the buffer, which is staged when it is full. -/
def takeRow (ordinal : Nat) (row : Row) (a : Loop Row Bytes) : Step Row Bytes Unit :=
  let a := { a with
    pendingFirst := if a.pending.isEmpty then ordinal else a.pendingFirst
    pending := a.pending ++ [row]
    observed := a.observed + 1
    tableRows := a.tableRows + 1 }
  if policy.chunkSize ≤ a.pending.length then stageBatch outside tableId first a else (.ok (), a)

/-- The rows that are left after the loop. -/
def flush (a : Loop Row Bytes) : Step Row Bytes Unit :=
  if a.pending.isEmpty then (.ok (), a) else stageBatch outside tableId first a

def observe (rowsObserved : Nat) (status : TableObservationStatus) (a : Loop Row Bytes) :
    Loop Row Bytes :=
  { a with observations := a.observations ++ [⟨tableId, rowsObserved, status⟩] }

/-- The status of a table, from whether its rows ran out. -/
def statusOf (exhausted : Bool) (rows : Nat) : TableObservationStatus :=
  if exhausted then .fullyObserved else if rows ≠ 0 then .partiallyObserved else .notObserved

/-- The loop over the rows that a file yields, and whether it came to their end. -/
def fileRows : List (Nat × Row) → Loop Row Bytes → Step Row Bytes Bool
  | [], a => raises ending true a
  | (ordinal, row) :: rest, a =>
    if policy.maxRows.any (· ≤ a.observed) then (.ok false, a)
    else (takeRow outside policy tableId first ordinal row a).next fun _ a => fileRows rest a

/-- A file as a source of one table; `changed` says what raises about its fingerprint, before and
after the extraction. -/
structure FileSource (Row : Type) where
  tableId : String
  rows : List (Nat × Row)
  ending : Option SourceExc := none
  changedBefore : Option SourceExc := none
  changedAfter : Option SourceExc := none

/-- The loop of the file adapter over one source. -/
def extractFile (source : FileSource Row) (a : Loop Row Bytes) : Step Row Bytes Unit :=
  (raises source.changedBefore () a).next fun _ a =>
  (fileRows outside policy source.tableId (·.pendingFirst) source.ending source.rows a).next
    fun exhausted a =>
  (flush outside source.tableId (·.pendingFirst) a).next fun _ a =>
  raises source.changedAfter ()
    (observe source.tableId a.tableRows (statusOf exhausted a.tableRows) a)

/-- `at_source_limit or at_table_limit`. -/
def limitReached (a : Loop Row Bytes) : Bool :=
  match policy.maxRowsScope with
  | .sourceWide => policy.maxRows.any (· ≤ a.observed)
  | .perTable => policy.maxRows.any (· ≤ a.tableRows)

/-- The limit of the whole source is reached. -/
def sourceFull (a : Loop Row Bytes) : Bool :=
  policy.maxRowsScope = .sourceWide && policy.maxRows.any (· ≤ a.observed)

/-- The rows of a native batch, and whether all of them were taken. -/
def nativeRows : List Row → Loop Row Bytes → Step Row Bytes Bool
  | [], a => (.ok true, a)
  | row :: rest, a =>
    if limitReached policy a then (.ok false, a)
    else (takeRow outside policy tableId first a.tableRows row a).next fun _ a => nativeRows rest a

/-- The batches of the driver, until the limit or the end. -/
def nativeBatches : List (List Row) → Bool → Loop Row Bytes → Step Row Bytes Bool
  | [], exhausted, a => raises ending exhausted a
  | batch :: rest, exhausted, a =>
    (nativeRows outside policy tableId first batch a).next fun all a =>
      if sourceFull policy a then (.ok false, a) else nativeBatches rest (exhausted && all) a

/-- A table of a database: whether dlt returns it, and how its rows come. -/
structure SqlTable (Row : Type) where
  tableId : String
  found : Bool := true
  nativeBatches : List (List Row)
  ending : Option SourceExc := none

/-- `table_ordinal - len(pending)`. -/
def firstOrdinal (a : Loop Row Bytes) : Nat := a.tableRows - a.pending.length

/-- The loop of the SQL adapter over one table. -/
def extractTable (table : SqlTable Row) (a : Loop Row Bytes) : Step Row Bytes Unit :=
  if sourceFull policy a then (.ok (), observe table.tableId 0 .notObserved a)
  else if !table.found then (.error .ingestion, a)
  else
    (nativeBatches outside policy table.tableId firstOrdinal table.ending table.nativeBatches true
      { a with pending := [], batchIndex := 0, tableRows := 0 }).next fun exhausted a =>
    (flush outside table.tableId firstOrdinal a).next fun _ a =>
    (.ok (), observe table.tableId a.tableRows
      (statusOf (exhausted && !sourceFull policy a) a.tableRows) a)

/-- One table after the other; an error ends the extraction. -/
def extractTables : List (SqlTable Row) → Loop Row Bytes → Step Row Bytes Unit
  | [], a => (.ok (), a)
  | table :: rest, a => (extractTable outside policy table a).next fun _ a => extractTables rest a

/-- `discard_batches`. -/
def discardBatches (batches : List (StagedBatch Row)) (files : BatchKey → Option Bytes) :
    BatchKey → Option Bytes :=
  batches.foldl (fun files batch => Function.update files batch.key none) files

/-- `create_bounded_snapshot`: the loop under its handler, and what comes after it. -/
def createBoundedSnapshot (catches : SourceExc → Bool)
    (body : Loop Row Bytes → Step Row Bytes Unit) (writes : Option SourceExc)
    (files : BatchKey → Option Bytes) :
    Except SourceExc (Loop Row Bytes) × (BatchKey → Option Bytes) :=
  match body { files } with
  | (.error e, a) =>
    (.error e, if catches e then discardBatches a.batches a.files else a.files)
  | (.ok (), a) =>
    if a.observed ≠ a.staged then (.error .other, a.files)
    else
      match writes with
      | some e => (.error e, a.files)
      | none => (.ok a, a.files)

/-- The file adapter catches `SourceIngestionError` only. -/
def fileSnapshot (source : FileSource Row) :=
  createBoundedSnapshot (· = .ingestion) (extractFile outside policy source)

/-- The SQL adapter catches everything; `opens` says what raises before the loop. -/
def sqlSnapshot (opens : Option SourceExc) (tables : List (SqlTable Row)) :=
  createBoundedSnapshot (fun _ => true) fun a : Loop Row Bytes =>
    (raises opens () a).next fun _ a => extractTables outside policy tables a

end DirtyDataOlap.Extraction
