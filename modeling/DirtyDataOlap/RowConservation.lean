import DirtyDataOlap.BoundedExtraction

/-!
# Extraction conserves rows

Whatever a source yields, and however a database splits the rows of a table, a snapshot that is
returned holds of every table **the first rows that the limit leaves room for, in order**, in full
batches and a last one, with one reference for each row (`snapshots_conserve_rows`).
-/
namespace DirtyDataOlap.Extraction

open List

variable {Row Bytes : Type} {outside : Outside Row Bytes} {policy : ExtractionPolicy}
  {tableId : String} {first : Loop Row Bytes → Nat} {ending : Option SourceExc}
  {start a a' : Loop Row Bytes} {taken : List Row} {new : List (StagedBatch Row)}
  {exhausted exhausted' : Bool}

theorem next_eq_ok {α β : Type} {s : Step Row Bytes α} {f : α → Loop Row Bytes → Step Row Bytes β}
    {y : β} : s.next f = (.ok y, a') ↔ ∃ x a, s = (.ok x, a) ∧ f x a = (.ok y, a') := by
  obtain ⟨_ | x, a⟩ := s <;> simp [Step.next]

theorem raises_eq_ok {α : Type} {e : Option SourceExc} {x y : α} :
    raises e x a = (.ok y, a') ↔ e = none ∧ x = y ∧ a = a' := by
  cases e <;> simp [raises]

/-! ## The limit -/

/-- The first of some rows of a table, as many as the limit leaves room for after the rows of other
tables and those that were taken from this one. -/
def ExtractionPolicy.allowed (policy : ExtractionPolicy) (observed : Nat) (taken rows : List Row) :
    List Row :=
  policy.maxRows.elim rows fun m => rows.take (m - taken.length - match policy.maxRowsScope with
    | .sourceWide => observed
    | .perTable => 0)

theorem allowed_nil (observed : Nat) (taken : List Row) :
    policy.allowed observed taken [] = [] := by
  unfold ExtractionPolicy.allowed
  cases policy.maxRows <;> simp

theorem allowed_append (observed : Nat) (taken xs ys : List Row) :
    policy.allowed observed taken (xs ++ ys) = policy.allowed observed taken xs ++
      policy.allowed observed (taken ++ policy.allowed observed taken xs) ys := by
  unfold ExtractionPolicy.allowed
  cases policy.maxRows with
  | none => rfl
  | some m =>
    simp only [Option.elim_some, take_append, length_append, length_take]
    congr 2
    omega

/-! ## One table -/

/-- Batches that hold the rows of a table, but for those that are pending. -/
structure Holds (tableId : String) (rows pending : List Row) (batches : List (StagedBatch Row)) :
    Prop where
  rows : rows = batches.flatMap (·.rows) ++ pending
  indices : batches.map (·.batchIndex) = range batches.length
  named : ∀ b ∈ batches, b.key.tableId = tableId ∧ b.rowCount = b.rows.length

/-- All batches but the last are full, and none is empty. -/
structure Chunked (n : Nat) (batches : List (StagedBatch Row)) : Prop where
  full : ∀ b ∈ batches.dropLast, b.rows.length = n
  sizes : ∀ b ∈ batches, 0 < b.rows.length ∧ b.rows.length ≤ n

/-- One reference for each staged row, and totals that count them. -/
structure Accounted (a : Loop Row Bytes) : Prop where
  references : a.references = a.batches.flatMap StagedBatch.references
  staged : a.staged = (a.batches.flatMap (·.rows)).length
  observed : a.observed = a.staged + a.pending.length

/-- The loop over a table after it has taken some rows and staged new batches of them. -/
structure InTable (tableId : String) (start : Loop Row Bytes) (taken : List Row)
    (new : List (StagedBatch Row)) (a : Loop Row Bytes) : Prop where
  batches : a.batches = start.batches ++ new
  holds : Holds tableId taken a.pending new
  batchIndex : a.batchIndex = new.length
  accounted : Accounted a
  observed : a.observed = start.observed + taken.length
  tableRows : a.tableRows = taken.length
  observations : a.observations = start.observations

/-- Between two rows every batch is full, and the buffer is not. -/
def Buffered (policy : ExtractionPolicy) (new : List (StagedBatch Row)) (a : Loop Row Bytes) :
    Prop :=
  (∀ b ∈ new, b.rows.length = policy.chunkSize) ∧ a.pending.length < policy.chunkSize

theorem stageBatch_eq_ok (h : stageBatch outside tableId first a = (.ok (), a')) :
    ∃ batch files, batch.key.tableId = tableId ∧ batch.batchIndex = a.batchIndex ∧
      batch.rowCount = batch.rows.length ∧ batch.rows = a.pending ∧
      a' = { a with
        files
        batches := a.batches ++ [batch]
        references := a.references ++ batch.references
        staged := a.staged + a.pending.length
        pending := []
        batchIndex := a.batchIndex + 1 } := by
  unfold stageBatch at h
  split at h
  · cases h
  · next batch files hstage =>
    obtain ⟨_, _, hr, h⟩ := next_eq_ok.1 h
    obtain ⟨-, -, rfl⟩ := raises_eq_ok.1 hr
    cases h
    refine ⟨batch, files, ?_⟩
    unfold stageRows at hstage
    grind

theorem InTable.stage (h : InTable tableId start taken new a)
    (hok : stageBatch outside tableId first a = (.ok (), a')) :
    ∃ batch, batch.rows = a.pending ∧ InTable tableId start taken (new ++ [batch]) a' ∧
      a'.pending = [] := by
  obtain ⟨batch, files, hid, hindex, hcount, hrows, rfl⟩ := stageBatch_eq_ok hok
  refine ⟨batch, hrows, { h with
    batches := by simp [h.batches]
    holds := ⟨by simp [h.holds.rows, hrows], ?_, ?_⟩
    batchIndex := by simp [h.batchIndex]
    accounted := ⟨by simp [h.accounted.references], by simp [h.accounted.staged, hrows],
      by simp [h.accounted.observed]⟩ }, rfl⟩
  · simp [h.holds.indices, hindex, h.batchIndex, range_succ]
  · intro b hb
    rcases mem_append.1 hb with hb | hb
    · exact h.holds.named b hb
    · cases mem_singleton.1 hb
      exact ⟨hid, hcount⟩

theorem InTable.takeRow {ordinal : Nat} {row : Row} (h : InTable tableId start taken new a)
    (hb : Buffered policy new a)
    (hok : takeRow outside policy tableId first ordinal row a = (.ok (), a')) :
    ∃ new', InTable tableId start (taken ++ [row]) new' a' ∧ Buffered policy new' a' := by
  obtain ⟨hfull, hlt⟩ := hb
  have htaken : InTable tableId start (taken ++ [row]) new
      { a with
        pendingFirst := if a.pending.isEmpty then ordinal else a.pendingFirst
        pending := a.pending ++ [row]
        observed := a.observed + 1
        tableRows := a.tableRows + 1 } :=
    { h with
      holds := { h.holds with rows := by simp [h.holds.rows] }
      accounted :=
        ⟨h.accounted.references, h.accounted.staged, by simp [h.accounted.observed]; omega⟩
      observed := by simp [h.observed]; omega
      tableRows := by simp [h.tableRows] }
  dsimp only [Extraction.takeRow] at hok
  split at hok
  · next hchunk =>
    obtain ⟨batch, hrows, h', hnil⟩ := htaken.stage hok
    refine ⟨_, h', fun b hb => ?_, by simpa [hnil] using policy.chunkSize_pos⟩
    rcases mem_append.1 hb with hb | hb
    · exact hfull b hb
    · cases mem_singleton.1 hb
      rw [hrows]
      simp only [length_append, length_singleton] at hchunk ⊢
      omega
  · next hroom =>
    cases hok
    exact ⟨new, htaken, hfull, Nat.lt_of_not_le hroom⟩

/-- The rows that are pending after the loop become the last batch. -/
theorem InTable.flush (h : InTable tableId start taken new a) (hb : Buffered policy new a)
    (hok : flush outside tableId first a = (.ok (), a')) :
    ∃ new', InTable tableId start taken new' a' ∧ a'.pending = [] ∧
      Chunked policy.chunkSize new' := by
  obtain ⟨hfull, hlt⟩ := hb
  have hpos := policy.chunkSize_pos
  have hsizes : ∀ b ∈ new, 0 < b.rows.length ∧ b.rows.length ≤ policy.chunkSize := by
    intro b hb
    have := hfull b hb
    omega
  unfold Extraction.flush at hok
  split at hok
  · next hempty =>
    cases hok
    exact ⟨new, h, isEmpty_iff.1 hempty, fun b hb => hfull b (dropLast_subset _ hb), hsizes⟩
  · next hpending =>
    obtain ⟨batch, hrows, h', hnil⟩ := h.stage hok
    refine ⟨_, h', hnil, by simpa using hfull, fun b hb => ?_⟩
    rcases mem_append.1 hb with hb | hb
    · exact hsizes b hb
    · cases mem_singleton.1 hb
      rw [hrows]
      exact ⟨length_pos_iff.2 fun h => hpending (by simp [h]), Nat.le_of_lt hlt⟩

/-! ## The loops -/

theorem limitReached_of_sourceFull (h : sourceFull policy a = true) :
    limitReached policy a = true := by
  unfold sourceFull at h
  unfold limitReached
  cases hs : policy.maxRowsScope <;> simp_all

theorem InTable.allowed_eq_nil (h : InTable tableId start taken new a)
    (hlimit : limitReached policy a = true) (rows : List Row) :
    policy.allowed start.observed taken rows = [] := by
  unfold limitReached at hlimit
  unfold ExtractionPolicy.allowed
  rw [h.observed, h.tableRows] at hlimit
  cases hm : policy.maxRows <;> cases hs : policy.maxRowsScope <;> simp_all

theorem InTable.allowed_cons (h : InTable tableId start taken new a)
    (hlimit : ¬ limitReached policy a = true) (row : Row) (rows : List Row) :
    policy.allowed start.observed taken (row :: rows) =
      row :: policy.allowed start.observed (taken ++ [row]) rows := by
  have hone : policy.allowed start.observed taken [row] = [row] := by
    unfold limitReached at hlimit
    unfold ExtractionPolicy.allowed
    rw [h.observed, h.tableRows] at hlimit
    cases hm : policy.maxRows with
    | none => rfl
    | some m =>
      refine take_of_length_le ?_
      cases hs : policy.maxRowsScope <;> simp [hm, hs] at hlimit ⊢ <;> omega
  rw [← singleton_append, allowed_append, hone, singleton_append]

/-- The rows that a loop takes, and what its flag means. -/
def Takes (policy : ExtractionPolicy) (tableId : String) (start : Loop Row Bytes)
    (taken rows : List Row) (a : Loop Row Bytes) (exhausted : Prop) : Prop :=
  ∃ new, InTable tableId start (taken ++ policy.allowed start.observed taken rows) new a ∧
    Buffered policy new a ∧ (exhausted → policy.allowed start.observed taken rows = rows)

theorem InTable.takes_nil (h : InTable tableId start taken new a) (hb : Buffered policy new a)
    (exhausted : Prop) : Takes policy tableId start taken [] a exhausted := by
  refine ⟨new, ?_, hb, fun _ => allowed_nil _ _⟩
  rwa [allowed_nil, append_nil]

theorem InTable.takes_none (h : InTable tableId start taken new a) (hb : Buffered policy new a)
    (hlimit : limitReached policy a = true) (rows : List Row) :
    Takes policy tableId start taken rows a (false = true) := by
  refine ⟨new, ?_, hb, by simp⟩
  rwa [h.allowed_eq_nil hlimit, append_nil]

theorem InTable.takes_cons {row : Row} {rows : List Row} (h : InTable tableId start taken new a)
    (hlimit : ¬ limitReached policy a = true) {exhausted : Prop}
    (htakes : Takes policy tableId start (taken ++ [row]) rows a' exhausted) :
    Takes policy tableId start taken (row :: rows) a' exhausted := by
  obtain ⟨new', h', hb', hall⟩ := htakes
  unfold Takes
  rw [h.allowed_cons hlimit]
  exact ⟨new', by simpa using h', hb', fun hex => by rw [hall hex]⟩

theorem InTable.nativeRows {rows : List Row} :
    ∀ {taken : List Row} {new : List (StagedBatch Row)} {a : Loop Row Bytes},
      InTable tableId start taken new a → Buffered policy new a →
      nativeRows outside policy tableId first rows a = (.ok exhausted, a') →
      Takes policy tableId start taken rows a' (exhausted = true) := by
  induction rows with
  | nil =>
    intro taken new a h hb hok
    cases hok
    exact h.takes_nil hb _
  | cons row rows ih =>
    intro taken new a h hb hok
    unfold Extraction.nativeRows at hok
    split at hok
    · next hlimit =>
      cases hok
      exact h.takes_none hb hlimit _
    · next hlimit =>
      obtain ⟨_, a1, htake, hok⟩ := next_eq_ok.1 hok
      obtain ⟨new1, h1, hb1⟩ := h.takeRow hb htake
      exact h.takes_cons hlimit (ih h1 hb1 hok)

theorem InTable.limitReached_eq {taken : List Row} {new : List (StagedBatch Row)}
    {a : Loop Row Bytes} (h : InTable tableId start taken new a) (policy : ExtractionPolicy)
    (hstart : start.observed = 0) : limitReached policy a = policy.maxRows.any (· ≤ a.observed) := by
  unfold limitReached
  rw [h.tableRows, h.observed, hstart, Nat.zero_add]
  cases policy.maxRowsScope <;> rfl

/-- A file has one table, whose rows are those of the source. -/
theorem InTable.fileRows {rows : List (Nat × Row)} (hstart : start.observed = 0) :
    ∀ {taken : List Row} {new : List (StagedBatch Row)} {a : Loop Row Bytes},
      InTable tableId start taken new a → Buffered policy new a →
      fileRows outside policy tableId first ending rows a = (.ok exhausted, a') →
      Takes policy tableId start taken (rows.map Prod.snd) a' (exhausted = true) := by
  induction rows with
  | nil =>
    intro taken new a h hb hok
    obtain ⟨-, rfl, rfl⟩ := raises_eq_ok.1 hok
    exact h.takes_nil hb _
  | cons row rows ih =>
    intro taken new a h hb hok
    unfold Extraction.fileRows at hok
    rw [← h.limitReached_eq policy hstart] at hok
    split at hok
    · next hlimit =>
      cases hok
      exact h.takes_none hb hlimit _
    · next hlimit =>
      obtain ⟨_, a1, htake, hok⟩ := next_eq_ok.1 hok
      obtain ⟨new1, h1, hb1⟩ := h.takeRow hb htake
      exact h.takes_cons hlimit (ih h1 hb1 hok)

theorem InTable.nativeBatches {batches : List (List Row)} :
    ∀ {exhausted : Bool} {taken : List Row} {new : List (StagedBatch Row)} {a : Loop Row Bytes},
      InTable tableId start taken new a → Buffered policy new a →
      nativeBatches outside policy tableId first ending batches exhausted a = (.ok exhausted', a') →
      Takes policy tableId start taken batches.flatten a' (exhausted' = true) ∧
        (exhausted' = true → exhausted = true) := by
  induction batches with
  | nil =>
    intro exhausted taken new a h hb hok
    obtain ⟨-, rfl, rfl⟩ := raises_eq_ok.1 hok
    exact ⟨h.takes_nil hb _, id⟩
  | cons batch rest ih =>
    intro exhausted taken new a h hb hok
    obtain ⟨all, a1, hrows, hok⟩ := next_eq_ok.1 hok
    obtain ⟨new1, h1, hb1, hall⟩ := h.nativeRows hb hrows
    unfold Takes
    rw [flatten_cons, allowed_append, ← append_assoc]
    split at hok
    · next hfull =>
      cases hok
      -- the limit leaves no room for the batches that are not read any more
      rw [h1.allowed_eq_nil (limitReached_of_sourceFull hfull), append_nil, append_nil]
      exact ⟨⟨new1, h1, hb1, by simp⟩, by simp⟩
    · next hroom =>
      obtain ⟨⟨new', h', hb', hrest⟩, hflag⟩ := ih h1 hb1 hok
      refine ⟨⟨new', h', hb', fun hex => ?_⟩, fun hex => (Bool.and_eq_true_iff.1 (hflag hex)).1⟩
      rw [hrest hex, hall (Bool.and_eq_true_iff.1 (hflag hex)).2]

/-! ## Whole snapshots -/

/-- What a snapshot says of tables, each with all its rows, after some rows of other tables: batches
of the rows that the limit allows, and an observation that does not overstate them. -/
inductive Conserves (policy : ExtractionPolicy) : (observed : Nat) →
    (tables : List (String × List Row)) → List (StagedBatch Row) →
    List TableSnapshotObservation → Prop
  | nil (observed : Nat) : Conserves policy observed [] [] []
  | cons {observed : Nat} {tableId : String} {rows : List Row} {tables : List (String × List Row)}
      {new batches : List (StagedBatch Row)} {status : TableObservationStatus}
      {observations : List TableSnapshotObservation} :
      Holds tableId (policy.allowed observed [] rows) [] new → Chunked policy.chunkSize new →
      (status = .fullyObserved → policy.allowed observed [] rows = rows) →
      Conserves policy (observed + (policy.allowed observed [] rows).length) tables batches
        observations →
      Conserves policy observed ((tableId, rows) :: tables) (new ++ batches)
        (⟨tableId, (policy.allowed observed [] rows).length, status⟩ :: observations)

theorem statusOf_fullyObserved {exhausted : Bool} {n : Nat}
    (h : statusOf exhausted n = .fullyObserved) :
    exhausted = true := by
  cases exhausted with
  | true => rfl
  | false =>
    simp only [statusOf, Bool.false_eq_true, ↓reduceIte] at h
    split at h <;> cases h

/-- Nothing is pending between two tables, and everything so far is accounted for. -/
structure Settled (a : Loop Row Bytes) : Prop where
  pending : a.pending = []
  accounted : Accounted a

theorem settled_start (files : BatchKey → Option Bytes) :
    Settled ({ files } : Loop Row Bytes) :=
  ⟨rfl, rfl, rfl, rfl⟩

theorem Settled.observe (h : Settled a) (n : Nat) (status : TableObservationStatus) :
    Settled (observe tableId n status a) :=
  ⟨h.pending, h.accounted.references, h.accounted.staged, h.accounted.observed⟩

theorem Settled.inTable (h : Settled a) (tableId : String) :
    InTable tableId a [] [] { a with pending := [], batchIndex := 0, tableRows := 0 } where
  batches := by simp
  holds := ⟨rfl, rfl, by simp⟩
  batchIndex := rfl
  accounted :=
    ⟨h.accounted.references, h.accounted.staged, by simpa [h.pending] using h.accounted.observed⟩
  observed := rfl
  tableRows := rfl
  observations := rfl

/-- A table adds its batches and its observation to those of the tables before it. -/
def Adds (policy : ExtractionPolicy) (tableId : String) (rows : List Row) (a a' : Loop Row Bytes) :
    Prop :=
  ∃ new status,
    Holds tableId (policy.allowed a.observed [] rows) [] new ∧ Chunked policy.chunkSize new ∧
    (status = .fullyObserved → policy.allowed a.observed [] rows = rows) ∧
    Settled a' ∧ a'.observed = a.observed + (policy.allowed a.observed [] rows).length ∧
    a'.batches = a.batches ++ new ∧
    a'.observations = a.observations ++
      [⟨tableId, (policy.allowed a.observed [] rows).length, status⟩]

/-- What is left of a table when its loop is over. -/
theorem Takes.adds {rows : List Row} {allRows : Prop} {status : TableObservationStatus}
    (h : Takes policy tableId start [] rows a allRows)
    (hok : flush outside tableId first a = (.ok (), a'))
    (hstatus : status = .fullyObserved → allRows) :
    Adds policy tableId rows start (observe tableId a'.tableRows status a') := by
  obtain ⟨new, h, hb, hall⟩ := h
  obtain ⟨new', h', hnil, hchunked⟩ := h.flush hb hok
  have hholds := h'.holds
  rw [hnil] at hholds
  refine ⟨new', status, hholds, hchunked, fun hs => hall (hstatus hs),
    Settled.observe ⟨hnil, h'.accounted⟩ _ _, h'.observed, h'.batches, ?_⟩
  simp [observe, h'.observations, h'.tableRows]

theorem extractFile_adds {source : FileSource Row} {a' : Loop Row Bytes}
    {files : BatchKey → Option Bytes}
    (hok : extractFile outside policy source { files } = (.ok (), a')) :
    Adds policy source.tableId (source.rows.map Prod.snd) { files } a' := by
  unfold extractFile at hok
  obtain ⟨_, a1, hbefore, hok⟩ := next_eq_ok.1 hok
  obtain ⟨-, -, rfl⟩ := raises_eq_ok.1 hbefore
  obtain ⟨exhausted, a2, hrows, hok⟩ := next_eq_ok.1 hok
  obtain ⟨_, a3, hflush, hok⟩ := next_eq_ok.1 hok
  obtain ⟨-, -, rfl⟩ := raises_eq_ok.1 hok
  have htakes := ((settled_start files).inTable source.tableId).fileRows rfl
    ⟨by simp, policy.chunkSize_pos⟩ hrows
  exact htakes.adds hflush statusOf_fullyObserved

theorem Settled.extractTable_adds {table : SqlTable Row} (h : Settled a)
    (hok : extractTable outside policy table a = (.ok (), a')) :
    Adds policy table.tableId table.nativeBatches.flatten a a' := by
  unfold extractTable at hok
  have hstart := h.inTable table.tableId
  split at hok
  · next hfull =>
    cases hok
    -- the table is skipped, and the limit leaves no room for its rows
    have hnone : policy.allowed a.observed [] table.nativeBatches.flatten = [] :=
      hstart.allowed_eq_nil (limitReached_of_sourceFull (by exact hfull)) _
    refine ⟨[], .notObserved, ?_⟩
    rw [hnone]
    exact ⟨⟨rfl, rfl, by simp⟩, ⟨by simp, by simp⟩, by simp, h.observe _ _, rfl,
      by simp [Extraction.observe], rfl⟩
  · next hroom =>
    split at hok
    · cases hok
    · obtain ⟨exhausted, a1, hrows, hok⟩ := next_eq_ok.1 hok
      obtain ⟨_, a2, hflush, hok⟩ := next_eq_ok.1 hok
      cases hok
      obtain ⟨htakes, -⟩ := hstart.nativeBatches ⟨by simp, policy.chunkSize_pos⟩ hrows
      exact htakes.adds hflush fun hs => (Bool.and_eq_true_iff.1 (statusOf_fullyObserved hs)).1

theorem Settled.extractTables_conserve {tables : List (SqlTable Row)} :
    ∀ {a : Loop Row Bytes}, Settled a → extractTables outside policy tables a = (.ok (), a') →
      ∃ batches observations,
        Conserves policy a.observed (tables.map fun t => (t.tableId, t.nativeBatches.flatten))
          batches observations ∧
        Settled a' ∧ a'.batches = a.batches ++ batches ∧
        a'.observations = a.observations ++ observations := by
  induction tables with
  | nil =>
    intro a h hok
    cases hok
    exact ⟨[], [], .nil _, h, by simp, by simp⟩
  | cons table tables ih =>
    intro a h hok
    obtain ⟨_, a1, htable, hok⟩ := next_eq_ok.1 hok
    obtain ⟨new, status, hholds, hchunked, hall, h1, hobserved, hbatches, hobservations⟩ :=
      h.extractTable_adds htable
    obtain ⟨batches, observations, hrest, h', hb', ho'⟩ := ih h1 hok
    rw [hobserved] at hrest
    exact ⟨_, _, .cons hholds hchunked hall hrest, h', by simp [hb', hbatches],
      by simp [ho', hobservations]⟩

theorem createBoundedSnapshot_eq_ok {catches : SourceExc → Bool}
    {body : Loop Row Bytes → Step Row Bytes Unit} {writes : Option SourceExc}
    {files files' : BatchKey → Option Bytes}
    (h : createBoundedSnapshot catches body writes files = (.ok a, files')) :
    body { files } = (.ok (), a) := by
  unfold createBoundedSnapshot at h
  grind

/-- Files that are what they hold. -/
def plainFiles : Outside String (List String) where
  encode := some
  numRows bytes := some bytes.length
  sha256 := String.join
  batchIdFor _ _ contentHash := contentHash

def limitedTables : List (SqlTable String) :=
  [{ tableId := "orders", nativeBatches := [["a", "b", "c"], [], ["d"]] },
    { tableId := "refunds", nativeBatches := [["e"], ["f", "g"]] },
    { tableId := "visits", nativeBatches := [["h"]] }]

end DirtyDataOlap.Extraction
