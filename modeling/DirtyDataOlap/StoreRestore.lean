import DirtyDataOlap.CrashLogic

/-!
# Restoring the control store

`restore_control_store` of `application/reliability.py`.  A verified copy of the backup replaces the
database in one step, but the log of the replaced database is removed in the next one: **a crash
between the two reopens the backup under the log of another history** (`restore_atomic_iff`).
-/
namespace DirtyDataOlap.Reliability

open Prog

/-- The pages of a database file.  A manifest has its digest, by which it is compared. -/
abbrev Pages := List String

/-- A page is written; the pages between the end of the file and a page behind it are empty. -/
def writePage (pages : Pages) (frame : Nat × String) : Pages :=
  (pages ++ List.replicate (frame.1 + 1 - pages.length) "").set frame.1 frame.2

structure WriteAheadLog where
  headerMatches : Bool
  frames : List (Nat × String)

/-- What opening a database makes of its pages and a log. -/
def WriteAheadLog.replay (log : WriteAheadLog) (pages : Pages) : Pages :=
  if log.headerMatches then log.frames.foldl writePage pages else pages

/-- The files at the destination; the shared-memory file has no content of its own. -/
structure Destination where
  database : Option Pages
  wal : Option WriteAheadLog
  shm : Bool := false
  temporary : Option Pages := none

/-- The content of the database that is opened at the destination. -/
def Destination.reopen (d : Destination) : Option Pages :=
  d.database.map fun pages => (d.wal.map (·.replay pages)).getD pages

inductive RestoreExc
  | reliability | os | sqlite

/-- The operations of `restore_control_store`. -/
inductive RestoreAct
  /-- `inspect_control_store_backup`, and the checks of the paths. -/
  | inspect
  | makeParent
  /-- `sqlite3.connect` on the temporary file. -/
  | connect
  /-- `source.backup` and the commit. -/
  | copyPages
  /-- `_check_database` of the temporary file. -/
  | checkTemporary
  | replaceDatabase
  | unlinkWal
  | unlinkShm
  /-- `SQLiteControlStore(target)` and the check of its schema version. -/
  | openStore
  | unlinkTemporary
deriving DecidableEq

/-- What the world outside does to an operation: it may raise, and it says what was copied. -/
structure RestoreOutside where
  fault : Option RestoreExc := none
  copied : Pages := []

/-- What an operation does that does not raise. -/
def RestoreAct.effect (backup : Pages) (ω : RestoreOutside) (d : Destination) :
    RestoreAct → Except RestoreExc Unit × Destination
  | inspect | makeParent | openStore => (.ok (), d)
  | connect => (.ok (), { d with temporary := some [] })
  | copyPages => (.ok (), { d with temporary := some ω.copied })
  | checkTemporary =>
    (if d.temporary = some backup then .ok () else .error .reliability, d)
  | replaceDatabase =>
    match d.temporary with
    | some pages => (.ok (), { d with database := some pages, temporary := none })
    | none => (.error .os, d)
  | unlinkWal => (.ok (), { d with wal := none })
  | unlinkShm => (.ok (), { d with shm := false })
  | unlinkTemporary => (.ok (), { d with temporary := none })

/-- An operation raises and leaves the files, but for what was copied by then, or has its effect. -/
def performRestore (backup : Pages) (a : RestoreAct) (ω : RestoreOutside) (d : Destination) :
    Except RestoreExc Unit × Destination :=
  match ω.fault, a with
  | some e, .copyPages => (.error e, { d with temporary := some ω.copied })
  | some e, _ => (.error e, d)
  | none, a => a.effect backup ω d

abbrev Restoring := Prog (fun _ : RestoreAct => Unit) RestoreExc

/-- `restore_control_store`. -/
def restoreControlStore : Restoring Unit := do
  call .inspect
  call .makeParent
  Prog.tryCatch (do
    call .connect
    call .copyPages
    call .checkTemporary
    call .replaceDatabase
    call .unlinkWal
    call .unlinkShm
    call .openStore) fun e => do
      call .unlinkTemporary
      raise e

variable {backup : Pages} {d d' : Destination}

/-- The destination is as it was, or it has the backup, with the old log or with none. -/
def Midway (backup : Pages) (d d' : Destination) : Prop :=
  (d'.database = d.database ∧ d'.wal = d.wal) ∨
    (d'.database = some backup ∧ (d'.wal = d.wal ∨ d'.wal = none))

/-- The database and its log are as they were. -/
def Untouched (d d' : Destination) : Prop := d'.database = d.database ∧ d'.wal = d.wal

theorem Midway.untouched (h : Midway backup d d') {s : Destination} (hs : Untouched d' s) :
    Midway backup d s := by
  unfold Midway
  rw [hs.1, hs.2]
  exact h

theorem throughout_quiet {a : RestoreAct} (h : Midway backup d d')
    (ha : a ≠ .replaceDatabase ∧ a ≠ .unlinkWal) :
    (call a : Restoring Unit).Throughout (performRestore backup) (Midway backup d) d'
      fun _ s => Untouched d' s := by
  have hkeeps : ∀ ω, Untouched d' (performRestore backup a ω d').2 := by
    rintro ⟨_ | e, copied⟩
    · cases a with
      | replaceDatabase => exact absurd rfl ha.1
      | unlinkWal => exact absurd rfl ha.2
      | _ => exact ⟨rfl, rfl⟩
    · cases a <;> exact ⟨rfl, rfl⟩
  exact fun ω => ⟨h.untouched (hkeeps ω), hkeeps ω⟩

/-- **From the check on**: only the backup replaces the database, and then the log goes. -/
theorem throughout_replacing (h : Untouched d d') :
    (do call .checkTemporary; call .replaceDatabase; call .unlinkWal; call .unlinkShm
        call .openStore : Restoring Unit).Throughout (performRestore backup) (Midway backup d) d'
      fun _ s => Midway backup d s := by
  rintro ⟨_ | e, copied⟩
  swap
  · exact ⟨.inl h, .inl h⟩
  refine ⟨.inl h, ?_⟩
  by_cases htemp : d'.temporary = some backup
  swap
  · simp only [performRestore, RestoreAct.effect, if_neg htemp]
    exact .inl h
  simp only [performRestore, RestoreAct.effect, if_pos htemp]
  rintro ⟨_ | e, copied⟩
  swap
  · exact ⟨.inl h, .inl h⟩
  simp only [performRestore, RestoreAct.effect, htemp]
  refine ⟨.inr ⟨rfl, .inl h.2⟩, ?_⟩
  rintro ⟨_ | e, copied⟩
  swap
  · exact ⟨.inr ⟨rfl, .inl h.2⟩, .inr ⟨rfl, .inl h.2⟩⟩
  have hdone : Midway backup d
      { d' with database := some backup, temporary := none, wal := none } := .inr ⟨rfl, .inr rfl⟩
  refine ⟨hdone, ?_⟩
  show ((call .unlinkShm).bind fun _ => call .openStore : Restoring Unit).Throughout _ _ _ _
  refine throughout_bind _ (throughout_quiet hdone (by decide)) (fun _ s hs => ?_)
    fun _ _ hs => hdone.untouched hs
  have hs' := hdone.untouched hs
  exact (throughout_quiet hs' (by decide)).mono (fun _ h => h) fun _ _ h => hs'.untouched h

theorem throughout_restore :
    restoreControlStore.Throughout (performRestore backup) (Midway backup d) d
      fun _ s => Midway backup d s := by
  -- before the check only the temporary file is written
  have hearly : ∀ a ∈ [RestoreAct.inspect, .makeParent, .connect, .copyPages], ∀ d',
      Untouched d d' → (call a : Restoring Unit).Throughout (performRestore backup)
        (Midway backup d) d' fun _ s => Untouched d s := by
    intro a ha d' h
    refine (throughout_quiet (.inl h) ?_).mono (fun _ h => h) fun _ s hs =>
      ⟨hs.1.trans h.1, hs.2.trans h.2⟩
    constructor <;> rintro rfl <;> revert ha <;> decide
  refine throughout_bind _ (hearly .inspect (by decide) d ⟨rfl, rfl⟩) (fun _ d1 h1 => ?_)
    fun _ _ h => .inl h
  refine throughout_bind _ (hearly .makeParent (by decide) d1 h1) (fun _ d2 h2 => ?_)
    fun _ _ h => .inl h
  refine throughout_tryCatch (fun _ s => Midway backup d s) ?_ (fun _ _ h => h) ?_
  · refine throughout_bind _ (hearly .connect (by decide) d2 h2) (fun _ d3 h3 => ?_)
      fun _ _ h => .inl h
    exact throughout_bind _ (hearly .copyPages (by decide) d3 h3)
      (fun _ d4 h4 => throughout_replacing h4) fun _ _ h => .inl h
  · intro e s hs
    exact throughout_bind _ (throughout_quiet hs (by decide)) (fun _ _ h => hs.untouched h)
      fun _ _ h => hs.untouched h

/-- What is opened at the destination is what was there, or the backup. -/
def Atomic (backup : Pages) (d d' : Destination) : Prop :=
  d'.reopen = d.reopen ∨ d'.reopen = some backup

def LogHarmless (backup : Pages) (d : Destination) : Prop :=
  ∀ log, d.wal = some log → log.replay backup = backup ∨ some (log.replay backup) = d.reopen

theorem Midway.atomic (h : Midway backup d d') (hlog : LogHarmless backup d) :
    Atomic backup d d' := by
  unfold Atomic Destination.reopen
  rcases h with ⟨hdatabase, hwal⟩ | ⟨hdatabase, hwal | hwal⟩
  · rw [hdatabase, hwal]
    exact .inl rfl
  · rw [hdatabase, hwal]
    cases hpending : d.wal with
    | none => exact .inr rfl
    | some log =>
      rcases hlog log hpending with hsame | hsame
      · exact .inr (congrArg some hsame)
      · rw [Destination.reopen, hpending] at hsame
        exact .inl hsame
  · rw [hdatabase, hwal]
    exact .inr rfl

/-- The crash that comes right after the database was replaced. -/
theorem stops_replaced : restoreControlStore.Stops (performRestore backup) d
    { d with database := some backup, temporary := none } := by
  refine .inr ⟨{}, .inr ⟨{}, .inr ⟨{}, .inr ⟨{ copied := backup }, .inr ⟨{}, ?_⟩⟩⟩⟩⟩
  simp only [performRestore, RestoreAct.effect, if_true]
  exact .inr ⟨{}, .inl rfl⟩

/-- **Restore is atomic exactly when the log that the destination has pending is harmless to the
backup**, for a crash at any operation and a call that raises at any. -/
theorem restore_atomic_iff (backup : Pages) (d : Destination) :
    ((∀ d', restoreControlStore.Stops (performRestore backup) d d' → Atomic backup d d') ∧
      ∀ e d', restoreControlStore.Runs (performRestore backup) d (.error e) d' →
        Atomic backup d d') ↔ LogHarmless backup d := by
  constructor
  · rintro ⟨hstops, -⟩ log hpending
    rcases hstops _ stops_replaced with hsame | hsame
    · rw [← hsame, Destination.reopen, hpending]
      exact .inr rfl
    · rw [Destination.reopen, hpending] at hsame
      exact .inl (Option.some.inj hsame)
  · intro hlog
    exact ⟨fun d' h => (throughout_restore.stops (.inl ⟨rfl, rfl⟩) h).atomic hlog,
      fun e d' h => (throughout_restore.runs h).atomic hlog⟩

/-- **The backup under the log of the database that it replaced**: its first page comes from the
log, its second from the backup. -/
theorem restore_mixes : ¬ ∀ (backup : Pages) (d d' : Destination),
    restoreControlStore.Stops (performRestore backup) d d' → Atomic backup d d' := by
  intro h
  have hatomic := h ["backup-1", "backup-2"]
    ⟨some ["old-1", "old-2"], some ⟨true, [(0, "new-1")]⟩, false, none⟩ _ stops_replaced
  unfold Atomic Destination.reopen at hatomic
  revert hatomic
  decide

end DirtyDataOlap.Reliability
