import DirtyDataOlap.CommandSubmission

/-!
# Submission is idempotent

Any number of concurrent calls of one request, each of which may be answered, fail before or after a
commit, or crash.  **The key is a lock that is never released**: only the call that creates the
record hands the command over, completes the record or marks it unknown.

A completed record is an answer for ever only as long as its owner does not overwrite it: when the
completion has committed but raised, `_submission` marks the record unknown, and later calls get
another answer.
-/
namespace DirtyDataOlap

open List Contract

/-- The jobs of a command. -/
def Store.commandJobs (s : Store) (commandId : String) : List JobRecord :=
  s.jobs.rows.filter fun j => j.commandId = some commandId

def SubmissionRequest.record (request : SubmissionRequest) (d : ControlDatabase) :
    Option IdempotencyRecord :=
  d.getIdempotency request.scope request.idempotencyKey

/-! ## What the transactions do -/

namespace ControlDatabase
variable {d : ControlDatabase}

theorem reserveIdempotency_none {record : IdempotencyRecord} (hstate : record.state = .reserved)
    (h : d.getIdempotency record.scope record.key = none) :
    ∃ d', (reserveIdempotency record).commit d = (.ok (record, true), d') ∧
      d'.store = d.store ∧ d'.getIdempotency record.scope record.key = some record := by
  obtain ⟨t, ht⟩ : ∃ t, d.idempotency.insert? record = some t := Table.exists_insert? h
  refine ⟨{ d with idempotency := t }, ?_, rfl, ?_⟩
  · simp only [Transaction.commit, reserveIdempotency, hstate, h, insertIdempotency, ht]
    rfl
  · unfold getIdempotency at h ⊢
    rw [Table.find?_insert? ht, h]
    simp [IdempotencyRecord.id]

theorem reserveIdempotency_some {record stored : IdempotencyRecord}
    (hstate : record.state = .reserved)
    (h : d.getIdempotency record.scope record.key = some stored) :
    (reserveIdempotency record).commit d =
      (if stored.requestFingerprint = record.requestFingerprint then .ok (stored, false)
        else .error (.artifactConflict
          "idempotency key is already bound to a different semantic request"), d) := by
  simp only [Transaction.commit, reserveIdempotency, hstate, h, assertIdempotencyMatch, ensure]
  by_cases hfp : stored.requestFingerprint = record.requestFingerprint
  · simp [hfp, bind, Except.bind]
  · simp [hfp, bind, Except.bind]

/-- Updating a record: nothing happens, or the record gets its new state and body. -/
theorem updateIdempotency_commit (record : IdempotencyRecord) (state : IdempotencyState)
    (d : ControlDatabase) : ((updateIdempotency record state).commit d).2 = d ∨
      ∃ stored updated, d.getIdempotency record.scope record.key = some stored ∧
        ((updateIdempotency record state).commit d).2.store = d.store ∧
        ((updateIdempotency record state).commit d).2.getIdempotency record.scope record.key =
          some updated ∧ updated.state = state ∧ updated.responseBody = record.responseBody := by
  cases h : d.getIdempotency record.scope record.key with
  | none =>
    left
    simp [Transaction.commit, updateIdempotency, h]
  | some stored =>
    by_cases hfp : stored.requestFingerprint = record.requestFingerprint
    swap
    · left
      simp [Transaction.commit, updateIdempotency, h, assertIdempotencyMatch, ensure, hfp, bind,
        Except.bind]
    · right
      have hkey : stored.scope = record.scope ∧ stored.key = record.key := by
        have hid := Table.find?_key h
        simpa [IdempotencyRecord.id] using hid
      simp only [Transaction.commit, updateIdempotency, h, assertIdempotencyMatch, ensure, hfp,
        decide_true, if_true, bind, Except.bind]
      refine ⟨stored,
        { stored with
          state
          responseStatus := record.responseStatus
          responseBody := record.responseBody
          resourceId :=
            if record.resourceId.any (· ≠ "") then record.resourceId else stored.resourceId },
        rfl, trivial, ?_, rfl, rfl⟩
      have hfind : d.idempotency.find? (record.scope, record.key) = some stored := h
      have hupdate := Table.find?_update d.idempotency
        (fun r => r.scope = record.scope ∧ r.key = record.key)
        (fun r => { r with
          state
          responseStatus := record.responseStatus
          responseBody := record.responseBody
          resourceId :=
            if record.resourceId.any (· ≠ "") then record.resourceId else stored.resourceId })
        (fun _ => rfl) (record.scope, record.key)
      rw [hfind] at hupdate
      exact hupdate.trans (by simp [hkey])

theorem commandJobs_insert {s : Store} {jobs : Table JobRecord.jobId} {job : JobRecord}
    {commandId : String} (h : s.jobs.insert? job = some jobs)
    (hcommand : job.commandId = some commandId) (hnone : s.commandJobs commandId = []) :
    Store.commandJobs { s with jobs } commandId = [job] := by
  unfold Store.commandJobs at hnone ⊢
  rw [Table.insert?_rows h, filter_append, hnone]
  simp [hcommand]

/-- An enqueued command has a job, and gets one only if it had none. -/
theorem enqueueExecutionCommand_jobs {s s' : Store} {stableId : StableKey → String}
    {command : ExecutionCommand} {runId : String} {reply : JobRecord × Bool}
    (h : Store.enqueueExecutionCommand stableId command runId s = .ok (reply, s')) :
    s'.commandJobs command.commandId ≠ [] ∧ (s' = s ∨ (s.commandJobs command.commandId = [] ∧
        ∃ job, s'.commandJobs command.commandId = [job])) := by
  obtain ⟨_, _, h⟩ := bind_eq_ok.mp h
  cases hfind : s.jobs.rows.find? fun j => j.commandId = some command.commandId with
  | some stored =>
    rw [hfind] at h
    obtain ⟨_, _, h⟩ := bind_eq_ok.mp h
    cases h
    have hcommand := find?_some hfind
    have hmem : stored ∈ s.commandJobs command.commandId :=
      mem_filter.mpr ⟨mem_of_find?_eq_some hfind, hcommand⟩
    exact ⟨ne_nil_of_mem hmem, .inl rfl⟩
  | none =>
    rw [hfind] at h
    obtain ⟨_, _, h⟩ := bind_eq_ok.mp h
    obtain ⟨s1, hins, h⟩ := bind_eq_ok.mp h
    cases h
    unfold Store.insertJob at hins
    split at hins
    swap
    · cases hins
    rename_i jobs hjobs
    cases hins
    have hnone : s.commandJobs command.commandId = [] :=
      filter_eq_nil_iff.mpr (find?_eq_none.mp hfind)
    have hone := commandJobs_insert hjobs rfl hnone
    exact ⟨by simp [hone], .inr ⟨hnone, _, hone⟩⟩

/-- The port keeps the idempotency records and gives the command at most one job; an accepted
command has one. -/
structure HandsOver {ε : Type} (commandId : String) (d : ControlDatabase)
    (after : Except ε SubmissionResult × ControlDatabase) : Prop where
  idempotency : after.2.idempotency = d.idempotency
  jobs : after.2.store.commandJobs commandId = d.store.commandJobs commandId ∨
    (d.store.commandJobs commandId = [] ∧ ∃ job, after.2.store.commandJobs commandId = [job])
  accepted : ∀ result, after.1 = .ok result → result.status = .accepted →
    after.2.store.commandJobs commandId ≠ []

theorem durableSubmitCommand_commit (stableId : StableKey → String) (command : ExecutionCommand)
    (runId : String) (d : ControlDatabase) :
    HandsOver command.commandId d ((durableSubmitCommand stableId command runId).commit d) := by
  unfold Transaction.commit durableSubmitCommand onStore
  cases h : Store.enqueueExecutionCommand stableId command runId d.store with
  | error e => exact ⟨rfl, .inl rfl, fun _ hok => by cases hok⟩
  | ok reply =>
    obtain ⟨reply, store⟩ := reply
    obtain ⟨hne, hcases⟩ := enqueueExecutionCommand_jobs h
    refine ⟨rfl, ?_, fun _ _ _ => hne⟩
    rcases hcases with heq | hnew
    · exact .inl (by rw [← heq]; rfl)
    · exact .inr hnew

theorem submitCommand_commit (service : SubmissionService) (closed : Bool)
    (command : ExecutionCommand) (runId : String) (d : ControlDatabase) :
    HandsOver command.commandId d ((service.submitCommand closed command runId).commit d) := by
  have hsame : ∀ r : SubmissionResult, r.status = .unavailable →
      ∀ result, (Except.ok r : Except Exc SubmissionResult) = .ok result →
        result.status = .accepted → d.store.commandJobs command.commandId ≠ [] := by
    rintro r hr result ⟨⟩ hacc
    rw [hr] at hacc
    cases hacc
  unfold SubmissionService.submitCommand
  split
  · exact durableSubmitCommand_commit service.stableId command runId d
  · split
    · exact ⟨rfl, .inl rfl, hsame _ rfl⟩
    · exact durableSubmitCommand_commit service.stableId command runId d
  · exact ⟨rfl, .inl rfl, hsame _ rfl⟩

end ControlDatabase

/-! ## What the actions do -/

section Actions
open ControlDatabase
variable {service : SubmissionService} {request : SubmissionRequest} {ω : SubmitInput}
variable {d s : ControlDatabase}

/-- **An action has had its effect or not**, and an answer says that it has. -/
theorem submitExec_cases {a : SubmitAct} {r : Except SubmissionExc a.Reply}
    (h : submitExec service a ω d = (r, s)) :
    (s = d ∨ s = ((a.transaction service ω.closed).commit d).2) ∧
      ∀ v, r = .ok v → (a.transaction service ω.closed).commit d = (.ok v, s) := by
  unfold submitExec at h
  split at h
  · split at h
    · rename_i hcommit
      cases h
      exact ⟨.inr (by rw [hcommit]), fun v hv => by cases hv; exact hcommit⟩
    · rename_i hcommit
      cases h
      exact ⟨.inr (by rw [hcommit]), fun v hv => by cases hv⟩
  · cases h
    exact ⟨.inl rfl, fun v hv => by cases hv⟩
  · cases h
    exact ⟨.inr rfl, fun v hv => by cases hv⟩

theorem exec_reserve {r : Except SubmissionExc (IdempotencyRecord × Bool)}
    (h : submitExec service (.reserve (request.reservation service)) ω d = (r, s)) :
    (request.record d = none ∧ s.store = d.store ∧
        (s = d ∨ request.record s = some (request.reservation service)) ∧ ∀ v, r = .ok v →
          v = (request.reservation service, true) ∧
            request.record s = some (request.reservation service)) ∨
      ∃ x, request.record d = some x ∧ s = d ∧ ∀ v, r = .ok v → v = (x, false) := by
  obtain ⟨hstate, hreply⟩ := submitExec_cases h
  cases hrec : request.record d with
  | none =>
    left
    obtain ⟨d', hcommit, hstore, hnew⟩ :=
      @reserveIdempotency_none d (request.reservation service) rfl hrec
    have hcommit' : ((SubmitAct.reserve (request.reservation service)).transaction service
        ω.closed).commit d = (.ok (request.reservation service, true), d') := hcommit
    rw [hcommit'] at hstate hreply
    refine ⟨rfl, ?_, hstate.imp_right (fun h => by rw [h]; exact hnew), fun v hv => ?_⟩
    · rcases hstate with rfl | rfl
      · rfl
      · exact hstore
    · have heq := hreply v hv
      cases heq
      exact ⟨rfl, hnew⟩
  | some x =>
    right
    have hcommit : ((SubmitAct.reserve (request.reservation service)).transaction service
        ω.closed).commit d = _ := @reserveIdempotency_some d _ x rfl hrec
    rw [hcommit] at hstate hreply
    refine ⟨x, rfl, by rcases hstate with h | h <;> exact h, fun v hv => ?_⟩
    have heq := hreply v hv
    split at heq
    · cases heq
      rfl
    · cases heq

theorem exec_update {record : IdempotencyRecord} {state : IdempotencyState}
    (hscope : record.scope = request.scope) (hkey : record.key = request.idempotencyKey)
    (h : s = d ∨ s = ((updateIdempotency record state).commit d).2) :
    s = d ∨ (s.store = d.store ∧ ∃ updated, request.record s = some updated ∧
      updated.state = state ∧ updated.responseBody = record.responseBody) := by
  rcases h with h | h
  · exact .inl h
  rcases updateIdempotency_commit record state d with heq | ⟨_, updated, _, hstore, hnew, hst, hbody⟩
  · exact .inl (h.trans heq)
  · rw [← h, hscope, hkey] at hnew
    exact .inr ⟨by rw [h, hstore], updated, hnew, hst, hbody⟩

theorem exec_submitCommand {command : ExecutionCommand} {runId : String}
    {r : Except SubmissionExc SubmissionResult}
    (h : submitExec service (.submitCommand command runId) ω d = (r, s)) :
    HandsOver command.commandId d (r, s) := by
  obtain ⟨hstate, hreply⟩ := submitExec_cases h
  obtain ⟨hidem, hjobs, hacc⟩ := submitCommand_commit service ω.closed command runId d
  refine ⟨?_, ?_, fun v hv => ?_⟩
  · rcases hstate with rfl | rfl
    · rfl
    · exact hidem
  · rcases hstate with rfl | rfl
    · exact .inl rfl
    · exact hjobs
  · have heq : (service.submitCommand ω.closed command runId).commit d = (.ok v, s) := hreply v hv
    rw [heq] at hacc
    exact hacc v rfl

end Actions

/-! ## The contract of a call -/

abbrev SubmissionConfig := Config SubmitAct.Reply SubmissionExc ControlDatabase

/-- The action has created the record. -/
def Reserves : (a : SubmitAct) → Except SubmissionExc a.Reply → Prop
  | .reserve _, .ok (_, true) => True
  | _, _ => False

/-- The action has found the record `stored`. -/
def Finds : (a : SubmitAct) → Except SubmissionExc a.Reply → IdempotencyRecord → Prop
  | .reserve _, .ok (found, false), stored => found = stored
  | _, _, _ => False

/-- Call `i` has created the record, and knows. -/
def OwnsRecord (c : SubmissionConfig) (i : Nat) : Prop :=
  ∃ entry ∈ c.trace, entry.tid = i ∧ Reserves entry.act entry.reply

theorem OwnsRecord.log {c : SubmissionConfig} {i j : Nat} (h : OwnsRecord c i) (a : SubmitAct)
    (r : Except SubmissionExc a.Reply) (s : ControlDatabase) : OwnsRecord (c.log j a r s) i := by
  obtain ⟨entry, hentry, hi⟩ := h
  exact ⟨entry, mem_cons_of_mem _ hentry, hi⟩

theorem ownsRecord_log {c : SubmissionConfig} {i j : Nat} {a : SubmitAct}
    {r : Except SubmissionExc a.Reply} {s : ControlDatabase} (h : OwnsRecord (c.log j a r s) i) :
    OwnsRecord c i ∨ (i = j ∧ Reserves a r) := by
  obtain ⟨entry, hentry, rfl, hres⟩ := h
  rcases mem_cons.mp hentry with rfl | hentry
  · exact .inr ⟨rfl, hres⟩
  · exact .inl ⟨entry, hentry, rfl, hres⟩

section Contract
variable (service : SubmissionService) (request : SubmissionRequest)

/-- The command has a job. -/
def CommandEnqueued (d : ControlDatabase) : Prop :=
  d.store.commandJobs (request.commandId service) ≠ []

/-- An answer that may be given: it carries the identity of the command, and says
`ACCEPTED` only of a command with a job. -/
structure Truthful (d : ControlDatabase) (result : SubmissionResult) : Prop where
  command : result.commandId = request.commandId service
  accepted : result.status = .accepted → CommandEnqueued service request d

/-- **The invariant of the database**: at most one job, and a truthful answer in the
record. -/
structure SubmissionInv (d : ControlDatabase) : Prop where
  jobs : (d.store.commandJobs (request.commandId service)).length ≤ 1
  answer : ∀ x, request.record d = some x →
    ∃ result, x.responseBody.submission = some result ∧ Truthful service request d result

/-- What every action of a call guarantees: only the owner changes the record, and
only `mark_idempotency_unknown` changes a completed one. -/
structure SubmissionGuar (i : Nat) (c : SubmissionConfig) (a : SubmitAct)
    (r : Except SubmissionExc a.Reply) (s : ControlDatabase) : Prop where
  inv : SubmissionInv service request s
  enqueued : CommandEnqueued service request c.state → CommandEnqueued service request s
  record : request.record s = request.record c.state ∨ OwnsRecord c i ∨
    request.record c.state = none
  kept : (request.record c.state).isSome → (request.record s).isSome
  reserves : Reserves a r → request.record c.state = none ∧ (request.record s).isSome
  finds : ∀ stored, Finds a r stored → request.record s = some stored
  completed : ∀ x, request.record c.state = some x → x.state = .completed →
    request.record s = some x ∨ ∃ m, a = .markUnknown m

/-- **The contract**: the job is not removed and, if the call owns the record, that is as it left
it. -/
def submissionContract : Contract SubmitAct.Reply SubmissionExc ControlDatabase Unit
    (SubmissionResult × Bool) where
  inv c := SubmissionInv service request c.state ∧
    (∀ i, OwnsRecord c i → (request.record c.state).isSome) ∧
    ∀ i j, OwnsRecord c i → OwnsRecord c j → i = j
  rely i _ c c' := (CommandEnqueued service request c.state → CommandEnqueued service request c'.state) ∧
    (OwnsRecord c i → OwnsRecord c' i ∧ request.record c'.state = request.record c.state)
  assume _ _ _ := True
  guar i _ c a r s := SubmissionGuar service request i c a r s
  post _ _ v c := ∀ result replayed, v = .ok (result, replayed) →
    Truthful service request c.state result

variable {service request}
variable {d d' : ControlDatabase}

variable {result : SubmissionResult} {i : Nat} {c : SubmissionConfig} {a : SubmitAct}
  {r : Except SubmissionExc a.Reply}

theorem Truthful.mono (h : Truthful service request d result)
    (hmono : CommandEnqueued service request d → CommandEnqueued service request d') :
    Truthful service request d' result :=
  ⟨h.command, fun hacc => hmono (h.accepted hacc)⟩

/-- The invariant depends on the record and on the jobs of the command. -/
theorem SubmissionInv.mono (h : SubmissionInv service request d)
    (hrecord : request.record d' = request.record d)
    (hjobs : (d'.store.commandJobs (request.commandId service)).length ≤ 1)
    (hmono : CommandEnqueued service request d → CommandEnqueued service request d') :
    SubmissionInv service request d' := by
  refine ⟨hjobs, fun x hx => ?_⟩
  rw [hrecord] at hx
  obtain ⟨result, hbody, htrue⟩ := h.answer x hx
  exact ⟨result, hbody, htrue.mono hmono⟩

theorem SubmissionInv.answered (h : SubmissionInv service request d) (hstore : d'.store = d.store)
    {x : IdempotencyRecord} (hrecord : request.record d' = some x)
    (hbody : x.responseBody.submission = some result) (htrue : Truthful service request d result) :
    SubmissionInv service request d' := by
  have henq : CommandEnqueued service request d → CommandEnqueued service request d' := by
    unfold CommandEnqueued
    rw [hstore]
    exact id
  refine ⟨by rw [hstore]; exact h.jobs, fun y hy => ?_⟩
  rw [hrecord] at hy
  cases hy
  exact ⟨result, hbody, htrue.mono henq⟩

theorem truthful_unknown : Truthful service request d (request.unknown service) :=
  ⟨rfl, fun h => by cases h⟩

theorem submissionContract_compatible :
    (submissionContract service request).Compatible (submitExec service) fun _ _ => True where
  refl i l c := ⟨id, fun h => ⟨h, rfl⟩⟩
  trans i l {c1 c2 c3} h1 h2 := by
    refine ⟨fun h => h2.1 (h1.1 h), fun h => ?_⟩
    obtain ⟨hown2, hrec2⟩ := h1.2 h
    obtain ⟨hown3, hrec3⟩ := h2.2 hown2
    exact ⟨hown3, hrec3.trans hrec2⟩
  inv {i l c a ω r s} hinv _ hg := by
    obtain ⟨_, hsome, huniq⟩ := hinv
    refine ⟨hg.inv, fun j hj => ?_, fun j k hj hk => ?_⟩
    · rcases ownsRecord_log hj with hold | ⟨_, hres⟩
      · exact hg.kept (hsome j hold)
      · exact (hg.reserves hres).2
    · -- a record is created where there is none, and an owner has one
      have hnew : Reserves a r → ∀ k, ¬ OwnsRecord c k := by
        intro hres k hk
        have hs := hsome k hk
        rw [(hg.reserves hres).1] at hs
        cases hs
      rcases ownsRecord_log hj with hold | ⟨heq, hres⟩
      · rcases ownsRecord_log hk with hold' | ⟨_, hres⟩
        · exact huniq j k hold hold'
        · exact absurd hold (hnew hres j)
      · rcases ownsRecord_log hk with hold' | ⟨heq', _⟩
        · exact absurd hold' (hnew hres k)
        · rw [heq, heq']
  rely {i j l m c a ω r s} hij _ hinv _ hg := by
    obtain ⟨_, hsome, huniq⟩ := hinv
    refine ⟨hg.enqueued, fun hj => ⟨hj.log a r s, ?_⟩⟩
    rcases hg.record with hsame | hown | hnone
    · exact hsame
    · exact absurd (huniq i j hown hj) hij
    · have hs := hsome j hj
      rw [hnone] at hs
      cases hs
  post {i j l m v c a ω r s} _ _ _ hg hpost := by
    intro result replayed hv
    exact (hpost result replayed hv).mono hg.enqueued

section
variable (hinv : SubmissionInv service request c.state)
include hinv

theorem SubmissionGuar.of_record {s : ControlDatabase}
    (hrecord : request.record s = request.record c.state)
    (hjobs : (s.store.commandJobs (request.commandId service)).length ≤ 1)
    (hmono : CommandEnqueued service request c.state → CommandEnqueued service request s)
    (hnot : ¬ Reserves a r) (hfinds : ∀ stored, Finds a r stored → request.record s = some stored) :
    SubmissionGuar service request i c a r s where
  inv := hinv.mono hrecord hjobs hmono
  enqueued := hmono
  record := .inl hrecord
  kept h := by rw [hrecord]; exact h
  reserves h := absurd h hnot
  finds := hfinds
  completed x hx _ := .inl (hrecord.trans hx)

theorem SubmissionGuar.of_state (hnot : ¬ Reserves a r)
    (hfinds : ∀ stored, Finds a r stored → request.record c.state = some stored) :
    SubmissionGuar service request i c a r c.state :=
  .of_record hinv rfl hinv.jobs id hnot hfinds

/-- The owner writes an answer into a record that is not completed, or marks it
unknown. -/
theorem SubmissionGuar.of_update {s : ControlDatabase} (hown : OwnsRecord c i)
    (hstore : s.store = c.state.store) {x : IdempotencyRecord} (hrecord : request.record s = some x)
    (hbody : x.responseBody.submission = some result)
    (htrue : Truthful service request c.state result) (hnot : ¬ Reserves a r)
    (hfinds : ∀ stored, ¬ Finds a r stored)
    (hcompleted : (∀ y, request.record c.state = some y → y.state ≠ .completed) ∨
      ∃ m, a = .markUnknown m) : SubmissionGuar service request i c a r s where
  inv := hinv.answered hstore hrecord hbody htrue
  enqueued h := by unfold CommandEnqueued at h ⊢; rwa [hstore]
  record := .inr (.inl hown)
  kept _ := by rw [hrecord]; rfl
  reserves h := absurd h hnot
  finds stored h := absurd h (hfinds stored)
  completed y hy hstate := by
    rcases hcompleted with hne | hmark
    · exact absurd hstate (hne y hy)
    · exact .inr hmark

end

end Contract

/-! ## The program keeps the contract -/

section Program
variable {service : SubmissionService} {request : SubmissionRequest} {i : Nat}

/-- Call `i` owns the record and has not written it yet. -/
structure Holds (service : SubmissionService) (request : SubmissionRequest) (i : Nat)
    (c : SubmissionConfig) : Prop where
  owns : OwnsRecord c i
  record : request.record c.state = some (request.reservation service)

variable {c : SubmissionConfig}

theorem Holds.rely {c' : SubmissionConfig} (h : Holds service request i c)
    (hr : (submissionContract service request).rely i () c c') : Holds service request i c' := by
  obtain ⟨hown, hrec⟩ := hr.2 h.owns
  exact ⟨hown, hrec.trans h.record⟩

theorem Holds.log (h : Holds service request i c) {a : SubmitAct} {r : Except SubmissionExc a.Reply}
    {s : ControlDatabase} (hrecord : request.record s = request.record c.state) :
    Holds service request i (c.log i a r s) :=
  ⟨h.owns.log a r s, hrecord.trans h.record⟩

theorem wp_markUncertain (hown : OwnsRecord c i)
    {Q : Except SubmissionExc Unit → SubmissionConfig → Prop} (hQ : ∀ c', Q (.ok ()) c') :
    (submissionContract service request).wp (submitExec service) i ()
      (markUncertain service request) Q c := by
  refine wp_tryCatch (wp_bind (wp_call ?_))
  intro c' hr hinv ω r s he
  obtain ⟨hstate, -⟩ := submitExec_cases he
  have hupdate : s = c'.state ∨ (s.store = c'.state.store ∧ ∃ updated,
      request.record s = some updated ∧ updated.state = .unknown ∧
        updated.responseBody = (request.uncertain service).responseBody) :=
    exec_update rfl rfl hstate
  constructor
  · rcases hupdate with rfl | ⟨hstore, x, hx, -, hbody⟩
    · exact .of_state hinv.1 id fun _ h => h.elim
    · have hanswer : x.responseBody.submission = some (request.unknown service) := by
        rw [hbody]
        rfl
      exact .of_update hinv.1 (hr.2 hown).1 hstore hx hanswer truthful_unknown id
        (fun _ h => h) (.inr ⟨_, rfl⟩)
  · intro _ _
    cases r with
    | ok v => exact hQ _
    | error e => exact hQ _

theorem wp_askPort (hc : Holds service request i c) (createdAt : Instant) (run : RunRecord)
    {Q : Except SubmissionExc SubmissionResult → SubmissionConfig → Prop}
    (herror : ∀ e c', OwnsRecord c' i → Q (.error e) c')
    (hok : ∀ result c', Holds service request i c' →
      (result.status = .accepted → CommandEnqueued service request c'.state) → Q (.ok result) c') :
    (submissionContract service request).wp (submitExec service) i ()
      (askPort service request (request.command service createdAt) run) Q c := by
  -- the command is handed over, or the run has no plan
  have hsubmit : ∀ (prepared : Bool) c', Holds service request i c' →
      (submissionContract service request).wp (submitExec service) i ()
        (if prepared then
            SubmitAct.perform (.submitCommand (request.command service createdAt) run.runId)
          else pure (request.notPrepared service)) Q c' := by
    intro prepared c' hc'
    cases prepared with
    | false => exact hok _ _ hc' (fun h => by cases h)
    | true =>
      refine wp_call ?_
      intro c'' hr hinv ω r s he
      obtain ⟨hidem, hjobs, hacc⟩ := exec_submitCommand he
      have hrecord : request.record s = request.record c''.state := by
        unfold SubmissionRequest.record ControlDatabase.getIdempotency
        rw [hidem]
      constructor
      · refine .of_record hinv.1 hrecord ?_ ?_ id fun _ h => h.elim
        · rcases hjobs with heq | ⟨_, job, hjob⟩
          · exact heq ▸ hinv.1.jobs
          · exact hjob ▸ Nat.le_refl 1
        · intro henq
          rcases hjobs with heq | ⟨hnil, _⟩
          · exact fun hnil => henq (heq.symm.trans hnil)
          · exact absurd hnil henq
      · intro _ _
        cases r with
        | ok result => exact hok _ _ ((hc'.rely hr).log hrecord) (hacc result rfl)
        | error e => exact herror _ _ ((hc'.rely hr).log hrecord).owns
  unfold askPort
  split
  · refine wp_bind (wp_call ?_)
    intro c' hr hinv ω r s he
    obtain ⟨hstate, -⟩ := submitExec_cases he
    obtain rfl : s = c'.state := by rcases hstate with h | h <;> exact h
    refine ⟨.of_state hinv.1 id (fun _ h => h.elim), fun _ _ => ?_⟩
    cases r with
    | ok plan => exact hsubmit _ _ ((hc.rely hr).log rfl)
    | error e => exact herror _ _ ((hc.rely hr).log rfl).owns
  · exact hsubmit true c hc

theorem wp_handOver (hc : Holds service request i c) (createdAt : Instant) (run : RunRecord)
    {Q : Except SubmissionExc (Option SubmissionResult) → SubmissionConfig → Prop}
    (herror : ∀ e c', Q (.error e) c') (hnone : ∀ c', Q (.ok none) c')
    (hsome : ∀ result c', Holds service request i c' →
      Truthful service request c'.state result → Q (.ok (some result)) c') :
    (submissionContract service request).wp (submitExec service) i ()
      (handOver service request (request.command service createdAt) run) Q c := by
  refine wp_tryCatch (wp_bind (wp_askPort hc createdAt run ?_ ?_))
  · rintro (_ | _) c' hown
    · exact herror _ _
    · exact wp_bind (wp_markUncertain hown hnone)
  · intro result c' hc' hacc
    exact hsome _ _ hc' ⟨rfl, hacc⟩

theorem wp_completeSubmission (hc : Holds service request i c) {result : SubmissionResult}
    (htrue : Truthful service request c.state result)
    {Q : Except SubmissionExc Bool → SubmissionConfig → Prop} (hfalse : ∀ c', Q (.ok false) c')
    (htrue' : ∀ c', Truthful service request c'.state result → Q (.ok true) c') :
    (submissionContract service request).wp (submitExec service) i ()
      (completeSubmission service request result) Q c := by
  refine wp_tryCatch (wp_bind (wp_call ?_))
  intro c' hr hinv ω r s he
  obtain ⟨hstate, -⟩ := submitExec_cases he
  have hupdate : s = c'.state ∨ (s.store = c'.state.store ∧ ∃ updated,
      request.record s = some updated ∧ updated.state = .completed ∧
        updated.responseBody = (request.completed service result).responseBody) :=
    exec_update rfl rfl hstate
  have htrue1 := htrue.mono hr.1
  have hheld := hc.rely hr
  have hstore : s.store = c'.state.store := by
    rcases hupdate with rfl | ⟨hstore, _⟩
    · rfl
    · exact hstore
  constructor
  · rcases hupdate with rfl | ⟨hstore, x, hx, -, hbody⟩
    · exact .of_state hinv.1 id fun _ h => h.elim
    · have hanswer : x.responseBody.submission = some result := by
        rw [hbody]
        rfl
      refine .of_update hinv.1 hheld.owns hstore hx hanswer htrue1 id (fun _ h => h) (.inl ?_)
      intro y hy
      rw [hheld.record] at hy
      cases hy
      exact fun h => by cases h
  · intro _ _
    cases r with
    | ok v =>
      refine htrue' _ (htrue1.mono ?_)
      unfold CommandEnqueued
      exact fun h => hstore ▸ h
    | error e => exact wp_bind (wp_markUncertain (hheld.owns.log _ _ _) hfalse)

/-- Reserving: the caller owns the record, or finds a truthful answer. -/
theorem wp_reserveKey
    {Q : Except SubmissionExc (IdempotencyRecord × Bool) → SubmissionConfig → Prop}
    (herror : ∀ e c', Q (.error e) c')
    (hheld : ∀ x c', Holds service request i c' → Q (.ok (x, true)) c')
    (hfound : ∀ x c' result, x.responseBody.submission = some result →
      Truthful service request c'.state result → Q (.ok (x, false)) c') :
    (submissionContract service request).wp (submitExec service) i ()
      (reserveKey service request) Q c := by
  refine wp_tryCatch (wp_call ?_)
  intro c' hr hinv ω r s he
  rcases exec_reserve he with ⟨hnone, hstore, hnew, hreply⟩ | ⟨x, hx, rfl, hreply⟩
  · constructor
    · have henq : CommandEnqueued service request c'.state → CommandEnqueued service request s := by
        unfold CommandEnqueued
        exact fun h => hstore ▸ h
      refine
        { inv := ?_, enqueued := henq, record := .inr (.inr hnone), kept := ?_, reserves := ?_
          finds := ?_, completed := ?_ }
      · rcases hnew with rfl | hnew
        · exact hinv.1
        · exact hinv.1.answered hstore hnew rfl truthful_unknown
      · intro h
        rw [hnone] at h
        cases h
      · intro h
        refine ⟨hnone, ?_⟩
        cases r with
        | ok v =>
          rw [(hreply v rfl).2]
          rfl
        | error e => exact h.elim
      · intro stored h
        cases r with
        | ok v =>
          obtain ⟨rfl, _⟩ := hreply v rfl
          exact h.elim
        | error e => exact h.elim
      · intro x hx
        rw [hnone] at hx
        cases hx
    · intro _ _
      cases r with
      | ok v =>
        obtain ⟨rfl, hrec⟩ := hreply v rfl
        exact hheld _ _ ⟨⟨_, mem_cons_self .., rfl, trivial⟩, hrec⟩
      | error e =>
        dsimp only
        split <;> exact herror _ _
  · have hnot : ¬ Reserves (.reserve (request.reservation service)) r := by
      intro h
      cases r with
      | ok v =>
        obtain rfl := hreply v rfl
        exact h
      | error e => exact h
    have hfinds : ∀ stored, Finds (.reserve (request.reservation service)) r stored →
        request.record c'.state = some stored := by
      intro stored h
      cases r with
      | ok v =>
        obtain rfl := hreply v rfl
        exact hx.trans (congrArg some h)
      | error e => exact h.elim
    refine ⟨.of_state hinv.1 hnot hfinds, fun _ _ => ?_⟩
    cases r with
    | ok v =>
      obtain rfl := hreply v rfl
      obtain ⟨result, hbody, htrue⟩ := hinv.1.answer x hx
      exact hfound _ _ result hbody htrue
    | error e =>
      dsimp only
      split <;> exact herror _ _

/-- A call reads its run, and then submits or raises; under any contract. -/
theorem wp_submission_of {C : Contract SubmitAct.Reply SubmissionExc ControlDatabase Unit
      (SubmissionResult × Bool)} {createdAt : Instant}
    {Q : Except SubmissionExc (SubmissionResult × Bool) → SubmissionConfig → Prop}
    (hread : ∀ c' runId r, C.inv c' → C.guar i () c' (.run runId) r c'.state)
    (herror : ∀ e c', Q (.error e) c') (hsubmit : ∀ run c', C.wp (submitExec service) i ()
      (submit service request (request.command service createdAt) run) Q c') :
    C.wp (submitExec service) i () (service.submission request createdAt) Q c := by
  refine wp_bind ?_
  unfold requireScope
  split
  swap
  · exact herror _ _
  refine wp_bind ?_
  unfold safeKey
  split
  swap
  · exact herror _ _
  refine wp_bind (wp_bind (wp_call ?_))
  intro c' _ hinv ω r s he
  obtain ⟨hstate, -⟩ := submitExec_cases he
  obtain rfl : s = c'.state := by rcases hstate with h | h <;> exact h
  refine ⟨hread c' _ r hinv, fun _ _ => ?_⟩
  cases r with
  | error e => exact herror _ _
  | ok found =>
    cases found with
    | none => exact herror _ _
    | some run =>
      dsimp only
      split
      swap
      · exact herror _ _
      refine wp_bind ?_
      unfold validateCommand
      split
      · exact hsubmit run _
      · exact herror _ _

/-- **A call keeps the contract**, whatever the configuration it starts in. -/
theorem wp_submission (createdAt : Instant) (c : SubmissionConfig) :
    (submissionContract service request).wp (submitExec service) i ()
      (service.submission request createdAt)
      ((submissionContract service request).post i ()) c := by
  have hpost : ∀ result replayed c', Truthful service request c'.state result →
      (submissionContract service request).post i () (.ok (result, replayed)) c' := by
    rintro result replayed c' htrue _ _ ⟨⟩
    exact htrue
  have herror : ∀ e c', (submissionContract service request).post i () (.error e) c' :=
    fun e c' _ _ h => by cases h
  refine wp_submission_of (fun c' runId r hinv => .of_state hinv.1 id fun _ h => h.elim) herror ?_
  intro run c'
  refine wp_bind (wp_reserveKey herror ?_ ?_)
  · intro x c1 hheld
    refine wp_bind (wp_handOver hheld createdAt run herror ?_ ?_)
    · exact fun c2 => hpost _ _ c2 truthful_unknown
    · intro result c2 hheld2 htrue
      refine wp_bind (wp_completeSubmission hheld2 htrue ?_ ?_)
      · exact fun c3 => hpost _ _ c3 truthful_unknown
      · exact fun c3 htrue3 => hpost _ _ c3 htrue3
  · intro x c1 result hbody htrue
    simp only [Bool.not_false, if_true, hbody]
    exact hpost _ _ c1 htrue

/-- The contract of the calls that come when the record is completed: they answer from it. -/
def replayContract (request : SubmissionRequest) (stored : IdempotencyRecord) :
    Contract SubmitAct.Reply SubmissionExc ControlDatabase Unit (SubmissionResult × Bool) where
  inv c := request.record c.state = some stored
  rely _ _ _ _ := True
  assume _ _ _ := True
  guar _ _ _ _ _ _ := True
  post _ _ v _ := ∀ result replayed, v = .ok (result, replayed) →
    stored.responseBody.submission = some result

theorem wp_replay (stored : IdempotencyRecord) (createdAt : Instant) (c : SubmissionConfig) :
    (replayContract request stored).wp (submitExec service) i ()
      (service.submission request createdAt) ((replayContract request stored).post i ()) c := by
  have herror : ∀ e c', (replayContract request stored).post i () (.error e) c' :=
    fun e c' _ _ h => by cases h
  refine wp_submission_of (fun _ _ _ _ => trivial) herror ?_
  intro run c'
  refine wp_bind (wp_tryCatch (wp_call ?_))
  intro c'' _ hinv ω r s he
  refine ⟨trivial, fun _ _ => ?_⟩
  have hrecord : request.record c''.state = some stored := hinv
  rcases exec_reserve he with ⟨hnone, -⟩ | ⟨x, hx, rfl, hreply⟩
  · rw [hnone] at hrecord
    cases hrecord
  obtain rfl : x = stored := Option.some.inj (hx.symm.trans hrecord)
  cases r with
  | error e =>
    dsimp only
    split
    · exact herror _ _
    · exact herror _ _
  | ok v =>
    obtain rfl := hreply v rfl
    simp only [Bool.not_false, if_true]
    split
    · rename_i result hbody
      rintro _ _ ⟨⟩
      exact hbody
    · exact herror _ _

end Program

/-! ## Any number of calls -/

/-- The calls of one request over one database. -/
abbrev SubmissionWorld :=
  Pool SubmitAct.Reply SubmissionExc ControlDatabase Unit (SubmissionResult × Bool)

/-- The rest of the platform neither adds nor removes jobs of the command, and leaves its record
alone. -/
def ElsewhereThan (service : SubmissionService) (request : SubmissionRequest)
    (d d' : ControlDatabase) : Prop :=
  request.record d' = request.record d ∧
    (d'.store.commandJobs (request.commandId service)).map (·.jobId) =
      (d.store.commandJobs (request.commandId service)).map (·.jobId)

instance (service : SubmissionService) (request : SubmissionRequest) (d d' : ControlDatabase) :
    Decidable (ElsewhereThan service request d d') :=
  inferInstanceAs (Decidable (_ ∧ _))

/-- A call arrives, performs its next action, or crashes, or the rest of the platform moves on. -/
inductive SubmissionMove
  | call (createdAt : Instant)
  | step (i : Nat) (ω : SubmitInput)
  | crash (i : Nat)
  | elsewhere (d : ControlDatabase)

namespace SubmissionWorld
variable (service : SubmissionService) (request : SubmissionRequest)

def start (d : ControlDatabase) : SubmissionWorld := ⟨⟨d, []⟩, []⟩

/-- One move of a schedule. -/
def move (w : SubmissionWorld) : SubmissionMove → SubmissionWorld
  | .call createdAt => w.spawn () (service.submission request createdAt)
  | .step i ω => w.advance (submitExec service) i ω
  | .crash i => w.kill i
  | .elsewhere d =>
    if ElsewhereThan service request w.config.state d then
      { w with config := { w.config with state := d } }
    else w

def run (w : SubmissionWorld) (moves : List SubmissionMove) : SubmissionWorld :=
  moves.foldl (move service request) w

/-- Call `i` has returned `result`. -/
def Returned (w : SubmissionWorld) (i : Nat) (result : SubmissionResult) : Prop :=
  ∃ t replayed, w.threads[i]? = some t ∧ t.prog = some (.done (.ok (result, replayed)))

/-- Some call has been answered `result` from a completed record. -/
def AnsweredFromCompleted (w : SubmissionWorld) (result : SubmissionResult) : Prop :=
  ∃ entry ∈ w.config.trace, ∃ stored, Finds entry.act entry.reply stored ∧
    stored.state = .completed ∧ stored.responseBody.submission = some result

/-- The answer of call `i`. -/
def answer (w : SubmissionWorld) (i : Nat) : Option SubmissionResult :=
  match w.threads[i]? with
  | some ⟨_, some (.done (.ok (result, _)))⟩ => some result
  | _ => none

variable {result : SubmissionResult} {i : Nat} {m : SubmissionMove} {stored : IdempotencyRecord}

theorem returned_of_answer {w : SubmissionWorld} (h : w.answer i = some result) :
    w.Returned i result := by
  unfold answer at h
  split at h
  · rename_i l _ replayed hth
    cases h
    exact ⟨_, replayed, hth, rfl⟩
  · cases h

/-- The answer that an action gives from a completed record. -/
def replayed : (a : SubmitAct) → Except SubmissionExc a.Reply → Option SubmissionResult
  | .reserve _, .ok (stored, false) =>
    if stored.state = .completed then stored.responseBody.submission else none
  | _, _ => none

theorem finds_of_replayed {a : SubmitAct} {r : Except SubmissionExc a.Reply}
    (h : replayed a r = some result) : ∃ stored, Finds a r stored ∧ stored.state = .completed ∧
      stored.responseBody.submission = some result := by
  cases a with
  | reserve record =>
    cases r with
    | error e => cases h
    | ok reply =>
      obtain ⟨stored, _ | _⟩ := reply
      · by_cases hstate : stored.state = .completed
        · exact ⟨stored, rfl, hstate, (if_pos hstate).symm.trans h⟩
        · rw [replayed, if_neg hstate] at h
          cases h
      · cases h
  | run => cases h
  | executionPlan => cases h
  | submitCommand => cases h
  | complete => cases h
  | markUnknown => cases h

theorem answeredFromCompleted_of_replayed {w : SubmissionWorld}
    (h : result ∈ w.config.trace.filterMap fun entry => replayed entry.act entry.reply) :
    w.AnsweredFromCompleted result := by
  obtain ⟨entry, hentry, hrep⟩ := mem_filterMap.mp h
  exact ⟨entry, hentry, finds_of_replayed hrep⟩

/-- The move marks a submission as unknown that is completed already. -/
def Overwrites (w : SubmissionWorld) : SubmissionMove → Prop
  | .step i ω =>
    (∃ t m, w.threads[i]? = some t ∧ t.next = some (.markUnknown m)) ∧
      (∀ e, ω.delivery ≠ .failsBefore e) ∧
      ∃ x, request.record w.config.state = some x ∧ x.state = .completed
  | _ => False

variable {service request} {w : SubmissionWorld}

/-- The invariant and the contract of every call. -/
abbrev Sound (service : SubmissionService) (request : SubmissionRequest)
    (w : SubmissionWorld) : Prop :=
  Pool.Verified (submissionContract service request) (submitExec service) w

theorem kill_config (w : SubmissionWorld) (i : Nat) : (w.kill i).config = w.config := by
  rcases w.kill_cases i with heq | ⟨_, _, heq⟩
  · rw [heq]
  · rw [heq]

theorem labelsCompatible (w : SubmissionWorld) :
    Pool.LabelsCompatible (fun _ _ => True) w := fun _ _ _ _ _ _ _ _ _ => trivial

theorem ElsewhereThan.enqueued {d d' : ControlDatabase} (h : ElsewhereThan service request d d') :
    CommandEnqueued service request d → CommandEnqueued service request d' := by
  intro henq hnil
  have hids := h.2
  rw [hnil, map_nil] at hids
  exact henq (map_eq_nil_iff.mp hids.symm)

variable (h : Sound service request w)

include h in
theorem Sound.move (m : SubmissionMove) :
    Sound service request (w.move service request m) := by
  cases m with
  | call createdAt => exact h.spawn (wp_submission createdAt _)
  | step i ω =>
    exact h.advance submissionContract_compatible (labelsCompatible w) i ω fun _ _ => trivial
  | crash i => exact h.kill i
  | elsewhere d =>
    by_cases helse : ElsewhereThan service request w.config.state d
    swap
    · rwa [SubmissionWorld.move, if_neg helse]
    rw [SubmissionWorld.move, if_pos helse]
    have henq := ElsewhereThan.enqueued helse
    obtain ⟨hinv, hsome, huniq⟩ := h.inv
    refine h.outside submissionContract_compatible ⟨?_, ?_, huniq⟩ ?_ ?_
    · refine hinv.mono helse.1 ?_ henq
      have hlen := congrArg List.length helse.2
      rw [length_map, length_map] at hlen
      exact hlen ▸ hinv.jobs
    · intro i hi
      have hs := hsome i hi
      rwa [← helse.1] at hs
    · intro i t _ _
      exact ⟨henq, fun hi => ⟨hi, helse.1⟩⟩
    · intro i t v _ hpost result replayed hv
      exact (hpost result replayed hv).mono henq

include h in
theorem Sound.run (ms : List SubmissionMove) :
    Sound service request (w.run service request ms) := by
  induction ms generalizing w with
  | nil => exact h
  | cons m ms ih => exact ih (h.move m)

/-! ### Completed records -/

include h in
theorem record_completed (hm : ¬ w.Overwrites request m)
    (hrec : request.record w.config.state = some stored) (hstate : stored.state = .completed) :
    request.record (w.move service request m).config.state = some stored := by
  cases m with
  | call createdAt => exact hrec
  | crash i =>
    change request.record (w.kill i).config.state = some stored
    rwa [kill_config]
  | elsewhere d =>
    by_cases helse : ElsewhereThan service request w.config.state d
    · rw [SubmissionWorld.move, if_pos helse]
      exact helse.1.trans hrec
    · rwa [SubmissionWorld.move, if_neg helse]
  | step i ω =>
    change request.record (w.advance (submitExec service) i ω).config.state = some stored
    rcases w.advance_cases (submitExec service) i ω with heq | ⟨l, a, k, r, s, hth, he, heq⟩
    · rwa [heq]
    rw [heq]
    have hg : SubmissionGuar service request i w.config a r s :=
      h.guar submissionContract_compatible hth he
    rcases hg.completed stored hrec hstate with hsame | ⟨m, rfl⟩
    · exact hsame
    · -- the record is only marked unknown if the call fails before its effect
      obtain ⟨e, hdel⟩ : ∃ e, ω.delivery = .failsBefore e := by
        by_contra hno
        exact hm ⟨⟨_, m, hth, rfl⟩, fun e he => hno ⟨e, he⟩, stored, hrec, hstate⟩
      have hs : s = w.config.state := by
        unfold submitExec at he
        rw [hdel] at he
        exact (Prod.mk.inj he).2.symm
      change request.record s = some stored
      rwa [hs]

/-- What has been answered from a completed record is what the record still says. -/
def AnswersStand (request : SubmissionRequest) (w : SubmissionWorld) : Prop :=
  ∀ entry ∈ w.config.trace, ∀ stored, Finds entry.act entry.reply stored →
    stored.state = .completed → request.record w.config.state = some stored

include h in
theorem AnswersStand.move (hstand : AnswersStand request w)
    (hm : ¬ w.Overwrites request m) : AnswersStand request (w.move service request m) := by
  intro entry hentry stored hfinds hstate
  by_cases hold : entry ∈ w.config.trace
  · exact record_completed h hm (hstand entry hold stored hfinds hstate) hstate
  -- the entry is the action of this move
  cases m with
  | call createdAt => exact absurd hentry hold
  | crash i =>
    change entry ∈ (w.kill i).config.trace at hentry
    rw [kill_config] at hentry
    exact absurd hentry hold
  | elsewhere d =>
    refine absurd ?_ hold
    by_cases helse : ElsewhereThan service request w.config.state d
    · rwa [SubmissionWorld.move, if_pos helse] at hentry
    · rwa [SubmissionWorld.move, if_neg helse] at hentry
  | step i ω =>
    change entry ∈ (w.advance (submitExec service) i ω).config.trace at hentry
    change request.record (w.advance (submitExec service) i ω).config.state = some stored
    rcases w.advance_cases (submitExec service) i ω with heq | ⟨l, a, k, r, s, hth, he, heq⟩
    · exact absurd (heq ▸ hentry) hold
    rw [heq] at hentry ⊢
    rcases mem_cons.mp hentry with rfl | hentry
    · have hg : SubmissionGuar service request i w.config a r s :=
        h.guar submissionContract_compatible hth he
      exact hg.finds stored hfinds
    · exact absurd hentry hold

/-- The calls from `n` on answer from the record `stored`. -/
def LaterReplay (service : SubmissionService) (request : SubmissionRequest)
    (stored : IdempotencyRecord) (n : Nat) (w : SubmissionWorld) : Prop :=
  request.record w.config.state = some stored ∧ stored.state = .completed ∧
    n ≤ w.threads.length ∧
    ∀ j t q, n ≤ j → w.threads[j]? = some t → t.prog = some q →
      (replayContract request stored).wp (submitExec service) j ()
        q ((replayContract request stored).post j ()) w.config

include h in
theorem LaterReplay.move {n : Nat}
    (hlater : LaterReplay service request stored n w) (hm : ¬ w.Overwrites request m) :
    LaterReplay service request stored n (w.move service request m) := by
  obtain ⟨hrec, hstate, hlen, hwp⟩ := hlater
  have hrec' := record_completed h hm hrec hstate
  -- a call that has not acted does not mind what the others did
  have hstay : ∀ {j : Nat} {q : SubmissionProg (SubmissionResult × Bool)} {c c' : SubmissionConfig},
      (replayContract request stored).wp (submitExec service) j () q
        ((replayContract request stored).post j ()) c →
      (replayContract request stored).wp (submitExec service) j () q
        ((replayContract request stored).post j ()) c' := by
    intro j q c c' hw
    cases q with
    | done v => exact hw
    | act a k => exact fun c'' _ => hw c'' trivial
  refine ⟨hrec', hstate, ?_, ?_⟩
  · cases m with
    | call createdAt => exact Nat.le_trans hlen (by simp [SubmissionWorld.move, Pool.spawn])
    | step i ω =>
      change n ≤ (w.advance (submitExec service) i ω).threads.length
      rcases w.advance_cases (submitExec service) i ω with heq | ⟨_, _, _, _, _, _, _, heq⟩
      · rwa [heq]
      · rw [heq, length_set]
        exact hlen
    | crash i =>
      change n ≤ (w.kill i).threads.length
      rcases w.kill_cases i with heq | ⟨_, _, heq⟩
      · rwa [heq]
      · rw [heq, length_set]
        exact hlen
    | elsewhere d =>
      rw [SubmissionWorld.move]
      split <;> exact hlen
  · intro j t q hj ht hq
    cases m with
    | call createdAt =>
      change (w.threads ++ [⟨(), some (service.submission request createdAt)⟩])[j]? = some t at ht
      rcases Nat.lt_trichotomy j w.threads.length with hlt | rfl | hgt
      · rw [List.getElem?_append_left hlt] at ht
        exact hwp j t q hj ht hq
      · rw [List.getElem?_concat_length] at ht
        cases ht
        cases hq
        exact wp_replay stored createdAt _
      · rw [List.getElem?_eq_none (by simp; omega)] at ht
        cases ht
    | crash i =>
      change (w.kill i).threads[j]? = some t at ht
      rcases w.kill_cases i with heq | ⟨u, _, heq⟩
      · rw [heq] at ht
        exact hstay (hwp j t q hj ht hq)
      · rw [heq] at ht
        rcases Pool.set_cases ht with ⟨_, rfl⟩ | ⟨_, ht⟩
        · cases hq
        · exact hstay (hwp j t q hj ht hq)
    | elsewhere d =>
      have hthreads : (w.move service request (.elsewhere d)).threads = w.threads := by
        rw [SubmissionWorld.move]
        split <;> rfl
      rw [hthreads] at ht
      exact hstay (hwp j t q hj ht hq)
    | step i ω =>
      change (w.advance (submitExec service) i ω).threads[j]? = some t at ht
      change request.record (w.advance (submitExec service) i ω).config.state = some stored at hrec'
      change (replayContract request stored).wp _ _ _ _ _
        (w.advance (submitExec service) i ω).config
      rcases w.advance_cases (submitExec service) i ω with heq | ⟨l, a, k, r, s, hth, he, heq⟩
      · rw [heq] at ht
        exact hstay (hwp j t q hj ht hq)
      · rw [heq] at ht hrec' ⊢
        rcases Pool.set_cases ht with ⟨rfl, rfl⟩ | ⟨_, ht⟩
        · cases hq
          exact (hwp i _ _ hj hth rfl w.config trivial hrec ω r s he).2 trivial hrec'
        · exact hstay (hwp j t q hj ht hq)

/-- What every move keeps that overwrites no completed record holds after a run of them. -/
theorem run_keeps {P : SubmissionWorld → Prop} (hmove : ∀ {w : SubmissionWorld} {m : SubmissionMove},
      Sound service request w → P w → ¬ w.Overwrites request m → P (w.move service request m))
    (h : Sound service request w) (hw : P w) (ms : List SubmissionMove)
    (hms : ∀ ms1 m ms2, ms = ms1 ++ m :: ms2 →
      ¬ (w.run service request ms1).Overwrites request m) : P (w.run service request ms) := by
  induction ms generalizing w with
  | nil => exact hw
  | cons m ms ih =>
    refine ih (h.move m) (hmove h hw (hms [] m ms rfl)) ?_
    intro ms1 m' ms2 he
    exact hms (m :: ms1) m' ms2 (by rw [he]; rfl)

theorem run_append (w : SubmissionWorld) (ms ms' : List SubmissionMove) :
    w.run service request (ms ++ ms') =
      (w.run service request ms).run service request ms' := foldl_append ..

/-! ### The main result -/

variable (service request) in
/-- Nothing has been submitted under the key. -/
def Unsubmitted (d : ControlDatabase) : Prop :=
  request.record d = none ∧ d.store.commandJobs (request.commandId service) = []

theorem sound_start {d : ControlDatabase} (h : Unsubmitted service request d) :
    Sound service request (start d) where
  inv := by
    refine ⟨⟨?_, ?_⟩, ?_, ?_⟩
    · change (d.store.commandJobs (request.commandId service)).length ≤ 1
      rw [h.2]
      exact Nat.zero_le 1
    · intro x hx
      change request.record d = some x at hx
      rw [h.1] at hx
      cases hx
    · rintro i ⟨entry, hentry, _⟩
      cases hentry
    · rintro i j ⟨entry, hentry, _⟩
      cases hentry
  threads := by
    intro i t ht
    cases ht

include h in
/-- The answers of a run: every one of them is truthful. -/
theorem Sound.returned (hret : w.Returned i result) :
    Truthful service request w.config.state result := by
  obtain ⟨t, replayed, ht, hprog⟩ := hret
  exact h.threads i t ht _ hprog result replayed rfl

include h in
/-- Calls that arrive after an answer from a completed record give the same answer,
in every run that overwrites none. -/
theorem Sound.same_answer (hstand : AnswersStand request w)
    {answer : SubmissionResult} (hans : w.AnsweredFromCompleted answer) (ms : List SubmissionMove)
    (hms : ∀ ms1 m ms2, ms = ms1 ++ m :: ms2 →
      ¬ (w.run service request ms1).Overwrites request m) (hi : w.threads.length ≤ i)
    (hret : (w.run service request ms).Returned i result) : result = answer := by
  obtain ⟨entry, hentry, stored, hfinds, hstate, hbody⟩ := hans
  have hrec := hstand entry hentry stored hfinds hstate
  have hlater : LaterReplay service request stored w.threads.length w := by
    refine ⟨hrec, hstate, Nat.le_refl _, fun j t q hj ht _ => ?_⟩
    rw [List.getElem?_eq_none hj] at ht
    cases ht
  obtain ⟨t, replayed, ht, hprog⟩ := hret
  obtain ⟨_, _, _, hwp⟩ := run_keeps (fun h hw hm => LaterReplay.move h hw hm) h hlater ms hms
  have hpost := hwp i t _ hi ht hprog result replayed rfl
  rw [hbody] at hpost
  exact (Option.some.inj hpost).symm

end SubmissionWorld

open SubmissionWorld in
/-- **Submission is idempotent**: the command has at most one job; every answer carries its
identity, and says `ACCEPTED` only if the job exists; and if no completed record is overwritten,
every call that arrives after an answer from one gives the same answer. -/
theorem submission_idempotent (service : SubmissionService) (request : SubmissionRequest)
    {d : ControlDatabase} (hd : Unsubmitted service request d) (ms : List SubmissionMove) :
    ((((start d).run service request ms).config.state.store.commandJobs
        (request.commandId service)).length ≤ 1 ∧
      ∀ i result, ((start d).run service request ms).Returned i result →
        result.commandId = request.commandId service ∧ (result.status = .accepted →
          ((start d).run service request ms).config.state.store.commandJobs
            (request.commandId service) ≠ [])) ∧ ((∀ ms1 m ms2, ms = ms1 ++ m :: ms2 →
        ¬ ((start d).run service request ms1).Overwrites request m) →
      ∀ ms1 ms2 answer, ms = ms1 ++ ms2 →
        ((start d).run service request ms1).AnsweredFromCompleted answer →
        ∀ i result, ((start d).run service request ms1).threads.length ≤ i →
          ((start d).run service request ms).Returned i result → result = answer) := by
  have hsound := (sound_start hd).run
  refine ⟨⟨(hsound ms).inv.1.jobs, fun i result hret => ?_⟩, ?_⟩
  · obtain ⟨hcommand, haccepted⟩ := (hsound ms).returned hret
    exact ⟨hcommand, haccepted⟩
  · rintro hms ms1 ms2 answer rfl hans i result hi hret
    have hstand : AnswersStand request ((start d).run service request ms1) := by
      refine run_keeps (fun h hw hm => AnswersStand.move h hw hm) (sound_start hd)
        (fun entry hentry => by cases hentry) ms1 ?_
      rintro ms3 m ms4 rfl
      exact hms ms3 m (ms4 ++ ms2) (by rw [append_assoc]; rfl)
    rw [run_append] at hret
    refine (hsound ms1).same_answer hstand hans ms2 ?_ hi hret
    rintro ms3 m ms4 rfl
    rw [← run_append]
    exact hms (ms1 ++ ms3) m ms4 (by rw [append_assoc])

/-- A backend on the durable queue. -/
def startService : SubmissionService where
  stableId
    | .job commandId => "job-" ++ commandId
    | _ => "other"
  fingerprint action runId := action.value ++ "/" ++ runId
  commandId scope key fingerprint := scope ++ "/" ++ key ++ "/" ++ fingerprint
  execution := .durable

def startRequest : SubmissionRequest where
  action := .cancel
  runId := "run-1"
  principal := { subject := "alice", scopes := ["runs:write"], projectIds := ["p"] }
  idempotencyKey := "key-1"

def startDatabase : ControlDatabase where
  store := { Store.empty with
    runs :=
      { rows := [
          { runId := "run-1", projectId := "p", createdAt := 0, configurationFingerprint := "c" }]
        nodup := by decide } }
  idempotency := .empty

def twoCalls : List SubmissionMove :=
  [.call 0, .step 0 {}, .step 0 {}, .step 0 {}, .step 0 {}, .call 1, .step 1 {}, .step 1 {}]

/-- The completion of the first call commits and raises; the second call is answered from the
completed record; the first marks it unknown; a third arrives. -/
def overwritten : List SubmissionMove :=
  [.call 0, .step 0 {}, .step 0 {}, .step 0 {}, .step 0 { delivery := .failsAfter .os },
    .call 1, .step 1 {}, .step 1 {}, .step 0 {}, .call 2, .step 2 {}, .step 2 {}]

/-- What both calls answer. -/
def demoAccepted : SubmissionResult where
  runId := "run-1"
  status := .accepted
  commandId := startRequest.commandId startService
  submissionId := some ("job-" ++ startRequest.commandId startService)
  detail := "durably accepted by the SQLite control store"
  acceptedBy := some "sqlite-control-store"

open SubmissionWorld in
theorem demo_unsubmitted : Unsubmitted startService startRequest startDatabase :=
  ⟨rfl, rfl⟩

open SubmissionWorld in
/-- The second of two calls is told that its command, which has one job, is accepted. -/
theorem submission_idempotent_two_calls :
    ((start startDatabase).run startService startRequest twoCalls).Returned 1 demoAccepted ∧
      ((start startDatabase).run startService startRequest twoCalls).config.state.store.commandJobs
        (startRequest.commandId startService) ≠ [] := by
  have hret : ((start startDatabase).run startService startRequest twoCalls).Returned 1
      demoAccepted := returned_of_answer (by decide +kernel)
  have h := (submission_idempotent startService startRequest demo_unsubmitted twoCalls).1.2 1 _ hret
  exact ⟨hret, h.2 rfl⟩

open SubmissionWorld in
/-- The second call is answered from a completed record, and the third, which arrives
later, gets another answer. -/
theorem answers_differ :
    ¬ ∀ (service : SubmissionService) (request : SubmissionRequest) (d : ControlDatabase),
      Unsubmitted service request d → ∀ ms1 ms2 answer,
        ((start d).run service request ms1).AnsweredFromCompleted answer →
        ∀ i result, ((start d).run service request ms1).threads.length ≤ i →
          ((start d).run service request (ms1 ++ ms2)).Returned i result → result = answer := by
  intro h
  have hans : ((start startDatabase).run startService startRequest
      (overwritten.take 8)).AnsweredFromCompleted demoAccepted :=
    answeredFromCompleted_of_replayed (by decide +kernel)
  have hret : ((start startDatabase).run startService startRequest
      (overwritten.take 8 ++ overwritten.drop 8)).Returned 2 (startRequest.unknown startService) :=
    returned_of_answer (by decide +kernel)
  have heq := h startService startRequest startDatabase demo_unsubmitted _ _ _ hans 2 _
    (by decide +kernel) hret
  exact absurd heq (by decide +kernel)

end DirtyDataOlap
