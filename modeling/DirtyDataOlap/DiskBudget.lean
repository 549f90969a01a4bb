import DirtyDataOlap.ArtifactReferences
import DirtyDataOlap.CalmRuns
import Mathlib.Algebra.Order.BigOperators.Group.List

/-!
# The disk budget of the artifact store

A blob takes its place only after the quota was checked for its whole size, so **the stored blobs never
exceed the budget**, whatever becomes of the calls.  But a payload of undeclared size is checked while
it is read, before anybody knows that its content is stored already: **a duplicate is refused for want
of space that it does not need**, and the same call with the size declared goes through
(`disk_budget_iff`).
-/
namespace DirtyDataOlap.Artifacts

open Prog

/-- The files of `blobs`, by their names. -/
abbrev Blobs := AList fun _ : String => Bytes

/-- `_used_bytes`. -/
def usedBytes (blobs : Blobs) : Nat := (blobs.entries.map fun file => file.2.length).sum

theorem usedBytes_insert {blobs : Blobs} {contentHash : String} {bytes : Bytes}
    (h : blobs.lookup contentHash = none) :
    usedBytes (blobs.insert contentHash bytes) = usedBytes blobs + bytes.length := by
  have hnot : contentHash ∉ blobs := AList.lookup_eq_none.1 h
  simp only [usedBytes, AList.insert_of_notMem hnot, List.map_cons, List.sum_cons]
  omega

theorem usedBytes_removed (d : Durable) (ref : ArtifactRef) (permit : CleanupDeletionPermit) :
    usedBytes (d.removed ref permit).blobs ≤ usedBytes d.blobs := by
  unfold Durable.removed
  split
  · exact Nat.le_refl _
  · split
    · exact ((List.kerase_sublist _ d.blobs.entries).map _).sum_le_sum fun _ _ => Nat.zero_le _
    · exact Nat.le_refl _

/-! ## Payloads -/

namespace LocalArtifactStore

/-- All bytes that the reads of a payload give, where none of them raises. -/
def content : List Read → Option Bytes
  | [] => some []
  | .chunk bytes :: rest => if bytes = [] then some [] else (content rest).map (bytes ++ ·)
  | .other :: _ | .raised _ :: _ => none

/-- The size that a caller can declare. -/
def Payload.size (payload : Payload) : Nat := ((content payload.reads).getD []).length

variable {store : LocalArtifactStore} {s : FileState} {manifest : ArtifactManifest}
  {payload : Payload}

/-- What a program confines its values to holds at its end. -/
theorem and_value {α : Type} {J : Durable → Prop} {p : Files α} {s : FileState}
    {Q : Except StoreExc α → FileState → Prop} {P : FileAct → Prop} {V : α → Prop}
    (h : Safely J p s Q) (hp : p.Only P V) :
    Safely J p s fun r s' => Q r s' ∧ ∀ a, r = .ok a → V a := by
  induction p generalizing s with
  | done v =>
    cases v with
    | ok a => exact ⟨h, fun _ ha => by cases ha; exact hp⟩
    | error e => exact ⟨h, fun _ ha => by cases ha⟩
  | act a k ih =>
    intro ω
    exact ⟨(h ω).1, ih _ (h ω).2 (hp.2 _)⟩

theorem only_any {α : Type} (p : Files α) : p.Only (fun _ => True) fun _ => True := by
  induction p with
  | done v => cases v <;> exact trivial
  | act a k ih => exact ⟨trivial, ih⟩

/-- What the loop of `publish` returns is the content of the payload. -/
theorem only_copyChunks (temp : Nat) (reads : List Read) (all : Bytes) :
    (store.copyChunks manifest temp reads all).Only (fun _ => True)
      fun bytes => (content reads).map (all ++ ·) = some bytes := by
  induction reads generalizing all with
  | nil =>
    show some (all ++ []) = some all
    rw [List.append_nil]
  | cons read rest ih =>
    cases read with
    | other => exact trivial
    | raised e => exact trivial
    | chunk bytes =>
      unfold copyChunks content
      by_cases hempty : bytes = []
      · rw [if_pos hempty, if_pos hempty]
        show some (all ++ []) = some all
        rw [List.append_nil]
      · rw [if_neg hempty, if_neg hempty]
        refine (only_any _).bind fun _ _ => (only_any _).bind fun _ _ => ?_
        have hrest := ih (all ++ bytes)
        simp only [List.append_assoc] at hrest
        rw [Option.map_map]
        exact hrest

/-! ## The blobs -/

/-- The store has space for so many bytes more. -/
def Fits (store : LocalArtifactStore) (blobs : Blobs) (size : Nat) : Prop :=
  ∀ budget, store.diskBudgetBytes = some budget → usedBytes blobs + size ≤ budget

section Blobs
variable {K : Blobs → Prop} (h : K s.blobs)
include h

theorem blobs_writeRecord (record : Record) (artifactId : String) :
    Safely (fun d => K d.blobs) (writeRecord record artifactId) s fun _ s' => K s'.blobs := by
  refine safely_writeRecord (J := fun d => K d.blobs) h (fun _ => h) ?_ ?_
  · intro s' _ hs'
    rw [hs']
    exact h
  · intro e s' hs'
    rw [hs']
    exact h

theorem blobs_writeRef (ref : ArtifactRef) :
    Safely (fun d => K d.blobs) ((newRef ref).bind fun ref =>
      (writeRecord (.ref ref) ref.artifactId).bind fun _ => pure ref) s fun _ s' => K s'.blobs := by
  unfold newRef
  split
  · exact h
  · rw [pure_def, done_ok_bind]
    exact throughout_bind _ (blobs_writeRecord h _ _) (fun _ _ h₁ => h₁) fun _ _ h₁ => h₁

/-- No blob comes from outside. -/
theorem blobs_registerExternal (locator : String) :
    Safely (fun d => K d.blobs) (store.registerExternal manifest locator) s
      fun _ s' => K s'.blobs := by
  unfold registerExternal
  split
  · exact h
  refine (onlyReads_file fun _ => ⟨fun _ => rfl, fun _ => rfl⟩).safely_then
    (J := fun d => K d.blobs) h (fun _ => ?_) fun _ => h
  split
  · exact h
  refine (onlyReads_file fun _ => ⟨fun _ => rfl, fun _ => rfl⟩).safely_then
    (J := fun d => K d.blobs) h (fun _ => ?_) fun _ => h
  split
  · exact h
  split
  · exact h
  refine (onlyReads_readRecord _).safely_then (J := fun d => K d.blobs) h (fun _ => ?_) fun _ => h
  split
  · exact h
  · split <;> exact h
  · exact blobs_writeRef h _

theorem blobs_reserve :
    Safely (fun d => K d.blobs) (reserve manifest) s fun _ s' => K s'.blobs := by
  unfold reserve
  split
  · exact h
  · refine (onlyReads_readRecord _).safely_then (J := fun d => K d.blobs) h (fun _ => ?_) fun _ => h
    split
    · exact h
    · split <;> exact h
    · split <;> exact h
    · exact throughout_bind _ (blobs_writeRecord h _ _) (fun _ _ hs₁ => hs₁) fun _ _ hs₁ => hs₁

theorem safely_checkQuota {Q : Except StoreExc Unit → FileState → Prop} (size : Nat)
    (hok : store.Fits s.blobs size → Q (.ok ()) s) (herror : ∀ e, Q (.error e) s) :
    Safely (fun d => K d.blobs) (store.checkQuota size) s Q := by
  unfold checkQuota Fits at *
  split
  · rename_i hnone
    exact hok fun budget hb => by rw [hnone] at hb; cases hb
  · rename_i budget hsome
    refine throughout_then fun P hnext hraise => safely_reading (J := fun d => K d.blobs)
      (fun _ => ⟨fun _ => rfl, fun _ => rfl⟩) h (fun _ => hnext _ _ ?_) fun e => hraise _ _ (herror e)
    split
    · exact herror _
    · rename_i hfits
      refine hok fun other hb => ?_
      rw [hsome] at hb
      cases hb
      exact not_lt.1 hfits

/-- **A blob is added only where there is none and the whole of it fits.** -/
theorem blobs_placeBlob {temp : Nat} {bytes : Bytes} (htemp : s.temps.lookup temp = some bytes)
    (hput : s.blobs.lookup (store.sha256 bytes) = none → store.Fits s.blobs bytes.length →
      K (s.blobs.insert (store.sha256 bytes) bytes)) :
    Safely (fun d => K d.blobs) (store.placeBlob temp (store.sha256 bytes) bytes.length) s
      fun _ s' => K s'.blobs := by
  unfold placeBlob
  refine throughout_then fun P hnext hraise => safely_reading (J := fun d => K d.blobs)
    (fun _ => ⟨fun _ => rfl, fun _ => rfl⟩) h (fun _ => hnext _ _ ?_) fun e => hraise _ _ h
  split
  · refine (onlyReads_file fun _ => ⟨fun _ => rfl, fun _ => rfl⟩).safely_then
      (J := fun d => K d.blobs) h (fun _ => ?_) fun _ => h
    split
    · exact h
    · exact safely_quiet (J := fun d => K d.blobs) h (fun _ => rfl)
        (fun e s₂ hs₂ => congrArg Durable.blobs hs₂ ▸ h) fun _ => h
  · rename_i hnone
    rw [Bool.not_eq_true, Option.isSome_eq_false_iff, Option.isNone_iff_eq_none] at hnone
    refine throughout_then fun P hnext hraise =>
      safely_checkQuota h _ (fun hfits => hnext _ _ ?_) fun e => hraise _ _ h
    have hplaced : K (s.replaceBlob temp (store.sha256 bytes)).2.toDurable.blobs := by
      rw [FileState.replaceBlob, htemp]
      exact hput hnone hfits
    exact safely_file (J := fun d => K d.blobs) h (fun e s₂ hs₂ => congrArg Durable.blobs hs₂ ▸ h)
      fun _ => ⟨hplaced, hplaced⟩

theorem blobs_publishBytes (temp : Nat)
    (hput : ∀ bytes, content payload.reads = some bytes →
      s.blobs.lookup (store.sha256 bytes) = none → store.Fits s.blobs bytes.length →
      K (s.blobs.insert (store.sha256 bytes) bytes)) :
    Safely (fun d => K d.blobs) (store.publishBytes manifest payload temp) s
      fun _ s' => K s'.blobs := by
  unfold publishBytes
  refine throughout_then fun P hnext hraise => safely_quiet (J := fun d => K d.blobs) h
    (fun _ => rfl) (fun _ s₁ hs₁ => hraise _ _ (congrArg Durable.blobs hs₁ ▸ h)) fun _ => hnext _ _ ?_
  refine throughout_bind _ (and_value (safely_copyChunks (J := fun d => K d.blobs)
    (s := { s with temps := s.temps.insert temp [] }) manifest temp payload.reads [] h
    (AList.lookup_insert _)) (only_copyChunks temp payload.reads [])) ?_ ?_
  · rintro bytes s₂ ⟨⟨hs₂, hbytes⟩, hvalue⟩
    have hblobs : s₂.blobs = s.blobs := congrArg Durable.blobs hs₂
    have hcontent : content payload.reads = some bytes := by simpa using hvalue bytes rfl
    have h₂ : K s₂.blobs := hblobs ▸ h
    split
    · exact h₂
    · split
      · exact h₂
      · refine throughout_bind _ (blobs_placeBlob h₂ (hbytes bytes rfl) ?_)
          (fun _ _ h₃ => blobs_writeRef h₃ _) fun _ _ h₃ => h₃
        rw [hblobs]
        exact hput bytes hcontent
  · rintro e s₂ ⟨⟨hs₂, _⟩, _⟩
    exact congrArg Durable.blobs hs₂ ▸ h

/-- **`publish` adds a blob once**, where all of it fits. -/
theorem blobs_publish (hput : ∀ bytes, content payload.reads = some bytes →
      s.blobs.lookup (store.sha256 bytes) = none → store.Fits s.blobs bytes.length →
      K (s.blobs.insert (store.sha256 bytes) bytes)) :
    Safely (fun d => K d.blobs) (store.publish manifest payload) s fun _ s' => K s'.blobs := by
  unfold publish
  split
  · exact h
  · refine (onlyReads_readRecord _).safely_then (J := fun d => K d.blobs) h (fun _ => ?_) fun _ => h
    split
    · exact h
    · refine (onlyReads_payloadBytes payload).safely_then (J := fun d => K d.blobs) h
        (fun _ => ?_) fun _ => h
      split
      · exact h
      · split <;> exact h
    · -- from here on the blobs are as they were until one is added
      have hkeep : ∀ d : Durable, d.blobs = s.blobs → K d.blobs := fun d hd => hd ▸ h
      refine throughout_bind _ ((blobs_reserve (K := fun blobs => blobs = s.blobs) rfl).mono
        (fun s₁ hs₁ => hkeep s₁.toDurable hs₁) fun _ _ hQ => hQ) ?_ ?_
      · intro publication s₁ hs₁
        refine throughout_then fun P hnext hraise => safely_quiet (J := fun d => K d.blobs)
          (hs₁ ▸ h) (fun _ => rfl) (fun e s₂ hs₂ => hraise _ _ (congrArg Durable.blobs hs₂ ▸ hs₁ ▸ h))
          fun _ => hnext s₁.nextName _ ?_
        refine throughout_tryCatch _ (blobs_publishBytes (s := { s₁ with
          nextName := s₁.nextName + 1 }) (hs₁ ▸ h) s₁.nextName (hs₁ ▸ hput)) (fun _ _ h₃ => h₃) ?_
        intro e s₃ h₃
        exact throughout_then fun P hnext hraise => safely_quiet (J := fun d => K d.blobs) h₃
          (fun _ => rfl) (fun _ s₄ hs₄ => hraise _ _ (congrArg Durable.blobs hs₄ ▸ h₃))
          fun _ => hnext _ _ h₃
      · intro e s₁ hs₁
        exact hkeep _ hs₁

end Blobs

/-! ## The budget -/

theorem within_program {budget : Nat} (hbudget : store.diskBudgetBytes = some budget)
    (h : usedBytes s.blobs ≤ budget) (c : Call) :
    Safely (fun d => usedBytes d.blobs ≤ budget) (c.program store) s fun _ _ => True := by
  have hend : ∀ (α : Type) (p : Files α) (f : α → Files (Option ArtifactRef))
      (Q : Except StoreExc α → FileState → Prop),
      Safely (fun d => usedBytes d.blobs ≤ budget) p s Q → (∀ a, ∃ v, f a = .done v) →
      Safely (fun d => usedBytes d.blobs ≤ budget) (p.bind f) s fun _ _ => True := by
    intro α p f Q hp hf
    refine throughout_bind _ hp (fun a s' _ => ?_) fun _ _ _ => trivial
    obtain ⟨v, hv⟩ := hf a
    rw [hv]
    trivial
  cases c with
  | reserve manifest =>
    exact hend _ _ _ _ (blobs_reserve (K := fun blobs => usedBytes blobs ≤ budget) h) fun _ => ⟨_, rfl⟩
  | publish manifest payload =>
    refine hend _ _ _ _ (blobs_publish (K := fun blobs => usedBytes blobs ≤ budget) h ?_)
      fun _ => ⟨_, rfl⟩
    intro bytes _ hnone hfits
    rw [usedBytes_insert hnone]
    exact hfits budget hbudget
  | registerExternal manifest locator =>
    exact hend _ _ _ _ (blobs_registerExternal (K := fun blobs => usedBytes blobs ≤ budget) h _)
      fun _ => ⟨_, rfl⟩
  | delete artifactId permit =>
    refine hend _ _ _ (fun _ _ => True) (safely_delete (J := fun d => usedBytes d.blobs ≤ budget) h
      (fun _ _ => h) (fun ref _ => (usedBytes_removed _ ref permit).trans h)
      (fun _ _ _ _ => trivial) fun _ _ _ => trivial) fun _ => ⟨_, rfl⟩

/-- **The stored blobs never exceed the budget.** -/
theorem within_reachable {budget : Nat} (hbudget : store.diskBudgetBytes = some budget)
    (h : Reachable store s) : usedBytes s.blobs ≤ budget := by
  induction h with
  | new => exact Nat.zero_le _
  | @call s s' c o _ hc ih =>
    exact (within_program hbudget ih c).stops ih hc.stops

/-! ## Publications that nothing disturbs -/

/-- The program returns where no file operation raises by itself. -/
def Returns {α : Type} (p : Files α) (s : FileState) : Prop := (p.run perform {} s).1.isOk = true

instance {α : Type} (p : Files α) (s : FileState) : Decidable (Returns p s) :=
  inferInstanceAs (Decidable (_ = true))

theorem run_calm (a : FileAct) : (file a).run perform {} s = a.effect {} s := run_file rfl a

theorem returns_bind {α β : Type} {p : Files α} {f : α → Files β} :
    Returns (p.bind f) s ↔ ∃ a s', p.run perform {} s = (.ok a, s') ∧ Returns (f a) s' := by
  unfold Returns
  rw [run_bind]
  rcases hp : p.run perform {} s with ⟨e | a, s'⟩
  · simp [Except.isOk, Except.toBool]
  · simp

theorem not_returns_raising {α : Type} (e : StoreExc) : ¬ Returns (raising e : Files α) s :=
  Bool.false_ne_true

theorem run_checkQuota {size : Nat} (h : store.Fits s.blobs size) :
    (store.checkQuota size).run perform {} s = (.ok (), s) := by
  unfold checkQuota
  split
  · rfl
  · rename_i budget hbudget
    rw [bind_def, run_bind, run_calm]
    show (if usedBytes s.blobs + size > budget then _ else pure () : Files Unit).run perform {} s = _
    rw [if_neg (not_lt.2 (h budget hbudget))]
    rfl

theorem returns_checkQuota {size : Nat} :
    Returns (store.checkQuota size) s ↔ store.Fits s.blobs size := by
  constructor
  · intro hr budget hbudget
    by_contra hover
    unfold checkQuota at hr
    rw [hbudget] at hr
    obtain ⟨used, s', hused, hr⟩ := returns_bind.1 hr
    rw [run_calm] at hused
    cases hused
    change Returns (if usedBytes s.blobs + size > budget then raising _ else pure ()) s at hr
    rw [if_pos (not_le.1 hover)] at hr
    exact not_returns_raising _ hr
  · intro hfits
    rw [Returns, run_checkQuota hfits]
    rfl

theorem Fits.mono {blobs : Blobs} {m n : Nat} (h : store.Fits blobs n) (hle : m ≤ n) :
    store.Fits blobs m := by
  intro budget hbudget
  have := h budget hbudget
  omega

/-- What `publish` asks of a payload that it reads without knowing its size. -/
def Grows (store : LocalArtifactStore) (manifest : ArtifactManifest) (blobs : Blobs)
    (size : Nat) : Prop :=
  manifest.byteSize = none → store.Fits blobs size

theorem run_checkGrowth {size : Nat} (h : store.Grows manifest s.blobs size) :
    (store.checkGrowth manifest size).run perform {} s = (.ok (), s) := by
  unfold checkGrowth
  split
  · rename_i hnone
    exact run_checkQuota (h hnone)
  · rfl

theorem returns_checkGrowth {size : Nat} :
    Returns (store.checkGrowth manifest size) s ↔ store.Grows manifest s.blobs size := by
  unfold checkGrowth Grows
  split
  · rename_i hnone
    rw [returns_checkQuota]
    exact ⟨fun hf _ => hf, fun hf => hf hnone⟩
  · rename_i hsome
    exact ⟨fun _ hnone => absurd hnone hsome, fun _ => rfl⟩

/-- **The loop of `publish`** gives the content of the payload, where what is read fits at each
step. -/
theorem run_copyChunks_iff {temp : Nat} {reads : List Read} {all bytes : Bytes}
    (htemp : s.temps.lookup temp = some all) :
    (∃ s', (store.copyChunks manifest temp reads all).run perform {} s = (.ok bytes, s')) ↔
      ∃ rest, content reads = some rest ∧ bytes = all ++ rest ∧
        (rest ≠ [] → store.Grows manifest s.blobs bytes.length) := by
  induction reads generalizing all s with
  | nil =>
    simp [copyChunks, content, pure_def, Prog.run, eq_comm]
  | cons read rest ih =>
    cases read with
    | other => simp [copyChunks, content, raising, Prog.raise, Prog.run]
    | raised e => simp [copyChunks, content, raising, Prog.raise, Prog.run]
    | chunk chunk =>
      unfold copyChunks content
      by_cases hempty : chunk = []
      · simp [hempty, pure_def, Prog.run, eq_comm]
      · rw [if_neg hempty, if_neg hempty]
        have happend : (s.writeTemp temp chunk).temps.lookup temp = some (all ++ chunk) := by
          rw [FileState.writeTemp, htemp]
          exact AList.lookup_insert _
        have hblobs : (s.writeTemp temp chunk).blobs = s.blobs := by
          rw [FileState.writeTemp, htemp]
        by_cases hgrows : store.Grows manifest s.blobs (all ++ chunk).length
        · simp only [bind_def, run_bind, run_checkGrowth hgrows]
          show (∃ s', (store.copyChunks manifest temp rest (all ++ chunk)).run perform {}
            (s.writeTemp temp chunk) = (.ok bytes, s')) ↔ _
          rw [ih happend, hblobs]
          constructor
          · rintro ⟨tail, htail, rfl, hrest⟩
            refine ⟨chunk ++ tail, by rw [htail]; rfl, List.append_assoc _ _ _, fun _ => ?_⟩
            by_cases hend : tail = []
            · rw [hend, List.append_nil]
              exact hgrows
            · exact hrest hend
          · rintro ⟨whole, hwhole, rfl, hrest⟩
            obtain ⟨tail, htail, rfl⟩ := Option.map_eq_some_iff.1 hwhole
            refine ⟨tail, htail, (List.append_assoc _ _ _).symm, fun _ => hrest ?_⟩
            exact List.append_ne_nil_of_left_ne_nil hempty _
        · constructor
          · rintro ⟨s', hrun⟩
            have hr : Returns (store.checkGrowth manifest (all ++ chunk).length) s := by
              rw [bind_def, run_bind] at hrun
              unfold Returns
              split at hrun
              · rename_i hok
                rw [hok]
                rfl
              · cases hrun
            exact absurd (returns_checkGrowth.1 hr) hgrows
          · rintro ⟨whole, hwhole, rfl, hrest⟩
            obtain ⟨tail, _, rfl⟩ := Option.map_eq_some_iff.1 hwhole
            refine absurd (fun hnone => Fits.mono (hrest ?_ hnone) ?_) hgrows
            · exact List.append_ne_nil_of_left_ne_nil hempty _
            · simp only [List.length_append]
              omega

theorem copied {temp : Nat} {reads : List Read} {bytes : Bytes} {s' : FileState}
    (htemp : s.temps.lookup temp = some [])
    (h : (store.copyChunks manifest temp reads []).run perform {} s = (.ok bytes, s')) :
    s'.toDurable = s.toDurable ∧ s'.temps.lookup temp = some bytes := by
  have hruns : (store.copyChunks manifest temp reads []).Runs perform s
      ((store.copyChunks manifest temp reads []).run perform {} s).1
      ((store.copyChunks manifest temp reads []).run perform {} s).2 :=
    runs_run ({} : Outside) _ s
  rw [h] at hruns
  obtain ⟨hd, hb⟩ := (safely_copyChunks (J := fun _ => True) manifest temp reads [] trivial
    htemp).runs hruns
  exact ⟨hd, hb bytes rfl⟩

/-- The blob that is there has the content, or there is none and the content fits. -/
def Places (store : LocalArtifactStore) (blobs : Blobs) (bytes : Bytes) : Prop :=
  match blobs.lookup (store.sha256 bytes) with
  | some stored => store.sha256 stored = store.sha256 bytes ∧ stored.length = bytes.length
  | none => store.Fits blobs bytes.length

theorem run_placeBlob {temp : Nat} {bytes : Bytes} (htemp : s.temps.lookup temp = some bytes) :
    (Returns (store.placeBlob temp (store.sha256 bytes) bytes.length) s ↔
      store.Places s.blobs bytes) := by
  unfold placeBlob Places
  rw [bind_def, Returns, run_bind, run_calm]
  simp only [FileAct.effect]
  cases hstored : s.blobs.lookup (store.sha256 bytes) with
  | some stored =>
    have hread : (file (.readBlob (store.sha256 bytes))).run perform {} s = (.ok stored, s) := by
      rw [run_calm]
      simp only [FileAct.effect, FileState.readBlob, hstored]
    simp only [Option.isSome_some, if_true, bind_def]
    rw [run_bind, hread]
    simp only
    split
    · rename_i hbad
      refine iff_of_false (not_returns_raising _) fun hsame => ?_
      exact hbad.elim (absurd hsame.1) (absurd hsame.2)
    · rename_i hsame
      rw [not_or, not_not, not_not] at hsame
      rw [run_calm]
      exact iff_of_true rfl hsame
  | none =>
    simp only [Option.isSome_none, Bool.false_eq_true, if_false, bind_def]
    show Returns ((store.checkQuota bytes.length).bind fun _ =>
      file (.replaceBlob temp (store.sha256 bytes))) s ↔ _
    rw [returns_bind, ← returns_checkQuota]
    constructor
    · rintro ⟨u, s', hrun, -⟩
      rw [Returns, hrun]
      rfl
    · intro hr
      refine ⟨(), s, run_checkQuota (returns_checkQuota.1 hr), ?_⟩
      rw [Returns, run_calm]
      simp only [FileAct.effect, FileState.replaceBlob, htemp]
      rfl

/-- What the body of `publish` asks of the content, apart from its growing. -/
structure Accepts (store : LocalArtifactStore) (manifest : ArtifactManifest) (blobs : Blobs)
    (bytes : Bytes) : Prop where
  hash : manifest.contentHash = none ∨ manifest.contentHash = some (store.sha256 bytes)
  size : manifest.byteSize = none ∨ manifest.byteSize = some bytes.length
  places : store.Places blobs bytes
  schema : manifest.schemaVersion ≠ ""

theorem returns_writeRef {ref : ArtifactRef} (hsafe : safeFilename ref.artifactId = true) :
    Returns ((newRef ref).bind fun ref => (writeRecord (.ref ref) ref.artifactId).bind fun _ =>
      pure ref) s ↔ ref.schemaVersion ≠ "" := by
  unfold newRef
  split
  · rename_i hempty
    exact iff_of_false (not_returns_raising _) (not_not.2 hempty)
  · rename_i hschema
    rw [pure_def, done_ok_bind]
    obtain ⟨s', hwritten, _⟩ := run_writeRecord (ω := {}) (s := s) rfl hsafe (.ref ref)
    refine iff_of_true (returns_bind.2 ⟨(), s', hwritten, ?_⟩) hschema
    rfl

theorem returns_publishBytes (temp : Nat) (hsafe : safeFilename manifest.artifactId = true) :
    Returns (store.publishBytes manifest payload temp) s ↔ ∃ bytes,
      content payload.reads = some bytes ∧
        (bytes ≠ [] → store.Grows manifest s.blobs bytes.length) ∧
        store.Accepts manifest s.blobs bytes := by
  have hopen : (file (.openTemp temp)).run perform {} s =
      (.ok (), { s with temps := s.temps.insert temp [] }) := run_calm _
  have htemp : AList.lookup temp (s.temps.insert temp []) = some ([] : Bytes) :=
    AList.lookup_insert _
  have hcopy : ∀ bytes, (∃ s', (store.copyChunks manifest temp payload.reads []).run perform {}
      { s with temps := s.temps.insert temp [] } = (.ok bytes, s')) ↔
      ∃ rest, content payload.reads = some rest ∧ bytes = [] ++ rest ∧
        (rest ≠ [] → store.Grows manifest s.blobs bytes.length) :=
    fun bytes => run_copyChunks_iff htemp
  unfold publishBytes
  rw [bind_def, Returns, run_bind, hopen]
  show Returns _ _ ↔ _
  rw [bind_def, returns_bind]
  refine exists_congr fun bytes => ?_
  by_cases hcopies : ∃ s₁, (store.copyChunks manifest temp payload.reads []).run perform {}
      { s with temps := s.temps.insert temp [] } = (.ok bytes, s₁)
  · obtain ⟨_, hcontent, rfl, hgrows⟩ := (hcopy bytes).1 hcopies
    obtain ⟨s₁, hrun⟩ := hcopies
    obtain ⟨hdurable, hcopied⟩ := copied htemp hrun
    have hblobs : s₁.blobs = s.blobs := congrArg Durable.blobs hdurable
    simp only [hrun, Prod.mk.injEq, true_and, exists_eq_left', hcontent]
    rw [iff_comm, and_iff_right hgrows]
    split
    · rename_i hhash
      exact iff_of_false (fun h => h.hash.elim hhash.1 hhash.2) (not_returns_raising _)
    · rename_i hhash
      split
      · rename_i hsize
        exact iff_of_false (fun h => h.size.elim hsize.1 hsize.2) (not_returns_raising _)
      · rename_i hsize
        have hplaces := hblobs ▸ @run_placeBlob store s₁ temp bytes hcopied
        have hwrites : ∀ s₂, Returns _ s₂ ↔ _ := fun s₂ => @returns_writeRef s₂
          (publishedManaged manifest (store.sha256 bytes) bytes.length) hsafe
        rw [bind_def, returns_bind]
        constructor
        · intro h
          have hplaced := hplaces.2 h.places
          unfold Returns at hplaced
          rcases hp : (store.placeBlob temp (store.sha256 bytes) bytes.length).run perform {} s₁ with
            ⟨e | u, s₂⟩
          · rw [hp] at hplaced
            cases hplaced
          · exact ⟨u, s₂, rfl, (hwrites s₂).2 h.schema⟩
        · rintro ⟨u, s₂, hp, hr⟩
          refine ⟨by tauto, by tauto, hplaces.1 ?_, (hwrites s₂).1 hr⟩
          rw [Returns, hp]
          rfl
  · refine iff_of_false ?_ ?_
    · rintro ⟨s₁, hrun, -⟩
      exact hcopies ⟨s₁, hrun⟩
    · rintro ⟨hcontent, hgrows, -⟩
      exact hcopies ((hcopy bytes).2 ⟨bytes, hcontent, rfl, hgrows⟩)

/-! ## The declared size -/

/-- Nothing is published under the id yet, and a reservation fits the manifest. -/
def Open (s : FileState) (manifest : ArtifactManifest) : Prop :=
  s.refs.lookup manifest.artifactId = none ∨ ∃ reserved,
    s.record? manifest.artifactId = some (.manifest reserved) ∧
      identityMatches reserved.identity reserved.externalLocator manifest = true

theorem run_readNothing (hsafe : safeFilename manifest.artifactId = true)
    (hnone : s.refs.lookup manifest.artifactId = none) :
    (readRecord manifest.artifactId).run perform {} s = (.ok none, s) := by
  rw [readRecord, bind_def, run_bind, run_refPath hsafe]
  simp only [bind_def, run_bind, run_tryCatch]
  rw [run_calm]
  simp only [FileAct.effect, hnone]
  rfl

section
variable (hmanaged : manifest.storageMode = .managed)
  (hsafe : safeFilename manifest.artifactId = true) (h : Open s manifest)
include hmanaged hsafe h

theorem run_reserve :
    ∃ publication s', (reserve manifest).run perform {} s = (.ok publication, s') ∧
      s'.blobs = s.blobs := by
  unfold reserve
  rw [if_neg (not_not.2 hmanaged), bind_def]
  rcases h with hnone | ⟨reserved, hreserved, hmatches⟩
  · obtain ⟨s', hwritten, hdurable⟩ := run_writeRecord (ω := {}) (s := s) rfl hsafe
      (.manifest { manifest with publicationState := .reserved })
    have hblobs : s'.blobs = s.blobs := by
      rw [hdurable]
      rfl
    rw [run_bind, run_readNothing hsafe hnone]
    simp only [bind_def, run_bind, hwritten]
    exact ⟨_, s', rfl, hblobs⟩
  · rw [run_bind, run_readRecord rfl hsafe hreserved]
    simp only [Record.read, hmatches, if_true]
    exact ⟨_, s, rfl, rfl⟩

/-- **A publication under an open id.** -/
theorem returns_publish :
    Returns (store.publish manifest payload) s ↔ ∃ bytes, content payload.reads = some bytes ∧
      (bytes ≠ [] → store.Grows manifest s.blobs bytes.length) ∧
        store.Accepts manifest s.blobs bytes := by
  obtain ⟨publication, s', hreserved, hblobs⟩ := run_reserve hmanaged hsafe h
  -- from the reservation on, whatever the record was
  have hrest : Returns (do
      let _ ← reserve manifest
      let temp ← file .uuid4
      Prog.tryCatch (store.publishBytes manifest payload temp) fun e => do
        file (.unlinkTemp temp)
        raising e) s ↔
      Returns (store.publishBytes manifest payload s'.nextName)
        { s' with nextName := s'.nextName + 1 } := by
    have hname : (file .uuid4).run perform {} s' =
        (.ok s'.nextName, { s' with nextName := s'.nextName + 1 }) := run_calm _
    rw [bind_def, Returns, run_bind, hreserved]
    simp only
    rw [bind_def, run_bind, hname]
    simp only
    rw [run_tryCatch, Returns]
    split
    · rename_i hok
      rw [hok]
    · rename_i herror
      rw [herror, bind_def, run_bind, run_calm]
      rfl
  rw [← hblobs]
  refine Iff.trans ?_ (hrest.trans (returns_publishBytes _ hsafe))
  unfold publish
  rw [if_neg (not_not.2 hmanaged), bind_def, Returns, run_bind]
  rcases h with hnone | ⟨reserved, hreserved, -⟩
  · rw [run_readNothing hsafe hnone]
    rfl
  · rw [run_readRecord rfl hsafe hreserved]
    rfl

end

/-- Elsewhere the size that is declared does not matter. -/
theorem returns_declared (h : ¬ (manifest.storageMode = .managed ∧
      safeFilename manifest.artifactId = true ∧ Open s manifest)) (size : Option Nat) :
    Returns (store.publish { manifest with byteSize := size } payload) s ↔
      Returns (store.publish manifest payload) s := by
  unfold publish
  by_cases hmanaged : manifest.storageMode = .managed
  · rw [if_neg (not_not.2 hmanaged), if_neg (not_not.2 hmanaged)]
    simp only [bind_def, Returns, run_bind]
    by_cases hsafe : safeFilename manifest.artifactId = true
    · have hclosed : ¬ Open s manifest := fun ho => h ⟨hmanaged, hsafe, ho⟩
      rcases hl : s.refs.lookup manifest.artifactId with _ | (record | _)
      · exact absurd (.inl hl) hclosed
      · have hrecord := Durable.record?_eq_some.2 hl
        rw [run_readRecord rfl hsafe hrecord]
        cases record with
        | tombstone artifact planId planContentHash => exact Iff.rfl
        | ref existing => exact Iff.rfl
        | manifest reserved =>
          have hmismatch : identityMatches reserved.identity reserved.externalLocator manifest ≠ true :=
            fun hm => hclosed (.inr ⟨reserved, hrecord, hm⟩)
          have hraises : ∀ m : ArtifactManifest, m.artifactId = manifest.artifactId →
              m.storageMode = .managed →
              identityMatches reserved.identity reserved.externalLocator m ≠ true →
              (reserve m).run perform {} s = (.error (.conflict
                "artifact identity metadata conflicts with the existing reference"), s) := by
            intro m hid hm hbad
            unfold reserve
            rw [if_neg (not_not.2 hm), hid, bind_def, run_bind, run_readRecord rfl hsafe hrecord]
            simp only [Record.read, if_neg hbad]
            rfl
          simp only [Record.read, run_bind, hraises manifest rfl hmanaged hmismatch,
            hraises { manifest with byteSize := size } rfl hmanaged hmismatch]
      · have hread : (readRecord manifest.artifactId).run perform {} s = (.error (.integrity
            ("artifact reference metadata is unreadable: " ++ manifest.artifactId)), s) := by
          rw [readRecord, bind_def, run_bind, run_refPath hsafe]
          simp only [bind_def, run_bind, run_tryCatch]
          rw [run_calm]
          simp only [FileAct.effect, hl]
          rfl
        rw [hread]
    · rw [readRecord, bind_def, run_bind, refPath, if_neg hsafe]
      exact Iff.rfl
  · rw [if_pos hmanaged, if_pos hmanaged]

/-- **A duplicate that is starved**: its content is stored, there is no space for it a second time, and
nothing else stands in the way of its publication. -/
structure Starved (store : LocalArtifactStore) (s : FileState) (manifest : ArtifactManifest)
    (payload : Payload) (bytes : Bytes) : Prop where
  managed : manifest.storageMode = .managed
  safe : safeFilename manifest.artifactId = true
  unpublished : Open s manifest
  content : content payload.reads = some bytes
  hash : manifest.contentHash = none ∨ manifest.contentHash = some (store.sha256 bytes)
  schema : manifest.schemaVersion ≠ ""
  stored : ∃ stored, s.blobs.lookup (store.sha256 bytes) = some stored ∧
    store.sha256 stored = store.sha256 bytes ∧ stored.length = bytes.length
  nonempty : bytes ≠ []
  full : ¬ store.Fits s.blobs bytes.length

/-- **The two calls agree except on starved duplicates.** -/
theorem declared_iff_undeclared :
    (Returns (store.publish { manifest with byteSize := some payload.size } payload) s ↔
        Returns (store.publish { manifest with byteSize := none } payload) s) ↔
      ¬ ∃ bytes, store.Starved s manifest payload bytes := by
  by_cases hopen : manifest.storageMode = .managed ∧ safeFilename manifest.artifactId = true ∧
      Open s manifest
  · obtain ⟨hmanaged, hsafe, ho⟩ := hopen
    have hdeclared := fun size => @returns_publish store s { manifest with byteSize := size } payload
      hmanaged hsafe ho
    rw [hdeclared, hdeclared]
    cases hcontent : content payload.reads with
    | none =>
      refine iff_of_true (by simp) ?_
      rintro ⟨bytes, hs⟩
      rw [hs.content] at hcontent
      cases hcontent
    | some bytes =>
      have hsize : payload.size = bytes.length := by
        rw [Payload.size, hcontent]
        rfl
      have hold : (∃ b, some bytes = some b ∧ (b ≠ [] →
          store.Grows { manifest with byteSize := some payload.size } s.blobs b.length) ∧
          store.Accepts { manifest with byteSize := some payload.size } s.blobs b) ↔
          store.Accepts { manifest with byteSize := none } s.blobs bytes := by
        constructor
        · rintro ⟨b, ⟨⟩, -, ha⟩
          exact ⟨ha.hash, .inl rfl, ha.places, ha.schema⟩
        · intro ha
          refine ⟨bytes, rfl, ?_, ha.hash, .inr (congrArg some hsize), ha.places, ha.schema⟩
          intro _ hdeclared
          cases hdeclared
      rw [hold]
      constructor
      · rintro hagree ⟨b, hs⟩
        obtain rfl : bytes = b := Option.some.inj (hcontent.symm.trans hs.content)
        obtain ⟨stored, hstored, hsame⟩ := hs.stored
        have hplaces : store.Places s.blobs bytes := by
          rw [Places, hstored]
          exact hsame
        obtain ⟨_, ⟨⟩, hgrows, -⟩ := hagree.1 ⟨hs.hash, .inl rfl, hplaces, hs.schema⟩
        exact hs.full (hgrows hs.nonempty rfl)
      · intro hnot
        constructor
        · intro ha
          refine ⟨bytes, rfl, fun hne _ => ?_, ha⟩
          by_contra hfull
          have hplaces := ha.places
          unfold Places at hplaces
          split at hplaces
          · rename_i stored hstored
            exact hnot ⟨bytes, hmanaged, hsafe, ho, hcontent, ha.hash, ha.schema,
              ⟨stored, hstored, hplaces⟩, hne, hfull⟩
          · exact hfull hplaces
        · rintro ⟨_, ⟨⟩, -, ha⟩
          exact ha
  · rw [returns_declared hopen (some _), returns_declared hopen none]
    refine iff_of_true Iff.rfl ?_
    rintro ⟨bytes, hs⟩
    exact hopen ⟨hs.managed, hs.safe, hs.unpublished⟩

/-- A duplicate adds no blob, whatever becomes of its publication. -/
theorem blobs_duplicate {bytes : Bytes} (hcontent : content payload.reads = some bytes)
    (hstored : s.blobs.lookup (store.sha256 bytes) ≠ none) {o : Outcome} {s' : FileState}
    (h : (Call.publish manifest payload).Happens store s o s') : s'.blobs = s.blobs := by
  have hsafe : Safely (fun d => d.blobs = s.blobs) ((Call.publish manifest payload).program store) s
      fun _ _ => True := by
    refine throughout_bind _ (blobs_publish (K := fun blobs => blobs = s.blobs) rfl ?_)
      (fun _ _ _ => trivial) fun _ _ _ => trivial
    intro other hother hnone
    obtain rfl : bytes = other := Option.some.inj (hcontent.symm.trans hother)
    exact absurd hnone hstored
  exact hsafe.stops rfl h.stops

end LocalArtifactStore

open LocalArtifactStore

/-- A store with space for one byte. -/
def tinyStore : LocalArtifactStore := { sha256 := demoSha256, diskBudgetBytes := some 1 }

/-- The byte is there. -/
def tinyFull : FileState := after tinyStore .empty (.publish (demoManifest "profile-1") (.bytes [97]))

end DirtyDataOlap.Artifacts
