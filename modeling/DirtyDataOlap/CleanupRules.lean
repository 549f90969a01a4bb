import DirtyDataOlap.ArtifactFileRules
import DirtyDataOlap.Cleanup

/-!
# What one candidate of a cleanup does to both stores

One turn of the loop: both stores as they are, or the candidate has passed every check (`Removable`)
and the stores pass through three further states, a tombstone, then no blob, then the row marked.
**These are all the states in which an execution can crash.**
-/
namespace DirtyDataOlap.Artifacts

open Prog LocalArtifactStore Platform

/-- The durable part of both stores. -/
structure Stores where
  control : ControlTables
  durable : Nat → Durable

def Platform.stores (w : Platform) : Stores := ⟨w.control, fun place => (w.directory place).toDurable⟩

def Platform.atPlace (w : Platform) (place : Nat) (s : FileState) : Platform :=
  { w with directory := Function.update w.directory place s }

namespace Stores

def atPlace (x : Stores) (place : Nat) (d : Durable) : Stores :=
  { x with durable := Function.update x.durable place d }

def marked (x : Stores) (artifactId : String) : Stores :=
  { x with control := x.control.tombstoned artifactId }

@[simp] theorem atPlace_durable (x : Stores) (place : Nat) (d : Durable) :
    (x.atPlace place d).durable place = d := Function.update_self ..

@[simp] theorem atPlace_self (x : Stores) (place : Nat) : x.atPlace place (x.durable place) = x := by
  simp [atPlace]

end Stores

@[simp] theorem stores_atPlace (w : Platform) (place : Nat) (s : FileState) :
    (w.atPlace place s).stores = w.stores.atPlace place s.toDurable := by
  unfold stores atPlace Stores.atPlace
  congr 1
  funext other
  by_cases h : other = place
  · subst h
    simp
  · simp [h]

@[simp] theorem Platform.atPlace_self (w : Platform) (place : Nat) :
    w.atPlace place (w.directory place) = w := by
  simp [atPlace]

@[simp] theorem stores_self (w : Platform) (place : Nat) :
    w.stores.atPlace place (w.directory place).toDurable = w.stores :=
  w.stores.atPlace_self place

/-- `J` of the durable part of both stores throughout, `Q` at the end. -/
abbrev SafelyBoth {α : Type} (J : Stores → Prop) (p : Lifecycle α) (w : Platform)
    (Q : Except StoreExc α → Platform → Prop) : Prop :=
  p.Throughout act (fun w' => J w'.stores) w Q

variable {J : Stores → Prop} {w : Platform} {α : Type}

theorem act_file (place : Nat) (a : FileAct) (ω : Outside) (w : Platform) (s : FileState) :
    act (.file place a) ω (w.atPlace place s) =
      ((perform a ω s).1, w.atPlace place (perform a ω s).2) := by
  have hs : (w.atPlace place s).directory place = s := by simp [atPlace]
  show (_, _) = _
  rw [hs]
  simp [atPlace]

/-- **A method of one artifact store**, by its own rule. -/
theorem both_onStore {place : Nat} {p : Files α} {Q : Except StoreExc α → Platform → Prop}
    (h : Safely (fun d => J (w.stores.atPlace place d)) p (w.directory place)
      fun r s' => Q r (w.atPlace place s')) : SafelyBoth J (onStore place p) w Q := by
  suffices hgen : ∀ (p : Files α) (s : FileState),
      Safely (fun d => J (w.stores.atPlace place d)) p s (fun r s' => Q r (w.atPlace place s')) →
        SafelyBoth J (onStore place p) (w.atPlace place s) Q by
    have := hgen p (w.directory place) h
    rwa [atPlace_self] at this
  intro p
  induction p with
  | done v => exact fun s h => h
  | act a k ih =>
    intro s h ω
    obtain ⟨hI, hrest⟩ := h ω
    constructor
    · rw [act_file]
      show J (w.atPlace place (perform a ω s).2).stores
      rw [stores_atPlace]
      exact hI
    · rw [act_file]
      exact ih _ _ hrest

theorem act_statement {a : PlatformAct} (h : ∀ place b, a ≠ .file place b) (ω : Outside)
    (w : Platform) : act a ω w = statement a ω w := by
  cases a with
  | file place b => exact absurd rfl (h place b)
  | _ => rfl

theorem both_control {a : PlatformAct} {Q : Except StoreExc a.Reply → Platform → Prop}
    (hstore : ∀ place b, a ≠ .file place b) (hreads : (w.control.execute a).2 = w.control)
    (h : J w.stores) (hok : Q (w.control.execute a).1 w) (herror : ∀ e, Q (.error e) w) :
    SafelyBoth J (control a) w Q := by
  intro ω
  have hcases : act a ω w = ((w.control.execute a).1, w) ∨ ∃ e, act a ω w = (.error e, w) := by
    rw [act_statement hstore, statement]
    cases ω.fault with
    | none =>
      left
      simp only [hreads]
    | some fault => exact .inr ⟨fault.1, rfl⟩
  rcases hcases with hact | ⟨e, hact⟩
  · rw [hact]
    exact ⟨h, hok⟩
  · rw [hact]
    exact ⟨h, herror e⟩

/-- The reference that `stat` returns. -/
def Durable.stat? (d : Durable) (artifactId : String) : Option ArtifactRef :=
  match (d.record? artifactId).map Record.read with
  | some (.ref ref) | some (.tombstone ref _ _) => some ref
  | _ => none

theorem safely_stat {J : Durable → Prop} {s : FileState} {artifactId : String}
    {Q : Except StoreExc ArtifactRef → FileState → Prop} (h : J s.toDurable)
    (hok : ∀ ref, s.stat? artifactId = some ref → Q (.ok ref) s) (herror : ∀ e, Q (.error e) s) :
    Safely J (stat artifactId) s Q := by
  refine throughout_then fun P hnext hraise =>
    safely_readRecord h (fun record hrecord _ => hnext _ _ ?_) fun e => hraise _ _ (herror e)
  split
  · exact hok _ (by simp only [Durable.stat?, hrecord])
  · exact hok _ (by simp only [Durable.stat?, hrecord])
  · exact herror _

def Holds (x : Stores) (stores : List LocalArtifactStore) (first place : Nat) (store : LocalArtifactStore)
    (artifact : ArtifactRef) : Prop :=
  ∃ n, place = first + n ∧ stores[n]? = some store ∧
    (x.durable place).stat? artifact.artifactId = some artifact

theorem both_selectStore {artifact : ArtifactRef} (stores : List LocalArtifactStore) (first : Nat)
    {Q : Except StoreExc (Option (Nat × LocalArtifactStore)) → Platform → Prop} (h : J w.stores)
    (hnone : Q (.ok none) w)
    (hok : ∀ place store, Holds w.stores stores first place store artifact →
      Q (.ok (some (place, store))) w)
    (herror : ∀ e, Q (.error e) w) : SafelyBoth J (selectStore artifact stores first) w Q := by
  induction stores generalizing first with
  | nil => exact hnone
  | cons store rest ih =>
    have hrest := ih (first + 1) fun place other ⟨n, hplace, hn, hstat⟩ =>
      hok place other ⟨n + 1, by omega, hn, hstat⟩
    refine throughout_then fun P hnext hraise => throughout_except fun P' hreturn hfail =>
      throughout_then fun P'' hread hmissing => both_onStore (safely_stat (by rwa [stores_self])
        (fun stored hstored => ?_) fun e => ?_)
    · rw [w.atPlace_self first]
      refine hread _ _ (hreturn _ _ (hnext _ _ ?_))
      split
      · rename_i heq
        exact hok first store ⟨0, rfl, rfl, Option.some.inj heq ▸ hstored⟩
      · exact hrest
    · rw [w.atPlace_self first]
      refine hmissing _ _ (hfail _ _ ?_)
      split
      · exact hnext _ _ hrest
      · exact hraise _ _ (herror e)

/-! ## One candidate -/

/-- **What `execute_cleanup` has checked when it deletes a candidate** from the store at a place. -/
structure Removable (stores : List LocalArtifactStore) (plan : CleanupPlan)
    (candidate : CleanupCandidate) (x : Stores) (artifact : ArtifactRef) (place : Nat)
    (store : LocalArtifactStore) : Prop where
  registered : x.control.getArtifact candidate.artifactId = some artifact
  given : stores[place]? = some store
  held : (x.durable place).record? artifact.artifactId = some (.ref artifact)
  published : artifact.publicationState = .published
  allowed : cleanupAllowed plan candidate artifact (x.control.getRun artifact.runId)
    (sorted ((x.control.getDependents candidate.artifactId).map (·.artifactId))) = true
  managed : artifact.storageMode = .managed
  verified : LocalArtifactStore.Verified store (x.durable place) artifact
  planned : candidate.plannedAction = .deleteBlobIfUnreferenced
  safe : safeFilename artifact.artifactId = true

/-- The states of both stores while a reference is deleted. -/
inductive Removing (x : Stores) (artifact : ArtifactRef) (place : Nat)
    (permit : CleanupDeletionPermit) : Stores → Prop
  | buried : Removing x artifact place permit
      (x.atPlace place ((x.durable place).buried artifact permit))
  | removed : Removing x artifact place permit
      (x.atPlace place ((x.durable place).removed artifact permit))
  | marked : Removing x artifact place permit
      ((x.atPlace place ((x.durable place).removed artifact permit)).marked artifact.artifactId)

/-- The states of both stores while one candidate is processed. -/
def Processing (planHash : CleanupPlan → String) (stores : List LocalArtifactStore)
    (plan : CleanupPlan) (candidate : CleanupCandidate) (x y : Stores) : Prop :=
  y = x ∨ ∃ artifact place store, Removable stores plan candidate x artifact place store ∧
    Removing x artifact place (cleanupPermit planHash plan candidate) y

theorem getArtifact_key {t : ControlTables} {artifactId : String} {artifact : ArtifactRef}
    (h : t.getArtifact artifactId = some artifact) : artifact.artifactId = artifactId :=
  Table.find?_key (t := t.artifacts) h

theorem stat?_ref {d : Durable} {artifactId : String} {ref : ArtifactRef}
    (h : d.record? artifactId = some (.ref ref)) : d.stat? artifactId = some ref := by
  rw [Durable.stat?, h]
  rfl

/-- `mark_artifact_tombstoned` marks the row or raises. -/
theorem both_mark {artifactId : String} {Q : Except StoreExc Unit → Platform → Prop}
    (h : J w.stores) (hmark : J (w.stores.marked artifactId))
    (hok : ∀ w', w'.stores = w.stores.marked artifactId → Q (.ok ()) w')
    (herror : ∀ e, Q (.error e) w) :
    SafelyBoth J (control (.markArtifactTombstoned artifactId)) w Q := by
  intro ω
  rw [act_statement (fun _ _ he => by cases he), statement]
  cases ω.fault with
  | some fault => exact ⟨h, herror _⟩
  | none =>
    have hexecute : w.control.execute (.markArtifactTombstoned artifactId) =
        (.ok (), w.control.tombstoned artifactId) ∨
        ∃ e, w.control.execute (.markArtifactTombstoned artifactId) = (.error e, w.control) := by
      show w.control.markArtifactTombstoned artifactId = _ ∨
        ∃ e, w.control.markArtifactTombstoned artifactId = _
      unfold ControlTables.markArtifactTombstoned
      split
      · split
        · exact .inl rfl
        · exact .inr ⟨_, rfl⟩
      · exact .inr ⟨_, rfl⟩
    rcases hexecute with he | ⟨e, he⟩
    · simp only [he]
      exact ⟨hmark, hok _ rfl⟩
    · simp only [he]
      exact ⟨h, herror e⟩

section
variable {planHash : CleanupPlan → String} {stores : List LocalArtifactStore} {plan : CleanupPlan}
  {candidate : CleanupCandidate} {artifact : ArtifactRef} {place : Nat} {store : LocalArtifactStore}

theorem both_removeCandidate (hregistered : w.stores.control.getArtifact candidate.artifactId = some artifact)
    (hgiven : stores[place]? = some store)
    (hstat : (w.stores.durable place).stat? artifact.artifactId = some artifact)
    (hallowed : cleanupAllowed plan candidate artifact (w.stores.control.getRun artifact.runId)
      (sorted ((w.stores.control.getDependents candidate.artifactId).map (·.artifactId))) = true) :
    SafelyBoth (Processing planHash stores plan candidate w.stores)
      (removeCandidate planHash plan candidate artifact place store) w
      fun _ w' => Processing planHash stores plan candidate w.stores w'.stores := by
  -- the reference that `delete` finds is the registered one
  have hdeletable : ∀ ref, LocalArtifactStore.Deletable store (w.directory place).toDurable
      artifact.artifactId (cleanupPermit planHash plan candidate) ref →
      ref = artifact ∧ Removable stores plan candidate w.stores artifact place store := by
    intro ref hd
    have href : ref = artifact := Option.some.inj ((stat?_ref hd.held).symm.trans hstat)
    subst href
    obtain ⟨named, hnamed, hverified⟩ := hd.verified
    obtain rfl : named = ref := by
      have := hnamed.symm.trans hd.held
      cases this
      rfl
    have hplanned : candidate.plannedAction = .deleteBlobIfUnreferenced := by
      have := hd.covered
      simp only [permitCovers, cleanupPermit, Bool.and_eq_true,
        decide_eq_true_eq] at this
      exact of_decide_eq_true this.1.1.2
    exact ⟨rfl, hregistered, hgiven, hd.held, hd.published, hallowed, hd.managed, hverified hd.managed,
      hplanned, hd.safe⟩
  have hcaught : ∀ (e : StoreExc) (w' : Platform),
      Processing planHash stores plan candidate w.stores w'.stores →
      SafelyBoth (Processing planHash stores plan candidate w.stores)
        (if e.isPlatform then pure Verdict.rejected else raise e) w'
        fun _ w' => Processing planHash stores plan candidate w.stores w'.stores := by
    intro e w' hP
    split <;> exact hP
  refine throughout_except fun P hreturn hfail => throughout_then fun P' hnext hraise =>
    both_onStore (safely_delete ?_ ?_ ?_ ?_ ?_)
  · rw [stores_self]
    exact .inl rfl
  · intro ref hd
    obtain ⟨rfl, hr⟩ := hdeletable ref hd
    exact .inr ⟨_, _, _, hr, .buried⟩
  · intro ref hd
    obtain ⟨rfl, hr⟩ := hdeletable ref hd
    exact .inr ⟨_, _, _, hr, .removed⟩
  · intro ref s' hd hs'
    obtain ⟨rfl, hr⟩ := hdeletable ref hd
    refine hnext _ _ ?_
    have hstores : (w.atPlace place s').stores = w.stores.atPlace place
        ((w.stores.durable place).removed ref (cleanupPermit planHash plan candidate)) := by
      rw [stores_atPlace, hs']
      rfl
    have hmarked : Processing planHash stores plan candidate w.stores
        ((w.atPlace place s').stores.marked candidate.artifactId) := by
      refine .inr ⟨_, _, _, hr, ?_⟩
      rw [← getArtifact_key hregistered, hstores]
      exact .marked
    have hremoved : Processing planHash stores plan candidate w.stores (w.atPlace place s').stores :=
      .inr ⟨_, _, _, hr, hstores ▸ .removed⟩
    refine throughout_then fun P'' hdone hundone => both_mark hremoved hmarked
      (fun w2 hw2 => hdone _ _ (hreturn _ _ ?_)) fun e => hundone _ _ (hfail _ _ (hcaught e _ hremoved))
    rw [hw2]
    exact hmarked
  · intro e s' hP
    exact hraise _ _ (hfail _ _ (hcaught e _ (by rwa [stores_atPlace])))

theorem onlyReads_stateOfVerify {J : Stores → Prop} (artifactId : String) (h : J w.stores) :
    SafelyBoth J (Prog.tryCatch
      ((onStore place (store.verify artifactId)).bind fun result => pure (some result.state))
      fun e => if e.isMissing then pure none else raise e) w fun _ w' => w' = w := by
  refine throughout_except fun P hreturn hfail => throughout_then fun P' hnext hraise =>
    both_onStore ((onlyReads_verify artifactId).safely_any
      (J := fun d => J (w.stores.atPlace place d)) (by rwa [stores_self]) (fun result => ?_) fun e => ?_)
  · rw [w.atPlace_self place]
    exact hnext _ _ (hreturn _ _ rfl)
  · rw [w.atPlace_self place]
    refine hraise _ _ (hfail _ _ ?_)
    split <;> exact rfl

variable (planHash stores plan candidate) in
/-- **One candidate**: both stores stay, or it was removable and they pass through its removal. -/
theorem both_cleanupOne (w : Platform) :
    SafelyBoth (Processing planHash stores plan candidate w.stores)
      (cleanupOne planHash stores plan candidate) w
      fun _ w' => Processing planHash stores plan candidate w.stores w'.stores := by
  have hhere : Processing planHash stores plan candidate w.stores w.stores := .inl rfl
  refine throughout_then fun P hnext hraise =>
    both_control (fun _ _ he => by cases he) rfl hhere (hnext _ _ ?_) fun _ => hraise _ _ hhere
  split
  · exact hhere
  rename_i artifact hregistered
  refine throughout_then fun P hnext hraise =>
    both_control (fun _ _ he => by cases he) rfl hhere (hnext _ _ ?_) fun _ => hraise _ _ hhere
  refine throughout_then fun P hnext hraise =>
    both_control (fun _ _ he => by cases he) rfl hhere (hnext _ _ ?_) fun _ => hraise _ _ hhere
  refine throughout_then fun P hnext hraise => both_selectStore stores 0 hhere (hnext _ _ hhere)
    (fun place store hholds => hnext _ _ ?_) fun _ => hraise _ _ hhere
  obtain ⟨n, hn, hgiven, hstat⟩ := hholds
  rw [Nat.zero_add] at hn
  subst hn
  dsimp only
  split
  · rename_i hallowed
    refine throughout_bind (fun _ w' => w' = w)
      (onlyReads_stateOfVerify artifact.artifactId hhere) ?_ ?_
    · rintro integrity w rfl
      split
      · exact hhere
      · split
        · exact hhere
        · exact both_removeCandidate hregistered hgiven hstat hallowed
    · rintro e w rfl
      exact hhere
  · exact hhere

end
end DirtyDataOlap.Artifacts
