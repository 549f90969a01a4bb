import DirtyDataOlap.DiscoveryCompleteness

/-!
# Retrying a dependency discovery that was killed

`discover` works in a directory derived from the request's id, which it makes anew before its `try`
and removes in a `finally`.  A kill skips the `finally`: **while the directory stands, a second call
with the same request raises.**  Nothing else of the first call is read again, since a published file
replaces the one before it.
-/

namespace DirtyDataOlap.Dependencies

open List DesbordanteDependencyAdapter

/-- The files of a directory, by table. -/
abbrev Files := List (String × List (List String))

/-- The directory of a request, where it stands. -/
abbrev TempRoot := Option Files

/-- What a directory holds in turn while `_write_engine_input` writes these inputs. -/
def writing (files : Files) : List EngineInput → List Files
  | [] => [files]
  | input :: inputs =>
    let lines := input.header :: input.rows
    files :: lines.inits.map (fun written => files ++ [(input.tableId, written)]) ++
      writing (files ++ [(input.tableId, lines)]) inputs

/-- A call of `discover`. -/
structure DiscoverCall where
  adapter : DesbordanteDependencyAdapter
  request : DependencyRequest
  catalog : SourceCatalog
  snapshot : SourceSnapshotResult
  artifactRoot : Option String
  authorization : Option DependencyAuthorization

namespace DiscoverCall

variable (c : DiscoverCall) (root : TempRoot)

/-- The adapter where the directory of the request is `root`. -/
def atRoot : DesbordanteDependencyAdapter :=
  { c.adapter with
    makesTempRoot := fun request => c.adapter.makesTempRoot request && root.isNone }

def discover : Except DiscoverRaised (DependencyResult × List ProviderCall) :=
  (c.atRoot root).discover c.request c.catalog c.snapshot c.artifactRoot
    c.authorization

/-- The rows of a call that comes to its directory. -/
def reached : Option (List (String × List StagedDependencyRow)) :=
  match c.adapter.validateEntry c.request c.catalog c.snapshot c.authorization,
    c.adapter.loadRows c.request c.catalog c.snapshot with
  | .ok (), .ok rows =>
    if c.request.searchPolicy.maxColumnPairs <
        (searchStats c.request c.catalog).candidatePairsBeforePruning ∨
      c.adapter.engine = none then none else some rows
  | _, _ => none

/-- What the directory holds in turn from `mkdir` to the end of `shutil.rmtree`: the inputs up to the
first that cannot be written, during the searches all of these, then ever fewer. -/
def contents (rows : List (String × List StagedDependencyRow)) : List Files :=
  let d := discovery c.request c.catalog c.snapshot rows
  let inputs := (d.tables.map (c.adapter.inputOf d ·.tableId)).takeWhile c.adapter.writesInput
  writing [] inputs ++ (inputs.map fun input => (input.tableId, input.header :: input.rows)).tails

/-- The directory after each step of a c. -/
def roots : List TempRoot :=
  match c.reached with
  | some rows =>
    if c.adapter.makesTempRoot c.request = true ∧ root = none then
      none :: ((c.contents rows).map some ++ [none])
    else [root]
  | none => [root]

/-- After a kill at step `n`, the call returns or raises what it would have done undisturbed. -/
def RetrySucceeds (n : Nat) : Prop :=
  c.discover ((c.roots root)[n]?.getD root) = c.discover root

variable {c root} {rows : List (String × List StagedDependencyRow)} {n : Nat}

/-- A call that comes to its directory works there only if it has made it. -/
theorem discover_eq_error (h : c.reached = some rows) : c.discover root = .error .tempRoot ↔
    ¬ (c.adapter.makesTempRoot c.request = true ∧ root = none) := by
  unfold reached at h
  split at h
  · rename_i found hentry hrows
    split at h
    · cases h
    · rename_i hpast
      obtain ⟨hbudget, hengine⟩ := not_or.1 hpast
      obtain ⟨engine, hengine⟩ := Option.ne_none_iff_exists'.1 hengine
      have hentry' : (c.atRoot root).validateEntry c.request c.catalog c.snapshot
        c.authorization = .ok () := hentry
      have hrows' : (c.atRoot root).loadRows c.request c.catalog c.snapshot = .ok found := hrows
      have hengine' : (c.atRoot root).engine = some engine := hengine
      simp only [discover, DesbordanteDependencyAdapter.discover, hentry', hrows', discoverRows, hbudget,
        if_false, hengine']
      cases hmake : c.adapter.makesTempRoot c.request <;> cases root <;> simp [atRoot, hmake]
  · cases h

/-- **The steps of a call**: nothing happens to the directory, or it is made, used and removed. -/
theorem roots_cases (c : DiscoverCall) (root : TempRoot) : c.roots root = [root] ∨
    ∃ rows, c.reached = some rows ∧ (c.adapter.makesTempRoot c.request = true ∧ root = none) ∧
      c.roots root = none :: ((c.contents rows).map some ++ [none]) := by
  unfold roots
  split
  · rename_i rows hreached
    by_cases hmake : c.adapter.makesTempRoot c.request = true ∧ root = none
    · exact .inr ⟨rows, hreached, hmake, if_pos hmake⟩
    · exact .inl (if_neg hmake)
  · exact .inl rfl

theorem not_retrySucceeds (hn : n ≠ 0) (hlength : n + 1 < (c.roots root).length) :
    ¬ c.RetrySucceeds root n := by
  intro hretry
  obtain ⟨k, rfl⟩ := Nat.exists_eq_succ_of_ne_zero hn
  obtain hroots | ⟨rows, hreached, hmake, hroots⟩ := roots_cases c root
  · simp [hroots] at hlength
  · have hk : k < (c.contents rows).length := by simpa [hroots] using hlength
    have hraises : c.discover ((c.roots root)[k.succ]?.getD root) = .error .tempRoot :=
      (discover_eq_error hreached).2 (by simp [hroots, getElem?_append, hk])
    exact (discover_eq_error hreached).1 (hretry.symm.trans hraises) hmake

/-- **A killed discovery can be retried** exactly when it was killed before it had made its directory
or after it had removed it. -/
theorem retry_succeeds_iff : c.RetrySucceeds root n ↔ n = 0 ∨ (c.roots root).length ≤ n + 1 := by
  constructor
  · intro hretry
    by_contra hinside
    obtain ⟨hn, hlength⟩ := not_or.1 hinside
    exact not_retrySucceeds hn (not_le.1 hlength) hretry
  · intro hkill
    have hroot : (c.roots root)[n]?.getD root = root := by
      obtain hroots | ⟨rows, -, hmake, hroots⟩ := roots_cases c root
      · rw [hroots]
        cases n <;> rfl
      · rcases hkill with rfl | hlength
        · rw [hroots, hmake.2]
          rfl
        · rw [hroots] at hlength ⊢
          obtain ⟨k, rfl⟩ := Nat.exists_eq_add_of_le (Nat.le_of_succ_le_succ hlength)
          cases k <;> simp [hmake.2]
    rw [RetrySucceeds, hroot]

theorem killed_discovery_raises :
    ¬ RetrySucceeds ⟨demoAdapter (fixedEngine [] [] []) [], demoRequest [.ucc] .nullsEqual, demoCatalog,
      demoSnapshot, none, some demoAuthorization⟩ none 1 :=
  not_retrySucceeds one_ne_zero (by decide +kernel)

end DiscoverCall

end DirtyDataOlap.Dependencies
