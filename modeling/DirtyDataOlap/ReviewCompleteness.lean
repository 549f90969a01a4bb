import DirtyDataOlap.ReviewSubjects
import DirtyDataOlap.JobWorker
import DirtyDataOlap.CrashRuns

/-!
# What a passed review checkpoint says

`_review_stage_result` passes a checkpoint when every context it considers has a current review that
is accepted or skipped and compatible.  The contexts are those that the resolver derives
(`mem_derive_contexts`), or the one that a resumed job carries.  **A subject without a context is
not considered**: a passed checkpoint vouches for all its subjects exactly if each of them has a
context.
-/
namespace DirtyDataOlap

open List Store Prog Except

section Subjects
variable (digests : ReviewDigests) (s : Store) (files : ReviewArtifacts) (runId : String)
variable (checkpoint : ReviewCheckpoint) (upstream : List ArtifactRef)

/-- What is reviewed at a checkpoint. -/
def ReviewCheckpoint.subjectKinds : ReviewCheckpoint → List String
  | .reviewEvidenceDecisions => ["RelationshipDecision", "SemanticMappingDecision"]
  | .reviewCanonicalIdentity => ["CanonicalIdentityProposal"]
  | .reviewAnalyticalPlan => ["AnalyticalPlan"]
  | .reviewMaterializationPlan => ["CompiledPlan"]

variable (read : ArtifactRef → Except Exc ReviewPayload)

/-- The upstream artifacts that can be read. -/
def verifiedInputs (upstream : List ArtifactRef) : List VerifiedInput :=
  upstream.filterMap fun ref => (read ref).toOption.map (ref, ·)

/-- The contexts of a verified input. -/
def payloadContexts (verified : List VerifiedInput) (ref : ArtifactRef) :
    ReviewCheckpoint → ReviewPayload → List ReviewCompatibilityContext
  | .reviewEvidenceDecisions, payload =>
    (evidenceSubject digests (domainRefs verified) (ref, payload)).toList
  | .reviewCanonicalIdentity, .canonicalIdentityProposal p =>
    if p.proposalId = ref.artifactId then
      ((identitySubject digests s read verified p).toOption.bind id).toList
    else []
  | .reviewCanonicalIdentity, _ => []
  | .reviewAnalyticalPlan, payload => (analyticalSubject digests (ref, payload)).toList
  | .reviewMaterializationPlan, .compiledPlan c =>
    if c.compiledPlanId = ref.artifactId then materializationSubject digests verified ref c else []
  | .reviewMaterializationPlan, _ => []

/-- **The contexts that the verified content of an artifact yields**, if it is a subject, can be
read and is bound to what it belongs to. -/
def subjectContexts (ref : ArtifactRef) : List ReviewCompatibilityContext :=
  match readVerified s files runId ref with
  | .ok payload => payloadContexts digests s (readVerified s files runId)
      (verifiedInputs (readVerified s files runId) upstream) ref checkpoint payload
  | .error _ => []

end Subjects

/-! ## The derivation, subject by subject -/

variable {ref : ArtifactRef} {read : ArtifactRef → Except Exc ReviewPayload}
  {upstream : List ArtifactRef}

theorem verifyInputs_ok {verified : List VerifiedInput} {unresolved : List String}
    (h : verifyInputs read upstream = .ok (verified, unresolved)) :
    verified = verifiedInputs read upstream := by
  induction upstream generalizing verified unresolved with
  | nil => cases h; rfl
  | cons ref rest ih =>
    unfold verifyInputs at h
    unfold verifiedInputs
    cases hread : read ref with
    | ok payload =>
      rw [hread] at h
      cases hrest : verifyInputs read rest with
      | error e => rw [hrest] at h; cases h
      | ok vu =>
        rw [hrest] at h
        cases h
        rw [filterMap_cons, hread]
        exact congrArg ((ref, payload) :: ·) (ih hrest)
    | error e =>
      rw [hread] at h
      dsimp only at h
      split at h
      swap
      · cases h
      cases hrest : verifyInputs read rest with
      | error e => rw [hrest] at h; cases h
      | ok vu =>
        rw [hrest] at h
        cases h
        rw [filterMap_cons, hread]
        exact ih hrest

theorem mem_verifiedInputs {payload : ReviewPayload} :
    (ref, payload) ∈ verifiedInputs read upstream ↔ ref ∈ upstream ∧ read ref = .ok payload := by
  unfold verifiedInputs
  rw [mem_filterMap]
  constructor
  · rintro ⟨ref', hmem, heq⟩
    cases hread : read ref' with
    | error e => rw [hread] at heq; cases heq
    | ok p =>
      rw [hread] at heq
      cases heq
      exact ⟨hmem, hread⟩
  · rintro ⟨hmem, hread⟩
    exact ⟨ref, hmem, by rw [hread]; rfl⟩

theorem readVerified_registered {s : Store} {files : ReviewArtifacts} {runId : String}
    {payload : ReviewPayload} (h : readVerified s files runId ref = .ok payload) :
    s.getArtifact ref.artifactId = some ref ∧ ref.runId = runId ∧
      ref.publicationState = .published ∧ files.verify ref = .ok .verified ∧
      files.payload ref = .ok payload := by
  unfold readVerified at h
  split at h
  · cases h
  rename_i artifact hget
  obtain ⟨_, hexact, h1⟩ := bind_eq_ok.mp h
  obtain ⟨stat, _, h2⟩ := bind_eq_ok.mp h1
  obtain ⟨_, _, h3⟩ := bind_eq_ok.mp h2
  obtain ⟨state, hstate, h4⟩ := bind_eq_ok.mp h3
  obtain ⟨_, hver, h5⟩ := bind_eq_ok.mp h4
  rw [ensure_ok, Bool.and_eq_true, Bool.and_eq_true, decide_eq_true_eq, decide_eq_true_eq,
    decide_eq_true_eq] at hexact
  rw [ensure_ok, decide_eq_true_eq] at hver
  obtain ⟨⟨rfl, hrun⟩, hpub⟩ := hexact
  exact ⟨hget, hrun, hpub, hver ▸ hstate, h5⟩

/-- A verified artifact is known by its identity. -/
theorem eq_of_artifactId {s : Store} {files : ReviewArtifacts} {runId : String} {ref' : ArtifactRef}
    {p p' : ReviewPayload} (h : readVerified s files runId ref = .ok p)
    (h' : readVerified s files runId ref' = .ok p') (hid : ref.artifactId = ref'.artifactId) :
    ref = ref' ∧ p = p' := by
  have hget := (readVerified_registered h).1
  rw [hid, (readVerified_registered h').1] at hget
  cases hget
  rw [h] at h'
  exact ⟨rfl, ok.inj h'⟩

theorem mem_uniqueContexts {contexts : List ReviewCompatibilityContext}
    (hinj : ∀ c ∈ contexts, ∀ c' ∈ contexts, contextKey c = contextKey c' → c = c')
    {context : ReviewCompatibilityContext} :
    context ∈ uniqueContexts contexts ↔ context ∈ contexts := by
  have hdict : ∀ item : List String × ReviewCompatibilityContext,
      item ∈ dictOf (contexts.map fun c => (contextKey c, c)) ↔
        item ∈ contexts.map fun c => (contextKey c, c) := by
    intro item
    refine mem_dictOf fun a ha b hb hab => ?_
    obtain ⟨c, hc, rfl⟩ := mem_map.mp ha
    obtain ⟨c', hc', rfl⟩ := mem_map.mp hb
    rw [hinj c hc c' hc' hab]
  constructor
  · intro h
    obtain ⟨item, hitem, rfl⟩ := mem_map.mp h
    rw [mem_sortedBy, hdict] at hitem
    obtain ⟨c, hc, rfl⟩ := mem_map.mp hitem
    exact hc
  · intro h
    refine mem_map.mpr ⟨(contextKey context, context), ?_, rfl⟩
    rw [mem_sortedBy, hdict]
    exact mem_map.mpr ⟨context, h, rfl⟩

section Derivation
variable {digests : ReviewDigests} {s : Store} {files : ReviewArtifacts} {runId : String}
variable {checkpoint : ReviewCheckpoint} {upstream : List ArtifactRef}
variable {context context' : ReviewCompatibilityContext} {ref ref' : ArtifactRef}

variable {verified : List VerifiedInput} {read : ArtifactRef → Except Exc ReviewPayload}
  {payload : ReviewPayload} {p : CanonicalIdentityProposal}

theorem evidenceSubject_artifactId {refs : List String}
    (h : evidenceSubject digests refs (ref, payload) = some context) :
    context.subjectArtifactId = ref.artifactId := by
  unfold evidenceSubject at h
  split at h
  · rename_i heq
    cases heq
    cases h
    rfl
  · rename_i heq
    cases heq
    cases h
    rfl
  · cases h

theorem identitySubject_artifactId
    (h : identitySubject digests s read verified p = .ok (some context)) :
    context.subjectArtifactId = p.proposalId := by
  obtain ⟨hyp, _, h⟩ := bind_eq_ok.mp h
  cases hyp with
  | none => cases h
  | some hypothesis =>
    dsimp only at h
    split at h
    · cases h
    have h := ok.inj h
    unfold identityContext at h
    split at h
    · cases h
    split at h
    · cases h
    · cases h
      rfl

theorem analyticalSubject_artifactId (h : analyticalSubject digests (ref, payload) = some context) :
    context.subjectArtifactId = ref.artifactId := by
  unfold analyticalSubject at h
  split at h
  · rename_i heq
    cases heq
    split at h
    · rename_i hid
      cases h
      exact hid
    · cases h
  · cases h

/-- What a context of a compiled plan is made of. -/
theorem mem_materializationSubject {c : ReviewedCompilation}
    (h : context ∈ materializationSubject digests verified ref c) :
    ∃ sqlArtifact sql target, getItem (generatedOf verified) c.generatedSqlId =
        some (sqlArtifact, sql) ∧ c.targetConfigFingerprint = target.configFingerprint ∧
      context = materializationContext digests c sql target := by
  unfold materializationSubject at h
  split at h
  · cases h
  rename_i sqlArtifact sql hget
  split at h
  swap
  · cases h
  obtain ⟨target, hmem, rfl⟩ := mem_map.mp h
  have hbound := (mem_filter.mp hmem).2
  unfold targetBound at hbound
  rw [Bool.and_eq_true, decide_eq_true_eq] at hbound
  exact ⟨sqlArtifact, sql, target.2, hget, hbound.2, rfl⟩

theorem mem_identityContexts :
    context ∈ ((identitySubject digests s read verified p).toOption.bind id).toList ↔
      identitySubject digests s read verified p = .ok (some context) := by
  rw [Option.mem_toList]
  cases identitySubject digests s read verified p with
  | error e => simp [Except.toOption]
  | ok c => simp [Except.toOption]

section
variable (h : context ∈ payloadContexts digests s read verified ref checkpoint payload)
include h

theorem payloadContexts_artifactId : context.subjectArtifactId = ref.artifactId := by
  unfold payloadContexts at h
  split at h
  · exact evidenceSubject_artifactId (Option.mem_toList.mp h)
  · split at h
    · rename_i hid
      exact (identitySubject_artifactId (mem_identityContexts.mp h)).trans hid
    · cases h
  · cases h
  · exact analyticalSubject_artifactId (Option.mem_toList.mp h)
  · split at h
    · rename_i hid
      obtain ⟨_, _, _, _, _, rfl⟩ := mem_materializationSubject h
      exact hid
    · cases h
  · cases h

/-- The contexts of one subject are told apart by their keys. -/
theorem payloadContexts_inj
    (h' : context' ∈ payloadContexts digests s read verified ref checkpoint payload)
    (hkey : contextKey context = contextKey context') : context = context' := by
  unfold payloadContexts at h h'
  split at h
  · rw [Option.mem_toList] at h h'
    exact Option.some.inj (h.symm.trans h')
  · dsimp only at h'
    split at h
    · rename_i hid
      rw [if_pos hid] at h'
      rw [mem_identityContexts] at h h'
      exact Option.some.inj (ok.inj (h.symm.trans h'))
    · cases h
  · cases h
  · rw [Option.mem_toList] at h h'
    exact Option.some.inj (h.symm.trans h')
  · dsimp only at h'
    split at h
    · rename_i hid
      rw [if_pos hid] at h'
      obtain ⟨_, sql, target, hget, hfp, rfl⟩ := mem_materializationSubject h
      obtain ⟨_, sql', target', hget', hfp', rfl⟩ := mem_materializationSubject h'
      rw [hget] at hget'
      cases hget'
      -- only the kind of the target may differ, and that is part of the key
      have hsem : digests.materializationSemantic _ _ _ target.targetType =
          digests.materializationSemantic _ _ _ target'.targetType :=
        (List.cons.inj (List.cons.inj (List.cons.inj hkey).2).2).1
      unfold materializationContext
      rw [hsem, ← hfp, ← hfp']
    · cases h
  · cases h

end

theorem mem_subjectContexts :
    context ∈ subjectContexts digests s files runId checkpoint upstream ref ↔
      ∃ payload, readVerified s files runId ref = .ok payload ∧
        context ∈ payloadContexts digests s (readVerified s files runId)
          (verifiedInputs (readVerified s files runId) upstream) ref checkpoint payload := by
  unfold subjectContexts
  cases hread : readVerified s files runId ref with
  | error e => simp
  | ok payload => simp

/-- Contexts of verified subjects are told apart by their keys. -/
theorem subjectContexts_inj
    (h : context ∈ subjectContexts digests s files runId checkpoint upstream ref)
    (h' : context' ∈ subjectContexts digests s files runId checkpoint upstream ref')
    (hkey : contextKey context = contextKey context') : context = context' := by
  obtain ⟨payload, hread, hmem⟩ := mem_subjectContexts.mp h
  obtain ⟨payload', hread', hmem'⟩ := mem_subjectContexts.mp h'
  have hid : ref.artifactId = ref'.artifactId := by
    rw [← payloadContexts_artifactId hmem, ← payloadContexts_artifactId hmem']
    exact (List.cons.inj hkey).1
  obtain ⟨rfl, rfl⟩ := eq_of_artifactId hread hread' hid
  exact payloadContexts_inj hmem hmem' hkey

theorem mem_proposalsOf : (ref, p) ∈ proposalsOf verified ↔
      (ref, .canonicalIdentityProposal p) ∈ verified ∧ p.proposalId = ref.artifactId := by
  unfold proposalsOf
  rw [mem_filterMap]
  constructor
  · rintro ⟨input, hmem, h⟩
    split at h
    · split at h
      · cases h
        exact ⟨hmem, ‹_›⟩
      · cases h
    · cases h
  · rintro ⟨hmem, hid⟩
    exact ⟨_, hmem, if_pos hid⟩

/-- The contexts of the proposals are those of the resolved ones. -/
theorem mem_identitySubjects {proposals : List (ArtifactRef × CanonicalIdentityProposal)}
    {contexts : List ReviewCompatibilityContext} {left : List String}
    (h : identitySubjects digests s read verified proposals = .ok (contexts, left)) :
    context ∈ contexts ↔ ∃ ref p, (ref, p) ∈ proposals ∧
      identitySubject digests s read verified p = .ok (some context) := by
  induction proposals generalizing contexts left with
  | nil =>
    cases h
    simp
  | cons head rest ih =>
    obtain ⟨ref, p⟩ := head
    obtain ⟨found, hfound, h1⟩ := bind_eq_ok.mp h
    obtain ⟨⟨contexts', left'⟩, hrest, h2⟩ := bind_eq_ok.mp h1
    have ih := ih hrest
    have hhead : (∃ ref' p', (ref', p') ∈ (ref, p) :: rest ∧
          identitySubject digests s read verified p' = .ok (some context)) ↔
        found = some context ∨ context ∈ contexts' := by
      rw [ih]
      constructor
      · rintro ⟨ref', p', hmem, hp⟩
        rcases mem_cons.mp hmem with heq | hmem
        · cases heq
          rw [hfound] at hp
          exact .inl (ok.inj hp)
        · exact .inr ⟨ref', p', hmem, hp⟩
      · rintro (rfl | ⟨ref', p', hmem, hp⟩)
        · exact ⟨ref, p, mem_cons_self, hfound⟩
        · exact ⟨ref', p', mem_cons_of_mem _ hmem, hp⟩
    rw [hhead]
    cases found with
    | none =>
      cases h2
      simp
    | some c =>
      cases h2
      rw [mem_cons, Option.some.injEq]
      exact or_congr_left eq_comm

theorem mem_compiledOf {name : String} {c : ReviewedCompilation} :
    (name, (ref, c)) ∈ compiledOf verified ↔
      (ref, .compiledPlan c) ∈ verified ∧ c.compiledPlanId = ref.artifactId ∧
        name = c.compiledPlanId := by
  unfold compiledOf
  rw [mem_filterMap]
  constructor
  · rintro ⟨input, hmem, h⟩
    split at h
    · split at h
      · cases h
        exact ⟨hmem, ‹_›, rfl⟩
      · cases h
    · cases h
  · rintro ⟨hmem, hid, rfl⟩
    exact ⟨_, hmem, if_pos hid⟩

variable (digests s read) in
/-- The contexts of what can be read. -/
def verifiedContexts (verified : List VerifiedInput) (checkpoint : ReviewCheckpoint) :
    List ReviewCompatibilityContext :=
  verified.flatMap fun input => payloadContexts digests s read verified input.1 checkpoint input.2

theorem mem_verifiedContexts : context ∈ verifiedContexts digests s (readVerified s files runId)
        (verifiedInputs (readVerified s files runId) upstream) checkpoint ↔
      ∃ ref ∈ upstream, context ∈ subjectContexts digests s files runId checkpoint upstream ref := by
  simp only [mem_subjectContexts, verifiedContexts, mem_flatMap, Prod.exists,
    mem_verifiedInputs]
  constructor
  · rintro ⟨ref, payload, ⟨hup, hread⟩, hmem⟩
    exact ⟨ref, hup, payload, hread, hmem⟩
  · rintro ⟨ref, hup, payload, hread, hmem⟩
    exact ⟨ref, payload, ⟨hup, hread⟩, hmem⟩

section Verified
variable {read : ArtifactRef → Except Exc ReviewPayload} {verified : List VerifiedInput}

theorem evidence_verifiedContexts :
    verified.filterMap (evidenceSubject digests (domainRefs verified)) =
      verifiedContexts digests s read verified .reviewEvidenceDecisions := by
  rw [verifiedContexts, filterMap_eq_flatMap_toList]
  rfl

theorem analytical_verifiedContexts : verified.filterMap (analyticalSubject digests) =
      verifiedContexts digests s read verified .reviewAnalyticalPlan := by
  rw [verifiedContexts, filterMap_eq_flatMap_toList]
  rfl

theorem mem_payloadContexts_identity {payload : ReviewPayload} :
    context ∈ payloadContexts digests s read verified ref .reviewCanonicalIdentity payload ↔
      ∃ p, payload = .canonicalIdentityProposal p ∧ p.proposalId = ref.artifactId ∧
        identitySubject digests s read verified p = .ok (some context) := by
  cases payload with
  | canonicalIdentityProposal p =>
    simp only [payloadContexts, mem_ite_nil_right, mem_identityContexts,
      ReviewPayload.canonicalIdentityProposal.injEq, exists_eq_left']
  | _ => simp [payloadContexts]

theorem identity_verifiedContexts {contexts : List ReviewCompatibilityContext} {left : List String}
    (h : identitySubjects digests s read verified (proposalsOf verified) = .ok (contexts, left)) :
    context ∈ contexts ↔
      context ∈ verifiedContexts digests s read verified .reviewCanonicalIdentity := by
  simp only [mem_identitySubjects h, verifiedContexts, mem_flatMap, Prod.exists,
    mem_payloadContexts_identity, mem_proposalsOf]
  constructor
  · rintro ⟨ref, p, ⟨hin, hid⟩, hsub⟩
    exact ⟨ref, _, hin, p, rfl, hid, hsub⟩
  · rintro ⟨ref, _, hin, p, rfl, hid, hsub⟩
    exact ⟨ref, p, ⟨hin, hid⟩, hsub⟩

theorem mem_payloadContexts_materialization {payload : ReviewPayload} :
    context ∈ payloadContexts digests s read verified ref .reviewMaterializationPlan payload ↔
      ∃ c, payload = .compiledPlan c ∧ c.compiledPlanId = ref.artifactId ∧
        context ∈ materializationSubject digests verified ref c := by
  cases payload with
  | compiledPlan c =>
    simp only [payloadContexts, mem_ite_nil_right, ReviewPayload.compiledPlan.injEq,
      exists_eq_left']
  | _ => simp [payloadContexts]

/-- Compiled plans are told apart by their identities, so that none replaces another. -/
theorem materialization_verifiedContexts
    (hinj : ∀ {ref ref' p p'}, (ref, p) ∈ verified → (ref', p') ∈ verified →
      ref.artifactId = ref'.artifactId → ref = ref' ∧ p = p') :
    context ∈ ((dictOf (compiledOf verified)).map Prod.snd).flatMap
        (fun c => materializationSubject digests verified c.1 c.2) ↔
      context ∈ verifiedContexts digests s read verified .reviewMaterializationPlan := by
  have hdict : ∀ item, item ∈ dictOf (compiledOf verified) ↔ item ∈ compiledOf verified := by
    intro item
    refine mem_dictOf ?_
    rintro ⟨n, ref, p⟩ ha ⟨n', ref', p'⟩ hb hab
    obtain ⟨hin, hid, rfl⟩ := mem_compiledOf.mp ha
    obtain ⟨hin', hid', rfl⟩ := mem_compiledOf.mp hb
    obtain ⟨rfl, hp⟩ := hinj hin hin' ((hid.symm.trans hab).trans hid')
    cases hp
    rfl
  simp only [verifiedContexts, mem_flatMap, Prod.exists, mem_map, hdict,
    mem_payloadContexts_materialization]
  constructor
  · rintro ⟨ref, c, ⟨name, _, _, hin, heq⟩, hsub⟩
    cases heq
    obtain ⟨hverified, hid, rfl⟩ := mem_compiledOf.mp hin
    exact ⟨ref, _, hverified, c, rfl, hid, hsub⟩
  · rintro ⟨ref, _, hin, c, rfl, hid, hsub⟩
    exact ⟨ref, c, ⟨_, ref, c, mem_compiledOf.mpr ⟨hin, hid, rfl⟩, rfl⟩, hsub⟩

end Verified

/-- **What is derived at a checkpoint is what the verified contents of its subjects yield**,
each on its own. -/
theorem mem_derive_contexts {d : ReviewSubjectDerivation}
    (h : deriveReviewSubjects digests s files runId checkpoint upstream = .ok d) :
    context ∈ d.contexts ↔
      ∃ ref ∈ upstream, context ∈ subjectContexts digests s files runId checkpoint upstream ref := by
  obtain ⟨⟨verified, unresolved⟩, hverify, h⟩ := bind_eq_ok.mp h
  obtain rfl := verifyInputs_ok hverify
  rw [← mem_verifiedContexts]
  -- contexts of verified subjects are all kept
  have hkept : ∀ contexts : List ReviewCompatibilityContext,
      (∀ c, c ∈ contexts ↔ c ∈ verifiedContexts digests s (readVerified s files runId)
        (verifiedInputs (readVerified s files runId) upstream) checkpoint) →
      (context ∈ uniqueContexts contexts ↔ context ∈ contexts) := by
    intro contexts hfrom
    refine mem_uniqueContexts fun c hc c' hc' hkey => ?_
    obtain ⟨_, _, hc⟩ := mem_verifiedContexts.mp ((hfrom c).mp hc)
    obtain ⟨_, _, hc'⟩ := mem_verifiedContexts.mp ((hfrom c').mp hc')
    exact subjectContexts_inj hc hc' hkey
  cases checkpoint with
  | reviewEvidenceDecisions =>
    cases h
    unfold evidenceContexts
    rw [evidence_verifiedContexts]
    exact hkept _ fun c => Iff.rfl
  | reviewCanonicalIdentity =>
    obtain ⟨⟨contexts, left⟩, hsubjects, h⟩ := bind_eq_ok.mp h
    cases h
    exact (hkept _ fun c => identity_verifiedContexts hsubjects).trans
      (identity_verifiedContexts hsubjects)
  | reviewAnalyticalPlan =>
    cases h
    unfold analyticalContexts
    rw [analytical_verifiedContexts]
  | reviewMaterializationPlan =>
    cases h
    have hinj : ∀ {ref ref' p p'},
        (ref, p) ∈ verifiedInputs (readVerified s files runId) upstream →
        (ref', p') ∈ verifiedInputs (readVerified s files runId) upstream →
        ref.artifactId = ref'.artifactId → ref = ref' ∧ p = p' := by
      intro ref ref' p p' h h'
      exact eq_of_artifactId (mem_verifiedInputs.mp h).2 (mem_verifiedInputs.mp h').2
    exact (hkept _ fun c => materialization_verifiedContexts hinj).trans
      (materialization_verifiedContexts hinj)

end Derivation

/-! ## The checkpoint -/

/-- The registered results of the succeeded ones of these stages, in order. -/
def Store.upstreamOf (s : Store) (runId : String) (dependencies : List String) : List ArtifactRef :=
  dependencies.flatMap fun d =>
    match s.getStageJob runId d with
    | some dependency =>
      if dependency.status = .succeeded then dependency.resultRefs.filterMap s.getArtifact else []
    | none => []

/-- The current decision on the subject lets it pass. -/
def Store.ReviewSatisfied (s : Store) (runId : String) (context : ReviewCompatibilityContext) : Prop :=
  ∃ current, s.getCurrentReview runId (reviewSubjectKey context) = some current ∧
    (current.decision.decision = .accepted ∨ current.decision.decision = .skipped) ∧
    current.decision.compatibilityErrors context = []

/-- Each context names an artifact of the run, and no two, stored or new, differ about one artifact.
-/
structure Store.Registrable (s : Store) (runId : String)
    (contexts : List ReviewCompatibilityContext) : Prop where
  bound : ∀ c ∈ contexts, (s.getArtifact c.subjectArtifactId).any (fun a => a.runId = runId) = true
  stored : ∀ c ∈ contexts, ∀ stored, s.getReviewSubjectContext runId c.reviewCheckpointId
    c.subjectArtifactId = some stored → stored = c
  agree : ∀ c ∈ contexts, ∀ c' ∈ contexts, c.reviewCheckpointId = c'.reviewCheckpointId →
    c.subjectArtifactId = c'.subjectArtifactId → c = c'

section Checkpoint
variable {env : Env} {ω : Input} {s : Store} {runId : String}

theorem run_read {α : Type} {q : Query} {f : q.Reply → Worker α} :
    ((Worker.read q).bind f).run (exec env) ω s = (f (q.eval s)).run (exec env) ω s := rfl

theorem run_artifactsOf (ids : List String) :
    (artifactsOf ids).run (exec env) ω s = (.ok (ids.filterMap s.getArtifact), s) := by
  induction ids with
  | nil => rfl
  | cons artifactId rest ih =>
    unfold artifactsOf
    rw [bind_def, run_read, bind_def, run_bind, ih, filterMap_cons]
    simp only [Query.eval]
    cases s.getArtifact artifactId <;> rfl

theorem run_upstreamArtifacts (dependencies : List String) :
    (upstreamArtifacts runId dependencies).run (exec env) ω s =
      (.ok (s.upstreamOf runId dependencies), s) := by
  unfold upstreamOf
  induction dependencies with
  | nil => rfl
  | cons d rest ih =>
    unfold upstreamArtifacts
    rw [flatMap_cons, bind_def, run_read]
    simp only [Query.eval]
    cases s.getStageJob runId d with
    | none => exact ih
    | some dependency =>
      dsimp only
      split
      · rw [bind_def, run_bind, run_artifactsOf]
        dsimp only
        rw [bind_def, run_bind, ih]
        rfl
      · exact ih

variable (contexts : List ReviewCompatibilityContext)

theorem run_reviewsAccepted :
    ∃ b, (reviewsAccepted runId contexts).run (exec env) ω s = (.ok b, s) ∧
      (b = true ↔ ∀ context ∈ contexts, s.ReviewSatisfied runId context) := by
  induction contexts with
  | nil => exact ⟨true, rfl, by simp⟩
  | cons context rest ih =>
    obtain ⟨b, hrun, hb⟩ := ih
    unfold reviewsAccepted
    rw [bind_def, run_read]
    simp only [Query.eval, forall_mem_cons, Store.ReviewSatisfied]
    cases s.getCurrentReview runId (reviewSubjectKey context) with
    | none => exact ⟨false, rfl, by simp⟩
    | some current =>
      dsimp only
      split
      · rename_i hok
        refine ⟨b, hrun, ?_⟩
        rw [hb]
        exact ⟨fun h => ⟨⟨current, rfl, hok⟩, h⟩, fun h => h.2⟩
      · rename_i hno
        refine ⟨false, rfl, ?_⟩
        simp only [Bool.false_eq_true, false_iff, not_and]
        rintro ⟨_, heq, hok⟩
        cases heq
        exact absurd hok hno

variable {context stored : ReviewCompatibilityContext}

/-- What registering one context does. -/
theorem registerReviewSubject_ok {s1 : Store}
    (h : registerReviewSubjectContext runId context s = .ok (stored, s1)) :
    s.Registrable runId [context] ∧ s1.reviews = s.reviews ∧ s1.artifacts = s.artifacts ∧
      ∀ checkpoint artifactId, s1.getReviewSubjectContext runId checkpoint artifactId =
        if context.reviewCheckpointId = checkpoint ∧ context.subjectArtifactId = artifactId then
          some context else s.getReviewSubjectContext runId checkpoint artifactId := by
  have hreg : ∀ (_ : (s.getArtifact context.subjectArtifactId).any (fun a => a.runId = runId) = true)
      (_ : ∀ stored, s.getReviewSubjectContext runId context.reviewCheckpointId
        context.subjectArtifactId = some stored → stored = context),
      s.Registrable runId [context] := by
    intro hbound hstored
    exact ⟨by simpa using hbound, by simpa using hstored, by simp⟩
  unfold registerReviewSubjectContext at h
  split at h
  swap
  · cases h
  rename_i hbound
  split at h
  · rename_i stored' hget
    split at h
    swap
    · cases h
    rename_i heq
    cases h
    cases heq
    refine ⟨hreg hbound fun _ h' => ?_, rfl, rfl, fun checkpoint artifactId => ?_⟩
    · rw [hget] at h'
      exact (Option.some.inj h').symm
    · split
      · rename_i hsame
        rw [← hsame.1, ← hsame.2, hget]
      · rfl
  · rename_i hget
    split at h
    swap
    · cases h
    rename_i reviewContexts hinsert
    cases h
    refine ⟨hreg hbound fun _ h' => ?_, rfl, rfl, fun checkpoint artifactId => ?_⟩
    · rw [hget] at h'
      cases h'
    · unfold getReviewSubjectContext at hget ⊢
      rw [Table.find?_insert? hinsert]
      by_cases hsame : context.reviewCheckpointId = checkpoint ∧
        context.subjectArtifactId = artifactId
      · obtain ⟨rfl, rfl⟩ := hsame
        rw [Option.map_eq_none_iff.mp hget]
        simp [ReviewSubjectContext.key]
      · have hne : ReviewSubjectContext.key ⟨runId, context⟩ ≠ (runId, checkpoint, artifactId) := by
          intro heq
          cases heq
          exact hsame ⟨rfl, rfl⟩
        rw [if_neg hne, if_neg hsame, Option.or_none]

theorem registerReviewSubjectContext_of_registrable (h : s.Registrable runId [context]) :
    ∃ stored s1, registerReviewSubjectContext runId context s = .ok (stored, s1) := by
  unfold registerReviewSubjectContext
  rw [if_pos (h.bound context mem_cons_self)]
  cases hget : s.getReviewSubjectContext runId context.reviewCheckpointId
    context.subjectArtifactId with
  | some stored =>
    have heq := h.stored context mem_cons_self stored hget
    exact ⟨stored, s, if_pos heq⟩
  | none =>
    obtain ⟨reviewContexts, hinsert⟩ := Table.exists_insert?
      (r := (⟨runId, context⟩ : ReviewSubjectContext)) (Option.map_eq_none_iff.mp hget)
    exact ⟨context, { s with reviewContexts }, by dsimp only; rw [hinsert]⟩

/-- Contexts can be registered if the first can, and then the others. -/
theorem registrable_cons {s1 : Store} {rest : List ReviewCompatibilityContext}
    (h : registerReviewSubjectContext runId context s = .ok (stored, s1)) :
    s.Registrable runId (context :: rest) ↔ s1.Registrable runId rest := by
  obtain ⟨hhead, -, hartifacts, hget⟩ := registerReviewSubject_ok h
  have hartifact : ∀ artifactId, s1.getArtifact artifactId = s.getArtifact artifactId := by
    intro artifactId
    unfold getArtifact
    rw [hartifacts]
  constructor
  · intro hreg
    refine ⟨fun c hc => ?_, fun c hc stored hstored => ?_, fun c hc c' hc' => ?_⟩
    · rw [hartifact]
      exact hreg.bound c (mem_cons_of_mem _ hc)
    · rw [hget] at hstored
      split at hstored
      · rename_i hsame
        cases hstored
        exact hreg.agree context mem_cons_self c (mem_cons_of_mem _ hc) hsame.1 hsame.2
      · exact hreg.stored c (mem_cons_of_mem _ hc) stored hstored
    · exact hreg.agree c (mem_cons_of_mem _ hc) c' (mem_cons_of_mem _ hc')
  · intro hreg
    -- a later context about the same artifact finds the first one stored
    have hagree : ∀ c ∈ rest, context.reviewCheckpointId = c.reviewCheckpointId →
        context.subjectArtifactId = c.subjectArtifactId → context = c := by
      intro c hc hcheckpoint hartifactId
      exact hreg.stored c hc context (by rw [hget, if_pos ⟨hcheckpoint, hartifactId⟩])
    refine ⟨fun c hc => ?_, fun c hc stored hstored => ?_, fun c hc c' hc' hcp hart => ?_⟩
    · rcases mem_cons.mp hc with rfl | hc
      · exact hhead.bound c mem_cons_self
      · rw [← hartifact]
        exact hreg.bound c hc
    · rcases mem_cons.mp hc with rfl | hc
      · exact hhead.stored c mem_cons_self stored hstored
      · by_cases hsame : context.reviewCheckpointId = c.reviewCheckpointId ∧
          context.subjectArtifactId = c.subjectArtifactId
        · obtain rfl := hagree c hc hsame.1 hsame.2
          exact hhead.stored context mem_cons_self stored hstored
        · exact hreg.stored c hc stored (by rw [hget, if_neg hsame, hstored])
    · rcases mem_cons.mp hc with rfl | hin
      · rcases mem_cons.mp hc' with rfl | hin'
        · rfl
        · exact hagree c' hin' hcp hart
      · rcases mem_cons.mp hc' with rfl | hin'
        · exact (hagree c hin hcp.symm hart.symm).symm
        · exact hreg.agree c hin c' hin' hcp hart

theorem run_registerContexts :
    ∃ r s1, (registerContexts runId contexts).run (exec env) ω s = (r, s1) ∧
      s1.reviews = s.reviews ∧ (r = .ok () ↔ s.Registrable runId contexts) := by
  induction contexts generalizing s with
  | nil => exact ⟨.ok (), s, rfl, rfl, ⟨fun _ => ⟨by simp, by simp, by simp⟩, fun _ => rfl⟩⟩
  | cons context rest ih =>
    unfold registerContexts
    rw [bind_def, run_bind]
    have hwrite : (Worker.write (.registerReviewSubjectContext runId context)).run (exec env) ω s =
      Txn.commit (registerReviewSubjectContext runId context) s := rfl
    rw [hwrite]
    cases hreg : registerReviewSubjectContext runId context s with
    | error e =>
      refine ⟨.error e, s, by simp [Txn.commit, hreg], rfl, ?_⟩
      constructor
      · intro h
        cases h
      · intro h
        obtain ⟨_, _, hok⟩ := registerReviewSubjectContext_of_registrable
          (⟨by simpa using h.bound context mem_cons_self,
            by simpa using h.stored context mem_cons_self, by simp⟩ :
            s.Registrable runId [context])
        rw [hreg] at hok
        cases hok
    | ok result =>
      obtain ⟨stored, s1⟩ := result
      obtain ⟨r, s2, hrun, hreviews, hiff⟩ := ih (s := s1)
      refine ⟨r, s2, by simp only [Txn.commit, hreg]; exact hrun, ?_, ?_⟩
      · rw [hreviews, (registerReviewSubject_ok hreg).2.1]
      · rw [hiff, registrable_cons hreg]

end Checkpoint

/-- The contexts that are derived, or else those of the job. -/
def consideredContexts (job : JobRecord) (checkpoint : ReviewCheckpoint)
    (derived : List ReviewCompatibilityContext) : List ReviewCompatibilityContext :=
  if derived.isEmpty then job.reviewContext.toList.filter fun c => c.reviewCheckpointId = checkpoint
  else derived

section Outcome
variable (env : Env) (digests : ReviewDigests) (files : ReviewArtifacts) (s : Store)
variable (job : JobRecord) (stage : StageSpec) (checkpoint : ReviewCheckpoint)

/-- The artifacts of the stages before a review. -/
def reviewUpstream : List ArtifactRef :=
  s.upstreamOf job.runId (stage.dependencies ++ stage.conditionalDependencies)

/-- What the worker derives from them. -/
def reviewDerivation : Except Exc ReviewSubjectDerivation :=
  deriveReviewSubjects digests s files job.runId checkpoint (reviewUpstream s job stage)

/-- **`_review_stage_result` with `ReviewCheckpointSubjectResolver`**: its result and the
store it leaves. -/
def reviewOutcome : Except Exc StageExecutionResult × Store :=
  (reviewStageResult job stage checkpoint).run (exec env)
    { derivation := (reviewDerivation digests files s job stage checkpoint).map
        fun d => (d.contexts, d.detail) } s

/-- The checkpoint passes: the contexts it considers, at least one, can be registered and all
have their reviews. -/
def ReviewPasses : Prop :=
  ∃ d, reviewDerivation digests files s job stage checkpoint = .ok d ∧
    consideredContexts job checkpoint d.contexts ≠ [] ∧
    s.Registrable job.runId (consideredContexts job checkpoint d.contexts) ∧
    ∀ context ∈ consideredContexts job checkpoint d.contexts, s.ReviewSatisfied job.runId context

/-- It is the registered, published and verified artifact, and every context of its content, of
which there is one, has its review. -/
structure SubjectReviewed (ref : ArtifactRef) : Prop where
  registered : s.getArtifact ref.artifactId = some ref
  published : ref.publicationState = .published
  verified : files.verify ref = .ok .verified
  readable : ∃ payload, files.payload ref = .ok payload
  bound : subjectContexts digests s files job.runId checkpoint (reviewUpstream s job stage) ref ≠ []
  satisfied : ∀ context ∈
    subjectContexts digests s files job.runId checkpoint (reviewUpstream s job stage) ref,
    s.ReviewSatisfied job.runId context

end Outcome

section Complete
variable {env : Env} {digests : ReviewDigests} {files : ReviewArtifacts} {s : Store}
variable {job : JobRecord} {stage : StageSpec} {checkpoint : ReviewCheckpoint}

variable {ref : ArtifactRef} {context : ReviewCompatibilityContext}

theorem payloadContexts_checkpoint {read : ArtifactRef → Except Exc ReviewPayload}
    {verified : List VerifiedInput} {payload : ReviewPayload}
    (h : context ∈ payloadContexts digests s read verified ref checkpoint payload) :
    context.reviewCheckpointId = checkpoint := by
  unfold payloadContexts at h
  split at h
  · rw [Option.mem_toList] at h
    unfold evidenceSubject at h
    split at h
    · cases h
      rfl
    · cases h
      rfl
    · cases h
  · split at h
    swap
    · cases h
    obtain ⟨hyp, _, h⟩ := bind_eq_ok.mp (mem_identityContexts.mp h)
    cases hyp with
    | none => cases h
    | some hypothesis =>
      dsimp only at h
      split at h
      · cases h
      have h := ok.inj h
      unfold identityContext at h
      split at h
      · cases h
      split at h
      · cases h
      · cases h
        rfl
  · cases h
  · rw [Option.mem_toList] at h
    unfold analyticalSubject at h
    split at h
    · split at h
      · cases h
        rfl
      · cases h
    · cases h
  · split at h
    · obtain ⟨_, _, _, _, _, rfl⟩ := mem_materializationSubject h
      rfl
    · cases h
  · cases h

theorem consideredContexts_checkpoint {d : ReviewSubjectDerivation}
    (h : reviewDerivation digests files s job stage checkpoint = .ok d)
    {context : ReviewCompatibilityContext}
    (hmem : context ∈ consideredContexts job checkpoint d.contexts) :
    context.reviewCheckpointId = checkpoint := by
  unfold consideredContexts at hmem
  split at hmem
  · exact of_decide_eq_true (mem_filter.mp hmem).2
  · obtain ⟨ref, _, hmem⟩ := (mem_derive_contexts h).mp hmem
    obtain ⟨payload, _, hmem⟩ := mem_subjectContexts.mp hmem
    exact payloadContexts_checkpoint hmem

theorem run_considered {ω : Input} {rest : List ReviewCompatibilityContext} : (∃ result s', (do
        registerContexts job.runId (context :: rest)
        if ← reviewsAccepted job.runId (context :: rest) then pure { status := .succeeded }
        else pure (reviewWaiting context rest) : Worker StageExecutionResult).run (exec env) ω s =
          (.ok result, s') ∧ result.status = .succeeded) ↔
      s.Registrable job.runId (context :: rest) ∧
        ∀ c ∈ context :: rest, s.ReviewSatisfied job.runId c := by
  obtain ⟨r, s1, hrun, hreviews, hreg⟩ := @run_registerContexts env ω s
    job.runId (context :: rest)
  have hsatisfied : ∀ c, s1.ReviewSatisfied job.runId c ↔ s.ReviewSatisfied job.runId c := by
    intro c
    unfold Store.ReviewSatisfied getCurrentReview
    rw [hreviews]
  obtain ⟨b, haccept, hb⟩ := @run_reviewsAccepted env ω s1 job.runId
    (context :: rest)
  simp only [hsatisfied] at hb
  rw [bind_def, run_bind, hrun, ← hreg]
  cases r with
  | error e => simp
  | ok u =>
    dsimp only
    rw [bind_def, run_bind, haccept, ← hb]
    cases b with
    | true => exact ⟨fun _ => ⟨rfl, rfl⟩, fun _ => ⟨_, _, rfl, rfl⟩⟩
    | false =>
      constructor
      · rintro ⟨result, s', heq, hstatus⟩
        cases heq
        unfold reviewWaiting at hstatus
        split at hstatus <;> cases hstatus
      · rintro ⟨_, h⟩
        cases h

/-- **When a checkpoint passes.** -/
theorem reviewOutcome_succeeded_iff :
    (∃ result s', reviewOutcome env digests files s job stage checkpoint = (.ok result, s') ∧
      result.status = .succeeded) ↔ ReviewPasses digests files s job stage checkpoint := by
  unfold reviewOutcome reviewStageResult ReviewPasses
  rw [bind_def, run_bind, run_upstreamArtifacts]
  dsimp only
  rw [bind_def, run_bind]
  cases hd : reviewDerivation digests files s job stage checkpoint with
  | error e =>
    constructor
    · rintro ⟨result, s', heq, -⟩
      cases heq
    · rintro ⟨d, heq, -⟩
      cases heq
  | ok d =>
    have hcheckpoint := @consideredContexts_checkpoint _ _ _ _ _ _ _ hd
    simp only [Except.ok.injEq, exists_eq_left']
    change (∃ result s', Prog.run _ _ _ s = _ ∧ _) ↔ _
    dsimp only
    unfold consideredContexts at hcheckpoint ⊢
    generalize (if d.contexts.isEmpty = true then _ else d.contexts) = contexts at hcheckpoint ⊢
    cases contexts with
    | nil =>
      constructor
      · rintro ⟨result, s', heq, hstatus⟩
        cases heq
        cases hstatus
      · rintro ⟨hne, -⟩
        exact absurd rfl hne
    | cons context rest =>
      have hvalid : ¬ ((context :: rest).any fun c => c.reviewCheckpointId ≠ checkpoint) = true := by
        rw [any_eq_true]
        rintro ⟨c, hmem, hne⟩
        exact absurd (hcheckpoint hmem) (of_decide_eq_true hne)
      dsimp only
      rw [if_neg hvalid, run_considered]
      simp

theorem SubjectReviewed.of_contexts (hbound : subjectContexts digests s files job.runId checkpoint
      (reviewUpstream s job stage) ref ≠ [])
    (hsatisfied : ∀ context ∈ subjectContexts digests s files job.runId checkpoint
      (reviewUpstream s job stage) ref, s.ReviewSatisfied job.runId context) :
    SubjectReviewed digests files s job stage checkpoint ref := by
  obtain ⟨context, hmem⟩ := exists_mem_of_ne_nil _ hbound
  obtain ⟨payload, hread, -⟩ := mem_subjectContexts.mp hmem
  obtain ⟨hget, -, hpublished, hverified, hpayload⟩ := readVerified_registered hread
  exact ⟨hget, hpublished, hverified, ⟨payload, hpayload⟩, hbound, hsatisfied⟩

theorem ReviewPasses.satisfied (h : ReviewPasses digests files s job stage checkpoint)
    (hup : ref ∈ reviewUpstream s job stage)
    (hmem : context ∈ subjectContexts digests s files job.runId checkpoint
      (reviewUpstream s job stage) ref) : s.ReviewSatisfied job.runId context := by
  obtain ⟨d, hd, -, -, hsatisfied⟩ := h
  have hderived : context ∈ d.contexts := (mem_derive_contexts hd).mpr ⟨ref, hup, hmem⟩
  refine hsatisfied context ?_
  unfold consideredContexts
  rw [if_neg (by simpa using ne_nil_of_mem hderived)]
  exact hderived

/-- **A checkpoint vouches for all its subjects exactly if each yields a context**, unless it does
not pass. -/
theorem review_checkpoint_complete_iff (env : Env) (digests : ReviewDigests)
    (files : ReviewArtifacts) (s : Store) (job : JobRecord) (stage : StageSpec)
    (checkpoint : ReviewCheckpoint) :
    (∀ result s', reviewOutcome env digests files s job stage checkpoint = (.ok result, s') →
      result.status = .succeeded →
      ∀ ref ∈ reviewUpstream s job stage, ref.artifactKind ∈ checkpoint.subjectKinds →
        SubjectReviewed digests files s job stage checkpoint ref) ↔
    (∀ ref ∈ reviewUpstream s job stage, ref.artifactKind ∈ checkpoint.subjectKinds →
      subjectContexts digests s files job.runId checkpoint (reviewUpstream s job stage) ref ≠ []) ∨
      ¬ ReviewPasses digests files s job stage checkpoint := by
  constructor
  · intro h
    by_cases hpass : ReviewPasses digests files s job stage checkpoint
    · obtain ⟨result, s', hrun, hstatus⟩ := (@reviewOutcome_succeeded_iff env ..).mpr hpass
      exact .inl fun ref hup hkind => (h result s' hrun hstatus ref hup hkind).bound
    · exact .inr hpass
  · intro h result s' hrun hstatus ref hup hkind
    have hpass := reviewOutcome_succeeded_iff.mp ⟨result, s', hrun, hstatus⟩
    rcases h with hbound | hblocked
    · exact .of_contexts (hbound ref hup hkind) fun context hmem => hpass.satisfied hup hmem
    · exact absurd hpass hblocked

end Complete

/-! ## A subject that nobody looks at -/

def fusedDecision (artifactId : String) : ArtifactRef where
  artifactId := artifactId
  runId := "run-1"
  stageId := "EVIDENCE_FUSION"
  attemptId := "attempt-1"
  artifactKind := "RelationshipDecision"
  contentHash := "sha256:" ++ artifactId
  publicationState := .published

def ordersToCustomers : EvidenceDecision where
  decisionId := "decision-1"
  subjectId := "orders-customers"
  schemaVersion := "1"
  policyId := "fusion"
  policyVersion := "1"
  inputEvidenceFingerprint := "evidence-1"
  scope := .tables "orders" ["customer_id"] "customers" ["id"]
  contentId := "content-1"

/-- The content of the second decision no longer has its hash. -/
def damagedArtifacts : ReviewArtifacts where
  stat ref := .ok ref
  verify ref := .ok (if ref.artifactId = "decision-2" then .hashMismatch else .verified)
  payload ref :=
    if ref.artifactKind = "RelationshipDecision" then .ok (.relationshipDecision ordersToCustomers)
    else .error .key
  payload_kind := by
    intro ref p h
    split at h
    · rename_i hkind
      cases h
      rw [hkind]
      decide
    · cases h

/-- Digests that tell enough. -/
def plainReviewDigests : ReviewDigests where
  evidenceScope _ := "scope"
  evidenceApplicability decisionId _ _ _ := decisionId
  identitySemantic _ := "identity"
  identityApplicability _ proposal _ := proposal
  planSemantic plan := plan.planId
  planApplicability plan := plan.contentHash
  materializationSubject compiledPlan _ _ := compiledPlan
  materializationSemantic _ compiledPlanId _ _ := compiledPlanId
  materializationApplicability compiledPlan _ _ := compiledPlan

def firstContext : ReviewCompatibilityContext :=
  evidenceContext plainReviewDigests [] "decision-1" ordersToCustomers

/-- The acceptance of the first decision. -/
def acceptedReview : ReviewRecord where
  runId := "run-1"
  subjectKey := reviewSubjectKey firstContext
  revision := 1
  decision :=
    { reviewDecisionId := "review-1"
      reviewCheckpointId := firstContext.reviewCheckpointId
      subjectStage := firstContext.subjectStage
      subjectArtifactId := firstContext.subjectArtifactId
      subjectContentHash := firstContext.subjectContentHash
      subjectSchemaVersion := firstContext.subjectSchemaVersion
      modelVersion := firstContext.modelVersion
      sourceSchemaFingerprints := firstContext.sourceSchemaFingerprints
      policyVersion := firstContext.policyVersion
      subjectSemanticId := firstContext.subjectSemanticId
      applicabilityFingerprint := firstContext.applicabilityFingerprint
      decision := .accepted }

def evidenceReviewStage : StageSpec where
  stageId := "REVIEW_EVIDENCE_DECISIONS"
  dependencies := ["EVIDENCE_FUSION"]
  handlerKey := "REVIEW_EVIDENCE_DECISIONS"
  reviewCheckpoint := some .reviewEvidenceDecisions

def reviewSampleJob (jobId stageId : String) (status : JobStatus) (resultRefs : List String) :
    JobRecord where
  jobId := jobId
  runId := "run-1"
  jobKind := .stage
  stageId := some stageId
  status := status
  createdAt := 0
  availableAt := 0
  resultRefs := resultRefs

/-- Evidence fusion has left two decisions, and the first one is reviewed. -/
def fusedStore : Store :=
  { empty with
    jobs := ⟨[reviewSampleJob "job-1" "EVIDENCE_FUSION" .succeeded ["decision-1", "decision-2"],
      reviewSampleJob "job-2" "REVIEW_EVIDENCE_DECISIONS" .running []], by decide⟩
    artifacts := ⟨[fusedDecision "decision-1", fusedDecision "decision-2"], by decide⟩
    reviews := ⟨[acceptedReview], by decide⟩ }

/-- **The checkpoint passes although the second decision cannot be verified.** -/
theorem damaged_decision_passed :
    ¬ ∀ result s', reviewOutcome ⟨fun _ => "", { stages := [] }⟩ plainReviewDigests damagedArtifacts
        fusedStore (reviewSampleJob "job-2" "REVIEW_EVIDENCE_DECISIONS" .running [])
        evidenceReviewStage .reviewEvidenceDecisions = (.ok result, s') →
      result.status = .succeeded → ∀ ref ∈ reviewUpstream fusedStore
          (reviewSampleJob "job-2" "REVIEW_EVIDENCE_DECISIONS" .running []) evidenceReviewStage,
        ref.artifactKind ∈ ReviewCheckpoint.reviewEvidenceDecisions.subjectKinds →
        SubjectReviewed plainReviewDigests damagedArtifacts fusedStore
          (reviewSampleJob "job-2" "REVIEW_EVIDENCE_DECISIONS" .running []) evidenceReviewStage
          .reviewEvidenceDecisions ref := by
  intro h
  have hverified := (h _ _ rfl rfl (fusedDecision "decision-2") (by decide) (by decide)).verified
  exact absurd hverified (by decide)

end DirtyDataOlap
