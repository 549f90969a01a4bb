import DirtyDataOlap.Dictionaries

/-!
# Assurance of a source database

`DatabaseSecurityService.assess_source` of `application/database_security.py`.  It fails closed, and
**exactly so**: a source whose engine is not SQLite passes if and only if its verification is bound
to the request and its findings cover the privileges of the policy (`source_assurance_exact`).
Case folding and the texts that are refused as secrets are fields of the service.
-/
namespace DirtyDataOlap.Security

open List

inductive DatabaseEngine
  | postgresql | mysql | mariadb | sqlserver | sqlite | oracle
deriving DecidableEq

inductive CredentialPurpose
  | sourceReadOnly | targetWrite | administration | testOnly
deriving DecidableEq

inductive SecurityAssuranceStatus
  | pass | blocked | failed

inductive ReadOnlyEnforcementMethod
  | sqliteUriModeRo | sqliteQueryOnly | sqliteAuthorizeDeny | sqlalchemyConnectHook | providerRole
  | providerSessionPolicy | none
deriving DecidableEq

/-- The kinds that `assess_source` reports. -/
inductive DatabaseSecurityFailureKind
  | credentialPurposeMismatch | unverifiedProvider | unsafePrivilege | missingRequiredPrivilege
  | unknownPrivilege | securityEnforcementFailed | verifierUnavailable | verifierFailed
  | verificationIncomplete

inductive PrivilegeFindingStatus
  | presentRequired | absentForbidden | forbiddenPresent | requiredMissing | unknown | notApplicable
deriving DecidableEq

inductive ProviderVerificationStatus
  | technicallyVerified | operatorAttested | unverified | failed
deriving DecidableEq

structure SourcePrivilegeRequirement where
  engine : DatabaseEngine
  required : List String := []
  allowedOptional : List String := []
  forbidden : List String := []
  requiredNotForbidden : ∀ p ∈ required, p ∉ forbidden
  requiredNotOptional : ∀ p ∈ required, p ∉ allowedOptional

/-- `PrivilegeFinding`, without the texts that explain it. -/
structure PrivilegeFinding where
  privilege : String
  status : PrivilegeFindingStatus

/-- What the contracts do to a text: they strip it, and refuse it if it is empty then or, where it
is a reference, if it looks like a secret. -/
structure TextContract where
  strip : String → String
  secret : String → Bool

def TextContract.Stored (texts : TextContract) (text : String) : Prop :=
  texts.strip text = text ∧ text ≠ "" ∧ texts.secret text = false

/-- What says which source is meant; a verification is bound to it. -/
structure SourceBinding where
  engine : DatabaseEngine
  (sourceId profileId credentialReference credentialVersion selectionFingerprint : String)
  driverReference : String
deriving DecidableEq

def SourceBinding.references (binding : SourceBinding) : List String :=
  [binding.sourceId, binding.profileId, binding.credentialReference, binding.credentialVersion,
    binding.selectionFingerprint, binding.driverReference]

structure ProviderSecurityVerification (texts : TextContract) extends SourceBinding where
  (policyId policyVersion : String)
  status : ProviderVerificationStatus
  findings : List PrivilegeFinding := []
  evidenceFingerprint : String
  stored : ∀ text ∈ toSourceBinding.references ++ [policyId, policyVersion, evidenceFingerprint],
    texts.Stored text

/-- `DatabaseSecurityPolicy`, as far as it is read here. -/
structure DatabaseSecurityPolicy where
  (policyId version : String)
  requirements : List SourcePrivilegeRequirement := []

/-- `DatabaseSecurityAssessment` with its assurance; the digests that identify them are left out. -/
structure DatabaseSecurityAssessment where
  binding : SourceBinding
  (policyId policyVersion verificationEvidenceFingerprint : String)
  status : SecurityAssuranceStatus
  enforcementMethods : List ReadOnlyEnforcementMethod
  findings : List PrivilegeFinding
  failures : List DatabaseSecurityFailureKind

structure DatabaseSecurityService where
  texts : TextContract
  casefold : String → String
  policy : DatabaseSecurityPolicy

namespace DatabaseSecurityService
variable (service : DatabaseSecurityService)

/-- `_verification_matches`. -/
def verificationMatches (verification : ProviderSecurityVerification service.texts)
    (binding : SourceBinding) : Bool :=
  verification.toSourceBinding = binding && verification.policyId = service.policy.policyId &&
    verification.policyVersion = service.policy.version && verification.evidenceFingerprint ≠ ""

/-- The loop over the findings, up to the first that is refused. -/
def readFindings (expected : List String) : List PrivilegeFinding →
    List (String × PrivilegeFinding) →
    Except DatabaseSecurityFailureKind (List (String × PrivilegeFinding))
  | [], findingMap => .ok findingMap
  | finding :: rest, findingMap =>
    let key := service.casefold finding.privilege
    if key ∉ expected ∨ key ∈ findingMap.map Prod.fst then .error .unknownPrivilege
    else if finding.status = .unknown then .error .unknownPrivilege
    else if finding.status = .forbiddenPresent then .error .unsafePrivilege
    else readFindings expected rest (findingMap ++ [(key, finding)])

/-- `_privilege_coverage_failure`. -/
def privilegeCoverageFailure (engine : DatabaseEngine) (findings : List PrivilegeFinding) :
    Option DatabaseSecurityFailureKind :=
  match service.policy.requirements.find? fun item => item.engine = engine with
  | none => some .verificationIncomplete
  | some requirement =>
    let expected := (requirement.required ++ requirement.allowedOptional ++
      requirement.forbidden).map service.casefold
    match service.readFindings expected findings [] with
    | .error kind => some kind
    | .ok findingMap =>
      (requirement.required.findSome? fun privilege =>
        match getItem findingMap (service.casefold privilege) with
        | some finding =>
          if finding.status ≠ .presentRequired then some .missingRequiredPrivilege else none
        | none => some .missingRequiredPrivilege).or
      (requirement.forbidden.findSome? fun privilege =>
        match getItem findingMap (service.casefold privilege) with
        | some finding => if finding.status ≠ .absentForbidden then some .unsafePrivilege else none
        | none => some .missingRequiredPrivilege)

/-- The cascade of `assess_source`: why the source is blocked, if it is. -/
def failureKind (binding : SourceBinding) (credentialPurpose : CredentialPurpose)
    (technicalVerification : Option (ProviderSecurityVerification service.texts))
    (enforcementMethods : List ReadOnlyEnforcementMethod) : Option DatabaseSecurityFailureKind :=
  if credentialPurpose ≠ .sourceReadOnly then some .credentialPurposeMismatch
  else if binding.engine = .sqlite then
    if [.sqliteUriModeRo, .sqliteQueryOnly, .sqliteAuthorizeDeny].all fun (method :
        ReadOnlyEnforcementMethod) => method ∈ enforcementMethods then none
    else some .securityEnforcementFailed
  else
    match technicalVerification with
    | none => some .verifierUnavailable
    | some verification =>
      if service.verificationMatches verification binding = false then some .verificationIncomplete
      else if verification.status ≠ .technicallyVerified then
        some (if verification.status = .failed then .verifierFailed else .unverifiedProvider)
      else service.privilegeCoverageFailure binding.engine verification.findings

/-- The contracts accept what the assurance, and what its failure, is made of. -/
def accepts (binding : SourceBinding) (evidenceFingerprint : String)
    (failure : Option DatabaseSecurityFailureKind) : Bool :=
  ((binding.references ++ [service.policy.policyId, service.policy.version,
    evidenceFingerprint]).all fun text => service.texts.strip text ≠ "") &&
  !service.texts.secret (service.texts.strip binding.credentialReference) &&
  (failure.isNone || !service.texts.secret (service.texts.strip binding.sourceId) &&
    !service.texts.secret (service.texts.strip binding.profileId))

/-- `assess_source`; none where a contract refuses what it is given. -/
def assessSource (binding : SourceBinding) (credentialPurpose : CredentialPurpose)
    (technicalVerification : Option (ProviderSecurityVerification service.texts))
    (enforcementMethods : List ReadOnlyEnforcementMethod) : Option DatabaseSecurityAssessment :=
  let failure :=
    service.failureKind binding credentialPurpose technicalVerification enforcementMethods
  let evidenceFingerprint := (technicalVerification.map (·.evidenceFingerprint)).getD
    "reference:sqlite-controls-v1"
  if service.accepts binding evidenceFingerprint failure then
    some
      { binding := binding
        policyId := service.policy.policyId
        policyVersion := service.policy.version
        verificationEvidenceFingerprint := evidenceFingerprint
        status := if failure.isNone then .pass else .blocked
        enforcementMethods := enforcementMethods
        findings := (technicalVerification.map (·.findings)).getD []
        failures := failure.toList }
  else none

variable {service : DatabaseSecurityService} {findings : List PrivilegeFinding}
  {requirement : SourcePrivilegeRequirement} {binding : SourceBinding}

variable (service findings) in
/-- The names under which the findings are kept. -/
def keys : List String :=
  findings.map fun finding => service.casefold finding.privilege

theorem readFindings_eq_ok {expected : List String}
    {findingMap result : List (String × PrivilegeFinding)} :
    service.readFindings expected findings findingMap = .ok result ↔ (service.keys findings).Nodup ∧
      (∀ finding ∈ findings, service.casefold finding.privilege ∈ expected ∧
        service.casefold finding.privilege ∉ findingMap.map Prod.fst ∧
        finding.status ≠ .unknown ∧ finding.status ≠ .forbiddenPresent) ∧
      result = findingMap ++ findings.map fun finding =>
        (service.casefold finding.privilege, finding) := by
  induction findings generalizing findingMap with
  | nil => simp [readFindings, keys, eq_comm]
  | cons finding rest ih =>
    unfold readFindings
    simp only
    by_cases hkey : service.casefold finding.privilege ∉ expected ∨
        service.casefold finding.privilege ∈ findingMap.map Prod.fst
    · rw [if_pos hkey]
      refine iff_of_false nofun fun h => ?_
      obtain ⟨hexpected, hfresh, -⟩ := h.2.1 finding mem_cons_self
      exact hkey.elim (absurd hexpected) hfresh
    rw [if_neg hkey]
    by_cases hunknown : finding.status = .unknown
    · rw [if_pos hunknown]
      exact iff_of_false nofun fun h => (h.2.1 finding mem_cons_self).2.2.1 hunknown
    rw [if_neg hunknown]
    by_cases hpresent : finding.status = .forbiddenPresent
    · rw [if_pos hpresent]
      exact iff_of_false nofun fun h => (h.2.1 finding mem_cons_self).2.2.2 hpresent
    rw [if_neg hpresent, ih]
    rw [not_or, not_not] at hkey
    have hmap : findingMap ++ [(service.casefold finding.privilege, finding)] ++
        rest.map (fun f => (service.casefold f.privilege, f)) = findingMap ++
          (finding :: rest).map fun f => (service.casefold f.privilege, f) := by simp
    rw [hmap]
    simp only [keys, map_cons, nodup_cons, mem_map, not_exists, not_and, map_append, map_nil,
      mem_append, mem_singleton, not_or, forall_mem_cons]
    constructor
    · rintro ⟨hn, hrest, rfl⟩
      have hfresh : ∀ x ∈ findingMap, x.1 ≠ service.casefold finding.privilege :=
        fun x hx he => hkey.2 (mem_map.2 ⟨x, hx, he⟩)
      exact ⟨⟨fun f hf => (hrest f hf).2.1.2, hn⟩, ⟨⟨hkey.1, hfresh, hunknown, hpresent⟩,
        fun f hf => ⟨(hrest f hf).1, (hrest f hf).2.1.1, (hrest f hf).2.2⟩⟩, rfl⟩
    · rintro ⟨⟨hne, hn⟩, ⟨-, hrest⟩, rfl⟩
      exact ⟨hn, fun f hf => ⟨(hrest f hf).1, ⟨(hrest f hf).2.1, hne f hf⟩, (hrest f hf).2.2⟩, rfl⟩

variable (service findings) in
/-- Some finding about the privilege, up to case, has the status. -/
def Found (privilege : String) (status : PrivilegeFindingStatus) : Prop :=
  ∃ finding ∈ findings, service.casefold finding.privilege = service.casefold privilege ∧
    finding.status = status

variable (service requirement) in
/-- **The findings cover the requirement**: each names one of its privileges, no two the same one,
none is alarming, and every required and every forbidden privilege is found as it should be. -/
structure Covers (findings : List PrivilegeFinding) : Prop where
  distinct : (service.keys findings).Nodup
  named : ∀ finding ∈ findings, service.casefold finding.privilege ∈
    (requirement.required ++ requirement.allowedOptional ++ requirement.forbidden).map
      service.casefold
  safe : ∀ finding ∈ findings, finding.status ≠ .unknown ∧ finding.status ≠ .forbiddenPresent
  required : ∀ privilege ∈ requirement.required,
    service.Found findings privilege .presentRequired
  forbidden : ∀ privilege ∈ requirement.forbidden,
    service.Found findings privilege .absentForbidden

theorem covered_eq_none {status : PrivilegeFindingStatus} {wrong : DatabaseSecurityFailureKind}
    {privileges : List String} (hn : (service.keys findings).Nodup) :
    (privileges.findSome? fun privilege =>
      match getItem (findings.map fun finding => (service.casefold finding.privilege, finding))
        (service.casefold privilege) with
      | some finding => if finding.status ≠ status then some wrong else none
      | none => some .missingRequiredPrivilege) = none ↔
    ∀ privilege ∈ privileges, service.Found findings privilege status := by
  have hkeys : ((findings.map fun finding =>
      (service.casefold finding.privilege, finding)).map Prod.fst).Nodup := by
    rw [map_map]
    exact hn
  rw [findSome?_eq_none_iff]
  refine forall₂_congr fun privilege _ => ?_
  constructor
  · intro h
    split at h
    · rename_i finding hget
      obtain ⟨found, hfound, hkey, rfl⟩ := getItem_map_eq_some hget
      split at h
      · cases h
      · rename_i hstatus
        exact ⟨found, hfound, hkey, not_not.1 hstatus⟩
    · cases h
  · rintro ⟨finding, hfinding, hkey, hstatus⟩
    rw [← hkey, getItem_map_of_mem hn hfinding]
    exact if_neg (not_not.2 hstatus)

theorem privilegeCoverageFailure_eq_none {engine : DatabaseEngine} :
    service.privilegeCoverageFailure engine findings = none ↔ ∃ requirement,
      (service.policy.requirements.find? fun item => item.engine = engine) = some requirement ∧
        service.Covers requirement findings := by
  unfold privilegeCoverageFailure
  cases service.policy.requirements.find? fun item => item.engine = engine with
  | none => simp
  | some requirement =>
    simp only [Option.some.injEq, exists_eq_left']
    split
    · rename_i kind hread
      refine iff_of_false (by simp) fun h => ?_
      have hall : ∀ f ∈ findings, service.casefold f.privilege ∈ _ ∧
          service.casefold f.privilege ∉ map Prod.fst ([] : List (String × PrivilegeFinding)) ∧ _ :=
        fun f hf => ⟨h.named f hf, not_mem_nil, h.safe f hf⟩
      cases (readFindings_eq_ok.2 ⟨h.distinct, hall, rfl⟩).symm.trans hread
    · rename_i findingMap hread
      obtain ⟨hn, hall, rfl⟩ := readFindings_eq_ok.1 hread
      rw [nil_append, Option.or_eq_none_iff, covered_eq_none hn, covered_eq_none hn]
      exact ⟨fun h => ⟨hn, fun f hf => (hall f hf).1, fun f hf => (hall f hf).2.2, h.1, h.2⟩,
        fun h => ⟨h.required, h.forbidden⟩⟩

theorem Covers.perm {findings' : List PrivilegeFinding} (h : service.Covers requirement findings)
    (hp : findings.Perm findings') : service.Covers requirement findings' where
  distinct := (hp.map _).nodup_iff.1 h.distinct
  named f hf := h.named f (hp.mem_iff.2 hf)
  safe f hf := h.safe f (hp.mem_iff.2 hf)
  required p hmem :=
    have ⟨f, hf, hfound⟩ := h.required p hmem
    ⟨f, hp.mem_iff.1 hf, hfound⟩
  forbidden p hmem :=
    have ⟨f, hf, hfound⟩ := h.forbidden p hmem
    ⟨f, hp.mem_iff.1 hf, hfound⟩

variable (service) in
/-- The verification equals the request and the policy in every bound field. -/
def Bound (verification : ProviderSecurityVerification service.texts) (binding : SourceBinding) :
    Prop :=
  verification.toSourceBinding = binding ∧ verification.policyId = service.policy.policyId ∧
    verification.policyVersion = service.policy.version

variable {purpose : CredentialPurpose} {methods : List ReadOnlyEnforcementMethod}
  {verification : ProviderSecurityVerification service.texts}

theorem verificationMatches_iff : service.verificationMatches verification binding = true ↔
      service.Bound verification binding := by
  have hevidence : verification.evidenceFingerprint ≠ "" :=
    (verification.stored _ (by simp)).2.1
  simp [verificationMatches, Bound, hevidence, and_assoc]

/-- What is bound to a verification has been through the same contracts. -/
theorem Bound.accepts (h : service.Bound verification binding) :
    service.accepts binding verification.evidenceFingerprint none = true := by
  have hstored := verification.stored
  rw [h.1, h.2.1, h.2.2] at hstored
  have hreference := hstored binding.credentialReference (by simp [SourceBinding.references])
  rw [DatabaseSecurityService.accepts, hreference.1, hreference.2.2]
  have hall : (binding.references ++ [service.policy.policyId, service.policy.version,
      verification.evidenceFingerprint]).all (fun text => service.texts.strip text ≠ "") = true := by
    refine all_eq_true.2 fun text htext => ?_
    rw [(hstored text htext).1]
    exact decide_eq_true (hstored text htext).2.1
  exact Bool.and_eq_true_iff.2 ⟨Bool.and_eq_true_iff.2 ⟨hall, rfl⟩, rfl⟩

/-- A source that is not SQLite and has been verified is blocked for no reason. -/
theorem failureKind_eq_none (hengine : binding.engine ≠ .sqlite) :
    service.failureKind binding purpose (some verification) methods = none ↔
      purpose = .sourceReadOnly ∧ verification.status = .technicallyVerified ∧
        service.Bound verification binding ∧
        service.privilegeCoverageFailure binding.engine verification.findings = none := by
  unfold failureKind
  rw [if_neg hengine, ← verificationMatches_iff]
  by_cases hpurpose : purpose = .sourceReadOnly
  · by_cases hbound : service.verificationMatches verification binding = true
    · by_cases hstatus : verification.status = .technicallyVerified <;>
        simp [hpurpose, hbound, hstatus]
    · simp [hpurpose, hbound]
  · simp [hpurpose]

theorem assessSource_status :
    (service.assessSource binding purpose (some verification) methods).map (·.status) =
      let failure := service.failureKind binding purpose (some verification) methods
      if service.accepts binding verification.evidenceFingerprint failure then
        some (if failure.isNone then .pass else .blocked) else none := by
  unfold assessSource
  simp only [Option.map_some, Option.getD_some]
  split <;> rfl

theorem assessSource_pass :
    (service.assessSource binding purpose (some verification) methods).map (·.status) = some .pass ↔
      service.failureKind binding purpose (some verification) methods = none ∧
        service.accepts binding verification.evidenceFingerprint none = true := by
  rw [assessSource_status]
  cases hfailure : service.failureKind binding purpose (some verification) methods with
  | none =>
    by_cases haccepts : service.accepts binding verification.evidenceFingerprint none = true <;>
      simp [haccepts]
  | some kind =>
    dsimp only
    split <;> simp

theorem failureKind_eq_none_perm (hengine : binding.engine ≠ .sqlite)
    (hperm : findings.Perm verification.findings) :
    service.failureKind binding purpose (some { verification with findings }) methods = none ↔
      service.failureKind binding purpose (some verification) methods = none := by
  rw [failureKind_eq_none hengine, failureKind_eq_none hengine, privilegeCoverageFailure_eq_none,
    privilegeCoverageFailure_eq_none, ← verificationMatches_iff, ← verificationMatches_iff]
  exact and_congr_right fun _ => and_congr_right fun _ => and_congr_right fun _ =>
    exists_congr fun _ => and_congr_right fun _ =>
      ⟨fun h => h.perm hperm, fun h => h.perm hperm.symm⟩

end DatabaseSecurityService

open DatabaseSecurityService

/-- **Source assurance fails closed, exactly**, and whatever the order of the findings. -/
theorem source_assurance_exact (service : DatabaseSecurityService) (binding : SourceBinding)
    (purpose : CredentialPurpose) (verification : ProviderSecurityVerification service.texts)
    (methods : List ReadOnlyEnforcementMethod) (hengine : binding.engine ≠ .sqlite) :
    ((service.assessSource binding purpose (some verification) methods).map (·.status) =
        some .pass ↔ purpose = .sourceReadOnly ∧ verification.status = .technicallyVerified ∧
      service.Bound verification binding ∧ ∃ requirement,
        (service.policy.requirements.find? fun item => item.engine = binding.engine) =
          some requirement ∧ service.Covers requirement verification.findings) ∧
    ∀ findings, findings.Perm verification.findings →
      (service.assessSource binding purpose (some { verification with findings }) methods).map
          (·.status) =
        (service.assessSource binding purpose (some verification) methods).map (·.status) := by
  constructor
  · rw [assessSource_pass, failureKind_eq_none hengine, privilegeCoverageFailure_eq_none]
    exact ⟨And.left, fun h => ⟨h, h.2.2.1.accepts⟩⟩
  · intro findings hperm
    have hnone : service.failureKind binding purpose (some { verification with findings }) methods =
        none ↔ service.failureKind binding purpose (some verification) methods = none :=
      failureKind_eq_none_perm hengine hperm
    rw [assessSource_status, assessSource_status]
    cases hkind : service.failureKind binding purpose (some verification) methods with
    | none => rw [hnone.2 hkind]
    | some kind =>
      cases hother : service.failureKind binding purpose (some { verification with findings })
          methods with
      | none => cases hkind.symm.trans (hnone.1 hother)
      | some other => rfl

/-- A PostgreSQL source, whose verification names the right in another case. -/
theorem source_assurance_postgresql : let requirement : SourcePrivilegeRequirement :=
      { engine := .postgresql
        required := ["select"]
        forbidden := ["insert"]
        requiredNotForbidden := by decide
        requiredNotOptional := by decide }
    let texts : TextContract := ⟨id, fun text => text = "password=hunter2"⟩
    let service : DatabaseSecurityService :=
      ⟨texts, fun text => if text = "SELECT" then "select" else text, ⟨"p", "1", [requirement]⟩⟩
    let verification : ProviderSecurityVerification texts :=
      { toSourceBinding := ⟨.postgresql, "s", "profile", "ref", "v1", "sel", "psycopg"⟩
        policyId := "p"
        policyVersion := "1"
        status := .technicallyVerified
        findings := [⟨"insert", .absentForbidden⟩, ⟨"SELECT", .presentRequired⟩]
        evidenceFingerprint := "e"
        stored := by unfold TextContract.Stored; decide }
    (service.assessSource verification.toSourceBinding .sourceReadOnly (some verification) []).map
      (·.status) = some .pass := by
  intro requirement texts service verification
  refine ((source_assurance_exact service verification.toSourceBinding .sourceReadOnly verification
    [] (by decide)).1).2 ⟨rfl, rfl, ⟨rfl, rfl, rfl⟩, requirement, rfl, ?_⟩
  constructor <;> simp [requirement, verification, service, DatabaseSecurityService.keys, Found]

end DirtyDataOlap.Security
