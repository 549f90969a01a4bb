import DirtyDataOlap.SemanticRenderer

/-!
# The semantic layer

`SemanticLayerService`: `build_model` projects the reviewed specifications into a semantic model,
and `compile_query` resolves a request against a model and writes the SQL template that the trusted
renderer then writes again.  Digests, case folding and the character table behind word boundaries
are fields of the service.
-/
namespace DirtyDataOlap.Semantic

open Analytical Sql

def isAsciiAlnum (c : Char) : Bool := c.isAlphanum

/-- `re.sub(r"[^a-zA-Z0-9]+", "_", text)`. -/
def underscored : (inRun : Bool) → List Char → List Char
  | _, [] => []
  | inRun, c :: cs =>
    if isAsciiAlnum c then c :: underscored false cs
    else if inRun then underscored true cs
    else '_' :: underscored true cs

/-- `text.strip("_")`. -/
def stripUnderscores (cs : List Char) : List Char :=
  ((cs.dropWhile (· = '_')).reverse.dropWhile (· = '_')).reverse

/-- `_slug`. -/
def slug (value : String) : String :=
  let text := (stripUnderscores (underscored false (Numeral.strip value.toList))).map Char.toLower
  let text := match ["dim_", "fact_", "measure_"].find? fun p => p.toList.isPrefixOf text with
    | some found => text.drop found.length
    | none => text
  if text = [] then "semantic_object" else String.ofList text

/-- `part.capitalize()`, for a part of a slug. -/
def capitalize : List Char → List Char
  | [] => []
  | c :: cs => c.toUpper :: cs.map Char.toLower

/-- `_display`. -/
def display (value : String) : String :=
  String.intercalate " " (((slug value).toList.splitOn '_').map fun part =>
    String.ofList (capitalize part))

def operationNames : List String := ["SUM", "MAX", "MIN", "AVG", "COUNT", "LAST", "FIRST"]

/-- Besides the letter itself the long s, the dotless i and the dotted capital i are equal up to
case. -/
def sameLetter (letter c : Char) : Bool :=
  c = letter || c = letter.toLower || (letter = 'S' && c.toNat = 0x17f) ||
    (letter = 'I' && (c.toNat = 0x131 || c.toNat = 0x130))

/-- The operation at the start of a text, with the length of its match. -/
def operationAt (cs : List Char) : Option (String × Nat) :=
  operationNames.findSome? fun name =>
    let rest := cs.drop name.length
    let spaces := (rest.takeWhile Numeral.isSpace).length
    if name.length ≤ cs.length ∧ (name.toList.zip cs).all (fun p => sameLetter p.1 p.2) ∧
        (rest.drop spaces).head? = some '(' then
      some (upper (String.ofList (cs.take name.length)), name.length + spaces + 1)
    else none

/-- `_OPERATION_PATTERN.findall`, with the characters of the last match still to be skipped and the
character before the text. -/
def findOperations (isAlnum : Char → Bool) : (skip : Nat) → (previous : Option Char) → List Char →
    List String
  | _, _, [] => []
  | skip + 1, _, c :: cs => findOperations isAlnum skip (some c) cs
  | 0, previous, c :: cs =>
    if previous.any (fun p => isAlnum p || p = '_') then findOperations isAlnum 0 (some c) cs
    else
      match operationAt (c :: cs) with
      | some (operation, length) => operation :: findOperations isAlnum (length - 1) (some c) cs
      | none => findOperations isAlnum 0 (some c) cs

/-! ## Upstream artifacts -/

structure CanonicalEntityType where
  (canonicalEntityTypeId businessName : String)

structure CanonicalRelationship where
  (relationshipId fromEntityTypeId toEntityTypeId cardinality : String)

structure CanonicalModel where
  (modelId contentHash : String)
  entityTypes : List CanonicalEntityType
  relationships : List CanonicalRelationship

structure MaterializationArtifact where
  (artifactId contentHash planId planContentHash compiledPlanId compiledPlanContentHash : String)
  (targetRelativePath targetConfigFingerprint generatedSqlHash : String)
  status : MaterializationStatus
  usable : Bool

/-- A review of the analytical plan: its decision and what `compatibility_errors` reports. -/
structure AnalyticalReview where
  accepted : Bool
  compatibilityErrors : List String

/-- The arguments of `build_model`. -/
structure ModelInputs where
  plan : AnalyticalPlan
  dimensions : List DimensionSpec
  facts : List FactSpec
  grains : List GrainSpec
  measures : List MeasureSpec
  compiledPlan : CompiledPlan
  materialization : MaterializationArtifact
  canonicalModel : Option CanonicalModel
  analyticalReview : Option AnalyticalReview
  derivedMetrics : List MetricSpec

/-- What the identifier of a relationship is a digest of. -/
structure RelationshipKey where
  (fact dimension factColumn : String)
  relationshipScope : SemanticRelationshipScope
  relationshipRef : String

/-- A filter in the hashed shape of a request: its values by their types. -/
structure MaskedFilter where
  attributeId : String
  operator : SemanticFilterOperator
  values : List String

/-- What the identifier and the hash of a query plan are digests of. -/
structure QueryPayload where
  (model requestId : String)
  (metricIds dimensionIds groupByAttributeIds : List String)
  timeRoleId : Option String
  aggregationOverrides : List (String × String)
  filters : List MaskedFilter
  sort : List (String × Bool)
  limit : Nat
  sql : String
  parameterTypes : List String

/-- The semantic layer with the digests, texts and character tables it uses. -/
structure SemanticLayerService where
  casefold : String → String
  isAlnum : Char → Bool
  dimensionContentHash : DimensionSpec → String
  factContentHash : FactSpec → String
  grainContentHash : GrainSpec → String
  measureContentHash : MeasureSpec → String
  relationshipDigest : RelationshipKey → String
  metricDigest : (measureId measureHash package : String) → String
  (modelDigest modelContentHash : ModelInputs → String)
  (queryPlanId queryHash : QueryPayload → String)
  datetimeText : DateTime → String

/-- The operations that the rule of a measure names. -/
def SemanticLayerService.explicitOperations (service : SemanticLayerService) (measure : MeasureSpec) :
    List String :=
  (findOperations service.isAlnum 0 none measure.aggregationRule.toList).eraseDups

def SemanticLayerService.inheritedOperations (service : SemanticLayerService)
    (measure : MeasureSpec) : List String :=
  match measure.aggregationClass with
  | .additive => if "SUM" ∈ service.explicitOperations measure then ["SUM"] else []
  | .semiAdditive => ((service.explicitOperations measure).filter
      (· ∈ ["MAX", "MIN", "LAST", "FIRST"])).take 1
  | .nonAdditive => ["AT_GRAIN"]

def aggregateSql : List String := ["SUM", "MAX", "MIN", "COUNT"]

end DirtyDataOlap.Semantic
