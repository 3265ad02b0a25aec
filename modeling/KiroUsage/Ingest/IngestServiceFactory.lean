import KiroUsage.Ingest.IngestService
import KiroUsage.Semantics.Fallible

/-! The factory of the ingest service: its configuration comes from the Lambda
environment, and no part of it may be missing or blank. -/
namespace KiroIngest

open Text

def analyticsBucketEnv : Str := "ANALYTICS_BUCKET".toList
def targetListParameterEnv : Str := "TARGET_LIST_PARAMETER".toList
def rawBucketEnv : Str := "RAW_BUCKET".toList
def rawPrefixEnv : Str := "RAW_PREFIX".toList
def functionNameEnv : Str := "AWS_LAMBDA_FUNCTION_NAME".toList

/-- A value that is not blank. -/
abbrev Setting := { value : Str // isBlank value = false }

/-- What the service and its scheduler are made with. -/
structure Configuration where
  analyticsBucket : Setting
  targetListParameter : Setting
  rawBucket : Setting
  rawPrefix : Setting
  functionName : Setting

def missingVariable (name : Str) : Exn :=
  .invalidOperation ("Missing required environment variable: ".toList ++ name)

/-- `Require`, in an environment that may lack the variable. -/
def require (environment : Str → Option Str) (name : Str) : Except Exn Setting :=
  match environment name with
  | some value => if h : isBlank value = false then .ok ⟨value, h⟩ else .error (missingVariable name)
  | none => .error (missingVariable name)

/-- `FromEnvironment`. -/
def fromEnvironment (environment : Str → Option Str) : Except Exn Configuration := do
  return {
    analyticsBucket := ← require environment analyticsBucketEnv
    targetListParameter := ← require environment targetListParameterEnv
    rawBucket := ← require environment rawBucketEnv
    rawPrefix := ← require environment rawPrefixEnv
    functionName := ← require environment functionNameEnv }

/-- The service of a configuration. -/
def Configuration.service (configuration : Configuration) (platform : Platform) : IngestService where
  platform := platform
  rawBucket := configuration.rawBucket.val
  rawPrefix := configuration.rawPrefix.val
  rawBucket_valid := configuration.rawBucket.property

variable {environment : Str → Option Str}

theorem require_eq_ok {name : Str} {setting : Setting} :
    require environment name = .ok setting ↔ environment name = some setting.val := by
  unfold require
  constructor
  · intro h
    split at h
    · split_ifs at h
      cases h
      assumption
    · cases h
  · intro h
    rw [h]
    exact dif_pos setting.property

/-- A configuration is read variable by variable, and the first one that is missing
or blank is reported. -/
theorem fromEnvironment_eq_ok {configuration : Configuration} :
    fromEnvironment environment = .ok configuration ↔
      environment analyticsBucketEnv = some configuration.analyticsBucket.val ∧
      environment targetListParameterEnv = some configuration.targetListParameter.val ∧
      environment rawBucketEnv = some configuration.rawBucket.val ∧
      environment rawPrefixEnv = some configuration.rawPrefix.val ∧
      environment functionNameEnv = some configuration.functionName.val := by
  simp only [fromEnvironment, Fallible.bind_eq_ok, require_eq_ok]
  constructor
  · rintro ⟨_, hAnalytics, _, hTargets, _, hRaw, _, hPrefix, _, hName, hEnd⟩
    cases hEnd
    exact ⟨hAnalytics, hTargets, hRaw, hPrefix, hName⟩
  · rintro ⟨hAnalytics, hTargets, hRaw, hPrefix, hName⟩
    exact ⟨_, hAnalytics, _, hTargets, _, hRaw, _, hPrefix, _, hName, rfl⟩

end KiroIngest
