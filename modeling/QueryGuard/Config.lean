import QueryGuard.Json.Record
import QueryGuard.PolicyError
import QueryGuard.Time.Span
import QueryGuard.Toml.Reader

/-!
# Configuration

How strict access control is with conflicts, with broken rules and with
references that lead nowhere, and how long an app's policies are kept.
-/

namespace QueryGuard

/-- What becomes of a request whose query contradicts the policies. -/
inductive ConflictMode where
  | reject
  | report
  deriving DecidableEq

/-- What becomes of a rule whose query cannot be lowered. -/
inductive RuleErrorMode where
  | skip
  | abort
  deriving DecidableEq

/-- What becomes of a reference without a value. -/
inductive UnresolvedMode where
  | null
  | reject
  deriving DecidableEq

structure CacheConfig where
  enabled : Bool
  /-- How long the policies of an app stay valid. -/
  ttl : Span
  deriving DecidableEq

structure Config where
  conflictMode : ConflictMode
  ruleErrors : RuleErrorMode
  unresolved : UnresolvedMode
  cache : CacheConfig
  deriving DecidableEq

namespace CacheConfig

def default : CacheConfig := ⟨true, Span.ofSeconds 300⟩

/-- The time to live as a signed number of seconds that fits 64 bits. -/
def ttl? (c : CacheConfig) : Except PolicyError Span :=
  if c.ttl.seconds < 1 <<< 63 then .ok c.ttl
  else
    .error <| .configuration
      "cache.ttl out of range: Source value is out of range for the target type"

end CacheConfig

namespace Config

def default : Config := ⟨.reject, .skip, .null, CacheConfig.default⟩

/-- Policies are not kept for no time at all. -/
def validate (c : Config) : Except PolicyError Unit := do
  if c.cache.enabled && c.cache.ttl.isZero then
    throw (.configuration "cache.ttl must be greater than zero when the cache is enabled")
  let _ ← c.cache.ttl?

end Config

-- ---------------------------------------------------------------------------
-- Names of the modes
-- ---------------------------------------------------------------------------

def ConflictMode.name : ConflictMode → String
  | .reject => "reject"
  | .report => "report"

def ConflictMode.ofName? : String → Option ConflictMode
  | "reject" => some .reject
  | "report" => some .report
  | _ => none

def RuleErrorMode.name : RuleErrorMode → String
  | .skip => "skip"
  | .abort => "abort"

def RuleErrorMode.ofName? : String → Option RuleErrorMode
  | "skip" => some .skip
  | "abort" => some .abort
  | _ => none

def UnresolvedMode.name : UnresolvedMode → String
  | .null => "null"
  | .reject => "reject"

def UnresolvedMode.ofName? : String → Option UnresolvedMode
  | "null" => some .null
  | "reject" => some .reject
  | _ => none

-- ---------------------------------------------------------------------------
-- Writing
-- ---------------------------------------------------------------------------

def CacheConfig.toJson (c : CacheConfig) : Json :=
  .object [("enabled", .bool c.enabled), ("ttl", .string c.ttl.text)]

def Config.toJson (c : Config) : Json :=
  .object [
    ("conflict_mode", .string c.conflictMode.name),
    ("rule_errors", .string c.ruleErrors.name),
    ("unresolved_env", .string c.unresolved.name),
    ("cache", c.cache.toJson)]

-- ---------------------------------------------------------------------------
-- Reading
-- ---------------------------------------------------------------------------

/-- What JSON and TOML do not agree on. -/
inductive Dialect where
  | json
  | toml
  deriving DecidableEq

namespace Dialect

/-- TOML passes over what the array form of a record has too much. -/
def fields? (dialect : Dialect) (names : List String) (value : Json) :
    Option (List (Option Json)) :=
  match dialect, value with
  | .toml, .array items => Json.fields? names (.array (items.take names.length))
  | _, value => value.fields? names

/-- Stands for nothing behind a name. -/
def isVoid : Dialect → Json → Bool
  | .json, value => value.isNull
  | .toml, .object members => members.isEmpty
  | .toml, .array items => items.isEmpty
  | .toml, _ => false

/-- A name is a string, or the only name of an object that holds nothing. -/
def name? (dialect : Dialect) : Json → Option String
  | .string name => some name
  | .object [(name, value)] => if dialect.isVoid value then some name else none
  | _ => none

end Dialect

def CacheConfig.ofJson? (dialect : Dialect) (value : Json) : Option CacheConfig := do
  match ← dialect.fields? ["enabled", "ttl"] value with
  | [enabled, ttl] =>
    let span? (value : Json) := value.asString?.bind Span.ofText?
    return ⟨← Json.orDefault default.enabled Json.asBool? enabled,
      ← Json.orDefault default.ttl span? ttl⟩
  | _ => none

namespace Config

/-- Whatever is missing is as in the default. -/
def ofJson? (dialect : Dialect) (value : Json) : Option Config := do
  match ← dialect.fields? ["conflict_mode", "rule_errors", "unresolved_env", "cache"] value with
  | [conflictMode, ruleErrors, unresolved, cache] =>
    let mode? {α : Type} (ofName? : String → Option α) (value : Json) :=
      (dialect.name? value).bind ofName?
    return {
      conflictMode := ← Json.orDefault .reject (mode? ConflictMode.ofName?) conflictMode
      ruleErrors := ← Json.orDefault .skip (mode? RuleErrorMode.ofName?) ruleErrors
      unresolved := ← Json.orDefault .null (mode? UnresolvedMode.ofName?) unresolved
      cache := ← Json.orDefault CacheConfig.default (CacheConfig.ofJson? dialect) cache }
  | _ => none

/-- Reads a TOML document and validates what it says. -/
def ofToml (source : String) : Except PolicyError Config :=
  match (Toml.ofText? source).bind fun doc => ofJson? .toml doc.toJson with
  | none => .error (.configuration "invalid TOML")
  | some config => do
    config.validate
    return config

end Config

end QueryGuard
