import BotScript.Pattern.Cache
import BotScript.Safety
import BotScript.Toml.Reader

/-! Settings: the limits of each execution and where the log goes, read from TOML. -/

namespace BotScript

/-- What one execution may use. -/
structure Limits where
  patterns : Nat
  sleepSeconds : Nat
  nestedCalls : Nat
  apiCalls : Nat
  mapDepth : Nat
  deleteDelay : Nat
  deriving DecidableEq

namespace Limits

def default : Limits where
  patterns := PatternCache.defaultCapacity
  sleepSeconds := 60
  nestedCalls := 3
  apiCalls := 100
  mapDepth := Safety.defaultMaxDepth
  deleteDelay := 86400

/-- The names of the limits in settings, in the order of the record. -/
def names : List String :=
  ["regex_cache_capacity", "max_sleep_secs", "max_nested_calls", "generic_api_calls",
   "max_recursion_depth", "max_delete_delay_secs"]

/-- The limits in the order of the record. -/
def toList (l : Limits) : List Nat :=
  [l.patterns, l.sleepSeconds, l.nestedCalls, l.apiCalls, l.mapDepth, l.deleteDelay]

end Limits

/-- Where the log goes, and from which level on. -/
structure LogSettings where
  level : String
  file : String
  deriving DecidableEq

namespace LogSettings

def default : LogSettings := ⟨"info", ""⟩

end LogSettings

/-- A number from 0 up to below `2 ^ bits`. -/
def Toml.natural? (bits : Nat) : Toml → Option Nat
  | .integer n => if 0 ≤ n ∧ n.toNat < 1 <<< bits then some n.toNat else none
  | _ => none

/-- A text. -/
def Toml.text? : Toml → Option String
  | .text s => some s
  | _ => none

/-- What `read` makes of a value, or the default if there is no value. -/
def orDefault {α β : Type} (default : β) (read : α → Option β) : Option α → Option β
  | none => some default
  | some v => read v

/-- The fields of a record by name: the entries of a table, the items of an array in the order of
the names, or none of them in a time. -/
def Toml.fields? (names : List String) : Toml → Option (String → Option Toml)
  | .table entries => some fun name => entries.lookup name
  | .array items => some fun name => (names.zip items).lookup name
  | .time => some fun _ => none
  | _ => none

/-- The limits that a table holds. -/
def Limits.ofToml (v : Toml) : Option Limits := do
  let field ← Toml.fields? Limits.names v
  let d := Limits.default
  return {
    patterns := ← orDefault d.patterns (Toml.natural? 64) (field "regex_cache_capacity")
    sleepSeconds := ← orDefault d.sleepSeconds (Toml.natural? 64) (field "max_sleep_secs")
    nestedCalls := ← orDefault d.nestedCalls (Toml.natural? 32) (field "max_nested_calls")
    apiCalls := ← orDefault d.apiCalls (Toml.natural? 32) (field "generic_api_calls")
    mapDepth := ← orDefault d.mapDepth (Toml.natural? 64) (field "max_recursion_depth")
    deleteDelay := ← orDefault d.deleteDelay (Toml.natural? 64) (field "max_delete_delay_secs") }

/-- The log settings that a table holds. -/
def LogSettings.ofToml (v : Toml) : Option LogSettings := do
  let field ← Toml.fields? ["level", "file"] v
  let d := LogSettings.default
  return ⟨← orDefault d.level Toml.text? (field "level"),
    ← orDefault d.file Toml.text? (field "file")⟩

/-- All settings. -/
structure Settings where
  limits : Limits
  log : LogSettings
  deriving DecidableEq

namespace Settings

def default : Settings := ⟨.default, .default⟩

/-- The settings that a document holds.  What it does not say has its default, and what it says of
other things does not count. -/
def ofDocument (entries : List (String × Toml)) : Option Settings := do
  return ⟨← orDefault .default Limits.ofToml (entries.lookup "limits"),
    ← orDefault .default LogSettings.ofToml (entries.lookup "logging")⟩

/-- Reads settings. -/
def read (s : String) : Except Fault Settings :=
  match (Toml.read? s).bind ofDocument with
  | some settings => .ok settings
  | none => .error (.settings .malformed)

/-- The settings with the log level of the environment, if that is not empty. -/
def withLevel (s : Settings) (level : Option String) : Settings :=
  match level with
  | none => s
  | some level => if level.isEmpty then s else { s with log := { s.log with level := level } }

/-- Limits of zero make what they limit unusable, and the first of them is reported. -/
def validate (s : Settings) : Except Fault Unit :=
  match (Limits.names.zip s.limits.toList).find? fun limit => decide (limit.2 = 0) with
  | some (name, _) => .error (.settings (.zeroLimit name))
  | none => .ok ()

end Settings

end BotScript
