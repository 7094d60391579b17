import MockHttp.Config.Settings
import MockHttp.Json.Decode
import MockHttp.Text.Number

/-!
# Configurations as records

A record is a value of some document format with fields of fixed names. `Format` says how a format
writes what fields hold; `Config.read?` reads a configuration from a value of any such format.
Fields that are absent have their defaults, and fields of other names are passed over.
-/

namespace MockHttp.Config

/-- How a document format writes the values that fields hold. -/
structure Format (ν : Type) where
  text? : ν → Option String
  /-- A number from zero to a greatest one. -/
  number? : Nat → ν → Option Nat
  flag? : ν → Option Bool
  method? : ν → Option Http.Method
  /-- The fields of a record that have one of these names, each at most once. -/
  fields? : List String → ν → Option (List (String × ν))

/-- The fields among some members that have one of these names. It is an error if one of them occurs
twice. -/
def selectFields {ν : Type} (names : List String) (members : List (String × ν)) :
    Option (List (String × ν)) :=
  let known := members.filter fun m => names.contains m.1
  if known.length = (known.map (·.1)).eraseDups.length then some known else none

/-- The fields of a record that is written as the sequence of their values, the last of which may be
missing. -/
def placeFields {ν : Type} (names : List String) (items : List ν) : Option (List (String × ν)) :=
  if items.length ≤ names.length then some (names.zip items) else none

/-- The value of a field, or a default one if the field is absent. -/
def field {ν α : Type} (fields : List (String × ν)) (name : String) (read : ν → Option α)
    (default : α) : Option α :=
  match fields.lookup name with
  | some v => read v
  | none => some default

/-- A word of 64 bits. -/
def Format.word? {ν : Type} (f : Format ν) : ν → Option Nat := f.number? Text.maxWord

def readServer? {ν : Type} (f : Format ν) (v : ν) : Option ServerConfig := do
  let fields ← f.fields? ["route_prefix", "internet_delay_ms", "cache_capacity"] v
  return {
    routePrefix := ← field fields "route_prefix" f.text? ""
    delayMs := ← field fields "internet_delay_ms" f.word? 0
    cacheCapacity := ← field fields "cache_capacity" f.word? 10000 }

def read? {ν : Type} (f : Format ν) (v : ν) : Option Config := do
  let fields ← f.fields? ["base_url", "timeout_secs", "method", "with_credentials", "log_payloads",
    "mock"] v
  return {
    baseUrl := ← field fields "base_url" f.text? ""
    timeoutSecs := ← field fields "timeout_secs" f.word? 3600
    method := ← field fields "method" f.method? .post
    withCredentials := ← field fields "with_credentials" f.flag? false
    logPayloads := ← field fields "log_payloads" f.flag? false
    server := ← field fields "mock" (readServer? f) {} }

/-- Records in JSON. A record may be written as an array. -/
def jsonFormat : Format Json where
  text? := Json.string?
  number? greatest v := (v.intBetween? 0 greatest).map Int.toNat
  flag? := Json.bool?
  method? := Http.Method.ofJson?
  fields? names v :=
    match v with
    | .object members => selectFields names members
    | .array items => placeFields names items
    | _ => none

end MockHttp.Config
