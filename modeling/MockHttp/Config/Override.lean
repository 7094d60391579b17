import MockHttp.Config.Settings
import MockHttp.Log.Settings
import MockHttp.Text.Blank
import MockHttp.Text.Number

/-!
# Overrides

The variables of an environment that take the place of what a configuration says. They are taken in
a fixed order; the first whose value cannot be read ends the run, and what was changed before stays
changed.
-/

namespace MockHttp

structure InvalidValue where
  key : String
  value : String
  deriving DecidableEq, Repr

def InvalidValue.message (e : InvalidValue) : String :=
  "invalid value \x60" ++ e.value ++ "\x60 for " ++ e.key

/-- The method that a text names in any case. -/
def Http.Method.read (text : String) : Except InvalidValue Http.Method :=
  match Http.Method.parse? text with
  | some m => .ok m
  | none => .error ⟨"method", text⟩

namespace Config

/-- A number of 64 bits that a variable holds; white space around it does not count. -/
def readVariable (key value : String) : Except InvalidValue Nat :=
  match Text.readWord (Text.trim value) with
  | .ok n => .ok n
  | .error _ => .error ⟨key, value⟩

/-- What a variable does to a configuration. -/
structure Override where
  key : String
  apply : Config → String → Except InvalidValue Config

def Override.number (key : String) (set : Config → Nat → Config) : Override :=
  ⟨key, fun c value => (readVariable key value).map (set c)⟩

def overrides : List Override := [
  ⟨"PATHMOCK_BASE_URL", fun c value => .ok { c with baseUrl := value }⟩,
  ⟨"PATHMOCK_METHOD", fun c value => (Http.Method.read value).map ({ c with method := · })⟩,
  .number "PATHMOCK_TIMEOUT_SECS" ({ · with timeoutSecs := · }),
  .number "PATHMOCK_INTERNET_DELAY_MS" fun c n =>
    { c with server := { c.server with delayMs := n } },
  .number "PATHMOCK_CACHE_CAPACITY" fun c n =>
    { c with server := { c.server with cacheCapacity := n } }]

/-- The configuration after some overrides, and the error that ended them. -/
def applyOverrides (env : Log.Environment) : List Override → Config → Config × Option InvalidValue
  | [], c => (c, none)
  | o :: rest, c =>
    match env.lookup o.key with
    | none => applyOverrides env rest c
    | some value =>
      match o.apply c value with
      | .ok c => applyOverrides env rest c
      | .error e => (c, some e)

/-- The configuration with what an environment says in place of its own. -/
def override (c : Config) (env : Log.Environment) : Config × Option InvalidValue :=
  applyOverrides env overrides c

end Config

end MockHttp
