import Playground.Text.Case
import Playground.Text.Number

/-!
# Configuration

The settings of the service, read from the environment. Every setting has a default, and the ones
that count something must be positive whole numbers.
-/

namespace Playground

/-- The settings of the service. -/
structure Config where
  workPath : String
  /-- The interpreter that runs programs, if it is not the one of the service. -/
  interpreter : Option String
  infrastructureTimeout : Int
  userCodeTimeout : Int
  maxTimeout : Int
  maxOutput : Int
  pollInterval : Int
  logLevel : String
  port : Int
  deriving DecidableEq, Repr

/-- What is wrong with a setting. -/
inductive ConfigError where
  | notInteger (name value : String)
  | notPositive (name : String) (value : Int)
  | unknownLevel (level : String)
  deriving DecidableEq, Repr

/-- The wording of a mistake. -/
def ConfigError.message : ConfigError → String
  | .notInteger name value => s!"Invalid integer for {name}: {value}"
  | .notPositive name value => s!"{name} must be positive, got {value}"
  | .unknownLevel level => s!"Invalid TRYEXEC_LOG_LEVEL: {level}"

namespace Config

/-- The levels of a log. -/
def logLevels : List String :=
  ["DEBUG", "INFO", "WARNING", "ERROR", "CRITICAL"]

/-- A positive whole number. -/
def positive (env : String → Option String) (name : String) (default : Int) :
    Except ConfigError Int :=
  match env name with
  | none => .ok default
  | some value =>
    match Text.readInt? value.toList with
    | none => .error (.notInteger name value)
    | some n => if n ≤ 0 then .error (.notPositive name n) else .ok n

/-- The settings of an environment. The first mistake in the order of the settings counts. -/
def ofEnvironment (env : String → Option String) : Except ConfigError Config := do
  let infrastructureTimeout ← positive env "TRYEXEC_INFRASTRUCTURE_TIMEOUT_MS" 5000
  let userCodeTimeout ← positive env "TRYEXEC_USER_CODE_TIMEOUT_MS" 15000
  let maxTimeout ← positive env "TRYEXEC_MAX_TIMEOUT_MS" 60000
  let maxOutput ← positive env "TRYEXEC_MAX_OUTPUT_CHARS" 100000
  let pollInterval ← positive env "TRYEXEC_POLL_INTERVAL_MS" 20
  let port ← positive env "PORT" 8080
  let logLevel := Text.toCapitals ((env "TRYEXEC_LOG_LEVEL").getD "INFO")
  unless logLevels.contains logLevel do throw (.unknownLevel logLevel)
  return {
    workPath := (env "TRYEXEC_WORK_PATH").getD "/tmp/tryexec"
    interpreter := (env "TRYEXEC_PYTHON").filter (· != "")
    infrastructureTimeout, userCodeTimeout, maxTimeout, maxOutput, pollInterval, logLevel, port }

end Config

end Playground
