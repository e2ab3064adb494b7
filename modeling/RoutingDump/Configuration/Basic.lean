import RoutingDump.Json.Skip
import RoutingDump.Notice
import RoutingDump.Opening.RetryPolicy

/-!
# Configuration of a reader

How often to try to open a dump, how long to wait in between, and how long to rest when a live
dump has nothing new. Values come in layers: defaults, a file, the environment, and for the
program its command line. A layer replaces single fields.
-/

namespace RoutingDump

/-- The settings of a reader. Waits and intervals are in milliseconds. -/
structure Configuration where
  maxOpenAttempts : UInt32 := 5
  openRetryWaitMs : UInt64 := 10000
  pollIntervalMs : UInt64 := 1000
  deriving DecidableEq, Repr, Inhabited

/-- The fields of a configuration. -/
inductive Setting where
  | maxOpenAttempts
  | openRetryWaitMs
  | pollIntervalMs
  deriving DecidableEq, Repr

namespace Setting

/-- All fields, in the order in which they are written and looked up. -/
def all : List Setting := [.maxOpenAttempts, .openRetryWaitMs, .pollIntervalMs]

/-- The key of a field in a file. -/
def key : Setting → String
  | .maxOpenAttempts => "maxOpenAttempts"
  | .openRetryWaitMs => "openRetryWaitMs"
  | .pollIntervalMs => "pollIntervalMs"

/-- The environment variable of a field. -/
def variableName : Setting → String
  | .maxOpenAttempts => "READER_MAX_OPEN_ATTEMPTS"
  | .openRetryWaitMs => "READER_OPEN_RETRY_WAIT_MS"
  | .pollIntervalMs => "READER_POLL_INTERVAL_MS"

/-- The largest value of a field. -/
def limit : Setting → Nat
  | .maxOpenAttempts => Text.maxWord32
  | .openRetryWaitMs => Text.maxWord64
  | .pollIntervalMs => Text.maxWord64

def ofKey? (key : List Char) : Option Setting := all.find? fun s => s.key.toList == key

end Setting

/-- A layer: the values it has for some of the fields. -/
abbrev Layer := Setting → Option Nat

namespace Layer

def none : Layer := fun _ => Option.none

def set (l : Layer) (s : Setting) (value : Nat) : Layer :=
  fun s' => if s' = s then some value else l s'

end Layer

/-- Why there is no configuration. -/
inductive ConfigurationError where
  | file (e : IoError)
  | json (fault : Json.Fault)
  | noAttempts
  | badVariable (name value : String)
  deriving DecidableEq, Repr

def ConfigurationError.message : ConfigurationError → String
  | .file e => s!"I/O error occurred: {e.message}"
  | .json fault => s!"JSON error occurred: {fault.message}"
  | .noAttempts => "Invalid configuration: maxOpenAttempts must be at least 1"
  | .badVariable name value => s!"Invalid configuration: {name} has invalid value '{value}'"

namespace Configuration

def get (c : Configuration) : Setting → Nat
  | .maxOpenAttempts => c.maxOpenAttempts.toNat
  | .openRetryWaitMs => c.openRetryWaitMs.toNat
  | .pollIntervalMs => c.pollIntervalMs.toNat

def set (c : Configuration) (s : Setting) (value : Nat) : Configuration :=
  match s with
  | .maxOpenAttempts => { c with maxOpenAttempts := UInt32.ofNat value }
  | .openRetryWaitMs => { c with openRetryWaitMs := UInt64.ofNat value }
  | .pollIntervalMs => { c with pollIntervalMs := UInt64.ofNat value }

/-- The configuration with the values of a layer in place of its own. -/
def overlay (c : Configuration) (l : Layer) : Configuration :=
  Setting.all.foldl (fun c s => match l s with
    | some value => c.set s value
    | none => c) c

/-- A configuration that never opens anything is refused. -/
def validate (c : Configuration) : Except ConfigurationError Configuration :=
  if c.maxOpenAttempts = 0 then .error .noAttempts else .ok c

def retryPolicy (c : Configuration) : RetryPolicy where
  maxAttempts := c.maxOpenAttempts
  firstWait := .ofMillis c.openRetryWaitMs.toNat

def pollInterval (c : Configuration) : Duration := .ofMillis c.pollIntervalMs.toNat

/-- The lines that show a configuration. -/
def display (c : Configuration) : String :=
  "ReaderConfig\n    Max open attempts: " ++ toString c.maxOpenAttempts.toNat ++
    ",\n    Open retry wait: " ++ toString c.openRetryWaitMs.toNat ++
    " ms,\n    Poll interval: " ++ toString c.pollIntervalMs.toNat ++ " ms\n"

end Configuration
end RoutingDump
