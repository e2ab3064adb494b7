import RoutingDump.Configuration.Load
import RoutingDump.Filters

/-!
# Arguments

The command line is read from the left. An option takes its value from behind an equals sign or
from the next argument, which then must not look like an option itself. An option is given once,
unless it collects values. Whatever is wrong makes the whole line unusable; only a request for
help or for the version that comes first is still answered.
-/

namespace RoutingDump
namespace CommandLine

/-- The options that take a value. -/
inductive Flag where
  | project
  | collector
  | recordType
  | dumpTime
  | onlyProject
  | onlyCollector
  | onlyType
  | intervalBegin
  | intervalEnd
  | config
  | logDir
  | logLevel
  | maxRecords
  | setting (s : Setting)
  deriving DecidableEq, Repr

namespace Flag

def name : Flag → String
  | .project => "project"
  | .collector => "collector"
  | .recordType => "record-type"
  | .dumpTime => "dump-time"
  | .onlyProject => "only-project"
  | .onlyCollector => "only-collector"
  | .onlyType => "only-type"
  | .intervalBegin => "interval-begin"
  | .intervalEnd => "interval-end"
  | .config => "config"
  | .logDir => "log-dir"
  | .logLevel => "log-level"
  | .maxRecords => "max-records"
  | .setting .maxOpenAttempts => "max-open-attempts"
  | .setting .openRetryWaitMs => "open-retry-wait-ms"
  | .setting .pollIntervalMs => "poll-interval-ms"

def all : List Flag :=
  [.project, .collector, .recordType, .dumpTime, .onlyProject, .onlyCollector, .onlyType,
    .intervalBegin, .intervalEnd, .config, .logDir, .logLevel, .maxRecords] ++
  Setting.all.map .setting

def ofName? (name : List Char) : Option Flag := all.find? fun f => f.name.toList == name

end Flag

/-- What the arguments ask for. -/
structure Arguments where
  path : Option String := none
  project : Option String := none
  collector : Option String := none
  recordType : Option RecordType := none
  dumpTime : Option UInt32 := none
  live : Bool := false
  onlyProjects : List String := []
  onlyCollectors : List String := []
  onlyTypes : List RecordType := []
  intervalBegin : Option UInt32 := none
  intervalEnd : Option UInt32 := none
  config : Option String := none
  logDir : Option String := none
  logLevel : Option String := none
  maxRecords : Option Nat := none
  settings : Layer := .none

/-- Why there is nothing to run. -/
inductive Stop where
  | unusable
  | help
  | version
  deriving DecidableEq, Repr

namespace Arguments

/-- Sets a field that may be set once. -/
def once {α : Type} (old : Option α) (new : Except Stop α) (set : Option α → Arguments) :
    Except Stop Arguments :=
  match old, new with
  | none, .ok value => .ok (set (some value))
  | _, _ => .error .unusable

/-- A word of 32 bits. It is read as a signed number first, so zero may have any sign. -/
def word32 (value : String) : Except Stop UInt32 :=
  let cs := value.toList
  let n := match cs with
    | '-' :: digits => (Text.bounded? 0 digits).map UInt32.ofNat
    | _ => Text.word32? cs
  match n with
  | some n => .ok n
  | none => .error .unusable

def word64 (value : String) : Except Stop Nat :=
  match Text.unsigned? Text.maxWord64 value.toList with
  | some n => .ok n
  | none => .error .unusable

def filePath (value : String) : Except Stop String :=
  if value.isEmpty then .error .unusable else .ok value

def recordTypeOf (value : String) : Except Stop RecordType :=
  match RecordType.ofName value with
  | .ok t => .ok t
  | .error _ => .error .unusable

/-- Takes an option with its value. -/
def take (a : Arguments) (flag : Flag) (value : String) : Except Stop Arguments :=
  match flag with
  | .project => once a.project (.ok value) fun v => { a with project := v }
  | .collector => once a.collector (.ok value) fun v => { a with collector := v }
  | .recordType => once a.recordType (recordTypeOf value) fun v => { a with recordType := v }
  | .dumpTime => once a.dumpTime (word32 value) fun v => { a with dumpTime := v }
  | .onlyProject => .ok { a with onlyProjects := a.onlyProjects ++ [value] }
  | .onlyCollector => .ok { a with onlyCollectors := a.onlyCollectors ++ [value] }
  | .onlyType =>
    match recordTypeOf value with
    | .ok t => .ok { a with onlyTypes := a.onlyTypes ++ [t] }
    | .error e => .error e
  | .intervalBegin =>
    once a.intervalBegin (word32 value) fun v => { a with intervalBegin := v }
  | .intervalEnd => once a.intervalEnd (word32 value) fun v => { a with intervalEnd := v }
  | .config => once a.config (filePath value) fun v => { a with config := v }
  | .logDir => once a.logDir (filePath value) fun v => { a with logDir := v }
  | .logLevel => once a.logLevel (.ok value) fun v => { a with logLevel := v }
  | .maxRecords => once a.maxRecords (word64 value) fun v => { a with maxRecords := v }
  | .setting s =>
    let number := match s with
      | .maxOpenAttempts => (word32 value).map (·.toNat)
      | .openRetryWaitMs | .pollIntervalMs => word64 value
    once (a.settings s) number fun
      | some n => { a with settings := a.settings.set s n }
      | none => a

def takePath (a : Arguments) (value : String) : Except Stop Arguments :=
  once a.path (.ok value) fun v => { a with path := v }

/-- Whether an argument is taken for an option. A single dash is not. -/
def looksLikeOption (arg : List Char) : Bool :=
  match arg with
  | '-' :: _ :: _ => true
  | _ => false

/-- The name of a long option and the value attached to it. -/
def splitValue : List Char → List Char × Option String
  | [] => ([], none)
  | c :: cs =>
    if c = '=' then ([], some (String.ofList cs))
    else
      let (name, value) := splitValue cs
      (c :: name, value)

/-- Switches: options without a value. -/
def takeSwitch (a : Arguments) (name : List Char) : Except Stop Arguments :=
  if name = "live".toList then
    if a.live then .error .unusable else .ok { a with live := true }
  else if name = "help".toList then .error .help
  else if name = "version".toList then .error .version
  else .error .unusable

/-- A cluster of short options stops at its first letter, whatever that is. -/
def takeLetter : Char → Stop
  | 'h' => .help
  | 'V' => .version
  | _ => .unusable

/-- Takes all arguments. Behind two dashes alone there are no options any more. -/
def takeAll (a : Arguments) : (optionsOver : Bool) → List String → Except Stop Arguments
  | _, [] => .ok a
  | true, arg :: args =>
    match a.takePath arg with
    | .error e => .error e
    | .ok a => a.takeAll true args
  | false, arg :: args =>
    match arg.toList with
    | ['-', '-'] => a.takeAll true args
    | '-' :: '-' :: body =>
      let (name, attached) := splitValue body
      match Flag.ofName? name, attached with
      | some flag, some value =>
        match a.take flag value with
        | .error e => .error e
        | .ok a => a.takeAll false args
      | some flag, none =>
        match args with
        | [] => .error .unusable
        | value :: args =>
          if looksLikeOption value.toList then .error .unusable
          else
            match a.take flag value with
            | .error e => .error e
            | .ok a => a.takeAll false args
      | none, some _ => .error .unusable
      | none, none =>
        match a.takeSwitch name with
        | .error e => .error e
        | .ok a => a.takeAll false args
    | '-' :: letter :: _ => .error (takeLetter letter)
    | _ =>
      match a.takePath arg with
      | .error e => .error e
      | .ok a => a.takeAll false args

/-- The variable that gives the log level when no option does. -/
def logLevelVariable : String := "READER_LOG_LEVEL"

/-- The log level: the option, the variable, or the default. -/
def level (a : Arguments) (env : Environment) : Except Stop String :=
  match a.logLevel with
  | some text => .ok text
  | none =>
    match env.bytes? logLevelVariable with
    | none => .ok "warn"
    | some bytes =>
      match Text.Utf8.decode? bytes with
      | some text => .ok (String.ofList text)
      | none => .error .unusable

end Arguments

/-- A command line that can be run. -/
structure Job where
  arguments : Arguments
  path : String
  verbosity : Verbosity

/-- Reads a command line. A dump must be named, and an interval that ends must begin. -/
def readJob (env : Environment) (args : List String) : Except Stop Job :=
  match Arguments.takeAll {} false args with
  | .error e => .error e
  | .ok a =>
    match a.path, a.level env with
    | some path, .ok level =>
      if a.intervalEnd.isSome && a.intervalBegin.isNone then .error .unusable
      else .ok { arguments := a, path := path, verbosity := .ofText level }
    | _, _ => .error .unusable

namespace Job

def resource (j : Job) : Resource where
  url := j.path
  project := j.arguments.project.getD "local"
  collector := j.arguments.collector.getD "local"
  recordType := j.arguments.recordType.getD .updates
  initialTime := j.arguments.dumpTime.getD 0
  extent := if j.arguments.live then .forever else .finite 0

/-- The filters that the options add up to. -/
def filters (j : Job) : Filters :=
  let a := j.arguments
  let interval : List Filters.Edit :=
    match a.intervalBegin with
    | some start => [.interval start a.intervalEnd]
    | none => []
  .ofEdits
    (a.onlyProjects.map .project ++ a.onlyCollectors.map .collector ++
      a.onlyTypes.map .recordType ++ interval)

end Job
end CommandLine
end RoutingDump
