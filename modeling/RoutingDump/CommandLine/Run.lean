import RoutingDump.CommandLine.Session
import RoutingDump.LogFile.Rotation

/-!
# Runs

A run of the program as a function of its arguments, its environment and the files it finds. The
log goes to standard output between the records, and to a file if a directory is given for it.
-/

namespace RoutingDump
namespace CommandLine

/-- A moment as it is written in the lines of a log and in the name of a log file. -/
structure Stamp where
  inLine : String
  inName : String

/-- What a run leaves behind. A run without an exit code rests in front of a live dump. -/
structure Run where
  exit : Option ExitCode
  stdout : String := ""
  stderr : String := ""
  tree : FileTree

/-- The name and version of the program. -/
def versionLine : String := "dump-reader 0.1.0\n"

def usageLine : String := "Usage: dump-reader [OPTIONS] <PATH>\n"

/-- The fault and what is behind it, outermost first. -/
def chain : ConfigurationError → String
  | .file e => s!"{(ConfigurationError.file e).message}: {e.message}"
  | e => e.message

/-- Loads the configuration and puts the options on top of it. The result comes with the notices
on the way. -/
def Job.configure (j : Job) (env : Environment) (t : FileTree) :
    List Notice × Except String Configuration :=
  let (notices, loaded) := Configuration.load t env j.arguments.config
  match loaded with
  | .error e => (notices, .error s!"Invalid reader configuration: {chain e}")
  | .ok base =>
    match (base.overlay j.arguments.settings).validate with
    | .error e => (notices, .error (chain e))
    | .ok c => (notices ++ [.configured c.display], .ok c)

/-- The session of a job whose dump lies in a tree. -/
def Job.session (j : Job) (c : Configuration) (t : FileTree) : Session FileTree :=
  .start j.resource (Ascii.fileFormat j.resource j.filters) j.arguments.maxRecords c.retryPolicy t

/-- Notices that the verbosity admits. -/
def Output.admitted (v : Verbosity) : Output → Bool
  | .record _ => true
  | .notice n => v.admits n.level

/-- An output as it stands in standard output. -/
def Output.line (stamp : String) : Output → String
  | .record r => recordLine r ++ "\n"
  | .notice n => n.line stamp ++ "\n"

def Output.isNotice : Output → Bool
  | .record _ => false
  | .notice _ => true

/-- The text of standard output. -/
def stdoutText (v : Verbosity) (stamp : String) (outputs : List Output) : String :=
  String.join ((outputs.filter (·.admitted v)).map (·.line stamp))

/-- The text of the log file. -/
def logText (v : Verbosity) (stamp : String) (outputs : List Output) : String :=
  String.join (((outputs.filter (·.admitted v)).filter Output.isNotice).map (·.line stamp))

def errorLine (text : String) : String := s!"Error: {text}\n"

/-- More pulls than a dump has bytes can find nothing new. -/
def pullBound (t : FileTree) (path : String) : Nat :=
  match t.read (Ascii.pathOf path) with
  | .ok bytes => bytes.length + 3
  | .error _ => 3

/-- Puts what the run wrote to its log into the log file. -/
def withLog (t : FileTree) (path : Option String) (text : String) : FileTree :=
  match path with
  | none => t
  | some path =>
    match t.append path text.toUTF8.toList with
    | .ok t => t
    | .error _ => t

/-- The log of a job, where `stamp` is the time in the name of the log file. -/
def Job.log (j : Job) (t : FileTree) (stamp : String) : LogFile.Setup :=
  match j.arguments.logDir with
  | none => { tree := t }
  | some directory => LogFile.setup t directory stamp

/-- Runs a job, where `stamp` is the time that log lines and the log file bear. -/
def Job.run (j : Job) (env : Environment) (t : FileTree) (stamp : Stamp) : Run :=
  let log := j.log t stamp.inName
  let complaints := String.join (log.complaints.map (· ++ "\n"))
  match log.path with
  | .error e =>
    { exit := some .failure, tree := log.tree
      stderr := complaints ++ errorLine s!"Failed to set up logging: {e.message}" }
  | .ok path =>
    let (notices, configured) := j.configure env log.tree
    let first := notices.map Output.notice
    match configured with
    | .error text =>
      { exit := some .failure
        stdout := stdoutText j.verbosity stamp.inLine first
        stderr := complaints ++ errorLine text
        tree := withLog log.tree path (logText j.verbosity stamp.inLine first) }
    | .ok c =>
      let session := j.session c log.tree
      let (later, progress) := session.run (pullBound log.tree j.path)
      let outputs := first ++ session.opening ++ later
      { exit := progress.exit?
        stdout := stdoutText j.verbosity stamp.inLine outputs
        stderr := complaints
        tree := withLog log.tree path (logText j.verbosity stamp.inLine outputs) }

/-- Runs the program. -/
def run (args : List String) (env : Environment) (t : FileTree) (stamp : Stamp) : Run :=
  match readJob env args with
  | .error .unusable => { exit := some .usage, stderr := usageLine, tree := t }
  | .error .help => { exit := some .success, stdout := usageLine, tree := t }
  | .error .version => { exit := some .success, stdout := versionLine, tree := t }
  | .ok j => j.run env t stamp

end CommandLine
end RoutingDump
