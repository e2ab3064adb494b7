import RoutingDump.CommandLine.Run
import RoutingDump.Opening.Obstacle
import Std.Time

/-!
# The program

The outermost layer: it hands the arguments, the environment and the files that are named there to
the library, prints what comes back and does on disk what the library decided. Only here does
anything wait.
-/

namespace RoutingDump
namespace Program

open CommandLine

/-- The environment as far as the program looks at it. -/
def environment : IO Environment := do
  let names := Arguments.logLevelVariable :: Setting.all.map Setting.variableName
  let found ← names.mapM fun name => return (name, ← IO.getEnv name)
  return found.filterMap fun (name, value) => value.map fun text => (name, text.toUTF8.toList)

/-- The beginnings of a path that end in front of a slash, and the path itself. -/
def levels (path : String) : List String :=
  let pieces := path.splitOn "/"
  (List.range pieces.length).map fun n =>
    let front := String.intercalate "/" (pieces.take (n + 1))
    if front.isEmpty then "/" else front

/-- The tree with what lies on disk at a path: directories, or a file with its bytes. A file that
cannot be read counts as missing. -/
def look (t : FileTree) (path : String) : IO FileTree := do
  try
    let found ← IO.FS.readBinFile path
    return (t.write path found.toList).toOption.getD t
  catch
    | .inappropriateType .. | .illegalOperation .. =>
      return (t.makeDirectories path).1
    | _ => return t

/-- The tree with everything on the way to a path. -/
def explore (t : FileTree) (path : String) : IO FileTree := (levels path).foldlM look t

/-- A tree in which the current directory is the working directory. Its times are in nanoseconds. -/
def surroundings : IO FileTree := do
  let here := (← IO.currentDir).toString
  let way := (here.splitOn "/").filter (!·.isEmpty)
  return .withWorkingDirectory way (← Std.Time.Timestamp.now).toNanosecondsSinceUnixEpoch.val

/-- The path of a directory, and of a name in it. -/
def absolute (t : FileTree) (place : Nat) (names : List String) : String :=
  "/" ++ String.intercalate "/" (t.trail place ++ names)

/-- Everything on the way to the log directory, and the entries in it with their times. The way may
lead through directories that are still to be made and out of them again. -/
def exploreLogs (t : FileTree) (directory : String) : IO FileTree := do
  let mut t ← explore t directory
  let made := (t.makeDirectories directory).1
  let .ok place := made.resolveString directory | return t
  let path := absolute made place []
  t ← explore t path
  unless (t.list path).toOption.isSome do return t
  for entry in ← ((← IO.currentDir) / path).readDir do
    let path := LogFile.join path entry.fileName
    let found ← entry.path.metadata
    let known := if t.exists? path then t else match found.type with
      | .dir => (t.makeDirectories path).1
      | _ => (t.write path []).toOption.getD t
    t := known.touch path (found.modified.sec * 1000000000 + found.modified.nsec.toNat)
  return t

/-- The files of a job. The logs come last, as looking at a file makes it new. -/
def files (j : Job) : IO FileTree := do
  let t ← surroundings
  let t ← match j.arguments.config with
    | some path => explore t path
    | none => pure t
  let t ← explore t (Ascii.pathOf j.path)
  match j.arguments.logDir with
    | some directory => exploreLogs t directory
    | none => return t

/-- Does on disk what leads from one tree to the next: makes directories and removes files. -/
def enact (before after : FileTree) : IO Unit := do
  for place in [before.nodes.size:after.nodes.size] do
    if after.isDirectoryAt place then
      IO.FS.createDirAll (absolute after place [])
  for place in [0:before.nodes.size] do
    for (name, _) in before.names place do
      if (after.child? place name).isNone then
        IO.FS.removeFile (absolute before place [name])

/-- Prints outputs, notices with the time of day, and writes the notices to the log as well. -/
def put (v : Verbosity) (log : Option IO.FS.Handle) (outputs : List Output) : IO Unit := do
  let stamp := (← Std.Time.PlainDateTime.now).format "uuuu-MM-dd HH:mm:ss"
  let admitted := outputs.filter (·.admitted v)
  IO.print (stdoutText v stamp admitted)
  match log with
  | some handle =>
    handle.putStr (logText v stamp admitted)
    handle.flush
  | none => return
  (← IO.getStdout).flush

/-- Rests for a duration, or for seven weeks if it is longer than that. -/
def rest (d : Duration) : IO Unit :=
  IO.sleep (UInt32.ofNat (min (d.totalNanos / 1000000) Text.maxWord32))

/-- Looks at the disk until the dump can be opened or the attempts are used up, and waits in
between. The failures met come first to last, with the files as they were seen last. -/
def await (j : Job) (policy : RetryPolicy) : IO (List DecoderError × FileTree) := do
  let mut met : List DecoderError := []
  for attempt in [1:policy.attempts] do
    let t ← files j
    match Ascii.openDump t j.resource j.filters, policy.backoff attempt with
    | .error e, some d =>
      met := met ++ [e]
      rest d
    | _, _ => return (met, t)
  return (met, ← files j)

/-- Runs a session to its end. A live dump is looked at again after each rest. -/
def drive {ω : Type} (j : Job) (c : Configuration) (log : Option IO.FS.Handle)
    (first : Session ω) : IO ExitCode := do
  put j.verbosity log first.opening
  let mut session := first
  repeat
    let (outputs, progress) := session.step
    put j.verbosity log outputs
    match progress with
    | .finished code => return code
    | .more s => session := s
    | .resting s =>
      rest c.pollInterval
      let t ← files j
      let bytes := (t.read (Ascii.pathOf j.path)).toOption.getD []
      session := s.observe bytes
  return .success

/-- Runs a job whose log is open. -/
def attend (j : Job) (env : Environment) (t : FileTree) (log : Option IO.FS.Handle) :
    IO ExitCode := do
  let (notices, configured) := j.configure env t
  put j.verbosity log (notices.map .notice)
  match configured with
  | .error text =>
    IO.eprint (errorLine text)
    return .failure
  | .ok c =>
    if j.arguments.maxRecords == some 0 then drive j c log (j.session c t)
    else
      let (met, t) ← await j c.retryPolicy
      let obstacles : List (Option Obstacle) := met.map fun e => some (.error e)
      let format := (Ascii.fileFormat j.resource j.filters).obstructed
      drive j c log
        (.start j.resource format j.arguments.maxRecords c.retryPolicy (obstacles, t))

/-- Runs a job. -/
def run (j : Job) (env : Environment) : IO ExitCode := do
  let t ← files j
  let stamp := (← Std.Time.PlainDateTime.now).format "uuuu-MM-dd_HH-mm-ss"
  let log := j.log t stamp
  enact t log.tree
  log.complaints.forM fun text => IO.eprintln text
  match log.path with
  | .error e =>
    IO.eprint (errorLine s!"Failed to set up logging: {e.message}")
    return .failure
  | .ok none => attend j env log.tree none
  | .ok (some path) =>
    let handle ← IO.FS.Handle.mk path .append
    attend j env log.tree (some handle)

end Program
end RoutingDump

/-- Runs the program and gives its exit code. -/
def main (args : List String) : IO UInt32 := do
  let env ← RoutingDump.Program.environment
  let code ← match RoutingDump.CommandLine.readJob env args with
    | .ok job => RoutingDump.Program.run job env
    | .error .help =>
      IO.print RoutingDump.CommandLine.usageLine
      pure .success
    | .error .version =>
      IO.print RoutingDump.CommandLine.versionLine
      pure .success
    | .error .unusable =>
      IO.eprint RoutingDump.CommandLine.usageLine
      pure .usage
  return UInt32.ofNat code.toNat
