import RoutingDump.FileTree
import RoutingDump.Text.Escape

/-!
# Log files

A run that logs to a directory starts a new file there. Of the logs already there only the newest
is kept; what is no log stays. A log that cannot be deleted is complained about and does not stop
the run.
-/

namespace RoutingDump
namespace LogFile

/-- What stands behind the last dot of a name, unless the dot comes first. -/
def extension? (name : String) : Option String :=
  let cs := name.toList
  if cs = ['.', '.'] then none
  else
    let back := cs.reverse.takeWhile (· != '.')
    match cs.reverse.drop back.length with
    | [] => none
    | _ :: front => if front.isEmpty then none else some (String.ofList back.reverse)

/-- The extension of log files. -/
def logExtension : String := "log"

def isLogName (name : String) : Bool := extension? name == some logExtension

/-- Log files, the newest first. -/
def newestFirst (logs : List (String × Node)) : List (String × Node) :=
  logs.mergeSort fun a b => decide (b.2.modified ≤ a.2.modified)

/-- The names that a cleaning deletes: all logs but the newest. -/
def outdated (children : List (String × Node)) : List String :=
  ((newestFirst (children.filter fun c => isLogName c.1)).drop 1).map (·.1)

/-- A path with a name appended. -/
def join (directory name : String) : String :=
  if directory.toList.getLast? == some '/' then directory ++ name else directory ++ "/" ++ name

/-- Deletes the named entries of a directory, each by its path. Those that cannot be deleted stay
and are returned. -/
def deleteAll (t : FileTree) (directory : String) :
    List String → FileTree × List (String × IoError)
  | [] => (t, [])
  | n :: ns =>
    match t.remove (join directory n) with
    | .ok t => deleteAll t directory ns
    | .error e =>
      let (t, failures) := deleteAll t directory ns
      (t, (n, e) :: failures)

/-- Deletes the outdated logs of a directory. -/
def clean (t : FileTree) (directory : String) :
    Except IoError (FileTree × List (String × IoError)) :=
  match t.list directory with
  | .error e => .error e
  | .ok children => .ok (deleteAll t directory (outdated children))

def complaint (directory : String) (failure : String × IoError) : String :=
  s!"Failed to delete old log file {Text.quoted (join directory failure.1)}: {failure.2.message}"

/-- The name of a log file started at a time. -/
def name (stamp : String) : String := s!"dump_reader_{stamp}.log"

/-- What starting a log came to: the tree, the complaints, and the path of the log or the fault that
prevented it. Without a directory for logs there is no path. Directories made and logs deleted
before a fault stay so. -/
structure Setup where
  tree : FileTree
  complaints : List String := []
  path : Except IoError (Option String) := .ok none

/-- Makes a directory if it is missing, cleans it and starts a log file in it. -/
def setup (t : FileTree) (directory stamp : String) : Setup :=
  let (t, fault) := if t.exists? directory then (t, none) else t.makeDirectories directory
  match fault with
  | some e => { tree := t, path := .error e }
  | none =>
    match clean t directory with
    | .error e => { tree := t, path := .error e }
    | .ok (t, failures) =>
      let path := join directory (name stamp)
      let complaints := failures.map (complaint directory)
      match t.append path [] with
      | .error e => { tree := t, complaints := complaints, path := .error e }
      | .ok t => { tree := t, complaints := complaints, path := .ok (some path) }

end LogFile
end RoutingDump
