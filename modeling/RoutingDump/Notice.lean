import RoutingDump.Failure
import RoutingDump.Outcome
import RoutingDump.Text.Lowercase

/-!
# Notices

What the library reports to its log. A notice is the event itself; its level, the part of the
program it comes from and its wording are functions of it.
-/

namespace RoutingDump

/-- How severe a notice is. -/
inductive Level where
  | error
  | warn
  | info
  | debug
  | trace
  deriving DecidableEq, Repr, Inhabited

namespace Level

def name : Level → String
  | .error => "ERROR"
  | .warn => "WARN"
  | .info => "INFO"
  | .debug => "DEBUG"
  | .trace => "TRACE"

/-- Severe levels have a low rank. -/
def rank : Level → Nat
  | .error => 1
  | .warn => 2
  | .info => 3
  | .debug => 4
  | .trace => 5

end Level

/-- How much of the log is kept: nothing, or everything at least as severe as a level. -/
inductive Verbosity where
  | off
  | upTo (level : Level)
  deriving DecidableEq, Repr

namespace Verbosity

def name : Verbosity → String
  | .off => "OFF"
  | .upTo level => level.name

def admits : Verbosity → Level → Bool
  | .off, _ => false
  | .upTo most, level => level.rank ≤ most.rank

/-- Reads the name of a level without regard to case. Any other text means `info`. -/
def ofText (text : String) : Verbosity :=
  let lowered := Text.lowercaseString text
  if lowered = "trace" then .upTo .trace
  else if lowered = "debug" then .upTo .debug
  else if lowered = "warn" then .upTo .warn
  else if lowered = "error" then .upTo .error
  else if lowered = "off" then .off
  else .upTo .info

end Verbosity

/-- The parts of the program that report. -/
inductive Reporter where
  | ascii
  | opener
  | buffer
  | reader
  | configuration
  | program
  deriving DecidableEq, Repr

/-- The name under which a part reports. -/
def Reporter.target : Reporter → String
  | .ascii => "lib_reader::format::ascii"
  | .opener => "lib_reader::core::opener"
  | .buffer => "lib_reader::core::buffer"
  | .reader => "lib_reader::core::reader"
  | .configuration => "lib_reader::configs::config_reader"
  | .program => "dump_reader"

/-- Something that happened, with what is said about it. -/
inductive Notice where
  | asciiOpened (url : String)
  | asciiReadError (url : String) (error : IoError)
  | corruptedLine (number : Nat) (url : String)
  | opened (url : String) (attempt : Nat)
  | attemptFailed (url : String) (attempt attempts : Nat) (error : DecoderError)
  | openCancelled (url : String)
  | gaveUp (url : String) (attempts : Nat)
  | allocationFailed (url : String) (error : DecoderError)
  | firstPrefetchFailed (error : ReaderError)
  | prefetched (url : String) (outcome : Outcome)
  | exhausted (url : String) (outcome : Outcome)
  | prefetchFailed (error : ReaderError)
  | created (url : String)
  | ready (url : String)
  | openerSilent (url : String)
  | openerCrashed (url : String)
  | configurationMissing (path : String)
  | configured (text : String)
  | dumpUnopened (path : String)
  | dumpRead (records : Nat) (path : String)
  | dumpFailed (error : ReaderError)
  deriving DecidableEq, Repr

namespace Notice

def level : Notice → Level
  | .asciiOpened _ => .debug
  | .asciiReadError _ _ => .error
  | .corruptedLine _ _ => .warn
  | .opened _ _ => .debug
  | .attemptFailed _ _ _ _ => .warn
  | .openCancelled _ => .info
  | .gaveUp _ _ => .error
  | .allocationFailed _ _ => .error
  | .firstPrefetchFailed _ => .error
  | .prefetched _ _ => .trace
  | .exhausted _ _ => .debug
  | .prefetchFailed _ => .error
  | .created _ => .debug
  | .ready _ => .debug
  | .openerSilent _ => .error
  | .openerCrashed _ => .error
  | .configurationMissing _ => .info
  | .configured _ => .debug
  | .dumpUnopened _ => .error
  | .dumpRead _ _ => .info
  | .dumpFailed _ => .error

def reporter : Notice → Reporter
  | .asciiOpened _ | .asciiReadError _ _ | .corruptedLine _ _ => .ascii
  | .opened _ _ | .attemptFailed _ _ _ _ | .openCancelled _ | .gaveUp _ _
  | .allocationFailed _ _ | .firstPrefetchFailed _ => .opener
  | .prefetched _ _ | .exhausted _ _ | .prefetchFailed _ => .buffer
  | .created _ | .ready _ | .openerSilent _ | .openerCrashed _ => .reader
  | .configurationMissing _ => .configuration
  | .configured _ | .dumpUnopened _ | .dumpRead _ _ | .dumpFailed _ => .program

def text : Notice → String
  | .asciiOpened url => s!"Opened ascii dump {url}"
  | .asciiReadError url error => s!"Read error in {url}: {error.message}"
  | .corruptedLine number url => s!"Corrupted line {number} in {url}"
  | .opened url attempt => s!"Opened {url} on attempt {attempt}"
  | .attemptFailed url attempt attempts error =>
    s!"Could not open ({url}). Attempt {attempt} of {attempts}: {error.message}"
  | .openCancelled url => s!"Open of {url} cancelled"
  | .gaveUp url attempts =>
    s!"Could not open dumpfile ({url}) after {attempts} attempts. Giving up."
  | .allocationFailed url error => s!"Could not allocate records for {url}: {error.message}"
  | .firstPrefetchFailed error => s!"Initial prefetch failed: {error.message}"
  | .prefetched url outcome => s!"Prefetch from {url} returned {outcome.name}"
  | .exhausted url outcome => s!"Dump {url} exhausted ({outcome.name})"
  | .prefetchFailed error => s!"Prefetch failed: {error.message}"
  | .created url => s!"Reader created for {url}"
  | .ready url => s!"Dump {url} ready"
  | .openerSilent url => s!"Opener for {url} exited without reporting"
  | .openerCrashed url => s!"Opener thread for {url} panicked"
  | .configurationMissing path =>
    s!"Config file not found at {path}. Using defaults and environment variables."
  | .configured text => text
  | .dumpUnopened path => s!"Could not open dump {path}"
  | .dumpRead records path => s!"Read {records} records from {path}"
  | .dumpFailed error => error.message

/-- Level and wording, as a listing of the log shows them. -/
def summary (n : Notice) : String := s!"{n.level.name} {n.text}"

/-- The line of a log: when, where, how severe, and what. -/
def line (stamp : String) (n : Notice) : String :=
  s!"[{stamp}][{n.reporter.target}][{n.level.name}] {n.text}"

end Notice
end RoutingDump
