/-!
# Failures

Three kinds of failure, each a cause with its wording in one place: of the file system or of the
medium, of a decoder that could not be built, and of a reader.
-/

namespace RoutingDump

/-- What kind of fault a medium reports about itself. -/
inductive MediumFault where
  | other
  | interrupted
  | wouldBlock
  | unexpectedEnd
  | invalidData
  | timedOut
  deriving DecidableEq, Repr, Inhabited

/-- Faults of files and of media. A medium words its own fault. -/
inductive IoError where
  | noEntry
  | notDirectory
  | isDirectory
  | nameTooLong
  | exists
  | nulInName
  | notText
  | medium (fault : MediumFault) (text : String)
  deriving DecidableEq, Repr

namespace IoError

def message : IoError → String
  | .noEntry => "No such file or directory (os error 2)"
  | .notDirectory => "Not a directory (os error 20)"
  | .isDirectory => "Is a directory (os error 21)"
  | .nameTooLong => "File name too long (os error 36)"
  | .exists => "File exists (os error 17)"
  | .nulInName => "file name contained an unexpected NUL byte"
  | .notText => "stream did not contain valid UTF-8"
  | .medium _ text => text

/-- A read that was only interrupted is taken up again at once. -/
def isInterruption : IoError → Bool
  | .medium .interrupted _ => true
  | _ => false

end IoError

/-- Why a decoder could not be built, or could not make a record. -/
inductive DecoderError where
  | cannotOpen (url : String) (source : IoError)
  | unsupported (reason : String)
  | recordAllocation (reason : String)
  | other (text : String)
  deriving DecidableEq, Repr

namespace DecoderError

def message : DecoderError → String
  | .cannotOpen url source => s!"failed to open {url}: {source.message}"
  | .unsupported reason => s!"unsupported resource: {reason}"
  | .recordAllocation reason => s!"could not allocate record: {reason}"
  | .other text => text

/-- The failure behind this one. -/
def source? : DecoderError → Option IoError
  | .cannotOpen _ source => some source
  | _ => none

end DecoderError

/-- What a reader tells its caller. -/
inductive ReaderError where
  | cannotOpen (url : String)
  | readFailed (url : String)
  | noOpener (source : IoError)
  deriving DecidableEq, Repr

namespace ReaderError

def message : ReaderError → String
  | .cannotOpen url => s!"could not open dump {url}"
  | .readFailed url => s!"read error while decoding {url}"
  | .noOpener source => s!"failed to spawn opener thread: {source.message}"

def source? : ReaderError → Option IoError
  | .noOpener source => some source
  | _ => none

end ReaderError
end RoutingDump
