import RoutingDump.Ascii.Decoder
import RoutingDump.Medium.OpenFile

/-!
# The ascii format

An ascii dump is found in a file, named by its path or by a `file://` address, or in a medium that
somebody else has opened.
-/

namespace RoutingDump
namespace Ascii

/-- What stands in front of a path to make it an address. -/
def fileScheme : List Char := "file://".toList

/-- The path that an address names. Any other text is a path itself. -/
def pathOf (url : String) : String :=
  let cs := url.toList
  if fileScheme.isPrefixOf cs then String.ofList (cs.drop fileScheme.length) else url

/-- Opens the file of a resource. -/
def openDump (t : FileTree) (resource : Resource) (filters : Filters) :
    Except DecoderError (Decoder OpenFile × List Notice) :=
  match t.openFile (pathOf resource.url) with
  | .error e => .error (.cannotOpen resource.url e)
  | .ok file => .ok (.ofMedium file resource filters, [.asciiOpened resource.url])

/-- Dumps in the files of a tree. -/
def fileFormat (resource : Resource) (filters : Filters) :
    Format FileTree (Decoder OpenFile) String where
  toDecoder := decoder OpenFile
  attempt := fun t =>
    match openDump t resource filters with
    | .error e => { attempt := .failed e, surroundings := t }
    | .ok (d, notices) => { attempt := .opened d, surroundings := t, notices := notices }

/-- Dumps in a medium that is open already. -/
def mediumFormat (S : Type) [Medium S] (resource : Resource) (filters : Filters) :
    Format S (Decoder S) String where
  toDecoder := decoder S
  attempt := fun medium =>
    { attempt := .opened (.ofMedium medium resource filters), surroundings := medium }

end Ascii
end RoutingDump
