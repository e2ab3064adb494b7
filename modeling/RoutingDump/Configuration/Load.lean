import RoutingDump.Configuration.Json
import RoutingDump.FileTree
import RoutingDump.Text.Blank

/-!
# Loading a configuration

Defaults, then a file if there is one, then the environment. The file must be a valid
configuration by itself, whatever the layers above it say. Of several faults the one in the first
layer counts, and inside the environment that of the first variable.
-/

namespace RoutingDump

/-- Environment variables. A value is a string of bytes and need not be text. -/
abbrev Environment := List (String × List UInt8)

namespace Environment

def bytes? (env : Environment) (name : String) : Option (List UInt8) :=
  (env.find? (·.1 == name)).map (·.2)

/-- The value of a variable. One that is no text counts as not set. -/
def text? (env : Environment) (name : String) : Option String :=
  match env.bytes? name with
  | none => none
  | some bytes => (Text.Utf8.decode? bytes).map String.ofList

end Environment

namespace Configuration

/-- The layer of the environment, where `lookup` gives the values of variables. Blanks around a
number do not count. -/
def environmentLayer (lookup : String → Option String) :
    List Setting → Except ConfigurationError Layer
  | [] => .ok .none
  | s :: ss =>
    match lookup s.variableName with
    | none => environmentLayer lookup ss
    | some value =>
      match Text.unsigned? s.limit (Text.trim value.toList) with
      | none => .error (.badVariable s.variableName value)
      | some n =>
        match environmentLayer lookup ss with
        | .error e => .error e
        | .ok l => .ok (l.set s n)

/-- The configuration with the values of the environment on top. -/
def withEnvironment (lookup : String → Option String) (c : Configuration) :
    Except ConfigurationError Configuration :=
  match environmentLayer lookup Setting.all with
  | .error e => .error e
  | .ok l => (c.overlay l).validate

/-- The configuration in the file at a path. -/
def ofFile (t : FileTree) (path : String) : Except ConfigurationError Configuration :=
  match t.read path with
  | .error e => .error (.file e)
  | .ok bytes => ofBytes bytes

/-- All layers below the command line. A path that leads to no file is reported and ignored. -/
def load (t : FileTree) (env : Environment) (path : Option String) :
    List Notice × Except ConfigurationError Configuration :=
  let (notices, base) : List Notice × Except ConfigurationError Configuration :=
    match path with
    | none => ([], .ok {})
    | some path =>
      if t.isFile path then ([], ofFile t path)
      else ([.configurationMissing path], .ok {})
  match base with
  | .error e => (notices, .error e)
  | .ok c => (notices, c.withEnvironment env.text?)

end Configuration
end RoutingDump
