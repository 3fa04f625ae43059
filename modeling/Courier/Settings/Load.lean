import Courier.Json.Parse
import Courier.Toml.Parse

/-!
# Loading settings

Settings come from a file, which may be missing, and from environment variables, which win over
it. `MINIJMS__SECTION__KEY`, in letters of any case, sets `key` of `section`.
-/

namespace Courier

set_option autoImplicit false

inductive FileFormat
  | toml | json
  deriving DecidableEq, Repr

structure SettingsFile where
  format : FileFormat
  text : String

/-- The entries of a file, which may begin with a byte order mark; a JSON file has to hold an
object. -/
def SettingsFile.entries (f : SettingsFile) : Option (List (String × Tree)) :=
  let text := Text.dropMark f.text
  match f.format with
  | .toml => Toml.parse? text
  | .json =>
    match Json.parse? text with
    | some (.object members) => some (Tree.ofMembers members)
    | _ => none

def variableMark : List Char := "minijms__".toList

/-- A text with every double underscore made a dot. -/
def dotted : List Char → List Char
  | '_' :: '_' :: rest => '.' :: dotted rest
  | c :: rest => c :: dotted rest
  | [] => []

/-- The entry that a variable of this name sets, if it is one of ours. -/
def variableEntry (name : String) : Option String :=
  let name := (Text.lowercase name).toList
  if variableMark.isPrefixOf name then
    some (String.ofList (dotted (name.drop variableMark.length)))
  else none

/-- The value of a variable is a truth value, a whole number, a fractional one, or else a text. -/
def variableValue (value : String) : Tree :=
  let word := Text.lowercase value
  if word = "true" then .flag true
  else if word = "false" then .flag false
  else match Value.readLong value with
    | some n => .integer n.toInt
    | none =>
      match Number.readDouble value with
      | some bits => .float bits
      | none => .text value

def variableEntries (environment : List (String × String)) : List (String × Tree) :=
  environment.filterMap fun v => (variableEntry v.1).map (·, variableValue v.2)

/-- The configured settings over the defaults; `none` when a source cannot be read. -/
def Settings.load? (file : Option SettingsFile) (environment : List (String × String)) :
    Option Settings := do
  let entries ← match file with
    | some f => f.entries
    | none => some []
  let tree := ((Tree.table []).overlay entries).overlay (variableEntries environment)
  let partialSettings ← Tree.shape.partialSettings tree
  return Settings.default.merge partialSettings

/-- The level names a log can be limited to. -/
inductive LogLevel
  | error | warn | info | debug | trace
  deriving DecidableEq, Repr

def LogLevel.name : LogLevel → String
  | .error => "ERROR"
  | .warn => "WARN"
  | .info => "INFO"
  | .debug => "DEBUG"
  | .trace => "TRACE"

/-- Unknown names mean `info`. -/
def LogLevel.ofName (name : String) : LogLevel :=
  match Text.lowercase (Text.trim name) with
  | "error" => .error
  | "warn" | "warning" => .warn
  | "debug" => .debug
  | "trace" => .trace
  | _ => .info

end Courier
