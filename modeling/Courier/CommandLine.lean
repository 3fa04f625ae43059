import Courier.Chat
import Courier.Settings.Load

/-!
# The command line

Two commands: `chat`, which reads its lines from the standard input, and `info`.
-/

namespace Courier

set_option autoImplicit false

structure ChatArguments where
  topic : String
  user : String
  password : Option String

inductive HelpPage
  | program | chat | info | help
  deriving DecidableEq, Repr

inductive Invocation
  | chat (arguments : ChatArguments)
  | info
  | help (page : HelpPage)

/-- The options of `chat` seen so far. -/
structure ChatOptions where
  topic : Option String := none
  user : Option String := none
  password : Option String := none

/-- Each option may be given once. -/
def ChatOptions.set (o : ChatOptions) (name value : String) : Option ChatOptions :=
  match name with
  | "topic" => if o.topic.isSome then none else some { o with topic := some value }
  | "user" => if o.user.isSome then none else some { o with user := some value }
  | "password" => if o.password.isSome then none else some { o with password := some value }
  | _ => none

def ChatOptions.finish (o : ChatOptions) : Option Invocation :=
  o.user.map fun user => .chat ⟨o.topic.getD "chat", user, o.password⟩

namespace Invocation

/-- Short options may be run together, so `-h` asks for help whatever follows it. -/
def asksHelp (argument : String) : Bool := argument == "--help" || argument.startsWith "-h"

/-- An argument that may stand as the value of an option. -/
def isValue (argument : String) : Bool := argument == "-" || !argument.startsWith "-"

/-- Name and attached value of a long option. -/
def longOption (argument : String) : Option (String × Option String) :=
  match argument.toList with
  | '-' :: '-' :: cs =>
    let name := String.ofList (cs.takeWhile (· ≠ '='))
    match cs.dropWhile (· ≠ '=') with
    | [] => some (name, none)
    | _ :: value => some (name, some (String.ofList value))
  | _ => none

def ofChat (o : ChatOptions) : List String → Option Invocation
  | [] | ["--"] => o.finish
  | argument :: rest =>
    if asksHelp argument then some (.help .chat)
    else match longOption argument with
      | none => none
      | some (name, some value) => (o.set name value).bind fun o => ofChat o rest
      | some (name, none) =>
        match rest with
        | [] => none
        | value :: rest =>
          if isValue value then (o.set name value).bind fun o => ofChat o rest else none

def ofInfo : List String → Option Invocation
  | [] | ["--"] => some .info
  | argument :: _ => if asksHelp argument then some (.help .info) else none

def ofHelp : List String → Option Invocation
  | [] => some (.help .program)
  | ["chat"] => some (.help .chat)
  | ["info"] => some (.help .info)
  | ["help"] => some (.help .help)
  | _ => none

/-- Reads the arguments; `none` when they make no sense. -/
def parse? : List String → Option Invocation
  | "chat" :: rest => ofChat {} rest
  | "info" :: rest => ofInfo rest
  | "help" :: rest => ofHelp rest
  | argument :: _ => if asksHelp argument then some (.help .program) else none
  | [] => none

end Invocation

def HelpPage.lines : HelpPage → List String
  | .program => [
    "Usage: minijms <COMMAND>",
    "",
    "Commands:",
    "  chat  Run the chat demo over the configured broker",
    "  info  Print connection metadata",
    "  help  Print this message or the help of the given subcommand(s)",
    "",
    "Options:",
    "  -h, --help  Print help"]
  | .chat => [
    "Run the chat demo over the configured broker",
    "",
    "Usage: minijms chat [OPTIONS] --user <USER>",
    "",
    "Options:",
    "      --topic <TOPIC>        Topic both participants join [default: chat]",
    "      --user <USER>          Name of the interactive participant",
    "      --password <PASSWORD>  Password passed to the provider for both participants",
    "  -h, --help                 Print help"]
  | .info => [
    "Print connection metadata",
    "",
    "Usage: minijms info",
    "",
    "Options:",
    "  -h, --help  Print help"]
  | .help => [
    "Print this message or the help of the given subcommand(s)",
    "",
    "Usage: minijms help [COMMAND]...",
    "",
    "Arguments:",
    "  [COMMAND]...  Print help for the subcommand(s)"]

/-- How a run of the program begins: with a chat to go on, or with all there is to show. -/
inductive Opening
  | chat (c : Chat)
  | done (lines : List String)

def Invocation.begin (settings : Settings) : Invocation → Opening
  | .help page => .done page.lines
  | .info =>
    match describeBroker settings with
    | .ok lines => .done lines
    | .error e => .done [Chat.failure e]
  | .chat arguments =>
    match Chat.start settings arguments.topic arguments.user with
    | .ok c => .chat c
    | .error e => .done [Chat.failure e]

/-- The lines of an input. A carriage return before the line end does not belong to the line, and
the last line need not be ended. -/
def inputLines (input : String) : List String :=
  let unended (line : List Char) : List Char :=
    if line.getLast? = some '\r' then line.dropLast else line
  let parts := input.toList.splitOn '\n'
  let last := parts.getLast?.getD []
  (parts.dropLast.map unended ++ if last.isEmpty then [] else [last]).map String.ofList

structure Outcome where
  code : Nat
  lines : List String

/-- Name and value of an environment entry. -/
def splitVariable (entry : String) : Option (String × String) :=
  let cs := entry.toList
  match cs.dropWhile (· ≠ '=') with
  | [] => none
  | _ :: value => some (String.ofList (cs.takeWhile (· ≠ '=')), String.ofList value)

/-- Settings that cannot be read count as absent. -/
def Settings.loadOrDefault (file : Option SettingsFile) (environment : List (String × String)) :
    Settings :=
  (Settings.load? file environment).getD .default

/-- A whole run of the program: its exit code and what it shows. -/
def runProgram (arguments : List String) (settings : Settings) (input : String) (now : Int64) :
    Outcome :=
  match Invocation.parse? arguments with
  | none => ⟨2, []⟩
  | some i =>
    match i.begin settings with
    | .done lines => ⟨0, lines⟩
    | .chat c => ⟨0, c.run now (inputLines input)⟩

end Courier
