import Courier.CommandLine

/-!
# The program

Reads arguments, settings and lines, and prints.
-/

namespace Courier

set_option autoImplicit false

/-- The settings file, in the first format of which there is one. -/
def readSettingsFile : IO (Option SettingsFile) := do
  let read (format : FileFormat) (path : String) : IO (Option SettingsFile) :=
    try
      return some ⟨format, ← IO.FS.readFile path⟩
    catch _ => return none
  match ← read .toml "config/default.toml" with
  | some file => return some file
  | none => read .json "config/default.json"

/-- The environment, where the system shows it as a file. -/
def readEnvironment : IO (List (String × String)) := do
  try
    let bytes ← IO.FS.readBinFile "/proc/self/environ"
    return (bytes.toList.splitOn 0).filterMap fun entry =>
      match Text.Utf8.decode entry with
      | .ok text => splitVariable text
      | .error _ => none
  catch _ => return []

def printLines (lines : List String) : IO Unit := do
  for line in lines do
    IO.println line
  (← IO.getStdout).flush

/-- Goes on with a chat to the end of the input. A chat shows no times, so the clock need not tell
the date. -/
partial def converse (input : IO.FS.Stream) (c : Chat) : IO Unit := do
  match inputLines (← input.getLine) with
  | [] => printLines c.leave
  | line :: _ =>
    match c.step line (Int64.ofNat (← IO.monoMsNow)) with
    | (shown, some c) =>
      printLines shown
      converse input c
    | (shown, none) => printLines shown

end Courier

open Courier in
def main (arguments : List String) : IO UInt32 := do
  let settings := Settings.loadOrDefault (← readSettingsFile) (← readEnvironment)
  match Invocation.parse? arguments with
  | none =>
    IO.eprintln (String.intercalate "\n" HelpPage.program.lines)
    return 2
  | some i =>
    match i.begin settings with
    | .done lines => printLines lines
    | .chat c => converse (← IO.getStdin) c
    return 0
