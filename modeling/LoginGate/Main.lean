/-
# The program

Gathers what a run depends on, and prints how it ends.
-/
import LoginGate.CommandLine.Run
import Std.Time.DateTime.Timestamp

namespace LoginGate.Main

/-- The environment variables of the process. -/
def environment : IO (List (String × String)) := do
  let bytes ← (IO.FS.readBinFile "/proc/self/environ" <|> pure ByteArray.empty)
  return (Text.splitAt 0 bytes.toList).filterMap fun entry =>
    (Text.cutFirst '=' (Text.Utf8.decodeLossy entry)).map fun (name, value) =>
      (String.ofList name, String.ofList value)

/-- The files among the named ones that can be read. -/
def readFiles (names : List String) : IO CommandLine.Files :=
  names.filterMapM fun (name : String) => do
    try
      let bytes ← IO.FS.readBinFile name
      return some (name, bytes.toList)
    catch _ => return none

end LoginGate.Main

/-- Runs the program for the words of its command line. -/
def main (words : List String) : IO UInt32 := do
  let environment ← LoginGate.Main.environment
  let files ← LoginGate.Main.readFiles (LoginGate.CommandLine.fileNames words environment)
  let now ← Std.Time.Timestamp.now
  let finish := LoginGate.CommandLine.run words files environment now.toSecondsSinceUnixEpoch.val
  IO.print finish.output
  for line in finish.complaint do IO.eprintln line
  return UInt32.ofNat finish.code
