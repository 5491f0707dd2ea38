import EnvoySidecar.CommandLine
import Std.Time.Format

/-! The program: reads the file that its command line names, and prints what the run prints. -/

namespace EnvoySidecar.CommandLine

def notDirectory : UInt32 := 20

def readEntry (path : String) : IO Files.Entry := do
  try
    return .file (← IO.FS.readFile path)
  catch
    | .noFileOrDirectory .. => return .missing
    | .inappropriateType _ code _ => return if code = notDirectory then .missing else .directory
    | e => throw e

def printReport : Report → IO Unit
  | .text s => IO.eprint s
  | .record r => do
    let time := (← Std.Time.PlainDateTime.now).format "uuuu-MM-dd HH:mm:ss"
    IO.eprintln s!"{time} - {r.source} - {r.level.name} - {r.text}"

def printOutcome (o : Outcome) : IO UInt32 := do
  IO.print o.output
  o.reports.forM printReport
  if let .escape failure := o.ending then
    IO.eprintln failure.message
  return o.ending.code.toUInt32

def usage : String :=
  "Usage: (render [--env KEY=VALUE]... | validate) [--log-level LEVEL] CONFIG"

def runArguments (args : List String) : IO UInt32 := do
  match parse args with
  | .error .help =>
    IO.println usage
    return 0
  | .error .usage =>
    IO.eprintln usage
    return 2
  | .ok i => printOutcome (i.run (← readEntry i.path))

end EnvoySidecar.CommandLine

def main (args : List String) : IO UInt32 :=
  EnvoySidecar.CommandLine.runArguments args
