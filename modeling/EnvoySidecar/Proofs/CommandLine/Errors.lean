import EnvoySidecar.Proofs.CommandLine
import EnvoySidecar.Proofs.Console.Verbatim
import EnvoySidecar.Proofs.Text.Quoted

/-! The line about a failure. It comes out if the markup of its text is balanced and its colours can
be read, and then it is the text as the console shows it, wrapped; otherwise reporting the failure
fails in its turn. -/

namespace EnvoySidecar.CommandLine

variable {w : Wording} {i : Invocation} {entry : Files.Entry} {threshold : Log.Level} {f : Failure}

def isPlain (c : Char) : Bool :=
  c != '[' && c != ':' && Console.isKept c

end EnvoySidecar.CommandLine
