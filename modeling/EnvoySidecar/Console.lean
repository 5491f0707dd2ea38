import EnvoySidecar.Console.Table
import EnvoySidecar.Console.Tint

/-! What a console shows of a text: markup and emoji codes are taken as such, some control
characters vanish, and lines are wrapped. -/

namespace EnvoySidecar.Console

def joinLines (ls : List (List Char)) : String :=
  String.ofList (ls.flatMap (· ++ ['\n']))

/-- The lines of a text; which names characters have is for others to say. -/
def show? (named : String → Bool) (s : String) : Except Markup.Fault String := do
  let r ← Markup.render named s.toList
  checkStyles (printedTags lineWidth r)
  return joinLines (wrap lineWidth r.text)

def showRaw (s : String) : String :=
  let lines := splitLines (s.toList.filter (!isStripped ·))
  String.ofList (['\n'].intercalate (lines.map (expandTabs 0)))

end EnvoySidecar.Console
