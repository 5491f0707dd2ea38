import EnvoySidecar.CommandLine.Invocation
import EnvoySidecar.Console
import EnvoySidecar.Rendering

/-! What a command line prints, and how it ends. Failures of the settings and malformed quantities
are reported in a line; all other failures escape. -/

namespace EnvoySidecar.CommandLine

open Files

inductive Report where
  | record (r : Log.Record)
  | text (s : String)
deriving DecidableEq, Repr

inductive Ending where
  | exit (code : Nat)
  | escape (failure : Failure)
deriving DecidableEq, Repr

/-- What escapes is for the caller of the program to see, which ends with a code all the same. -/
def Ending.code : Ending → Nat
  | exit code => code
  | escape _ => 1

structure Outcome where
  output : String
  reports : List Report
  ending : Ending
deriving DecidableEq, Repr

structure Printed where
  output : String
  result : Except Failure Unit

def showAll (w : Wording) : List String → Printed
  | [] => ⟨"", .ok ()⟩
  | s :: rest =>
    match Console.show? w.named s with
    | .error fault => ⟨"", .error (.markup fault)⟩
    | .ok shown =>
      let p := showAll w rest
      ⟨shown ++ p.output, p.result⟩

def features (c : Config) : List (String × Bool) :=
  [("sds", c.sds.enabled), ("xray", c.xray.enabled), ("datadog", c.datadog.enabled),
    ("statsd", c.statsd.enabled), ("stats_tags", c.statsTags.enabled),
    ("jaeger", c.jaeger.enabled)]

def featureTable (c : Config) : Console.Table :=
  { title := "Features".toList
    header := ["Feature".toList, "Enabled".toList]
    rows := (features c).map fun f => [f.1.toList, if f.2 then ['●'] else ['○']] }

def summary (c : Config) : List String :=
  ["[green]✓[/green] Configuration is valid",
    s!"  Virtual node: {c.virtualNodeRef}",
    s!"  Image: {c.image.text}",
    s!"  Admin port: {c.effectiveAdminPort.val}"]

def Printed.followedBy (p : Printed) (text : String) : Printed :=
  match p.result with
  | .ok _ => ⟨p.output ++ text, .ok ()⟩
  | .error _ => p

def showConfig (w : Wording) (c : Config) : Printed :=
  (showAll w (summary c)).followedBy (Console.joinLines (featureTable c).lines)

def check (path : String) (entry : Entry) : Run Config := do
  let c ← Settings.load path entry
  let _ ← Resources.build c.resourceTexts
  return c

/-- A manifest is not for the console to touch. -/
def execute (w : Wording) (path : String) (entry : Entry) : Command → Run Printed
  | .render assignments => do
    return ⟨Console.showRaw (← Rendering.manifest path entry assignments), .ok ()⟩
  | .validate => do
    return showConfig w (← check path entry)

/-- Failures that are the user's to mend. -/
def isReported : Failure → Bool
  | .settings _ => true
  | .quantity (.invalid ..) => true
  | _ => false

def errorText (message : String) : String :=
  s!"[red]Error:[/red] {message}"

/-- The end of a run that failed, with the line about it. -/
def failingIn (w : Wording) (output : String) (reports : List Report) (f : Failure) : Outcome :=
  if isReported f then
    match Console.show? w.named (errorText (f.messageIn w)) with
    | .ok line => ⟨output, reports ++ [.text line], .exit 1⟩
    | .error fault => ⟨output, reports, .escape (.markup fault)⟩
  else ⟨output, reports, .escape f⟩

def Invocation.runIn (w : Wording) (i : Invocation) (entry : Entry) : Outcome :=
  match Log.Level.ofText i.level with
  | .error fault => ⟨"", [], .escape (.level fault)⟩
  | .ok threshold =>
    let r := execute w i.path entry i.command
    let reports := (Log.records threshold r.notices).map Report.record
    match r.result with
    | .error f => failingIn w "" reports f
    | .ok printed =>
      match printed.result with
      | .ok _ => ⟨printed.output, reports, .exit 0⟩
      | .error f => failingIn w printed.output reports f

def Invocation.run (i : Invocation) (entry : Entry) : Outcome :=
  i.runIn .brief entry

end EnvoySidecar.CommandLine
