import EnvoySidecar.Files

/-! What a command line asks for. Options may stand before and after the path; a value follows its
option, or is attached to it. Everything behind two hyphens is a path. -/

namespace EnvoySidecar.CommandLine

inductive Command where
  | render (assignments : List String)
  | validate
deriving DecidableEq, Repr

structure Invocation where
  command : Command
  path : String
  level : String
deriving DecidableEq, Repr

inductive Refusal where
  | help
  | usage
deriving DecidableEq, Repr

inductive Flag where
  | env
  | level
deriving DecidableEq, Repr

def defaultLevel : String := "WARNING"

inductive Verb where
  | render
  | validate
deriving DecidableEq, Repr

def Verb.ofName? : String → Option Verb
  | "render" => some .render
  | "validate" => some .validate
  | _ => none

namespace Verb

def long? (v : Verb) (name : String) : Option Flag :=
  match name with
  | "--env" => if v = .render then some .env else none
  | "--log-level" => some .level
  | _ => none

def short? (v : Verb) (letter : Char) : Option Flag :=
  match letter with
  | 'e' => if v = .render then some .env else none
  | 'l' => some .level
  | _ => none

end Verb

structure Reading where
  help : Bool := false
  paths : List String := []
  assignments : List String := []
  level : String := defaultLevel

def Reading.set (r : Reading) (f : Flag) (value : String) : Reading :=
  match f with
  | .env => { r with assignments := r.assignments ++ [value] }
  | .level => { r with level := value }

inductive Option? where
  | argument
  | ending
  | help
  | flag (f : Flag) (value : Option String)
  | unknown
deriving DecidableEq, Repr

def splitValue (word : String) : String × Option String :=
  let cs := word.toList
  let name := cs.takeWhile (· != '=')
  match cs.drop name.length with
  | _ :: value => (String.ofList name, some (String.ofList value))
  | [] => (word, none)

def classify (v : Verb) (word : String) : Option? :=
  match word.toList with
  | ['-', '-'] => .ending
  | '-' :: '-' :: _ =>
    let (name, value) := splitValue word
    if name = "--help" then if value.isNone then .help else .unknown
    else
      match v.long? name with
      | some f => .flag f value
      | none => .unknown
  | '-' :: letter :: rest =>
    match v.short? letter with
    | some f => .flag f (if rest.isEmpty then none else some (String.ofList rest))
    | none => .unknown
  | _ => .argument

def read (v : Verb) (r : Reading) : List String → Except Refusal Reading
  | [] => .ok r
  | word :: rest =>
    match classify v word with
    | .argument => read v { r with paths := r.paths ++ [word] } rest
    | .ending => .ok { r with paths := r.paths ++ rest }
    | .help => read v { r with help := true } rest
    | .unknown => .error .usage
    | .flag f (some value) => read v (r.set f value) rest
    | .flag f none =>
      match rest with
      | [] => .error .usage
      | value :: rest => read v (r.set f value) rest

def Reading.invocation (r : Reading) (v : Verb) : Except Refusal Invocation :=
  if r.help then .error .help
  else
    match r.paths with
    | [path] =>
      let command := if v = .render then Command.render r.assignments else .validate
      .ok ⟨command, Files.normalize path, r.level⟩
    | _ => .error .usage

def ofVerb (name : String) (args : List String) : Except Refusal Invocation :=
  match Verb.ofName? name with
  | some v => do (← read v {} args).invocation v
  | none => .error .usage

def parse : List String → Except Refusal Invocation
  | [] => .error .usage
  | "--help" :: _ => .error .help
  | "--" :: name :: args => ofVerb name args
  | name :: args => ofVerb name args

end EnvoySidecar.CommandLine
