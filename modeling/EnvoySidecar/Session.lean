import EnvoySidecar.Container.Manifest
import EnvoySidecar.Sidecar

/-! Sequences of steps on one shared store and some fixed configurations. A step that fails leaves
the store as far as it came, and the next step goes on from there. -/

namespace EnvoySidecar.Session

open Schema

def partModel? : String → Option String
  | "sds" => some "SdsConfig"
  | "xray" => some "XrayConfig"
  | "datadog" => some "DatadogConfig"
  | "statsd" => some "StatsDConfig"
  | "stats_tags" => some "StatsTagsConfig"
  | "jaeger" => some "JaegerConfig"
  | _ => none

def ownerModel : List String → String
  | part :: _ :: _ => (partModel? part).getD Config.modelName
  | _ => Config.modelName

/-- Settings are never changed, so that assigning fails whatever the path and the value. -/
def refusal (path : List String) : Report :=
  ⟨ownerModel path, [⟨[.field (path.getLastD "")], .frozen⟩]⟩

inductive Step where
  | set (key : String) (value : Env.Raw)
  | delete (key : String)
  | renderVariable (key : String)
  | assemble (config : Config)
  | build (config : Config)
  | render (config : Config)
  | assign (config : Config) (path : List String)

def Step.run (s : Env.Store) : Step → Env.Outcome Manifest
  | .set key value => ⟨s.set key value, pure .null⟩
  | .delete key =>
    match s.get? key with
    | some _ => ⟨s.delete key, pure .null⟩
    | none => ⟨s, Run.fail (.unknownVariable key)⟩
  | .renderVariable key =>
    match s.get? key with
    | some raw => ⟨s, Run.ofExcept ((Env.render key raw).map EnvVar.toManifest)⟩
    | none => ⟨s, Run.fail (.unknownVariable key)⟩
  | .assemble c =>
    let o := Env.assemble c s
    ⟨o.store, (fun env => .list (env.map EnvVar.toManifest)) <$> o.run⟩
  | .build c =>
    let o := Sidecar.build c s
    ⟨o.store, Container.toManifest <$> o.run⟩
  | .render c =>
    let o := Sidecar.render c s
    ⟨o.store, Container.toManifest <$> o.run⟩
  | .assign _ path => ⟨s, Run.fail (.invalid (refusal path))⟩

def run (s : Env.Store) : List Step → List (Env.Outcome Manifest)
  | [] => []
  | step :: rest =>
    let o := step.run s
    o :: run o.store rest

end EnvoySidecar.Session
