import TraitIndex.Bundle.Load
import TraitIndex.Service.Reply

/-!
Serving a bundle.

The bundle is loaded for the first request that needs it and kept from then on.
A failure to load it is not kept.
-/

namespace TraitIndex

structure Service where
  files : FileTree
  environment : Environment
  index : Option DocsIndex
  level : LogLevel
  deriving Repr, Inhabited

namespace Service

def start (files : FileTree) (environment : Environment) : Service :=
  ⟨files, environment, none, .initial⟩

def load [Host] (service : Service) : Service × Except Fault DocsIndex × Log :=
  match service.index with
  | some index => (service, .ok index, [])
  | none =>
      let (config, configLog) :=
        Config.load service.files service.environment ""
      let configLog := configLog.atLeast service.level
      match config with
      | .error fault => (service, .error fault, configLog)
      | .ok config =>
          let (index, log) := config.loadBundle service.files
          let service :=
            { service with index := index.toOption, level := config.logLevel }
          (service, index, configLog ++ log)

/-- The reply of a bundle, unless a number in its body is too long or a text in
it cannot be encoded. -/
def replyOf (index : DocsIndex) (request : Request) (resource : Resource) :
    Except Fault Reply :=
  let reply := replyFrom index request resource
  if !reply.isShowable then .error (.value .longNumber)
  else if !reply.body.isEncodable then .error .notEncodable
  else .ok reply

def serve [Host] (service : Service) (request : Request) :
    Service × Except Fault Reply × Log :=
  match Route.ofPath? request.path with
  | none => (service, .ok .noRoute, [])
  | some .about => (service, .ok .about, [])
  | some .health => (service, .ok .healthy, [])
  | some (.resource resource) =>
      let (service, index, log) := service.load
      (service, index.bind fun index => replyOf index request resource, log)

end Service

end TraitIndex
