import Lookout.Config
import Lookout.Resolver.Basic

/-!
# Setting a resolver up

A resolver from its configuration, or from the few settings that have no default.
-/
set_option autoImplicit false

namespace Lookout

namespace Config

/-- The option that takes the addresses of a registry, which only the kinds on the network have. -/
def withAddresses (c : SourceConfig) (addresses : List String) : SourceConfig :=
  match c.backend with
  | .etcd => c.withOption "endpoints" (.texts addresses)
  | .consul =>
    match addresses with
    | url :: _ => c.withOption "url" (.str url)
    | [] => c
  | _ => c

def standard (backend : Backend) (addresses : List String) (realm : String)
    (protocols : List String) : Config :=
  { resolver := .create realm protocols
    source := withAddresses (.create backend) addresses }

end Config

namespace Resolver

def ofConfig (name : String) (c : Config) (stamp : String) : Except Failure Resolver := do
  c.resolver.validate
  let source ← Source.ofConfig c.source
  pure (create name c.resolver source .standard false stamp)

def standard (backend : Backend) (addresses : List String) (realm : String)
    (protocols : List String) (stamp : String) : Except Failure Resolver :=
  ofConfig backend.name (.standard backend addresses realm protocols) stamp

end Resolver

end Lookout
