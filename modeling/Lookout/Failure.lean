import Lookout.Duration

/-!
# Failures

Everything that can go wrong, by cause. A failure has a code, the code belongs to a kind, and the
kind says whether the next trigger tries again. `Failure.message` is the one place that words them.
-/
set_option autoImplicit false

namespace Lookout

inductive ErrorKind where
  /-- The source is unavailable for now; the last snapshot stays and the next trigger retries. -/
  | transient
  /-- The configuration is at fault; it is reported where it is used. -/
  | configuration
  /-- The resolver has ended. -/
  | terminal
deriving DecidableEq

def ErrorKind.name : ErrorKind → String
  | .transient => "TRANSIENT"
  | .configuration => "CONFIGURATION"
  | .terminal => "TERMINAL"

def ErrorKind.all : List ErrorKind := [.transient, .configuration, .terminal]

inductive ErrorCode where
  | invalidConfig
  | configLoadFailed
  | backendNotSupported
  | sourceUnavailable
  | sourceTimeout
  | subscribeFailed
  | resolverStopped
deriving DecidableEq

namespace ErrorCode

def all : List ErrorCode :=
  [.invalidConfig, .configLoadFailed, .backendNotSupported, .sourceUnavailable, .sourceTimeout,
   .subscribeFailed, .resolverStopped]

def number : ErrorCode → Nat
  | .invalidConfig => 1000
  | .configLoadFailed => 1001
  | .backendNotSupported => 1002
  | .sourceUnavailable => 2000
  | .sourceTimeout => 2001
  | .subscribeFailed => 2002
  | .resolverStopped => 3000

def name : ErrorCode → String
  | .invalidConfig => "INVALID_CONFIG"
  | .configLoadFailed => "CONFIG_LOAD_FAILED"
  | .backendNotSupported => "BACKEND_NOT_SUPPORTED"
  | .sourceUnavailable => "SOURCE_UNAVAILABLE"
  | .sourceTimeout => "SOURCE_TIMEOUT"
  | .subscribeFailed => "SUBSCRIBE_FAILED"
  | .resolverStopped => "RESOLVER_STOPPED"

/-- The codes of a kind share their thousand. -/
def kind (c : ErrorCode) : ErrorKind :=
  match c.number / 1000 with
  | 1 => .configuration
  | 2 => .transient
  | _ => .terminal

def isRetryable (c : ErrorCode) : Bool := c.kind = .transient

end ErrorCode

inductive Failure where
  | stopped (resolver : String)
  | invalidConfig (reason : String)
  | configLoad (reason : String)
  | backendNotSupported (backend : String)
  | source (service reason : String)
  | subscribe (service reason : String)
  | timeout (service : String) (limit : Duration)
deriving DecidableEq

namespace Failure

def code : Failure → ErrorCode
  | .stopped _ => .resolverStopped
  | .invalidConfig _ => .invalidConfig
  | .configLoad _ => .configLoadFailed
  | .backendNotSupported _ => .backendNotSupported
  | .source _ _ => .sourceUnavailable
  | .subscribe _ _ => .subscribeFailed
  | .timeout _ _ => .sourceTimeout

def kind (f : Failure) : ErrorKind := f.code.kind

def isTransient (f : Failure) : Bool := f.kind = .transient

def message : Failure → String
  | .stopped resolver => "resolver `" ++ resolver ++ "` has been stopped"
  | .invalidConfig reason => "invalid configuration: " ++ reason
  | .configLoad reason => "failed to load configuration: " ++ reason
  | .backendNotSupported backend => "backend `" ++ backend ++ "` is not enabled in this build"
  | .source service reason => "change source list for `" ++ service ++ "` failed: " ++ reason
  | .subscribe service reason =>
    "change source subscription for `" ++ service ++ "` failed: " ++ reason
  | .timeout service limit =>
    "change source list for `" ++ service ++ "` timed out after " ++ limit.text

/-- The reason that the source itself gave. -/
def cause? : Failure → Option String
  | .source _ reason => some reason
  | _ => none

end Failure

end Lookout
