import Lookout.Policy

/-!
# Resolver settings

What a resolver is told: the namespace and the protocols to watch, three intervals in milliseconds
(zero turns the periodic resync or the time limit off) and the size of a mailbox.
-/
set_option autoImplicit false

namespace Lookout

structure ResolverConfig where
  realm : String
  protocols : List String
  debounceMs : UInt64
  resyncIntervalMs : UInt64
  timeoutMs : UInt64
  watcherBuffer : UInt64
deriving DecidableEq

namespace ResolverConfig

/-- A week: the longest interval that is accepted. -/
def maxIntervalMs : UInt64 := 604800000

def create (realm : String) (protocols : List String) : ResolverConfig :=
  { realm, protocols, debounceMs := 200, resyncIntervalMs := 30000, timeoutMs := 3000
    watcherBuffer := 4 }

/-- A duration in milliseconds. Only no time at all is zero; what does not fit 64 bits is cut to
the largest number that does. -/
def millisOf (d : Duration) : UInt64 :=
  if d.nanos = 0 then 0
  else .ofNat (max (min d.millis (UInt64.size - 1)) 1)

def withDebounce (c : ResolverConfig) (d : Duration) : ResolverConfig :=
  { c with debounceMs := millisOf d }

def withResyncInterval (c : ResolverConfig) (d : Duration) : ResolverConfig :=
  { c with resyncIntervalMs := millisOf d }

def withTimeout (c : ResolverConfig) (d : Duration) : ResolverConfig :=
  { c with timeoutMs := millisOf d }

def withWatcherBuffer (c : ResolverConfig) (n : UInt64) : ResolverConfig :=
  { c with watcherBuffer := n }

def debounce (c : ResolverConfig) : Duration := .ofMillis c.debounceMs

def resyncInterval? (c : ResolverConfig) : Option Duration :=
  if c.resyncIntervalMs = 0 then none else some (.ofMillis c.resyncIntervalMs)

def timeout? (c : ResolverConfig) : Option Duration :=
  if c.timeoutMs = 0 then none else some (.ofMillis c.timeoutMs)

def policyFor (c : ResolverConfig) (service : String) : Policy :=
  .create c.realm service c.protocols

def intervals (c : ResolverConfig) : List (String × UInt64) :=
  [("debounce_ms", c.debounceMs), ("resync_interval_ms", c.resyncIntervalMs),
   ("timeout_ms", c.timeoutMs)]

def validate (c : ResolverConfig) : Except Failure Unit :=
  if Text.allBlank c.realm then .error (.invalidConfig "namespace must not be empty")
  else if c.protocols.all Text.allBlank then
    .error (.invalidConfig "protocols must not be empty")
  else if c.watcherBuffer = 0 then
    .error (.invalidConfig "watcher_buffer must be at least 1")
  else
    match c.intervals.find? fun i => maxIntervalMs < i.2 with
    | some (name, _) =>
      .error (.invalidConfig (name ++ " must not exceed " ++ toString maxIntervalMs.toNat))
    | none => .ok ()

def shape : Decode.Shape :=
  ⟨"struct ResolverConfig",
    [Decode.defaulted "namespace" Decode.text, Decode.defaulted "protocols" Decode.texts,
     Decode.defaulted "debounce_ms" Decode.u64, Decode.defaulted "resync_interval_ms" Decode.u64,
     Decode.defaulted "timeout_ms" Decode.u64, Decode.defaulted "watcher_buffer" Decode.usize]⟩

def decode : Decoder ResolverConfig := fun j => do
  let m ← shape.read j
  let absent := create "" []
  pure
    { realm := ← Decode.getD m "namespace" Decode.text absent.realm
      protocols := ← Decode.getD m "protocols" Decode.texts absent.protocols
      debounceMs := ← Decode.getD m "debounce_ms" Decode.u64 absent.debounceMs
      resyncIntervalMs := ← Decode.getD m "resync_interval_ms" Decode.u64 absent.resyncIntervalMs
      timeoutMs := ← Decode.getD m "timeout_ms" Decode.u64 absent.timeoutMs
      watcherBuffer := ← Decode.getD m "watcher_buffer" Decode.usize absent.watcherBuffer }

def toJson (c : ResolverConfig) : Json :=
  .object
    [("namespace", .str c.realm), ("protocols", .texts c.protocols),
     ("debounce_ms", .int c.debounceMs.toNat),
     ("resync_interval_ms", .int c.resyncIntervalMs.toNat),
     ("timeout_ms", .int c.timeoutMs.toNat), ("watcher_buffer", .int c.watcherBuffer.toNat)]

end ResolverConfig

end Lookout
