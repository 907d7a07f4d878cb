import Lookout.Config.Source
import Lookout.Consul.Health
import Lookout.Consul.Watch
import Lookout.Failure
import Lookout.Json.Reader
import Lookout.Url

/-!
# The registry of Consul

Which requests are sent to a Consul agent and what its answers mean. A list is one request for the
health entries of a service; a subscription follows the index of the same resource.
-/
set_option autoImplicit false

namespace Lookout

structure Consul where
  /-- The address of the agent without slashes at its end. -/
  url : String
  defaults : Consul.Defaults
  passingOnly : Bool
  wait : Duration

namespace Consul

inductive SetupFault where
  /-- The time limit of a request is no duration. -/
  | waitTooLong

/-- The time limit of a request: the agent adds up to a sixteenth of the wait to it, and five
seconds are for the way. -/
def timeLimit? (wait : Duration) : Option Duration :=
  (wait.add? (wait.divide 16)).bind (·.add? (.ofSecs 5))

/-- The seconds for which a poll asks to be held; an option that is no number of 64 bits does not
count. -/
def waitSecs (c : SourceConfig) : Nat :=
  ((c.options.find? "wait_secs").bind Json.natural?).getD 30

def ofConfig (c : SourceConfig) : Consul :=
  let url := (c.text? "url").getD "http://localhost:8500"
  { url := String.ofList (Text.dropTrailing (· = '/') url.toList)
    defaults := ⟨(c.text? "namespace").getD "default", (c.text? "protocol").getD "grpc"⟩
    passingOnly := ((c.options.find? "passing_only").bind Json.bool?).getD true
    wait := .ofSecs (.ofNat (waitSecs c)) }

section
variable {Client : Type}

def withClient (c : Consul) : Except String Client → Except Failure (Consul × Client)
  | .ok client => .ok (c, client)
  | .error reason => .error (.invalidConfig ("failed to build http client: " ++ reason))

def connect (c : Consul) (make : Duration → Except String Client) :
    Option Duration → Except SetupFault (Except Failure (Consul × Client))
  | some limit => .ok (c.withClient (make limit))
  | none => .error .waitTooLong

/-- A source with a client for its requests, or what is wrong with the configuration. Clients are
made for a time limit, which may fail with a reason; without one there is no answer at all. -/
def setUp (make : Duration → Except String Client) (c : SourceConfig) :
    Except SetupFault (Except Failure (Consul × Client)) :=
  (ofConfig c).connect make (timeLimit? (ofConfig c).wait)

end

/-! ## Requests -/

def healthUrl (c : Consul) (service : String) : String :=
  c.url ++ "/v1/health/service/" ++ service

def baseQuery (c : Consul) : List (String × String) :=
  if c.passingOnly then [("passing", "true")] else []

def watchQuery (c : Consul) (index : UInt64) : List (String × String) :=
  c.baseQuery ++ [("index", toString index.toNat), ("wait", toString c.wait.secs ++ "s")]

/-- The resource of a service with a query; none when the agent has no address. Credentials go into
a header. -/
def request? (c : Consul) (service : String) (query : List (String × String)) : Option Url :=
  (Url.parse? (c.healthUrl service)).map (·.withoutCredentials.addQuery query)

def listRequest? (c : Consul) (service : String) : Option Url := c.request? service c.baseQuery

def watchRequest? (c : Consul) (service : String) (index : UInt64) : Option Url :=
  c.request? service (c.watchQuery index)

/-! ## Answers -/

structure Response where
  status : Nat
  index? : Option String
  body : String

def Response.isFault (r : Response) : Bool := 400 ≤ r.status && r.status < 600

/-- An index as a header gives it, blanks around it aside; it counts as one at least. -/
def indexOf? (header : String) : Option UInt64 :=
  let isGap (c : Char) : Bool := c = ' ' || c = '\t'
  (Text.unsigned? (UInt64.size - 1)
    (Text.dropTrailing isGap (header.toList.dropWhile isGap))).map fun n => .ofNat (max n 1)

def readList? (c : Consul) (service : String) (r : Response) : Option (List Record) :=
  if r.isFault then none
  else ((Json.parse? r.body.toList).bind Json.items?).map (recordsOf c.defaults service)

def Response.outcome (r : Response) : Outcome :=
  if r.isFault then .failed
  else
    match r.index?.bind indexOf? with
    | some index => .answered index
    | none => .failed

/-! ## Both together -/

def list (c : Consul) (service : String) (r : Response) : List Url × Option (List Record) :=
  match c.listRequest? service with
  | none => ([], none)
  | some url => ([url], c.readList? service r)

/-- Follows a service whose requests get those answers, for a time if there is an end to it. Without
an address no request can be made. Gives the requests with their instants. -/
def follow (c : Consul) (service : String) (end? : Option Instant) (responses : List Response) :
    List (Instant × Url) × Subscription :=
  if (c.listRequest? service).isNone then ([], .opened)
  else
    let (requests, last) := Follower.run end? 0 (responses.map Response.outcome) .fresh
    (requests.filterMap fun (at_, index) => (c.watchRequest? service index).map (at_, ·),
      last.subscription)

end Consul

end Lookout
