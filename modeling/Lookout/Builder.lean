import Lookout.Snapshot
import Lookout.Source

/-!
# Building snapshots

A build lists the records of a service and makes the next snapshot of them. Only a list that
succeeded uses up a revision.
-/
set_option autoImplicit false

namespace Lookout

structure Builder where
  label : Snapshot.Label
  limit? : Option Duration

namespace Builder

structure Build where
  listing : Listing
  policy : Policy

def start (b : Builder) (src : Source) (now : Instant) (service : String) (policy : Policy) :
    Source × Build :=
  let (src, listing) := src.beginList now service b.limit?
  (src, ⟨listing, policy⟩)

def failureOf (b : Builder) (service : String) : Listing.Fault → Failure
  | .failed reason => .source service reason
  | .expired => .timeout service (b.limit?.getD .zero)

/-- The result of a build at an instant, if there is one by then; `revision` is the last one that
was used up. -/
def outcome? (b : Builder) (build : Build) (now : Instant) (src : Source) (revision : UInt64) :
    Option (Except Failure Snapshot) :=
  (build.listing.outcome? now src).map fun
    | .ok records => .ok (.build b.label build.listing.service build.policy (revision + 1) records)
    | .error fault => .error (b.failureOf build.listing.service fault)

end Builder

end Lookout
