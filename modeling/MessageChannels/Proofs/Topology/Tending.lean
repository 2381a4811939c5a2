import MessageChannels.Proofs.Service.Closed
import MessageChannels.Proofs.Topology.Work

/-!
# Operations that see to the topology

An operation at topology work stands where the work does (`stateOf`), and an answer changes that, what
the operation has asked for, and the broker; nothing else in the system. So the steps of such an
operation are those of `Work`, whoever else is at work beside it.
-/

set_option autoImplicit false

namespace MessageChannels

open MessageChannels.Topology (Answered Next Work asked parts rank)

/-- Where an operation stands whose work goes on like this. -/
def Topology.stateOf : Next → OperationState
  | .ok (some w) => .tending w
  | .ok none => .finished (.ok .done)
  | .error e => .finished (.error e)

open MessageChannels.Topology (stateOf)

namespace System

/-- The command to make all that a service's registry names, or to remove it. -/
def wholly : Bool → Command
  | true => .reconcileAll
  | false => .deleteAll

/-- The requests that the broker grants in an event, other than those that only ask. -/
def grantedIn (s : System) : Event → List Request
  | .serve op =>
    match s.request? op with
    | some r => r.granted (s.broker.perform s.clock r).2
    | none => []
  | _ => []

variable {s s' : System} {op k : Nat} {v : Service} {w : Work} {next : Next} {making : Bool}

/-! ## Going on -/

theorem operations_await (s : System) (op : Nat) (state : OperationState) :
    (s.await op state).operations = (s.setState op state).operations := by
  unfold await
  split <;> rfl

theorem broker_await (s : System) (op : Nat) (state : OperationState) :
    (s.await op state).broker = s.broker := by
  unfold await
  split <;> rfl

theorem services_await (s : System) (op : Nat) (state : OperationState) :
    (s.await op state).services = s.services := by
  unfold await
  split <;> rfl

theorem operations_tend (s : System) (op : Nat) (next : Next) :
    (s.tend op next).operations = (s.setState op (stateOf next)).operations := by
  unfold tend
  split
  · exact operations_await s op _
  · rfl
  · rfl

theorem getElem?_tend_self {o : Operation} (found : s.operations[op]? = some o) (next : Next) :
    (s.tend op next).operations[op]? = some ⟨o.service, stateOf next⟩ := by
  rw [operations_tend, getElem?_setState_self found]

theorem getElem?_tend_of_ne {j : Nat} (other : j ≠ op) (next : Next) :
    (s.tend op next).operations[j]? = s.operations[j]? := by
  rw [operations_tend, getElem?_setState, if_neg other]

theorem broker_tend (s : System) (op : Nat) (next : Next) :
    (s.tend op next).broker = s.broker := by
  unfold tend
  split
  · exact broker_await s op _
  · rfl
  · rfl

theorem services_tend (s : System) (op : Nat) (next : Next) :
    (s.tend op next).services = s.services := by
  unfold tend
  split
  · exact services_await s op _
  · rfl
  · rfl

theorem requests_tend (s : System) (op : Nat) (next : Next) :
    (s.tend op next).requests op = s.requests op ++ asked next := by
  unfold tend
  split
  · rename_i w
    unfold await
    split
    · rename_i r waits
      refine (requests_asked _ op r op).trans ?_
      rw [if_pos rfl, asked, show w.request? = some r from waits]
      rfl
    · rename_i waits
      rw [asked, show w.request? = none from waits]
      exact (List.append_nil _).symm
  · exact (List.append_nil _).symm
  · exact (List.append_nil _).symm

/-! ## Steps -/

theorem step_begin_wholly (alive : s.service? k = some v) (opened : v.closed = false) :
    s.step (.begin k (wholly making))
      = (s.addOperation k).tend s.operations.length
          (Topology.begin false (parts making v.registry.toList)) := by
  rw [step_begin alive]
  cases making with
  | true =>
    simp only [wholly, run, opened]
    rfl
  | false =>
    simp only [wholly, run, opened]
    rfl

/-- The broker answers a call of topology work. -/
theorem step_serve_tending (found : s.operations[op]? = some ⟨k, .tending w⟩)
    (real : w.chore ≠ .verifyOpen) (opened : s.isClosed k = false)
    (connected : s.broker.closed = false) :
    ∃ b' next, Answered s.broker w b' next (s.grantedIn (.serve op)) ∧
      s.step (.serve op) = ({ s with broker := b' } : System).tend op next := by
  obtain ⟨r, asks⟩ := Work.request?_isSome real
  have waits : s.request? op = some r := by
    simpa [request?, found, OperationState.request?] using asks
  have granted : s.grantedIn (.serve op) = r.granted (s.broker.perform s.clock r).2 := by
    simp only [grantedIn, waits]
  have stands : ({ s with broker := (s.broker.perform s.clock r).1 } : System).isClosed k = false :=
    opened
  refine ⟨_, _, granted ▸ Topology.answered connected s.clock asks, ?_⟩
  simp only [step, serve, waits, answer, found, stands]

/-- A call of topology work fails before it gets to the broker. -/
theorem step_fail_tending (found : s.operations[op]? = some ⟨k, .tending w⟩)
    (opened : s.isClosed k = false) (e : TransportError) :
    s.step (.reply op (.error e)) = s.tend op (w.answer false (.error e)) := by
  simp only [step, answer, found, opened]

/-! ## What stays beside it -/

/-- A service that someone holds is held while services and operations of old stay as they are. -/
theorem service?_kept (services : s'.services = s.services)
    (earlier : ∀ j < s.operations.length, s'.operations[j]? = s.operations[j]?)
    (alive : s.service? k = some v) : s'.service? k = some v := by
  have found := service?_eq_some alive
  have living : s.isAlive k = true := by
    unfold service? at alive
    split at alive
    · assumption
    · cases alive
  have living' : s'.isAlive k = true := by
    unfold isAlive at living ⊢
    rw [services]
    rcases (Bool.or_eq_true _ _).mp living with held | busy
    · rw [held, Bool.true_or]
    · obtain ⟨o, mem, holds⟩ := List.any_eq_true.1 busy
      obtain ⟨j, bound, rfl⟩ := List.getElem_of_mem mem
      have same := earlier j bound
      rw [List.getElem?_eq_getElem bound] at same
      have mem' := List.mem_of_getElem? same
      rw [Bool.or_eq_true]
      exact Or.inr (List.any_eq_true.2 ⟨_, mem', holds⟩)
  rw [service?, if_pos living', services, found]

theorem isClosed_of_service? (services : s'.services = s.services)
    (alive : s.service? k = some v) : s'.isClosed k = v.closed := by
  rw [isClosed, services, service?_eq_some alive]
  rfl

end System

end MessageChannels
