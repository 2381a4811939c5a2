import Mathlib.Order.Bounds.Defs
import MessageChannels.Lifecycle
import MessageChannels.Proofs.Lifecycle.RetryLoop

/-!
# The order in which services are started and stopped

A start takes the services one after the other: `begun` lists those that it came to, each with the
number of its last call, counted from its first call in this start. Between the calls of one service
it waits out the delays of the policy. It comes to the next service only when the last call of the one
before succeeded, so it ends with the last service or with the first that it could not start (`Came`).
A stop calls every service once, the last one first, and collects the names of those that fail. Both
leave the services in their order with the calls counted, so the same holds of every start and stop
that follows others (`lifecycleOrder`).
-/

set_option autoImplicit false

namespace MessageChannels.Lifecycle

namespace Member

/-- The outcomes of the calls of a member's start that come next. -/
def upcoming (m : Member) (i : Nat) : Except HookError Unit := m.initOutcome (m.initCalls + i)

/-- The number of the call with which a member's start ends, of those that come next: its first
success, its first error that is not worth another call, or the last that the policy allows. -/
def Ends (policy : BackoffPolicy) (m : Member) (last : Nat) : Prop :=
  IsLeast {i | Retry.CanEnd policy m.isRetryable m.upcoming i} last

/-- A member with the calls of a start counted, the last of which has a number. -/
def started (m : Member) (last : Nat) : Member := { m with initCalls := m.initCalls + (last + 1) }

/-- A member with one more call to close it counted. -/
def stopped (m : Member) : Member := { m with closeCalls := m.closeCalls + 1 }

/-- Whether the next call to close a member fails. -/
def failsToClose (m : Member) : Bool := !(m.closeOutcome m.closeCalls).isOk

/-- A member with none of its calls counted: the service that it is, whatever was called. -/
def uncalled (m : Member) : Member := { m with initCalls := 0, closeCalls := 0 }

end Member

/-- How far a start came and what it returned: all members were begun and each succeeded in the end,
or the last that was begun failed, after members that succeeded. -/
inductive Came (members : List Member) (begun : List (Member × Nat)) :
    Except LifecycleError Unit → Prop where
  | through (all : begun.map Prod.fst = members) (succeeded : ∀ p ∈ begun, p.1.upcoming p.2 = .ok ()) :
      Came members begun (.ok ())
  | stuck (before : List (Member × Nat)) (m : Member) (last : Nat) {rest : List Member}
      {e : HookError} (split : begun = before ++ [(m, last)])
      (all : members = before.map Prod.fst ++ m :: rest)
      (succeeded : ∀ p ∈ before, p.1.upcoming p.2 = .ok ()) (failed : m.upcoming last = .error e) :
      Came members begun (.error (.init m.name e))

/-- A start went through its members in their order. -/
structure StartedInOrder (policy : BackoffPolicy) (members : List Member)
    (begun : List (Member × Nat)) (report : Report) : Prop where
  ends : ∀ p ∈ begun, p.1.Ends policy p.2
  calls : report.calls = begun.flatMap fun p => List.replicate (p.2 + 1) (p.1.name, .init)
  /-- Between the calls of a member the delays of the policy are waited out, and no others. -/
  deeds : report.deeds
    = begun.flatMap fun p => initDeeds p.1 ((List.range p.2).map policy.delay)
  came : Came members begun report.result
  /-- The calls are counted with the members that were begun, and no others are called. -/
  counted : report.members
    = begun.map (fun p => p.1.started p.2) ++ members.drop begun.length

/-- A stop went through all its members in the reverse of their order. -/
structure StoppedInReverse (members : List Member) (report : Report) : Prop where
  calls : report.calls = members.reverse.map fun m => (m.name, .close)
  /-- Nothing is waited out between the calls. -/
  deeds : report.deeds = members.reverse.map fun m => .called m.name .close
  counted : report.members = members.map (·.stopped)
  ok_iff : report.result = .ok () ↔ ∀ m ∈ members, m.closeOutcome m.closeCalls = .ok ()
  failed : ∀ e, report.result = .error e →
    e = .close ((members.reverse.filter (·.failsToClose)).map (·.name))

/-- What is asked of an environment. -/
inductive Demand where
  | start (policy : BackoffPolicy)
  | stop

/-- The report on a demand of members. -/
def Demand.report (members : List Member) : Demand → Report
  | .start policy => Lifecycle.start policy members
  | .stop => Lifecycle.stop members

/-- The members after some demands. -/
def served (members : List Member) (demands : List Demand) : List Member :=
  demands.foldl (fun members demand => (demand.report members).members) members

/-! ## Starts -/

/-- The member that is begun first fails, and the start ends with it. -/
theorem startedInOrder_stuck {policy : BackoffPolicy} {m : Member} {last : Nat} {e : HookError}
    {rest : List Member} {notes : List Note} (ends : m.Ends policy last)
    (failed : m.upcoming last = .error e) :
    StartedInOrder policy (m :: rest) [(m, last)]
      ⟨.error (.init m.name e), initDeeds m ((List.range last).map policy.delay), notes,
        m.started last :: rest⟩ := by
  constructor
  · rintro p (_ | ⟨_, ⟨⟩⟩)
    exact ends
  · rw [Report.calls, filterMap_call?_initDeeds, List.length_map, List.length_range]
    exact (List.append_nil _).symm
  · exact (List.append_nil _).symm
  · exact .stuck [] m last rfl rfl nofun failed
  · rfl

/-- A member before others that succeeds lets the start of the others follow. -/
theorem Came.cons {members : List Member} {begun : List (Member × Nat)}
    {result : Except LifecycleError Unit} {m : Member} {last : Nat}
    (ok : m.upcoming last = .ok ()) (came : Came members begun result) :
    Came (m :: members) ((m, last) :: begun) result := by
  cases came with
  | through all succeeded =>
    refine .through (congrArg _ all) ?_
    rintro p (_ | ⟨_, mem⟩)
    · exact ok
    · exact succeeded p mem
  | stuck before m' last' split all succeeded failed =>
    refine .stuck ((m, last) :: before) m' last' (congrArg _ split) (congrArg _ all) ?_ failed
    rintro p (_ | ⟨_, mem⟩)
    · exact ok
    · exact succeeded p mem

theorem StartedInOrder.cons {policy : BackoffPolicy} {m : Member} {last : Nat}
    {rest : List Member} {begun : List (Member × Nat)} {later : Report} {notes : List Note}
    (ends : m.Ends policy last) (ok : m.upcoming last = .ok ())
    (ordered : StartedInOrder policy rest begun later) :
    StartedInOrder policy (m :: rest) ((m, last) :: begun)
      ⟨later.result, initDeeds m ((List.range last).map policy.delay) ++ later.deeds,
        notes ++ later.notes, m.started last :: later.members⟩ := by
  constructor
  · rintro p (_ | ⟨_, mem⟩)
    · exact ends
    · exact ordered.ends p mem
  · rw [Report.calls, List.filterMap_append, filterMap_call?_initDeeds, List.length_map,
      List.length_range]
    exact congrArg _ ordered.calls
  · rw [ordered.deeds]
    rfl
  · exact ordered.came.cons ok
  · rw [ordered.counted]
    rfl

theorem startedInOrder_start (policy : BackoffPolicy) (members : List Member) :
    ∃ begun, StartedInOrder policy members begun (start policy members) := by
  induction members with
  | nil => exact ⟨[], nofun, rfl, rfl, .through rfl nofun, rfl⟩
  | cons m rest ih =>
    obtain ⟨run, ran⟩ : ∃ run, Retry.run policy m.isRetryable HookError.message
        (fun k => m.initOutcome (m.initCalls + k)) = run := ⟨_, rfl⟩
    have ends : m.Ends policy run.delays.length := by
      rw [← ran]
      exact Retry.isLeast_run policy m.isRetryable HookError.message m.upcoming
    have followed := Retry.followed_run policy m.isRetryable HookError.message
      fun k => m.initOutcome (m.initCalls + k)
    rw [ran] at followed
    have result : run.result = m.upcoming run.delays.length := by
      rw [followed.result, Nat.zero_add]
      rfl
    have delays : run.delays = (List.range run.delays.length).map policy.delay := by
      rw [List.range_eq_range']
      exact followed.delays
    have deeds : initDeeds m run.delays
        = initDeeds m ((List.range run.delays.length).map policy.delay) := congrArg _ delays
    simp only [start, ran, deeds]
    cases last : run.result with
    | error e => exact ⟨_, startedInOrder_stuck ends (result ▸ last)⟩
    | ok done =>
      obtain ⟨begun, later⟩ := ih
      exact ⟨_, later.cons ends (result ▸ last)⟩

/-! ## Stops -/

theorem Member.failsToClose_eq_false {m : Member} :
    m.failsToClose = false ↔ m.closeOutcome m.closeCalls = .ok () := by
  rw [failsToClose]
  cases m.closeOutcome m.closeCalls with
  | ok done => exact ⟨fun _ => rfl, fun _ => rfl⟩
  | error e => exact ⟨nofun, nofun⟩

/-- Closing services in an order calls each, and names those that fail in that order. -/
theorem closeEach_eq (members : List Member) :
    (closeEach members).1 = members.map (fun m => .called m.name .close) ∧
      (closeEach members).2.1 = (members.filter (·.failsToClose)).map (·.name) := by
  induction members with
  | nil => exact ⟨rfl, rfl⟩
  | cons m rest ih =>
    rw [closeEach]
    cases closed : m.closeOutcome m.closeCalls with
    | ok done =>
      rw [List.filter_cons_of_neg (by simp [Member.failsToClose_eq_false.2 closed])]
      exact ⟨congrArg _ ih.1, ih.2⟩
    | error e =>
      have fails : m.failsToClose = true := by rw [Member.failsToClose, closed]; rfl
      rw [List.filter_cons_of_pos fails]
      exact ⟨congrArg _ ih.1, congrArg _ ih.2⟩

theorem stoppedInReverse_stop (members : List Member) :
    StoppedInReverse members (stop members) := by
  obtain ⟨deeds, failed⟩ := closeEach_eq members.reverse
  have result : (stop members).result
      = closeResult ((members.reverse.filter (·.failsToClose)).map (·.name)) := by
    rw [← failed]
    rfl
  have none_fails : (members.reverse.filter (·.failsToClose)).map (·.name) = [] ↔
      ∀ m ∈ members, m.closeOutcome m.closeCalls = .ok () := by
    simp only [List.map_eq_nil_iff, List.filter_eq_nil_iff, List.mem_reverse, Bool.not_eq_true,
      Member.failsToClose_eq_false]
  have calls : (stop members).calls = members.reverse.map fun m => (m.name, .close) := by
    show (closeEach members.reverse).1.filterMap Deed.call? = _
    rw [deeds, List.filterMap_map]
    exact congrFun List.filterMap_eq_map _
  refine ⟨calls, deeds, rfl, ?_, fun e ended => ?_⟩
  · rw [result, closeResult, ← none_fails]
    split
    · exact ⟨fun _ => ‹_›, fun _ => rfl⟩
    · exact ⟨nofun, fun none => absurd none ‹_›⟩
  · rw [result, closeResult] at ended
    split at ended
    · cases ended
    · exact (Except.error.inj ended).symm

/-! ## One demand after another -/

theorem Came.prefix {members : List Member} {begun : List (Member × Nat)}
    {result : Except LifecycleError Unit} (came : Came members begun result) :
    begun.map Prod.fst ++ members.drop begun.length = members := by
  cases came with
  | through all succeeded =>
    rw [← all, List.drop_of_length_le (Nat.le_of_eq (List.length_map _)), List.append_nil]
  | @stuck before m last rest e split all succeeded failed =>
    have drop : members.drop begun.length = rest := by
      have whole : members = (before ++ [(m, last)]).map Prod.fst ++ rest := by simp [all]
      rw [whole, split]
      exact List.drop_left' (List.length_map _)
    rw [drop, split, all]
    simp

/-- A demand calls hooks of the members, which stay what they are and where they are. -/
theorem uncalled_report (demand : Demand) (members : List Member) :
    (demand.report members).members.map (·.uncalled) = members.map (·.uncalled) := by
  cases demand with
  | start policy =>
    obtain ⟨begun, ordered⟩ := startedInOrder_start policy members
    have begun_same : (begun.map fun p => p.1.started p.2).map (·.uncalled)
        = (begun.map Prod.fst).map (·.uncalled) := by
      rw [List.map_map, List.map_map]
      rfl
    rw [Demand.report, ordered.counted, List.map_append, begun_same, ← List.map_append,
      ordered.came.prefix]
  | stop =>
    rw [Demand.report, (stoppedInReverse_stop members).counted, List.map_map]
    rfl

theorem uncalled_served (members : List Member) (demands : List Demand) :
    (served members demands).map (·.uncalled) = members.map (·.uncalled) := by
  induction demands generalizing members with
  | nil => rfl
  | cons demand rest ih => exact (ih _).trans (uncalled_report demand members)

/-- **Services are started in their order and stopped in its reverse**, whatever became of the starts
and stops before: these leave the services and their order as they are. -/
theorem lifecycleOrder (members : List Member) (demands : List Demand) (policy : BackoffPolicy) :
    (served members demands).map (·.uncalled) = members.map (·.uncalled) ∧
      (∃ begun, StartedInOrder policy (served members demands) begun
        (start policy (served members demands))) ∧
      StoppedInReverse (served members demands) (stop (served members demands)) :=
  ⟨uncalled_served members demands, startedInOrder_start policy _, stoppedInReverse_stop _⟩

end MessageChannels.Lifecycle
