import MessageChannels.Lifecycle
import MessageChannels.Proofs.Lifecycle.Retry
import MessageChannels.Proofs.Topology.Reconciliation
import MessageChannels.Rehearsal.Perform

/-!
# Starting a service over a transport that fails

An environment that holds one channel service starts it by attempts to reconcile, one after the
other. `Startup` is a system together with what is going to happen to the calls of the attempts, in
their order: some fail, and when nothing more is said they are answered. Each attempt uses up as
much of it as it makes calls, and meets at most one fault, with which it ends (`Ready.attempt`). So
whether another attempt follows can be read off the faults, and with it the whole start (`starts`).
-/

set_option autoImplicit false

namespace MessageChannels

open MessageChannels.Topology (Extends InPlace)

/-- A transport's failure makes the start of a service fail for good only if the connection is
cancelled. -/
theorem HookError.isTransient_ofTransport (operation resource : String) (e : TransportError) :
    (HookError.channel (.ofTransport operation resource e)).isTransient = !e.isCancelled := by
  cases e <;> rfl

namespace Lifecycle

/-- The start of one service is one run of attempts. -/
theorem start_singleton (policy : BackoffPolicy) {m : Member} {run : Retry.Run _ Unit}
    (fresh : m.initCalls = 0)
    (ran : Retry.run policy m.isRetryable HookError.message m.initOutcome = run) :
    (start policy [m]).deeds = initDeeds m run.delays ∧
      (start policy [m]).result = run.result.mapError (.init m.name) := by
  simp only [start, fresh, Nat.zero_add, ran]
  cases run.result with
  | ok done => exact ⟨List.append_nil _, rfl⟩
  | error e => exact ⟨rfl, rfl⟩

end Lifecycle

/-! ## The first fault -/

section

variable {faults : List (Option TransportError)} {calls i : Nat}

/-- The first fault among those of some calls. -/
def firstFault (faults : List (Option TransportError)) (calls : Nat) : Option TransportError :=
  (faults.take calls).findSome? id

theorem firstFault_eq_none (unmet : ∀ j < calls, faults[j]? = some none ∨ faults[j]? = none) :
    firstFault faults calls = none := by
  refine List.findSome?_eq_none_iff.2 fun f mem => ?_
  obtain ⟨j, bound, rfl⟩ := List.getElem_of_mem mem
  rw [List.length_take] at bound
  rw [List.getElem_take]
  rcases unmet j (by omega) with none_met | beyond
  · rw [List.getElem?_eq_getElem (by omega)] at none_met
    exact Option.some.inj none_met
  · rw [List.getElem?_eq_getElem (by omega)] at beyond
    cases beyond

theorem firstFault_eq_some {e : TransportError} (fault : faults[i]? = some (some e))
    (unmet : ∀ j < i, faults[j]? = some none ∨ faults[j]? = none) :
    firstFault faults (i + 1) = some e := by
  have before : firstFault faults i = none := firstFault_eq_none unmet
  unfold firstFault at before ⊢
  rw [List.take_add_one, List.findSome?_append, before, fault]
  rfl

end

/-! ## Attempts that share a list of faults -/

/-- A system whose service is being started, and what happens to the calls to come. -/
structure Startup where
  system : System
  faults : List (Option TransportError)

namespace Startup

/-- What happens to the calls of an attempt: the faults that are left, then answers for as many
calls as an attempt can make. -/
def schedule (st : Startup) (k : Nat) : List (Option TransportError) :=
  st.faults ++ List.replicate (4 * (st.system.registry k).size) none

/-- The system after an attempt. -/
def tried (st : Startup) (k : Nat) : System := st.system.reconciled k (st.schedule k)

/-- The calls of an attempt. -/
def calls (st : Startup) (k : Nat) : List Request :=
  (st.tried k).requests st.system.operations.length

/-- The fault that an attempt meets. -/
def met (st : Startup) (k : Nat) : Option TransportError :=
  firstFault st.faults (st.calls k).length

/-- How the operation of an attempt ended. -/
def result? (st : Startup) (k : Nat) : Option (Except ChannelError Outcome) :=
  (st.tried k).result? st.system.operations.length

/-- How an attempt went, as a start of the service. -/
def outcome (st : Startup) (k : Nat) : Except HookError Unit :=
  match st.result? k with
  | some (.ok _) => .ok ()
  | some (.error e) => .error (.channel e)
  | none => .error (.channel .closed)

/-- What an attempt leaves for the next. -/
def next (st : Startup) (k : Nat) : Startup := ⟨st.tried k, st.faults.drop (st.calls k).length⟩

/-- What an attempt finds, by the number of those before it. -/
def before (st : Startup) (k : Nat) : Nat → Startup
  | 0 => st
  | i + 1 => (st.before k i).next k

/-- The service in an environment. -/
def member (st : Startup) (k : Nat) (closing : Nat → Except HookError Unit) : Lifecycle.Member where
  name := Rehearsal.serviceName
  isRetryable := HookError.isTransient
  initOutcome i := (st.before k i).outcome k
  closeOutcome := closing
  initCalls := 0
  closeCalls := 0

/-- How an attempt can go: it meets no fault and returns, or ends with the fault that it meets. -/
inductive Attempt (st : Startup) (k : Nat) (r : Registry) : Prop where
  | returned (unmet : st.met k = none) (outcome : st.outcome k = .ok ())
      (placed : ∀ at_ ∈ r.toList, InPlace (st.tried k).broker at_)
  | failed (e : TransportError) (operation resource : String) (met : st.met k = some e)
      (result : st.result? k = some (.error (.ofTransport operation resource e)))
      (outcome : st.outcome k = .error (.channel (.ofTransport operation resource e)))

/-- An open service over an open broker, and any faults but that something exists already. -/
structure Ready (st : Startup) (k : Nat) (v : Service) : Prop where
  reachable : st.system.Reachable
  alive : st.system.service? k = some v
  opened : v.closed = false
  connected : st.system.broker.closed = false
  excluded : ∀ e, some e ∈ st.faults → e.isAlreadyExists = false

/-- How the start of a service went, whose last attempt has a number: counted from 0. -/
structure Started (st : Startup) (k : Nat) (r : Registry) (policy : BackoffPolicy) (last : Nat)
    (report : Lifecycle.Report) : Prop where
  /-- Each attempt but the last met a fault that is worth another attempt. -/
  retried : ∀ i < last, ∃ e, (st.before k i).met k = some e ∧ e.isCancelled = false
  /-- The last one met none, or one that is not, or it was the last that the policy allows. -/
  stopped : (st.before k last).met k = none ∨
    (∃ e, (st.before k last).met k = some e ∧ e.isCancelled = true) ∨ last = policy.maxRetries
  bounded : last ≤ policy.maxRetries
  /-- Between an attempt and the next the policy's delay for it is waited out, to the nanosecond, and
  nothing else is done. -/
  deeds : report.deeds
    = (List.range last).flatMap
        (fun i => [.called "channel-service" .init, .slept (policy.delay i)])
      ++ [.called "channel-service" .init]
  calls : report.calls = List.replicate (last + 1) ("channel-service", .init)
  delays : report.delays = (List.range last).map policy.delay
  /-- Each begins with the first channel. -/
  again : ∀ i ≤ last,
    ((st.before k i).calls k).head? = r.toList.head?.map fun at_ => .topicExists at_.topic
  /-- Each keeps what is there, and makes nothing but what channels name. -/
  keeps : ∀ i ≤ last, Extends (· ∈ r.toList) (st.before k i).system.broker
    (st.before k (i + 1)).system.broker
  ok_iff : report.result = .ok () ↔ (st.before k last).met k = none
  placed : report.result = .ok () →
    ∀ at_ ∈ r.toList, InPlace (st.before k (last + 1)).system.broker at_
  /-- Otherwise the error names the service, with the last attempt's error as its cause. -/
  failed : ∀ e, (st.before k last).met k = some e → ∃ operation resource,
    (st.before k last).result? k = some (.error (.ofTransport operation resource e)) ∧
    report.result = .error (.init "channel-service" (.channel (.ofTransport operation resource e)))

variable {st : Startup} {k : Nat} {v : Service}

/-! ## One attempt -/

theorem answered_of_schedule {j : Nat} (answered : (st.schedule k)[j]? = some none) :
    st.faults[j]? = some none ∨ st.faults[j]? = none := by
  rcases Nat.lt_or_ge j st.faults.length with within | beyond
  · rw [schedule, List.getElem?_append_left within] at answered
    exact Or.inl answered
  · exact Or.inr (List.getElem?_eq_none beyond)

theorem fault_of_schedule {j : Nat} {e : TransportError}
    (fault : (st.schedule k)[j]? = some (some e)) : st.faults[j]? = some (some e) := by
  rcases Nat.lt_or_ge j st.faults.length with within | beyond
  · rwa [schedule, List.getElem?_append_left within] at fault
  · rw [schedule, List.getElem?_append_right beyond] at fault
    cases (List.mem_replicate.1 (List.mem_of_getElem? fault)).2

namespace Ready

theorem followed (ready : st.Ready k v) :
    System.Alone st.system k v.registry.toList (st.schedule k) (st.tried k) := by
  refine System.alone_reconciled ready.reachable ready.alive ready.opened ready.connected ?_
  intro e mem
  rcases List.mem_append.1 mem with fault | answer
  · exact ready.excluded e fault
  · cases (List.mem_replicate.1 answer).2

/-- An attempt leaves the service ready for the next. -/
theorem next (ready : st.Ready k v) : (st.next k).Ready k v := by
  have alone := ready.followed
  constructor
  · exact (ready.reachable.step _).after _
  · exact System.service?_kept alone.services alone.earlier ready.alive
  · exact ready.opened
  · exact alone.wrought.closed.trans ready.connected
  · exact fun e mem => ready.excluded e (List.mem_of_mem_drop mem)

theorem before (ready : st.Ready k v) (i : Nat) : (st.before k i).Ready k v := by
  induction i with
  | zero => exact ready
  | succ i ih => exact ih.next

theorem attempt (ready : st.Ready k v) : st.Attempt k v.registry := by
  have alone := ready.followed
  have attempted := alone.attempted
  obtain ⟨state, found, stage⟩ := alone.stage
  have result : st.result? k = state.result? := by
    rw [result?, System.result?, found]
    rfl
  have registered : st.system.registry k = v.registry := by
    rw [System.registry, System.service?_eq_some ready.alive]
    rfl
  have enough : Topology.callsFor (Topology.parts true v.registry.toList)
      ≤ (st.schedule k).length := by
    have bound := Topology.callsFor_parts_le true v.registry.toList
    have size : v.registry.toList.length = v.registry.size := List.length_map _
    rw [schedule, registered, List.length_append, List.length_replicate]
    omega
  have ended := stage.ended enough
  cases stage with
  | working w => cases ended
  | returned stands unmet =>
    refine .returned (firstFault_eq_none fun j bound => ?_) ?_ (attempted.complete result)
    · exact answered_of_schedule (unmet j bound)
    · rw [outcome, result]
      rfl
  | failed i e done c later name fault unmet count split holds named =>
    refine .failed e name c.resource ?_ result ?_
    · rw [met, calls, count]
      refine firstFault_eq_some (fault_of_schedule fault) fun j bound => ?_
      exact answered_of_schedule (unmet j bound)
    · rw [outcome, result]
      rfl

/-- An attempt begins with the topic of the first channel. -/
theorem begins (ready : st.Ready k v) : (st.calls k).head?
    = v.registry.toList.head?.map fun at_ => .topicExists at_.topic := by
  let work := Topology.begin false (Topology.parts true v.registry.toList)
  have begun : st.system.step (.begin k .reconcileAll)
      = (st.system.addOperation k).tend st.system.operations.length work := by
    show st.system.step (.begin k (System.wholly true)) = _
    exact System.step_begin_wholly ready.alive ready.opened
  have unasked : (st.system.addOperation k).requests st.system.operations.length = [] :=
    ready.reachable.requests_eq_nil (Nat.le_refl _)
  have first : (st.system.step (.begin k .reconcileAll)).requests st.system.operations.length
      = Topology.asked work := by
    rw [begun, System.requests_tend, unasked, List.nil_append]
  cases channels : v.registry.toList with
  | nil =>
    have nothing : work = .ok none := by
      simp only [work, channels]
      rfl
    -- There is nothing to do, so the attempt has ended before any answer.
    have standing := System.getElem?_tend_self (st.system.getElem?_addOperation k) work
    rw [← begun, nothing] at standing
    rw [nothing] at first
    rw [calls, tried, System.reconciled, (System.ended_after standing rfl _).2, first]
    rfl
  | cons at_ others =>
    obtain ⟨rest, split⟩ : Topology.asked work <+: st.calls k :=
      first ▸ System.requests_after _ _ _
    rw [← split]
    simp only [work, channels]
    rfl

/-- An attempt that is followed by another met a fault that is worth it. -/
theorem retried (ready : st.Ready k v) {err : HookError} (failed : st.outcome k = .error err)
    (worth : err.isTransient = true) : ∃ e, st.met k = some e ∧ e.isCancelled = false := by
  cases ready.attempt with
  | returned unmet outcome => cases outcome.symm.trans failed
  | failed e operation resource met result outcome =>
    cases outcome.symm.trans failed
    rw [HookError.isTransient_ofTransport, Bool.not_eq_true'] at worth
    exact ⟨e, met, worth⟩

/-- An attempt after which nothing is tried again met no fault, or one that is not worth it. -/
theorem settled (ready : st.Ready k v)
    (settled : Retry.Settles HookError.isTransient (st.outcome k)) :
    st.met k = none ∨ ∃ e, st.met k = some e ∧ e.isCancelled = true := by
  cases ready.attempt with
  | returned unmet => exact Or.inl unmet
  | failed e operation resource met result outcome =>
    have gone : HookError.isTransient (.channel (.ofTransport operation resource e)) = false := by
      rwa [outcome] at settled
    rw [HookError.isTransient_ofTransport, Bool.not_eq_false'] at gone
    exact Or.inr ⟨e, met, gone⟩

/-- What a start returns whose last attempt this was. -/
theorem reports (ready : st.Ready k v) {result : Except LifecycleError Unit}
    (ended : result = (st.outcome k).mapError (.init Rehearsal.serviceName)) :
    (result = .ok () ↔ st.met k = none) ∧
      (result = .ok () → ∀ at_ ∈ v.registry.toList, InPlace (st.next k).system.broker at_) ∧
      ∀ e, st.met k = some e → ∃ operation resource,
        st.result? k = some (.error (.ofTransport operation resource e)) ∧
        result = .error (.init "channel-service" (.channel (.ofTransport operation resource e))) := by
  cases ready.attempt with
  | returned unmet outcome placed =>
    rw [outcome] at ended
    refine ⟨⟨fun _ => unmet, fun _ => ended⟩, fun _ => placed, fun e met => ?_⟩
    cases unmet.symm.trans met
  | failed e operation resource met failure outcome =>
    rw [outcome] at ended
    refine ⟨⟨fun ok => ?_, fun unmet => ?_⟩, fun ok => ?_, fun e' met' => ?_⟩
    · cases ended.symm.trans ok
    · cases unmet.symm.trans met
    · cases ended.symm.trans ok
    · cases met.symm.trans met'
      exact ⟨operation, resource, failure, ended⟩

end Ready

/-! ## The whole start -/

/-- **A service is started by attempts to reconcile**, each from the first channel on and keeping
what those before it made, until one meets no fault or a cancelled connection or no retries are
left; the start succeeds exactly if the last attempt met no fault, and then all that the registry
names is in place. -/
theorem starts (ready : st.Ready k v) (policy : BackoffPolicy)
    (closing : Nat → Except HookError Unit) :
    ∃ last, st.Started k v.registry policy last
      (Lifecycle.start policy [st.member k closing]) := by
  have followed := Retry.followed_run policy HookError.isTransient HookError.message
    fun i => (st.before k i).outcome k
  generalize ran : Retry.run policy HookError.isTransient HookError.message
    (fun i => (st.before k i).outcome k) = run at followed
  have final := ready.before run.delays.length
  have delays : run.delays = (List.range run.delays.length).map policy.delay := by
    rw [List.range_eq_range']
    exact followed.delays
  have ending : run.result = (st.before k run.delays.length).outcome k := by
    rw [followed.result, Nat.zero_add]
  obtain ⟨done, ended⟩ := Lifecycle.start_singleton policy (m := st.member k closing) rfl ran
  have returned := ended.trans (congrArg _ ending)
  refine ⟨run.delays.length, ?_⟩
  constructor
  · intro i bound
    obtain ⟨err, failed, worth⟩ := followed.retried i bound
    rw [Nat.zero_add] at failed
    exact (ready.before i).retried failed worth
  · have stopped := followed.stopped
    rw [Nat.zero_add] at stopped
    rcases stopped with settled | exhausted
    · rcases final.settled settled with unmet | gone
      · exact Or.inl unmet
      · exact Or.inr (Or.inl gone)
    · exact Or.inr (Or.inr exhausted)
  · exact followed.bounded
  · rw [done, delays, Lifecycle.initDeeds, List.flatMap_map, List.length_map, List.length_range]
    rfl
  · rw [Lifecycle.Report.calls, done, Lifecycle.filterMap_call?_initDeeds]
    rfl
  · rw [Lifecycle.Report.delays, done, Lifecycle.filterMap_delay?_initDeeds]
    exact delays
  · exact fun i _ => (ready.before i).begins
  · exact fun i _ => (ready.before i).followed.attempted.adds
  · exact (final.reports returned).1
  · exact (final.reports returned).2.1
  · exact (final.reports returned).2.2

/-- A broker that is away when the topic of the second channel is to be made, and again when its
subscription is asked for. -/
def awayTwice : Startup :=
  ⟨System.halfSettled,
    [none, none, some (.unavailable "away"), none, none, none, some (.unavailable "away")]⟩

/-- The third attempt makes what is missing, after the first two delays. -/
theorem starts_awayTwice :
    awayTwice.Ready 0 System.ordersService ∧
      (∃ last, awayTwice.Started 0 System.ordersService.registry .standard last
        (Lifecycle.start .standard [awayTwice.member 0 fun _ => .ok ()])) ∧
      (Lifecycle.start .standard [awayTwice.member 0 fun _ => .ok ()]).delays
        = [.ofMillis 100, .ofMillis 200] := by
  have ready : awayTwice.Ready 0 System.ordersService := by
    constructor
    · exact ⟨.epoch, _, rfl⟩
    · rfl
    · rfl
    · rfl
    · intro e mem
      simp only [awayTwice, List.mem_cons, List.not_mem_nil, reduceCtorEq, Option.some.injEq,
        false_or, or_false, or_self] at mem
      rw [mem]
      rfl
  refine ⟨ready, starts ready _ _, ?_⟩
  decide +kernel

end Startup

end MessageChannels
