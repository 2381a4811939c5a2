import MessageChannels.Proofs.Dispatch.Handlers

/-!
# Flow control of a receive loop

Of the permits of a receive loop each is free or belongs to a handler that runs. So no more handlers
run at once than the service allows, and a handler that panics gives its permit back like any other.
-/

set_option autoImplicit false

namespace MessageChannels

namespace System

/-- What holds of the permits of a receive loop, of which there are as many as `limit`, after a run.
-/
structure FlowControl (now : Timestamp) (es : List Event) (op k : Nat) (l : Loop) (limit : Nat) :
    Prop where
  permits : l.free + l.running.length = limit
  /-- The handlers that run are those that began and have not ended. -/
  accounted : ((start now).handlersBegun op es).Perm ((start now).handlersEnded op es ++ l.running)
  bounded : l.running.length ≤ limit
  idle : l.running = [] → l.free = limit
  /-- A handler that ends gives its permit back, also if it panics, and does not stop the loop. -/
  givesBack : ∀ i panicked, i ∈ l.running → ∃ l',
    (((start now).after es).step (.handlerEnded op i panicked)).operations[op]?
        = some ⟨k, .receiving l'⟩ ∧
      l'.free = l.free + 1 ∧ l'.running = l.running.erase i ∧ l'.phase = l.phase
  /-- Nothing stops the loop but its being cancelled, the closing of its service, and its source. -/
  goesOn : l.Runs → (∀ outcome, ¬((start now).after es).Stops k l outcome) →
    ∀ e, e ≠ .abandon op → ∃ l', (((start now).after es).step e).operations[op]?
      = some ⟨k, .receiving l'⟩ ∧ l'.Runs

variable {e : Event} {op k : Nat} {s : System} {l : Loop}

/-! ## Permits -/

/-- A move of a loop keeps the number of its permits. -/
theorem LoopNext.permits {state : OperationState} (next : s.LoopNext e op k l state) {l' : Loop}
    (later : state = .receiving l') :
    l'.free + l'.running.length = l.free + l.running.length := by
  cases next with
  | handlerEnded i panicked cause runs =>
    cases later
    have shorter := List.length_erase_of_mem runs
    have some := List.length_pos_of_mem runs
    show l.free + 1 + (l.running.erase i).length = _
    omega
  | handed d cause phase going opened permit =>
    cases later
    show l.free - 1 + (l.running ++ [_]).length = _
    rw [List.length_append, List.length_singleton]
    omega
  | returned => cases later
  | abandoned => cases later
  | _ =>
    cases later
    rfl

/-- The permits of a loop are those that its service gives, wherever a run leads. -/
theorem Reachable.permits (reachable : s.Reachable)
    (found : s.operations[op]? = some ⟨k, .receiving l⟩) :
    ∃ v, s.services[k]? = some v ∧ l.free + l.running.length = v.maxOutstanding := by
  suffices h : s.Reachable ∧ ∀ (op k : Nat) (l : Loop),
      s.operations[op]? = some ⟨k, .receiving l⟩ →
        ∃ v, s.services[k]? = some v ∧ l.free + l.running.length = v.maxOutstanding from
    h.2 op k l found
  refine reachable.induction (P := fun s => s.Reachable ∧ ∀ (op k : Nat) (l : Loop),
    s.operations[op]? = some ⟨k, .receiving l⟩ →
      ∃ v, s.services[k]? = some v ∧ l.free + l.running.length = v.maxOutstanding)
    (fun now => ?_) fun s e h => ?_
  · refine ⟨⟨now, [], rfl⟩, fun op k l found => ?_⟩
    simp [start] at found
  · obtain ⟨reachable, permits⟩ := h
    refine ⟨reachable.step e, fun op k l found' => ?_⟩
    have lasts := (lasts_after s [e]).services
    rcases loop_before e found' with ⟨l₀, found⟩ | ⟨o, source, found, rfl⟩
    · obtain ⟨v, service, sum⟩ := permits op k l₀ found
      obtain ⟨state, found₁, next⟩ := loop_step found e
      obtain ⟨v', service', _, limit, _⟩ := lasts k v service
      have same : state = .receiving l := by
        cases found₁.symm.trans found'
        rfl
      exact ⟨v', service', (next.permits same).trans (sum.trans limit.symm)⟩
    · -- A loop that was just opened has the permits of its service.
      obtain ⟨v, c, service, _⟩ := reachable.registered.operations op ⟨k, .opening o⟩ o.channel found
        rfl
      obtain ⟨v', service', _, limit, _⟩ := lasts k v service
      refine ⟨v', service', ?_⟩
      simp [freshLoop, service, limit]

/-! ## What stops a loop -/

theorem loop_goesOn (found : s.operations[op]? = some ⟨k, .receiving l⟩) (runs : l.Runs)
    (going : ∀ outcome, ¬s.Stops k l outcome) (given : e ≠ .abandon op) :
    ∃ l', (s.step e).operations[op]? = some ⟨k, .receiving l'⟩ ∧ l'.Runs := by
  obtain ⟨state, found', next⟩ := loop_step found e
  cases next with
  | pulled d cause phase => exact ⟨_, found', fun _ h => by cases h⟩
  | handed d cause phase => exact ⟨_, found', fun _ h => by cases h⟩
  | stopped outcome cause runs stops => exact absurd stops (going outcome)
  | returned outcome cause phase => exact absurd phase (runs outcome)
  | abandoned cause => exact absurd cause given
  | _ => exact ⟨_, found', runs⟩

theorem handlerEnded_givesBack (found : s.operations[op]? = some ⟨k, .receiving l⟩) {i : Nat}
    (panicked : Bool) (runs : i ∈ l.running) : ∃ l',
      (s.step (.handlerEnded op i panicked)).operations[op]? = some ⟨k, .receiving l'⟩ ∧
        l'.free = l.free + 1 ∧ l'.running = l.running.erase i ∧ l'.phase = l.phase := by
  obtain ⟨state, found', next⟩ := loop_step found (.handlerEnded op i panicked)
  cases next with
  | stayed idle => exact absurd runs (idle i panicked rfl)
  | handlerEnded j p cause =>
    cases cause
    exact ⟨_, found', rfl, rfl, rfl⟩
  | joined cause => cases cause
  | pulled d cause => cases cause
  | handed d cause => cases cause
  | stopped outcome cause => cases cause
  | returned outcome cause => cases cause
  | abandoned cause => cases cause

/-! ## Flow control -/

theorem service_after_addService (now : Timestamp) (fs : List Event) (v : Service)
    (es : List Event) :
    ∃ v' : Service, ((start now).after (fs ++ .addService v :: es)).services[
        ((start now).after fs).services.length]? = some v' ∧
      v'.maxOutstanding = v.maxOutstanding := by
  have added : (((start now).after fs).step (.addService v)).services[
      ((start now).after fs).services.length]? = some v := List.getElem?_concat_length
  obtain ⟨v', found, _, limit, _⟩ := (lasts_after _ es).services _ v added
  rw [after_append, after_cons]
  exact ⟨v', found, limit⟩

/-- **Flow control** of every receive loop of a service that was built for so many handlers at
once, in every run. -/
theorem flowControl (now : Timestamp) (fs : List Event) (registry : Registry)
    (limit : Option Nat) (es : List Event)
    (found : ((start now).after (fs ++ .addService (.build registry limit) :: es)).operations[op]?
      = some ⟨((start now).after fs).services.length, .receiving l⟩) :
    FlowControl now (fs ++ .addService (.build registry limit) :: es) op
      ((start now).after fs).services.length l
      (max (limit.getD Service.defaultMaxOutstanding) 1) := by
  have reachable : ((start now).after (fs ++ .addService (.build registry limit) :: es)).Reachable :=
    ⟨now, _, rfl⟩
  obtain ⟨v, service, permits⟩ := reachable.permits found
  obtain ⟨v', service', maxOutstanding⟩ := service_after_addService now fs (.build registry limit) es
  obtain rfl : v = v' := Option.some.inj (service.symm.trans service')
  have sum : l.free + l.running.length = max (limit.getD Service.defaultMaxOutstanding) 1 :=
    permits.trans maxOutstanding
  have accounted := handlers_after (s := start now) ⟨now, [], rfl⟩ op
    (fs ++ .addService (.build registry limit) :: es) fun k given => by cases found.symm.trans given
  rw [running_of_getElem? found] at accounted
  exact {
    permits := sum
    accounted := accounted
    bounded := by omega
    idle := by
      intro none
      rw [none, List.length_nil] at sum
      exact sum
    givesBack := fun i panicked runs => handlerEnded_givesBack found panicked runs
    goesOn := fun runs going e given => loop_goesOn found runs going given }

/-- A service that was built for no handlers allows one: while it runs, the second delivery waits,
and when it panics, the second handler begins. -/
def onePermit : List Event :=
  [.addToken, .direct (.perform .epoch (.createTopic "orders-topic")),
    .direct (.perform .epoch (.createSubscription "orders-topic" "orders-sub" (.ofSecs 10))),
    .begin 0 (.publish "orders" "made" (.ok .null)), .serve 0,
    .begin 0 (.publish "orders" "sent" (.ok .null)), .serve 1,
    .begin 0 (.receive "orders" 0), .serve 2, .turn 2, .turn 2, .turn 2, .turn 2,
    .handlerEnded 2 0 true, .turn 2]

theorem flowControl_onePermit :
    FlowControl .epoch ([] ++ .addService (.build ordersService.registry (some 0)) :: onePermit) 2 0
      ⟨"orders", "orders-sub", 0, .stream 0, .listening, 0, [1], [true]⟩ 1 :=
  flowControl .epoch [] ordersService.registry (some 0) onePermit rfl

end System

end MessageChannels
