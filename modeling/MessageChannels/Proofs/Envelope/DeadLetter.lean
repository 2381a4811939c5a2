import MessageChannels.Proofs.Envelope.Route

/-!
# Dead letters are neither lost nor multiplied

A call that routes an envelope to the dead letters makes one attempt if it finds the envelope
received or acknowledged, and none otherwise. The reply to the attempt settles an envelope that was
received; one that was acknowledged is left alone. Over a whole run there are as many copies as
attempts that were accepted.
-/

set_option autoImplicit false

namespace MessageChannels

namespace System

variable {op i : Nat} {s : System} {made : Envelope}

/-! ## Calls -/

/-- What comes of a call in a system that routes an envelope to the dead letters: the call leads to
the system `s₁`, which goes on with `es`. -/
structure RouteCall (s s₁ : System) (i : Nat) (made : Envelope) (v : Service) (cause : String)
    (es : List Event) : Prop where
  /-- Without a dead-letter channel nothing is attempted, and the envelope is left alone. -/
  unconfigured : v.registry.deadLetter? = none →
    (s₁.after es).result? s.operations.length = some (.error .noDeadLetterChannel) ∧
      (s₁.after es).requests s.operations.length = [] ∧
      s₁.disposition? i = some made.disposition
  /-- Nothing is attempted for an envelope that was returned or waits already. -/
  idle : ∀ target, v.registry.deadLetter? = some target →
    made.disposition = .nacked ∨ made.disposition = .deadLetterPending →
    (s₁.after es).result? s.operations.length = some (.ok .done) ∧
      (s₁.after es).requests s.operations.length = [] ∧
      s₁.disposition? i = some made.disposition
  /-- A closed service refuses the attempt. -/
  refused : ∀ target, v.registry.deadLetter? = some target →
    made.disposition = .received ∨ made.disposition = .acked → v.closed = true →
    (s₁.after es).result? s.operations.length = some (.error .closed) ∧
      (s₁.after es).requests s.operations.length = [] ∧
      (s₁.after es).disposition? i
        = some (if made.disposition = .received then .nacked else .acked)
  /-- An envelope that was received waits for the reply, which settles it. -/
  received : ∀ target, v.registry.deadLetter? = some target →
    made.disposition = .received → v.closed = false →
    ∃ source, v.registry.lookup? made.channel = some source ∧
      s₁.Attempt s.operations.length (routePublishing i made target source cause true) es ∧
      (s₁.replyTo? s.operations.length es = none →
        (s₁.after es).disposition? i = some .deadLetterPending) ∧
      ∀ reply, s₁.replyTo? s.operations.length es = some reply →
        (s₁.after es).disposition? i = some (Settlement.ofReply reply).disposition
  /-- An envelope that was acknowledged is left alone. -/
  acked : ∀ target, v.registry.deadLetter? = some target →
    made.disposition = .acked → v.closed = false →
    ∃ source, v.registry.lookup? made.channel = some source ∧
      s₁.Attempt s.operations.length (routePublishing i made target source cause false) es ∧
      (s₁.after es).disposition? i = some .acked ∧
      (s₁.after es).settlements i = s.settlements i

/-- **What comes of a call that routes an envelope**, whatever happens before and after it. -/
theorem routeCall (reachable : s.Reachable) {v : Service} (found : s.envelopes[i]? = some made)
    (alive : s.service? made.service = some v) {cause : String} {s₁ : System}
    (reachable₁ : s₁.Reachable)
    (begun : s₁ = (s.addOperation made.service).route s.operations.length i made v cause)
    {es : List Event} (completes : .abandon s.operations.length ∉ es) :
    s.RouteCall s₁ i made v cause es := by
  obtain ⟨source, known⟩ := reachable.source found alive
  have cases := routeBegun (a := s.addOperation made.service) (i := i) (s.getElem?_addOperation _)
    (reachable.requests_eq_nil (Nat.le_refl _)) found known (isClosed_addOperation alive) cause
  rw [← begun] at cases
  have ends {result : Except ChannelError Outcome}
      (standing : s₁.operations[s.operations.length]? = some ⟨made.service, .finished result⟩)
      (unasked : s₁.requests s.operations.length = []) :
      (s₁.after es).result? s.operations.length = some result ∧
        (s₁.after es).requests s.operations.length = [] := by
    obtain ⟨hlast, hrequests, _⟩ := finished_after standing es
    exact ⟨result?_of_finished hlast, hrequests.trans unasked⟩
  have same (h : s₁.envelopes[i]? = some made) : s₁.disposition? i = some made.disposition := by
    rw [disposition?, h, Option.map_some]
  cases cases with
  | unconfigured none standing unasked kept =>
    obtain ⟨result, requests⟩ := ends standing unasked
    have never {target : Channel} {P : Prop} (h : v.registry.deadLetter? = some target) : P := by
      cases none.symm.trans h
    exact ⟨fun _ => ⟨result, requests, same kept⟩, fun _ => never, fun _ => never, fun _ => never,
      fun _ => never⟩
  | idle target configured settled standing unasked kept =>
    obtain ⟨result, requests⟩ := ends standing unasked
    have never {P : Prop} (free : made.disposition = .received ∨ made.disposition = .acked) : P := by
      rcases settled with h | h <;> rcases free with h' | h' <;> cases h.symm.trans h'
    exact ⟨fun none => absurd (configured.symm.trans none) (Option.some_ne_none _),
      fun _ _ _ => ⟨result, requests, same kept⟩, fun _ _ free => never free,
      fun _ _ received => never (Or.inl received), fun _ _ acked => never (Or.inr acked)⟩
  | refused target configured free closed standing unasked settled =>
    obtain ⟨result, requests⟩ := ends standing unasked
    have last := disposition_after reachable₁ settled (by split <;> rfl) es
    have never {P : Prop} (opened : v.closed = false) : P := by
      cases closed.symm.trans opened
    refine ⟨fun none => absurd (configured.symm.trans none) (Option.some_ne_none _), fun _ _ settled => ?_,
      fun _ _ _ _ => ⟨result, requests, last⟩, fun _ _ _ => never, fun _ _ _ => never⟩
    rcases settled with h | h <;> rcases free with h' | h' <;> cases h.symm.trans h'
  | asked target waits configured free opened standing once alone =>
    have attempt := attempt standing rfl once completes
    have never {P : Prop} (closed : v.closed = true) : P := by
      cases closed.symm.trans opened
    have unique {target' : Channel} (h : v.registry.deadLetter? = some target') :
        target' = target := Option.some.inj (h.symm.trans configured)
    refine ⟨fun none => absurd (configured.symm.trans none) (Option.some_ne_none _), fun _ _ settled => ?_,
      fun _ _ _ => never, fun _ h received _ => ?_, fun _ h acked _ => ?_⟩
    · cases waits <;> rcases settled with h | h <;> cases h.symm.trans free
    · obtain rfl := unique h
      obtain rfl : waits = true := by
        cases waits with
        | true => rfl
        | false => cases received.symm.trans free
      exact ⟨source, known, attempt, route_settles reachable₁ standing rfl completes⟩
    · obtain rfl := unique h
      obtain rfl : waits = false := by
        cases waits with
        | false => rfl
        | true => cases acked.symm.trans free
      have last := terminal_after reachable₁ (alone rfl) (by rw [acked]; rfl) es
      refine ⟨source, known, attempt, ?_, ?_⟩
      · rw [disposition?, last, Option.map_some, acked]
      · rw [(reachable₁.after es).settled.settlements i made last,
          reachable.settled.settlements i made found]

/-! ## All calls of a run -/

/-- The operation that an event begins to route an envelope to the dead letters. -/
def deadLetterCall (s : System) (i : Nat) : Event → List Nat
  | .fail j .deadLetter _ => if j = i then [s.operations.length] else []
  | _ => []

/-- The operations that a run begins to route an envelope to the dead letters. -/
def deadLetterCalls (s : System) (i : Nat) : List Event → List Nat
  | [] => []
  | e :: es => s.deadLetterCall i e ++ (s.step e).deadLetterCalls i es

/-- Whether a run replies to an operation that what it asked was accepted. -/
def isAccepted (s : System) (es : List Event) (op : Nat) : Bool :=
  match s.replyTo? op es with
  | some (.ok _) => true
  | _ => false

/-- A call that routes an envelope has ended at once, or publishes a dead letter. -/
theorem fail_standing (reachable : s.Reachable) (i : Nat) (cause : String) :
    (∃ k result, (s.step (.fail i .deadLetter cause)).operations[s.operations.length]?
        = some ⟨k, .finished result⟩) ∨
      ∃ k p waits channel, (s.step (.fail i .deadLetter cause)).operations[s.operations.length]?
        = some ⟨k, .publishing p⟩ ∧ p.purpose = .deadLetter i waits channel := by
  have gone (k : Nat) : ∃ j result, ((s.addOperation k).finish s.operations.length
      (.error .closed)).operations[s.operations.length]? = some ⟨j, .finished result⟩ :=
    ⟨k, _, getElem?_setState_self (s.getElem?_addOperation k) _⟩
  cases found : s.envelopes[i]? with
  | none =>
    left
    simp only [step, beginFailure, found]
    exact gone 0
  | some made =>
    cases alive : s.service? made.service with
    | none =>
      left
      simp only [step, beginFailure, found, alive]
      exact gone made.service
    | some v =>
      obtain ⟨source, known⟩ := reachable.source found alive
      have cases := routeBegun (a := s.addOperation made.service) (i := i)
        (s.getElem?_addOperation _) (reachable.requests_eq_nil (Nat.le_refl _)) found known
        (isClosed_addOperation alive) cause
      rw [step_fail found alive]
      cases cases with
      | unconfigured none standing => exact Or.inl ⟨_, _, standing⟩
      | idle target configured settled standing => exact Or.inl ⟨_, _, standing⟩
      | refused target configured free closed standing => exact Or.inl ⟨_, _, standing⟩
      | asked target waits configured free opened standing =>
        exact Or.inr ⟨_, _, waits, _, standing, rfl⟩

/-- Nothing comes of an operation before the event that begins it. -/
theorem skip_unbegun (s : System) {op : Nat} (before : List Event) (e : Event)
    (unbegun : (s.after before).operations.length ≤ op) (es : List Event) :
    s.acceptedFrom op (before ++ e :: es) = ((s.after before).step e).acceptedFrom op es ∧
      s.replyTo? op (before ++ e :: es) = ((s.after before).step e).replyTo? op es := by
  induction before generalizing s with
  | nil =>
    obtain ⟨noReply, nothing⟩ := unbegun_step (s := s) unbegun e
    constructor
    · rw [List.nil_append, acceptedFrom, nothing]
      rfl
    · rw [List.nil_append, replyTo?, noReply]
      rfl
  | cons e' before ih =>
    have earlier : s.operations.length ≤ op :=
      Nat.le_trans (length_le_after s (e' :: before)) unbegun
    obtain ⟨noReply, nothing⟩ := unbegun_step earlier e'
    obtain ⟨haccepted, hreply⟩ := ih (s.step e') unbegun
    constructor
    · rw [List.cons_append, acceptedFrom, nothing]
      exact haccepted
    · rw [List.cons_append, replyTo?, noReply]
      exact hreply

theorem deadLetterCalls_append (s : System) (i : Nat) (es fs : List Event) :
    s.deadLetterCalls i (es ++ fs) = s.deadLetterCalls i es ++ (s.after es).deadLetterCalls i fs := by
  induction es generalizing s with
  | nil => rfl
  | cons e es ih =>
    rw [List.cons_append, deadLetterCalls, ih, deadLetterCalls, List.append_assoc]
    rfl

theorem mem_deadLetterCalls {op : Nat} {es : List Event} (call : op ∈ s.deadLetterCalls i es) :
    ∃ before cause after, es = before ++ .fail i .deadLetter cause :: after ∧
      op = (s.after before).operations.length := by
  induction es generalizing s with
  | nil => cases call
  | cons e es ih =>
    rcases List.mem_append.1 call with now | later
    · unfold deadLetterCall at now
      split at now
      · rename_i j cause
        split at now
        · rename_i h
          subst h
          exact ⟨[], cause, es, rfl, List.mem_singleton.1 now⟩
        · cases now
      · cases now
    · obtain ⟨before, cause, after, rfl, hop⟩ := ih later
      exact ⟨e :: before, cause, after, rfl, hop⟩

/-- The broker accepts one copy from a call whose attempt was accepted, and none from another. -/
theorem length_acceptedFrom (reachable : s.Reachable) {es : List Event}
    (call : op ∈ s.deadLetterCalls i es) (completes : .abandon op ∉ es)
    (genuine : ∀ r, .reply op (.ok r) ∉ es) :
    (s.acceptedFrom op es).length = if s.isAccepted es op then 1 else 0 := by
  obtain ⟨before, cause, after, rfl, hop⟩ := mem_deadLetterCalls call
  obtain ⟨haccepted, hreply⟩ := skip_unbegun s before (.fail i .deadLetter cause)
    (Nat.le_of_eq hop.symm) after
  have completes' : .abandon op ∉ after := fun h =>
    completes (List.mem_append_right _ (List.mem_cons_of_mem _ h))
  have genuine' : ∀ r, .reply op (.ok r) ∉ after := fun r h =>
    genuine r (List.mem_append_right _ (List.mem_cons_of_mem _ h))
  rw [isAccepted, haccepted, hreply]
  rcases fail_standing (reachable.after before) i cause with
    ⟨k, result, standing⟩ | ⟨k, p, waits, channel, standing, purpose⟩
  · rw [← hop] at standing
    obtain ⟨_, _, none, nothing⟩ := finished_after standing after
    rw [nothing, none]
    rfl
  · rw [← hop] at standing
    obtain ⟨_, hnone, hsome⟩ := route_after standing purpose completes'
    cases h : ((s.after before).step (.fail i .deadLetter cause)).replyTo? op after with
    | none =>
      rw [(hnone h).2]
      rfl
    | some reply =>
      have copied := (hsome reply h).2 genuine'
      cases reply with
      | ok r =>
        obtain ⟨m, heq, _⟩ := copied
        rw [heq]
        rfl
      | error err =>
        rw [show _ = [] from copied]
        rfl

theorem length_flatMap_eq_filter {ops : List Nat} {f : Nat → List (String × Message)}
    {accepted : Nat → Bool} (h : ∀ op ∈ ops, (f op).length = if accepted op then 1 else 0) :
    (ops.flatMap f).length = (ops.filter accepted).length := by
  induction ops with
  | nil => rfl
  | cons op ops ih =>
    have rest := ih fun k hk => h k (List.mem_cons_of_mem _ hk)
    rw [List.flatMap_cons, List.length_append, h op List.mem_cons_self, rest]
    cases hop : accepted op
    · simp [hop]
    · simp [hop, Nat.add_comm]

/-- Where the broker's reply acknowledges an envelope, the copy was published first. -/
def CopiedFirst (s : System) (op : Nat) : Prop :=
  ∃ b reply topic m, s.request? op = some (.publish topic ⟨m.data, m.attributes⟩) ∧
    (topic, m) ∈ b.published ∧
    s.step (.serve op) = { s with broker := b }.answer op (.ok reply)

theorem copiedFirst (reachable : s.Reachable) (routing : s.routing? op = some i)
    (acked : (s.step (.serve op)).disposition? i = some .acked) : s.CopiedFirst op := by
  obtain ⟨⟨k, state⟩, standing, hrouting⟩ := Option.bind_eq_some_iff.1 routing
  obtain ⟨p, channel, rfl, purpose⟩ := OperationState.routing?_eq_some hrouting
  have asks : s.request? op = some (.publish p.topic p.message) := by
    simp [request?, standing, OperationState.request?]
  have served : s.step (.serve op)
      = { s with broker := (s.broker.perform s.clock (.publish p.topic p.message)).1 }.answer op
          (s.broker.perform s.clock (.publish p.topic p.message)).2 := by
    show s.serve op = _
    simp only [serve, asks]
  rcases s.broker.perform_publish s.clock p.topic p.message with ⟨err, failed, _⟩ | ⟨ok, grown⟩
  · have settled : (s.step (.serve op)).disposition? i = some .nacked := by
      rw [served, failed]
      refine disposition_answer (reachable.settled.with_broker _) ?_ (.error err)
      exact routing
    cases settled.symm.trans acked
  · rw [ok] at served
    refine ⟨_, _, p.topic, s.broker.stamped s.clock p.message, asks, ?_, served⟩
    rw [grown]
    exact List.mem_append_right _ (List.mem_singleton.2 rfl)

/-- What comes of all calls that route an envelope to the dead letters in a run. -/
structure RouteCalls (s : System) (i : Nat) (es : List Event) : Prop where
  each : ∀ before cause after made v, es = before ++ .fail i .deadLetter cause :: after →
    (s.after before).envelopes[i]? = some made →
    (s.after before).service? made.service = some v →
    (s.after before).RouteCall ((s.after before).step (.fail i .deadLetter cause)) i made v cause
      after
  /-- There are as many copies as attempts that were accepted. -/
  copies : (∀ op ∈ s.deadLetterCalls i es, ∀ r, .reply op (.ok r) ∉ es) →
    ((s.deadLetterCalls i es).flatMap fun op => s.acceptedFrom op es).length
      = ((s.deadLetterCalls i es).filter (s.isAccepted es)).length
  /-- The original is acknowledged by a route only when the copy is published. -/
  first : ∀ before op after, es = before ++ .serve op :: after →
    (s.after before).routing? op = some i →
    ((s.after before).step (.serve op)).disposition? i = some .acked →
    (s.after before).CopiedFirst op

/-- **Dead letters are neither lost nor multiplied**, in every run in which no call that routes the
envelope is given up. -/
theorem routeCalls (reachable : s.Reachable) {es : List Event}
    (completes : ∀ op ∈ s.deadLetterCalls i es, .abandon op ∉ es) : s.RouteCalls i es where
  each := by
    rintro before cause after made v rfl found alive
    have call : (s.after before).operations.length
        ∈ s.deadLetterCalls i (before ++ .fail i .deadLetter cause :: after) := by
      rw [deadLetterCalls_append]
      refine List.mem_append_right _ (List.mem_append_left _ ?_)
      simp [deadLetterCall]
    have kept : .abandon (s.after before).operations.length ∉ after := fun h =>
      completes _ call (List.mem_append_right _ (List.mem_cons_of_mem _ h))
    exact routeCall (reachable.after before) found alive ((reachable.after before).step _)
      (step_fail found alive .deadLetter cause) kept
  copies := by
    intro genuine
    exact length_flatMap_eq_filter fun op call =>
      length_acceptedFrom reachable call (completes op call) (genuine op call)
  first := by
    rintro before op after rfl routing acked
    exact copiedFirst (reachable.after before) routing acked

/-- Two calls route an envelope, the second while the first waits; the broker takes the copy of the
first, and a third call finds the envelope acknowledged and makes another copy. -/
def routedTwice : List Event :=
  [.fail 0 .deadLetter "bad", .fail 0 .deadLetter "worse", .serve 2, .fail 0 .deadLetter "late",
    .serve 4]

theorem routeCalls_routedTwice :
    ((start .epoch).after oneReceived).RouteCalls 0 routedTwice ∧
      ((start .epoch).after oneReceived).deadLetterCalls 0 routedTwice = [2, 3, 4] := by
  refine ⟨routeCalls ⟨.epoch, _, rfl⟩ fun op _ h => ?_, by decide +kernel⟩
  simp [routedTwice] at h

end System

end MessageChannels
