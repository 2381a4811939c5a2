import MessageChannels.Proofs.Delivery.Backed
import MessageChannels.Proofs.Envelope.Handler
import MessageChannels.Proofs.Envelope.RetryAge

/-!
# Handlers that retry each delivery once

`RetriesOnce` says of a run what its handlers do: each makes one call on its envelope, which retries
it, lets the call complete, and drops the envelope after that. The transport may do anything
meanwhile, and so may the clock and everyone who publishes. `Standing` is what holds at every point
of such a run: a handler that made no call yet finds its envelope received, and a call that has
returned left its envelope settled.
-/

set_option autoImplicit false

namespace MessageChannels

namespace System

/-- The call that an event makes on an envelope: the envelope, and the operation that is begun. -/
def callIn (s : System) : Event → List (Nat × Nat)
  | .fail i _ _ => [(i, s.operations.length)]
  | _ => []

/-- The calls that a run makes on envelopes, in order. -/
def callsOf (s : System) : List Event → List (Nat × Nat)
  | [] => []
  | e :: es => s.callIn e ++ (s.step e).callsOf es

/-- The dead-letter channel of the service that received an envelope. -/
def deadLetterOf? (s : System) (i : Nat) : Option Channel :=
  (s.envelopes[i]?).bind fun made => (s.registry made.service).deadLetter?

/-- What handlers may do after the calls made so far: call once to retry, while they run and on a
service with a dead-letter channel; not give the call up; drop the envelope when the call has
returned. Deliveries are settled by no one else. -/
def Retries (s : System) (calls : List (Nat × Nat)) : Event → Prop
  | .fail i c _ => c = .retry ∧ s.handles i = true ∧ (∀ call ∈ calls, call.1 ≠ i) ∧
      (s.deadLetterOf? i).isSome = true
  | .ack _ => False
  | .nack _ => False
  | .release i => ∃ call ∈ calls, call.1 = i ∧ (s.result? call.2).isSome = true
  | .abandon op => ∀ call ∈ calls, call.2 ≠ op
  | .direct c => c.isSettlement = false
  | _ => True

/-- Handlers retry each delivery once, in a run after the calls made so far. -/
def RetriesOnce (s : System) (calls : List (Nat × Nat)) : List Event → Prop
  | [] => True
  | e :: es => s.Retries calls e ∧ (s.step e).RetriesOnce (calls ++ s.callIn e) es

variable {e : Event} {op i : Nat} {s : System} {calls : List (Nat × Nat)} {es fs : List Event}

theorem retriesOnce_append : s.RetriesOnce calls (es ++ fs) ↔
    s.RetriesOnce calls es ∧ (s.after es).RetriesOnce (calls ++ s.callsOf es) fs := by
  induction es generalizing s calls with
  | nil =>
    rw [callsOf, List.append_nil]
    exact ⟨fun h => ⟨trivial, h⟩, fun h => h.2⟩
  | cons e es ih =>
    rw [List.cons_append, RetriesOnce, ih, RetriesOnce, callsOf, List.append_assoc, and_assoc]
    rfl

/-- No call is given up. -/
theorem RetriesOnce.completes (run : s.RetriesOnce calls es) (call : (i, op) ∈ calls) :
    .abandon op ∉ es := by
  induction es generalizing s calls with
  | nil => exact List.not_mem_nil
  | cons e es ih =>
    intro h
    rcases List.mem_cons.1 h with rfl | later
    · exact run.1 (i, op) call rfl
    · exact ih run.2 (List.mem_append_left _ call) later

/-- No second call is made on an envelope. -/
theorem RetriesOnce.once {j : Nat} {c : FailureCommand} {cause : String}
    (run : s.RetriesOnce calls (es ++ .fail j c cause :: fs)) (call : (i, op) ∈ calls) : i ≠ j := by
  obtain ⟨_, ⟨_, _, uncalled, _⟩, _⟩ := retriesOnce_append.1 run
  exact uncalled (i, op) (List.mem_append_left _ call)

/-! ## Calls that wait and calls that have returned -/

/-- A call on an envelope waits for its dead letter, or has returned and left the envelope settled.
-/
inductive Called (s : System) (i op : Nat) : Prop where
  | waits (k : Nat) (p : Publishing) (channel : String)
      (standing : s.operations[op]? = some ⟨k, .publishing p⟩)
      (purpose : p.purpose = .deadLetter i true channel)
  | returned (k : Nat) (result : Except ChannelError Outcome) (d : Disposition)
      (standing : s.operations[op]? = some ⟨k, .finished result⟩)
      (settled : s.disposition? i = some d) (terminal : d.isTerminal = true)

theorem Called.step (reachable : s.Reachable) (called : s.Called i op) (kept : e ≠ .abandon op) :
    (s.step e).Called i op := by
  have completes : .abandon op ∉ [e] := fun h => kept (List.mem_singleton.1 h).symm
  cases called with
  | waits k p channel standing purpose =>
    obtain ⟨_, hnone, hsome⟩ := route_after standing purpose completes
    cases hreply : s.replyTo? op [e] with
    | none => exact .waits k p channel (hnone hreply).1 purpose
    | some reply =>
      have settled := (route_settles reachable standing purpose completes).2 reply hreply
      exact .returned k _ _ (hsome reply hreply).1 settled (by simp)
  | returned k result d standing settled terminal =>
    exact .returned k result d (finished_after standing [e]).1
      (disposition_after reachable settled terminal [e]) terminal

/-- What a call that has returned leaves behind. -/
theorem Called.settled (called : s.Called i op) (returned : (s.result? op).isSome = true) :
    ∃ d, s.disposition? i = some d ∧ d.isTerminal = true := by
  cases called with
  | waits k p channel standing purpose =>
    rw [result?, standing] at returned
    cases returned
  | returned k result d standing settled terminal => exact ⟨d, settled, terminal⟩

/-! ## What holds at every point -/

/-- What holds at every point of a run in which handlers retry each delivery once. -/
structure Standing (s : System) (calls : List (Nat × Nat)) : Prop where
  reachable : s.Reachable
  owned : ∃ outside, s.Owned outside
  backed : s.Backed
  uncalled : ∀ i, s.handles i = true → (∀ call ∈ calls, call.1 ≠ i) →
    s.disposition? i = some .received
  called : ∀ call ∈ calls, s.Called call.1 call.2

theorem standing_start (now : Timestamp) : (start now).Standing [] where
  reachable := ⟨now, [], rfl⟩
  owned := ⟨[], owned_start now⟩
  backed := backed_start now
  uncalled := by intro i h; cases h
  called := by intro call h; cases h

/-- A handler calls on an envelope that is received, of a service that someone holds. -/
theorem Standing.ready (standing : s.Standing calls) {c : FailureCommand} {cause : String}
    (retries : s.Retries calls (.fail i c cause)) :
    ∃ made v source target, s.envelopes[i]? = some made ∧ s.service? made.service = some v ∧
      v.registry.lookup? made.channel = some source ∧ v.registry.deadLetter? = some target ∧
      made.disposition = .received := by
  obtain ⟨_, handles, uncalled, configured⟩ := retries
  obtain ⟨made, v, found, alive⟩ := service_of_handles standing.reachable handles
  obtain ⟨source, known⟩ := standing.reachable.source found alive
  have received := standing.uncalled i handles uncalled
  rw [disposition?, found] at received
  have registry : s.deadLetterOf? i = v.registry.deadLetter? := by
    simp [deadLetterOf?, found, System.registry, service?_eq_some alive]
  rw [registry] at configured
  obtain ⟨target, hTarget⟩ := Option.isSome_iff_exists.1 configured
  exact ⟨made, v, source, target, found, alive, known, hTarget, Option.some.inj received⟩

theorem Standing.called_fail (standing : s.Standing calls) {cause : String}
    (retries : s.Retries calls (.fail i .retry cause)) :
    (s.step (.fail i .retry cause)).Called i s.operations.length := by
  obtain ⟨made, v, source, target, found, alive, known, configured, received⟩ :=
    standing.ready retries
  cases retryBegun standing.reachable found alive known configured received cause with
  | returned young finished unasked nacked => exact .returned _ _ _ finished nacked rfl
  | refused old closed finished unasked nacked => exact .returned _ _ _ finished nacked rfl
  | asked old opened publishing once => exact .waits _ _ _ publishing rfl

/-- An envelope on which no call is made stays received while its handler runs. -/
theorem received_step (reachable : s.Reachable) (standing : s.disposition? i = some .received)
    (acked : e ≠ .ack i) (nacked : e ≠ .nack i) (uncalled : ∀ c cause, e ≠ .fail i c cause) :
    (s.step e).disposition? i = some .received := by
  obtain ⟨made, found, received⟩ := Option.map_eq_some_iff.1 standing
  by_cases turns : ∃ op, e = .turn op
  · obtain ⟨op, rfl⟩ := turns
    have bound := (List.getElem?_eq_some_iff.1 found).1
    have same : (s.turn op).1.envelopes[i]? = s.envelopes[i]? := by
      rcases s.turn_cases op with ⟨k, l, d, _, heq⟩ | undisturbed
      · rw [heq]
        show (s.addEnvelope k l.channel d).1.envelopes[i]? = _
        rw [getElem?_addEnvelope, if_neg (by omega)]
      · exact undisturbed.envelopes i bound
    exact (congrArg (Option.map Envelope.disposition) same).trans standing
  · obtain ⟨d, found', turn⟩ := turn_step reachable found e
    rw [disposition?_of_getElem? found']
    cases turn with
    | stayed => exact congrArg some received
    | settled v _ cause =>
      rcases cause with h | h | ⟨c, text, h⟩ | h
      · exact absurd h acked
      · exact absurd h nacked
      · exact absurd h (uncalled c text)
      · exact absurd ⟨_, h⟩ turns
    | entered _ c text cause => exact absurd cause (uncalled c text)
    | left v pending => cases received.symm.trans pending

theorem Standing.spares (standing : s.Standing calls) (retries : s.Retries calls e) :
    s.Spares e := by
  cases e with
  | release i =>
    obtain ⟨call, member, rfl, returned⟩ := retries
    obtain ⟨d, settled, terminal⟩ := (standing.called call member).settled returned
    intro made found
    rw [disposition?, found] at settled
    exact Option.some.inj settled ▸ terminal
  | direct c => exact retries
  | _ => trivial

theorem Standing.step (standing : s.Standing calls) (retries : s.Retries calls e) :
    (s.step e).Standing (calls ++ s.callIn e) where
  reachable := standing.reachable.step e
  owned := by
    obtain ⟨outside, owned⟩ := standing.owned
    exact ⟨_, owned_step standing.reachable.sound owned e⟩
  backed := by
    obtain ⟨outside, owned⟩ := standing.owned
    exact backed_step standing.reachable.sound owned standing.backed (standing.spares retries)
  uncalled := by
    intro i handles uncalled
    obtain ⟨k, o', found', runs⟩ := handles_iff.1 handles
    rcases running_step s e found' runs with ⟨o, found, _, old⟩ | ⟨made, found, received, _⟩
    · have before : s.disposition? i = some .received :=
        standing.uncalled i (handles_iff.2 ⟨k, o, found, old⟩) fun call member =>
          uncalled call (List.mem_append_left _ member)
      refine received_step standing.reachable before ?_ ?_ ?_
      · rintro rfl
        exact retries
      · rintro rfl
        exact retries
      · rintro c cause rfl
        exact uncalled (i, s.operations.length) (List.mem_append_right _ List.mem_cons_self) rfl
    · rw [disposition?, found, Option.map_some, received]
  called := by
    intro call member
    rcases List.mem_append.1 member with old | new
    · apply (standing.called call old).step standing.reachable
      rintro rfl
      exact retries call old rfl
    · cases e with
      | fail i c cause =>
        obtain rfl := List.mem_singleton.1 new
        obtain ⟨rfl, rest⟩ := retries
        exact standing.called_fail ⟨rfl, rest⟩
      | _ => cases new

theorem Standing.after (standing : s.Standing calls) (run : s.RetriesOnce calls es) :
    (s.after es).Standing (calls ++ s.callsOf es) := by
  induction es generalizing s calls with
  | nil =>
    rw [callsOf, List.append_nil]
    exact standing
  | cons e es ih =>
    have next := ih (standing.step run.1) run.2
    rw [List.append_assoc] at next
    exact next

end System

end MessageChannels
