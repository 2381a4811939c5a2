import MessageChannels.Proofs.System.Request

/-!
# A dead letter and the reply to it

An operation that publishes a dead letter waits until it gets a reply. The first reply ends it,
settles the envelope if that waits, and is what the call returns; the broker accepts one copy if it
replies that it did, and none otherwise.
-/

set_option autoImplicit false

namespace MessageChannels

/-- The settlement of an envelope whose dead letter got a reply. -/
def Settlement.ofReply : Except TransportError Reply → Settlement
  | .ok _ => .ack
  | .error _ => .nack

namespace System

variable {e : Event} {op i k : Nat} {s s' : System} {p : Publishing} {waits : Bool}
  {channel : String}

/-- What the call that routed an envelope returns. -/
def routeResult (p : Publishing) : Except TransportError Reply → Except ChannelError Outcome
  | .ok _ => .ok .done
  | .error err => .error (.ofTransport p.operation p.topic err)

/-- The system with more notes in its journal. -/
def noted (s : System) (notes : List Note) : System := notes.foldl note s

/-- What a reply does to an operation that publishes a dead letter, and to the envelope if it waits.
-/
theorem answer_route (standing : s.operations[op]? = some ⟨k, .publishing p⟩)
    (purpose : p.purpose = .deadLetter i waits channel) (reply : Except TransportError Reply) :
    ∃ notes counter, s.answer op reply
      = ((if waits then (s.noted notes).settleFrom i .deadLetterPending (.ofReply reply)
          else s.noted notes).count counter channel).finish op (routeResult p reply) := by
  unfold answer
  simp only [standing]
  cases reply with
  | ok r =>
    refine ⟨[.counted .published p.label, .counted .publishDurations p.label], .deadLettered, ?_⟩
    simp only [answerPublish, endPublish, purpose]
    rfl
  | error err =>
    refine ⟨[.counted .publishErrors p.label], .deadLetterErrors, ?_⟩
    simp only [answerPublish, endPublish, purpose]
    rfl

/-! ## What notes and settlements leave alone -/

theorem envelopes_noted (s : System) (notes : List Note) :
    (s.noted notes).envelopes = s.envelopes := by
  induction notes generalizing s with
  | nil => rfl
  | cons n notes ih => exact ih (s.note n)

theorem operations_noted (s : System) (notes : List Note) :
    (s.noted notes).operations = s.operations := by
  induction notes generalizing s with
  | nil => rfl
  | cons n notes ih => exact ih (s.note n)

theorem broker_noted (s : System) (notes : List Note) : (s.noted notes).broker = s.broker := by
  induction notes generalizing s with
  | nil => rfl
  | cons n notes ih => exact ih (s.note n)

theorem requests_noted (s : System) (notes : List Note) (k : Nat) :
    (s.noted notes).requests k = s.requests k := by
  induction notes generalizing s with
  | nil => rfl
  | cons n notes ih => exact (ih (s.note n)).trans (requests_note s n k)

theorem published_settleFrom (s : System) (j : Nat) (d : Disposition) (v : Settlement) :
    (s.settleFrom j d v).broker.published = s.broker.published := by
  rcases s.settleFrom_cases j d v with same | ⟨made, _, _, heq⟩
  · rw [same]
  · rw [heq]
    show ((s.setDisposition j v.disposition).useAcker j made.acker v).broker.published = _
    unfold useAcker
    cases made.acker with
    | scripted id => rfl
    | held n =>
      cases v with
      | ack => exact s.broker.published_ack n
      | nack => exact s.broker.published_nack n

/-! ## The reply -/

/-- A reply ends the publish of a dead letter, asks for nothing and publishes nothing. -/
theorem answered_route (standing : s.operations[op]? = some ⟨k, .publishing p⟩)
    (purpose : p.purpose = .deadLetter i waits channel) (reply : Except TransportError Reply) :
    (s.answer op reply).operations[op]? = some ⟨k, .finished (routeResult p reply)⟩ ∧
      (s.answer op reply).requests op = s.requests op ∧
      (s.answer op reply).broker.published = s.broker.published := by
  obtain ⟨notes, counter, heq⟩ := answer_route standing purpose reply
  generalize hn : (if waits then (s.noted notes).settleFrom i .deadLetterPending (.ofReply reply)
    else s.noted notes) = n at heq
  have operations : n.operations = s.operations := by
    rw [← hn]
    split
    · rw [operations_settleFrom, operations_noted]
    · rw [operations_noted]
  have requests : n.requests op = s.requests op := by
    rw [← hn]
    split
    · rw [requests_settleFrom, requests_noted]
    · rw [requests_noted]
  have published : n.broker.published = s.broker.published := by
    rw [← hn]
    split
    · rw [published_settleFrom, broker_noted]
    · rw [broker_noted]
  rw [heq]
  refine ⟨?_, ?_, published⟩
  · refine getElem?_setState_self (o := ⟨k, .publishing p⟩) ?_ _
    show n.operations[op]? = _
    rw [operations, standing]
  · exact (requests_note n _ op).trans requests

/-- An event replies to a publish: with a reply of its own, or with the broker's after its work. -/
def Replies (s : System) (op : Nat) (p : Publishing) (e : Event)
    (reply : Except TransportError Reply) : Prop :=
  e = .reply op reply ∧ s.step e = s.answer op reply ∨
    e = .serve op ∧ reply = (s.broker.perform s.clock (.publish p.topic p.message)).2 ∧
      s.step e
        = { s with broker := (s.broker.perform s.clock (.publish p.topic p.message)).1 }.answer op
            reply

/-- An event about a publish replies to it, or does nothing. -/
theorem step_of_publishing (standing : s.operations[op]? = some ⟨k, .publishing p⟩)
    (about : e.operation s = op) (kept : e ≠ .abandon op) :
    (∃ reply, s.replyIn op e = some reply ∧ s.Replies op p e reply) ∨
      s.step e = s ∧ s.replyIn op e = none ∧ s.acceptedIn op e = [] := by
  have begun := (List.getElem?_eq_some_iff.1 standing).1
  have asks : s.request? op = some (.publish p.topic p.message) := by
    simp [request?, standing, OperationState.request?]
  have state : (s.operations[op]?).map Operation.state = some (.publishing p) := by
    rw [standing]
    rfl
  cases e with
  | serve j =>
    obtain rfl : j = op := about
    refine Or.inl ⟨(s.broker.perform s.clock (.publish p.topic p.message)).2, ?_,
      Or.inr ⟨rfl, rfl, ?_⟩⟩
    · simp only [replyIn, if_true, asks, Option.map_some]
    · show s.serve j = _
      simp only [serve, asks]
  | reply j r =>
    obtain rfl : j = op := about
    exact Or.inl ⟨r, by simp [replyIn, asks], Or.inl ⟨rfl, rfl⟩⟩
  | turn j =>
    obtain rfl : j = op := about
    refine Or.inr ⟨?_, rfl, rfl⟩
    show (s.turn j).1 = s
    simp only [turn, standing]
  | handlerEnded j i panicked =>
    obtain rfl : j = op := about
    refine Or.inr ⟨?_, rfl, rfl⟩
    show s.handlerEnded j i panicked = s
    simp only [handlerEnded, state]
  | abandon j =>
    obtain rfl : j = op := about
    exact absurd rfl kept
  | _ =>
    have unbegun : s.operations.length = op := about
    omega

/-- An event that is not about an operation gives it no reply and makes nothing accepted from it. -/
theorem quiet_of_not_about (other : op ≠ e.operation s) :
    s.replyIn op e = none ∧ s.acceptedIn op e = [] := by
  cases e with
  | serve j =>
    have hne : j ≠ op := Ne.symm other
    exact ⟨if_neg hne, if_neg hne⟩
  | reply j r =>
    have hne : ¬ (j = op ∧ (s.request? op).isSome) := fun h => Ne.symm other h.1
    exact ⟨if_neg hne, rfl⟩
  | _ => exact ⟨rfl, rfl⟩

theorem acceptedFrom_append (s : System) (op : Nat) (es fs : List Event) :
    s.acceptedFrom op (es ++ fs) = s.acceptedFrom op es ++ (s.after es).acceptedFrom op fs := by
  induction es generalizing s with
  | nil => rfl
  | cons e es ih =>
    rw [List.cons_append, acceptedFrom, ih, acceptedFrom, List.append_assoc]
    rfl

/-- Until the first reply, the publish of a dead letter waits and nothing comes of it. -/
theorem waits_or_replied (standing : s.operations[op]? = some ⟨k, .publishing p⟩)
    {es : List Event} (completes : .abandon op ∉ es) :
    (s.replyTo? op es = none ∧ (s.after es).operations[op]? = some ⟨k, .publishing p⟩ ∧
        (s.after es).requests op = s.requests op ∧ s.acceptedFrom op es = []) ∨
      ∃ before e after reply, es = before ++ e :: after ∧ s.replyTo? op es = some reply ∧
        (s.after before).operations[op]? = some ⟨k, .publishing p⟩ ∧
        (s.after before).requests op = s.requests op ∧ s.acceptedFrom op before = [] ∧
        (s.after before).Replies op p e reply := by
  induction es generalizing s with
  | nil => exact Or.inl ⟨rfl, standing, rfl, rfl⟩
  | cons e es ih =>
    have begun := (List.getElem?_eq_some_iff.1 standing).1
    have kept : e ≠ .abandon op := fun h => completes (h ▸ List.mem_cons_self)
    have completes : .abandon op ∉ es := fun h => completes (List.mem_cons_of_mem _ h)
    -- The reply is the first event, or comes after one that leaves the operation alone.
    have cases : (∃ reply, s.replyIn op e = some reply ∧ s.Replies op p e reply) ∨
        (s.step e).operations[op]? = some ⟨k, .publishing p⟩ ∧
          (s.step e).requests op = s.requests op ∧ s.replyIn op e = none ∧
          s.acceptedIn op e = [] := by
      by_cases about : e.operation s = op
      · rcases step_of_publishing standing about kept with replied | ⟨same, noReply, nothing⟩
        · exact Or.inl replied
        · rw [same]
          exact Or.inr ⟨standing, rfl, noReply, nothing⟩
      · obtain ⟨same, requests⟩ := s.frame_step e (Ne.symm about) begun
        obtain ⟨noReply, nothing⟩ := quiet_of_not_about (Ne.symm about)
        exact Or.inr ⟨same.trans standing, requests, noReply, nothing⟩
    rcases cases with ⟨reply, hreply, replies⟩ | ⟨standing', requests', noReply, nothing⟩
    · refine Or.inr ⟨[], e, es, reply, rfl, ?_, standing, rfl, rfl, replies⟩
      rw [replyTo?, hreply]
    · have skip : s.replyTo? op (e :: es) = (s.step e).replyTo? op es := by
        rw [replyTo?, noReply]
      rcases ih standing' completes with
        ⟨hreply, hstanding, hrequests, haccepted⟩ |
          ⟨before, e', after, reply, rfl, hreply, hstanding, hrequests, haccepted, replies⟩
      · refine Or.inl ⟨skip.trans hreply, hstanding, hrequests.trans requests', ?_⟩
        rw [acceptedFrom, nothing, haccepted]
        rfl
      · refine Or.inr ⟨e :: before, e', after, reply, rfl, skip.trans hreply, hstanding,
          hrequests.trans requests', ?_, replies⟩
        rw [acceptedFrom, nothing, haccepted]
        rfl

/-- What the broker accepts is published, and stays so. -/
theorem published_of_accepted {es : List Event} {q : String × Message}
    (h : q ∈ s.acceptedFrom op es) : q ∈ (s.after es).broker.published := by
  induction es generalizing s with
  | nil => cases h
  | cons e es ih =>
    rcases List.mem_append.1 h with first | later
    · obtain ⟨cs, hcs⟩ := broker_after (s.step e) es
      rw [after_cons, hcs]
      refine Broker.published_after ?_ cs
      cases e with
      | serve k =>
        simp only [acceptedIn] at first
        split at first
        · exact List.mem_of_mem_drop first
        · cases first
      | _ => cases first
    · exact ih later

/-- What the broker accepted from a publish that got a reply: one copy if the reply says so. -/
def Copied (accepted : List (String × Message)) (p : Publishing) :
    Except TransportError Reply → Prop
  | .ok _ => ∃ m, accepted = [(p.topic, m)] ∧ p.message = ⟨m.data, m.attributes⟩
  | .error _ => accepted = []

/-- After the reply the operation has finished, and the broker accepted what its reply says. -/
theorem step_of_replies (standing : s.operations[op]? = some ⟨k, .publishing p⟩)
    (purpose : p.purpose = .deadLetter i waits channel) {reply : Except TransportError Reply}
    (replies : s.Replies op p e reply) :
    (s.step e).operations[op]? = some ⟨k, .finished (routeResult p reply)⟩ ∧
      (s.step e).requests op = s.requests op ∧
      ((∀ r, e ≠ .reply op (.ok r)) → Copied (s.acceptedIn op e) p reply) := by
  rcases replies with ⟨rfl, heq⟩ | ⟨rfl, hreply, heq⟩
  · obtain ⟨hstanding, hrequests, _⟩ := answered_route standing purpose reply
    rw [heq]
    refine ⟨hstanding, hrequests, fun genuine => ?_⟩
    cases reply with
    | ok r => exact absurd rfl (genuine r)
    | error err => rfl
  · generalize hb : (s.broker.perform s.clock (.publish p.topic p.message)).1 = b at heq
    have standing' : ({ s with broker := b } : System).operations[op]?
        = some ⟨k, .publishing p⟩ := standing
    obtain ⟨hstanding, hrequests, hpublished⟩ := answered_route standing' purpose reply
    have accepted : s.acceptedIn op (.serve op) = b.published.drop s.broker.published.length := by
      show (if op = op then (s.step (.serve op)).broker.published.drop _ else []) = _
      rw [if_pos rfl, heq, hpublished]
    rw [heq]
    refine ⟨hstanding, hrequests, fun _ => ?_⟩
    rw [accepted]
    rcases s.broker.perform_publish s.clock p.topic p.message with
      ⟨err, failed, same⟩ | ⟨ok, grown⟩
    · rw [← hreply] at failed
      rw [hb] at same
      rw [failed, same]
      exact List.drop_length
    · rw [← hreply] at ok
      rw [hb] at grown
      rw [ok, grown]
      exact ⟨s.broker.stamped s.clock p.message, List.drop_left, rfl⟩

/-- **The first reply decides**: until it comes the publish of a dead letter waits, and after it the
operation has finished with it, whatever happens before and after. -/
theorem route_after (standing : s.operations[op]? = some ⟨k, .publishing p⟩)
    (purpose : p.purpose = .deadLetter i waits channel) {es : List Event}
    (completes : .abandon op ∉ es) :
    (s.after es).requests op = s.requests op ∧
      (s.replyTo? op es = none → (s.after es).operations[op]? = some ⟨k, .publishing p⟩ ∧
        s.acceptedFrom op es = []) ∧
      ∀ reply, s.replyTo? op es = some reply →
        (s.after es).operations[op]? = some ⟨k, .finished (routeResult p reply)⟩ ∧
          ((∀ r, .reply op (.ok r) ∉ es) → Copied (s.acceptedFrom op es) p reply) := by
  rcases waits_or_replied standing completes with
    ⟨hreply, hstanding, hrequests, haccepted⟩ |
      ⟨before, e, after, reply, rfl, hreply, hstanding, hrequests, haccepted, replies⟩
  · refine ⟨hrequests, fun _ => ⟨hstanding, haccepted⟩, fun reply h => ?_⟩
    cases hreply.symm.trans h
  · obtain ⟨hdone, hasked, hcopied⟩ := step_of_replies hstanding purpose replies
    obtain ⟨hlast, hrest, _, hnothing⟩ := finished_after hdone after
    have whole : s.after (before ++ e :: after) = ((s.after before).step e).after after := by
      rw [after_append, after_cons]
    rw [whole]
    refine ⟨hrest.trans (hasked.trans hrequests), fun h => ?_, fun reply' h => ?_⟩
    · cases hreply.symm.trans h
    · obtain rfl : reply = reply' := Option.some.inj (hreply.symm.trans h)
      refine ⟨hlast, fun genuine => ?_⟩
      have accepted : s.acceptedFrom op (before ++ e :: after)
          = (s.after before).acceptedIn op e := by
        rw [acceptedFrom_append, haccepted, acceptedFrom, hnothing, List.append_nil]
        rfl
      rw [accepted]
      refine hcopied fun r he => genuine r ?_
      rw [he]
      exact List.mem_append_right _ List.mem_cons_self

/-- What was accepted from the publish of a dead letter is one copy, which the broker took where it
replied. -/
theorem served_of_accepted (standing : s.operations[op]? = some ⟨k, .publishing p⟩)
    (purpose : p.purpose = .deadLetter i waits channel) {es : List Event}
    (completes : .abandon op ∉ es) (accepted : s.acceptedFrom op es ≠ []) :
    ∃ before after reply, es = before ++ .serve op :: after ∧
      (s.after before).operations[op]? = some ⟨k, .publishing p⟩ ∧
      ((s.after before).broker.perform (s.after before).clock (.publish p.topic p.message)).2
        = .ok reply ∧
      (s.after before).step (.serve op) = { s.after before with
        broker := ((s.after before).broker.perform (s.after before).clock
          (.publish p.topic p.message)).1 }.answer op (.ok reply) ∧
      (s.acceptedFrom op es).length = 1 := by
  rcases waits_or_replied standing completes with
    ⟨_, _, _, nothing⟩ | ⟨before, e, after, reply, rfl, _, hstanding, _, nothing, replies⟩
  · exact absurd nothing accepted
  · obtain ⟨hdone, _, hcopied⟩ := step_of_replies hstanding purpose replies
    obtain ⟨_, _, _, later⟩ := finished_after hdone after
    have whole : s.acceptedFrom op (before ++ e :: after) = (s.after before).acceptedIn op e := by
      rw [acceptedFrom_append, nothing, acceptedFrom, later, List.append_nil]
      rfl
    rw [whole] at accepted ⊢
    rcases replies with ⟨rfl, _⟩ | ⟨rfl, hreply, heq⟩
    · exact absurd rfl accepted
    · have copied := hcopied fun r h => Event.noConfusion h
      cases reply with
      | error err => exact absurd copied accepted
      | ok r =>
        obtain ⟨m, one, _⟩ := copied
        exact ⟨before, after, r, rfl, hstanding, hreply.symm, heq, congrArg List.length one⟩

end System

end MessageChannels
