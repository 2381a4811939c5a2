import MessageChannels.Proofs.System.Act

/-!
# Every event is a sequence of acts

`acts_step` opens the operations of a system once and for all: whatever an event does, it does by
the acts of `System.Act`, all of them about the operation that the event is about.
-/

set_option autoImplicit false

namespace MessageChannels

namespace System

variable {e : Event} {op : Nat} {s : System}

/-! ## Where an operation stands -/

theorem getElem?_setState (s : System) (op : Nat) (state : OperationState) (k : Nat) :
    (s.setState op state).operations[k]?
      = if k = op then (s.operations[k]?).map fun o => { o with state := state }
        else s.operations[k]? := by
  by_cases h : k = op
  · subst h
    simp [setState]
  · simp [setState, h, Ne.symm h]

theorem getElem?_setState_self {o : Operation} (found : s.operations[op]? = some o)
    (state : OperationState) :
    (s.setState op state).operations[op]? = some { o with state := state } := by
  simp [getElem?_setState, found]

theorem getElem?_addOperation (s : System) (service : Nat) :
    (s.addOperation service).operations[s.operations.length]? = some ⟨service, .abandoned⟩ := by
  simp [addOperation]

theorem operations_settleFrom (s : System) (i : Nat) (d : Disposition) (v : Settlement) :
    (s.settleFrom i d v).operations = s.operations := by
  unfold settleFrom
  split
  · rfl
  · split
    · unfold useAcker
      split <;> rfl
    · rfl

/-! ## Ends and waits -/

theorem act_finish {o : Operation} (found : s.operations[op]? = some o)
    (routing : o.state.routing? = none) (holding : o.state.holding? = none)
    (result : Except ChannelError Outcome) : Act e op s (s.finish op result) :=
  .moved o _ found ⟨routing, rfl, holding.symm, Or.inl rfl, List.nil_subset _⟩

/-- After an act that leaves an operation in a state, the operation asks what that state asks. -/
theorem acts_asking {s₀ : System} {k : Nat} {state : OperationState}
    (acts : Acts e op s₀ (s.setState op state)) (found : (s.operations[op]?).map Operation.service
      = some k) : Acts e op s₀ (s.await op state) := by
  obtain ⟨o, ho, _⟩ := Option.map_eq_some_iff.1 found
  unfold await
  split
  · rename_i r hr
    refine acts.tail (.asked r ?_)
    rw [request?, getElem?_setState_self ho]
    exact hr
  · exact acts

theorem acts_await {o : Operation} {state : OperationState} (found : s.operations[op]? = some o)
    (plain : o.state.Plain state) : Acts e op s (s.await op state) :=
  acts_asking (.single (.moved o state found plain)) (k := o.service) (by simp [found])

theorem acts_tend {o : Operation} (found : s.operations[op]? = some o)
    (routing : o.state.routing? = none) (holding : o.state.holding? = none)
    (next : Topology.Next) : Acts e op s (s.tend op next) := by
  unfold tend
  split
  · exact acts_await found ⟨routing, rfl, holding.symm, Or.inl rfl, List.nil_subset _⟩
  · exact .single (act_finish found routing holding _)
  · exact .single (act_finish found routing holding _)

/-! ## Publishing -/

/-- A publish for which no envelope waits ends without touching an envelope. -/
theorem acts_endPublish {o : Operation} {p : Publishing} (found : s.operations[op]? = some o)
    (routing : o.state.routing? = none) (holding : o.state.holding? = none)
    (free : (OperationState.publishing p).routing? = none)
    (told : p.purpose ≠ .event → e.Answers op ∨ ∃ i c cause, e = .fail i c cause)
    (result : Except ChannelError String) : Acts e op s (s.endPublish op p result) := by
  unfold endPublish
  split
  · exact .single (act_finish found routing holding _)
  · exact .single (act_finish found routing holding _)
  · rename_i i waits channel _ hp
    have hwaits : waits = false := by
      cases waits with
      | false => rfl
      | true => simp [OperationState.routing?, hp] at free
    subst hwaits
    have told := told (by rw [hp]; exact Purpose.noConfusion)
    exact .head (.wrote (.counted .deadLettered channel) ⟨rfl, told⟩)
      (.single (act_finish (s := s.count .deadLettered channel) found routing holding _))
  · rename_i i waits channel _ hp
    have hwaits : waits = false := by
      cases waits with
      | false => rfl
      | true => simp [OperationState.routing?, hp] at free
    subst hwaits
    have told := told (by rw [hp]; exact Purpose.noConfusion)
    exact .head (.wrote (.counted .deadLetterErrors channel) ⟨rfl, told⟩)
      (.single (act_finish (s := s.count .deadLetterErrors channel) found routing holding _))

theorem acts_beginPublish {k : Nat} {p : Publishing}
    (found : s.operations[op]? = some ⟨k, .abandoned⟩)
    (free : (OperationState.publishing p).routing? = none)
    (told : p.purpose ≠ .event → e.Answers op ∨ ∃ i c cause, e = .fail i c cause) (service : Nat) :
    Acts e op s (s.beginPublish op service p) := by
  unfold beginPublish
  split
  · exact acts_endPublish found rfl rfl free told _
  · exact acts_await found ⟨rfl, free, rfl, Or.inl rfl, List.nil_subset _⟩

/-! ## Commands -/

theorem acts_beginReceive {k : Nat} {v : Service} {channel : String}
    (found : s.operations[op]? = some ⟨k, .abandoned⟩) (service : s.services[k]? = some v)
    (ctx : Nat) (intent : Intent) : Acts e op s (s.beginReceive op v channel ctx intent) := by
  unfold beginReceive
  split
  · exact .single (act_finish found rfl rfl _)
  · rename_i c subscription hsub
    split
    · exact .single (act_finish found rfl rfl _)
    · refine acts_asking (.single (.registered k v _ c found service ?_ rfl ?_ ?_)) (k := k)
        (by simp [found])
      all_goals
        unfold Service.subscribed at hsub
        split at hsub
        · cases hsub
        · rename_i c' hlook
          split at hsub
          · cases hsub
          · rename_i name hname
            split at hsub
            · cases hsub
            · rename_i hclosed
              cases hsub
              first
                | exact hlook
                | exact hname
                | simpa using hclosed

theorem kept_modify_closed (services : List Service) (k : Nat) :
    Kept services (services.modify k fun v => { v with closed := true }) := by
  intro j v hv
  by_cases h : k = j
  · subst h
    exact ⟨{ v with closed := true }, by simp [hv], rfl, rfl, fun _ => rfl⟩
  · exact ⟨v, by simp [h, hv], rfl, rfl, id⟩

theorem acts_run {k : Nat} {v : Service} (found : s.operations[op]? = some ⟨k, .abandoned⟩)
    (service : s.services[k]? = some v) (c : Command) : Acts e op s (s.run op k v c) := by
  cases c with
  | publish channel event payload =>
    dsimp only [run]
    split
    · exact .single (act_finish found rfl rfl _)
    · exact .single (act_finish found rfl rfl _)
    · exact acts_beginPublish found rfl (fun other => absurd rfl other) k
  | ensureTopic t => exact acts_tend found rfl rfl _
  | ensureSubscription t name => exact acts_tend found rfl rfl _
  | reconcileAll => exact acts_tend found rfl rfl _
  | deleteChannel channel =>
    dsimp only [run]
    split
    · exact .single (act_finish found rfl rfl _)
    · exact acts_tend found rfl rfl _
  | deleteAll => exact acts_tend found rfl rfl _
  | close =>
    have asks (s' : System) (found' : s'.operations[op]? = some ⟨k, .abandoned⟩) :
        Acts e op s' (s'.await op .closing) :=
      acts_await found' ⟨rfl, rfl, rfl, Or.inl rfl, List.nil_subset _⟩
    refine .head (.world _ s.clock s.tokens s.scripts (kept_modify_closed s.services k)
      (fun _ h => h) fun _ => List.length_modify _ _ _) ?_
    exact asks _ found
  | receive channel ctx => exact acts_beginReceive found service ctx _
  | receiveN channel count ctx => exact acts_beginReceive found service ctx _

theorem service?_eq_some {k : Nat} {v : Service} (h : s.service? k = some v) :
    s.services[k]? = some v := by
  unfold service? at h
  split at h
  · exact h
  · cases h

theorem acts_begin (s : System) (k : Nat) (c : Command) :
    Acts e s.operations.length s (s.begin k c).1 := by
  have started : Act e s.operations.length s (s.addOperation k) := .started k rfl
  unfold begin
  dsimp only
  split
  · rename_i v hv
    have hservice : (s.addOperation k).services[k]? = some v := service?_eq_some (s := s) hv
    exact .head started (acts_run (s.getElem?_addOperation k) hservice c)
  · exact .head started (.single (act_finish (s.getElem?_addOperation k) rfl rfl _))

/-! ## Decisions on failed envelopes -/

/-- Entering a route and leaving it at once is settling a received envelope. -/
theorem settleFrom_setDisposition {i : Nat} {made : Envelope} (found : s.envelopes[i]? = some made)
    (received : made.disposition = .received) (v : Settlement) :
    (s.setDisposition i .deadLetterPending).settleFrom i .deadLetterPending v
      = s.settleFrom i .received v := by
  have hpending : (s.setDisposition i .deadLetterPending).envelopes[i]?
      = some { made with disposition := .deadLetterPending } := by
    simp [setDisposition, found]
  have htwice : (s.setDisposition i .deadLetterPending).setDisposition i v.disposition
      = s.setDisposition i v.disposition := by
    simp only [setDisposition, List.modify_modify_eq]
    rfl
  unfold settleFrom
  rw [hpending, found]
  simp only [received, if_true, htwice]

theorem acts_route {i k : Nat} {made : Envelope} {v : Service} {c : FailureCommand}
    {text cause : String} (asked : e = .fail i c text)
    (standing : s.operations[op]? = some ⟨k, .abandoned⟩) (found : s.envelopes[i]? = some made) :
    Acts e op s (s.route op i made v cause) := by
  unfold route
  split
  · exact .single (act_finish standing rfl rfl _)
  · exact .single (act_finish standing rfl rfl _)
  · rename_i target source _ _
    dsimp only
    split
    · rename_i received
      unfold beginPublish
      split
      · -- The service is closed: the route is left where it was entered.
        simp only [endPublish, if_true, settleFrom_setDisposition found received]
        refine .head (.settled i made .nack found received (Or.inr (Or.inr (Or.inl ?_)))) ?_
        · exact ⟨c, text, asked, rfl⟩
        · refine .head (.wrote (.counted .deadLetterErrors made.channel) ⟨rfl, ?_⟩) (.single ?_)
          · exact Or.inr ⟨i, c, text, asked⟩
          refine act_finish (o := ⟨k, .abandoned⟩) ?_ rfl rfl _
          simpa [note, record, operations_settleFrom] using standing
      · exact acts_asking (.single (.entered i made _ k c text made.channel asked found received
          standing rfl)) (k := k) (by simp [setDisposition, standing])
    · exact acts_beginPublish standing rfl (fun _ => Or.inr ⟨i, c, text, asked⟩) _
    · exact .single (act_finish standing rfl rfl _)
    · exact .single (act_finish standing rfl rfl _)

theorem acts_decide {i k : Nat} {made : Envelope} {v : Service} {c : FailureCommand}
    {cause : String} (asked : e = .fail i c cause)
    (standing : s.operations[op]? = some ⟨k, .abandoned⟩) (found : s.envelopes[i]? = some made) :
    Acts e op s (s.decide op i made v cause c) := by
  cases c with
  | deadLetter => exact acts_route asked standing found
  | retry =>
    dsimp only [decide]
    split
    · exact .single (act_finish standing rfl rfl _)
    · split
      · have hfinish : Act e op (s.nack i) ((s.nack i).finish op (.ok .done)) := by
          refine act_finish (o := ⟨k, .abandoned⟩) ?_ rfl rfl _
          simpa [nack, operations_settleFrom] using standing
        by_cases received : made.disposition = .received
        · refine .head (.settled i made .nack found received (Or.inr (Or.inr (Or.inl ?_)))) ?_
          · exact ⟨_, cause, asked, rfl⟩
          · exact .single hfinish
        · have hsame : s.nack i = s := by
            simp [nack, settleFrom, found, received]
          rw [hsame] at hfinish ⊢
          exact .single hfinish
      · exact acts_route asked standing found

theorem acts_beginFailure (s : System) (i : Nat) (c : FailureCommand) (cause : String) :
    Acts (.fail i c cause) s.operations.length s (s.beginFailure i c cause).1 := by
  unfold beginFailure
  dsimp only
  split
  · exact .head (.started 0 rfl) (.single (act_finish (s.getElem?_addOperation 0) rfl rfl _))
  · rename_i made found
    have started : Act (.fail i c cause) s.operations.length s (s.addOperation made.service) :=
      .started made.service rfl
    split
    · exact .head started (acts_decide rfl (s.getElem?_addOperation _) found)
    · exact .head started (.single (act_finish (s.getElem?_addOperation _) rfl rfl _))

/-! ## Replies -/

theorem acts_answerPublish {k : Nat} {p : Publishing} (cause : e.Answers op)
    (standing : s.operations[op]? = some ⟨k, .publishing p⟩)
    (reply : Except TransportError Reply) : Acts e op s (s.answerPublish op p reply) := by
  -- Whatever was noted before, the publish ends by an act of its own if an envelope waits for it.
  have ends (n : System) (same : n.operations = s.operations)
      (result : Except ChannelError String) : Acts e op n (n.endPublish op p result) := by
    have found : n.operations[op]? = some ⟨k, .publishing p⟩ := same ▸ standing
    cases hp : (OperationState.publishing p).routing? with
    | none => exact acts_endPublish found hp rfl hp (fun _ => Or.inl cause) result
    | some i =>
      obtain ⟨_, channel, heq, purpose⟩ := OperationState.routing?_eq_some hp
      cases heq
      unfold endPublish
      rw [purpose]
      cases result with
      | ok id =>
        exact .head (.left i k p .ack channel (.ok .done) cause found purpose)
          (.single (.wrote (.counted .deadLettered channel) ⟨rfl, Or.inl cause⟩))
      | error err =>
        exact .head (.left i k p .nack channel (.error err) cause found purpose)
          (.single (.wrote (.counted .deadLetterErrors channel) ⟨rfl, Or.inl cause⟩))
  cases reply with
  | ok r =>
    refine .head (.wrote (.counted .published p.label) ⟨rfl, Or.inl cause⟩) ?_
    refine .head (.wrote (.counted .publishDurations p.label) ⟨rfl, Or.inl cause⟩) ?_
    exact ends ((s.count .published p.label).count .publishDurations p.label) rfl (.ok r.id)
  | error err =>
    refine .head (.wrote (.counted .publishErrors p.label) ⟨rfl, Or.inl cause⟩) ?_
    exact ends (s.count .publishErrors p.label) rfl _

theorem acts_answerOpening {k : Nat} {o : Opening}
    (standing : s.operations[op]? = some ⟨k, .opening o⟩) (reply : Except TransportError Reply) :
    Acts e op s (s.answerOpening op k o reply) := by
  unfold answerOpening
  split
  · unfold listen
    split
    · exact .single (.moved _ _ standing ⟨rfl, rfl, rfl, Or.inr rfl, List.nil_subset _⟩)
    · exact .single (.moved _ _ standing ⟨rfl, rfl, rfl, Or.inr rfl, List.nil_subset _⟩)
  · exact .single (act_finish standing rfl rfl _)
  · exact .single (act_finish standing rfl rfl _)

theorem acts_answer (cause : e.Answers op) (s : System) (reply : Except TransportError Reply) :
    Acts e op s (s.answer op reply) := by
  unfold answer
  split
  · exact .refl
  · rename_i o standing
    obtain ⟨k, state⟩ := o
    cases state with
    | publishing p => exact acts_answerPublish cause standing reply
    | tending w => exact acts_tend standing rfl rfl _
    | closing =>
      dsimp only
      split
      · exact .single (act_finish standing rfl rfl _)
      · exact .single (act_finish standing rfl rfl _)
    | opening w => exact acts_answerOpening standing reply
    | receiving l => exact .refl
    | collecting c => exact .refl
    | finished result => exact .refl
    | abandoned => exact .refl

theorem acts_serve (s : System) (op : Nat) : Acts (.serve op) op s (s.serve op) := by
  unfold serve
  split
  · exact .refl
  · rename_i r waits
    exact .head (.performed r rfl waits) (acts_answer (Or.inl rfl) _ _)

/-! ## Receiving -/

theorem acts_stopLoop {k : Nat} {l : Loop} (standing : s.operations[op]? = some ⟨k, .receiving l⟩)
    (outcome : Except ChannelError Unit) : Acts e op s (s.stopLoop op l outcome) := by
  unfold stopLoop
  cases hphase : l.phase with
  | holding d =>
    have hcomm : ((s.dropAcker d.acker).dropSource l.source).setState op
        (.receiving (l.stopped outcome))
          = ((s.dropAcker d.acker).setState op (.receiving (l.stopped outcome))).dropSource
            l.source := by
      cases l.source <;> rfl
    simp only [hcomm]
    exact .head (.letGo k l d outcome standing hphase) (.single (.leftSource l.source))
  | listening =>
    refine .head (.leftSource l.source) (.single (.moved ⟨k, .receiving l⟩ _ ?_ ?_))
    · cases l.source <;> exact standing
    · exact ⟨rfl, rfl, by simp [OperationState.holding?, hphase, Loop.stopped], Or.inr rfl,
        List.Subset.refl _⟩
  | draining before =>
    refine .head (.leftSource l.source) (.single (.moved ⟨k, .receiving l⟩ _ ?_ ?_))
    · cases l.source <;> exact standing
    · exact ⟨rfl, rfl, by simp [OperationState.holding?, hphase, Loop.stopped], Or.inr rfl,
        List.Subset.refl _⟩

theorem operations_dropSource (s : System) (source : Source) :
    (s.dropSource source).operations = s.operations := by
  cases source <;> rfl

theorem operations_poll (s : System) (source : Source) :
    (s.poll source).1.operations = s.operations := by
  cases source with
  | stream n => rfl
  | script n =>
    dsimp only [poll]
    split <;> rfl

/-- A loop that makes its last move or looks holds no delivery, and one that hands one over holds
it. -/
theorem phase_of_move (l : Loop) (cancelled closed : Bool) :
    (∀ outcome, l.move cancelled closed = .finish outcome →
      (OperationState.receiving l).holding? = none) ∧
    (l.move cancelled closed = .look → l.phase = .listening) ∧
    ∀ d, l.move cancelled closed = .hand d → l.phase = .holding d := by
  unfold Loop.move OperationState.holding?
  cases hphase : l.phase with
  | listening => grind
  | holding d => grind
  | draining outcome => grind

theorem acts_turnLoop {k : Nat} {l : Loop}
    (standing : s.operations[op]? = some ⟨k, .receiving l⟩) :
    Acts (.turn op) op s (s.turnLoop op k l).1 := by
  obtain ⟨hfinish, hlook, hhand⟩ := phase_of_move l (s.isCancelled l.ctx) (s.isClosed k)
  unfold turnLoop
  dsimp only
  split
  · rename_i panicked hmove
    have plain : (OperationState.receiving l).Plain (.receiving l.joined) :=
      ⟨rfl, rfl, rfl, Or.inr rfl, List.Subset.refl _⟩
    cases panicked with
    | false => exact .single (.moved ⟨k, .receiving l⟩ _ standing plain)
    | true =>
      exact .head (.wrote (.reported "Message handler panicked" none) trivial)
        (.single (.moved ⟨k, .receiving l⟩ _ standing plain))
  · rename_i hmove
    have standing' : (s.poll l.source).1.operations[op]? = some ⟨k, .receiving l⟩ := by
      rw [operations_poll]
      exact standing
    have looked (nothing : ∀ d, (s.poll l.source).2 ≠ .delivered d) :
        Act (.turn op) op s (s.poll l.source).1 := .looked l.source nothing
    cases hshown : (s.poll l.source).2 with
    | pending =>
      simp only [Loop.seen]
      exact .single (looked (by simp [hshown]))
    | delivered d =>
      simp only [Loop.seen]
      exact .single (.pulled k l d standing (hlook hmove) hshown)
    | failed err =>
      simp only [Loop.seen]
      exact .head (looked (by simp [hshown])) (acts_stopLoop standing' _)
    | ended =>
      simp only [Loop.seen]
      exact .head (looked (by simp [hshown])) (acts_stopLoop standing' _)
  · rename_i d hmove
    exact .single (.handed k l d rfl standing (hhand d hmove))
  · exact acts_stopLoop standing _
  · rename_i outcome hmove
    exact .single (act_finish standing rfl (hfinish outcome hmove) _)
  · exact .refl

theorem acts_turnCollection {k : Nat} {c : Collection}
    (standing : s.operations[op]? = some ⟨k, .collecting c⟩) :
    Acts (.turn op) op s (s.turnCollection op k c).1 := by
  have plain : ∀ c', c'.channel = c.channel →
      (OperationState.collecting c).Plain (.collecting c') := fun c' h =>
    ⟨rfl, rfl, rfl, Or.inr (by simp [OperationState.channel?, h]), List.nil_subset _⟩
  have drops (s' : System) (standing' : s'.operations[op]? = some ⟨k, .collecting c⟩)
      (result : Except ChannelError Outcome) :
      Acts (.turn op) op s' ((s'.dropSource c.source).finish op result) := by
    refine .head (.leftSource c.source) (.single (act_finish (o := ⟨k, .collecting c⟩) ?_ rfl rfl _))
    cases c.source <;> exact standing'
  unfold turnCollection
  dsimp only
  split
  · exact drops s standing _
  · rename_i hmove
    have standing' : (s.poll c.source).1.operations[op]? = some ⟨k, .collecting c⟩ := by
      rw [operations_poll]
      exact standing
    have looked (nothing : ∀ d, (s.poll c.source).2 ≠ .delivered d) :
        Act (.turn op) op s (s.poll c.source).1 := .looked c.source nothing
    cases hshown : (s.poll c.source).2 with
    | pending =>
      simp only [Collection.seen]
      exact .single (looked (by simp [hshown]))
    | delivered d =>
      simp only [Collection.seen]
      refine .head (.collected k c d standing hshown) ?_
      -- The envelope just made is the last one, and only received.
      have made : ((s.poll c.source).1.addEnvelope k c.channel d).1.envelopes[
          (s.poll c.source).1.envelopes.length]? = some ⟨d.message, c.channel, k, d.acker,
            .received⟩ := by
        simp [addEnvelope, count, note, record]
      refine .head (.settled _ _ .ack made rfl ?_) (.single (.moved ⟨k, .collecting c⟩ _ ?_ ?_))
      · refine Or.inr (Or.inr (Or.inr ⟨rfl, rfl, ?_, k, c, standing'⟩))
        simp [addEnvelope, count, note, record]
      · rw [operations_settleFrom]
        exact standing'
      · exact plain _ rfl
    | failed err =>
      simp only [Collection.seen]
      exact .head (looked (by simp [hshown])) (drops _ standing' _)
    | ended =>
      simp only [Collection.seen]
      exact .head (looked (by simp [hshown])) (drops _ standing' _)

theorem acts_turn (s : System) (op : Nat) : Acts (.turn op) op s (s.turn op).1 := by
  unfold turn
  split
  · exact .refl
  · rename_i o standing
    obtain ⟨k, state⟩ := o
    cases state with
    | receiving l => exact acts_turnLoop standing
    | collecting c => exact acts_turnCollection standing
    | _ => exact .refl

theorem getElem?_of_map_state {state : OperationState}
    (h : (s.operations[op]?).map Operation.state = some state) :
    ∃ k, s.operations[op]? = some ⟨k, state⟩ := by
  obtain ⟨⟨k, state'⟩, ho, rfl⟩ := Option.map_eq_some_iff.1 h
  exact ⟨k, ho⟩

/-- A handler's end leaves the delivery in a loop's hands as it is. -/
theorem acts_handlerEnded (s : System) (op i : Nat) (panicked : Bool) :
    Acts e op s (s.handlerEnded op i panicked) := by
  unfold handlerEnded
  split
  · rename_i l h
    obtain ⟨k, standing⟩ := getElem?_of_map_state h
    refine .single (.moved ⟨k, .receiving l⟩ _ standing ?_)
    unfold Loop.handlerEnded
    split
    · exact ⟨rfl, rfl, rfl, Or.inr rfl, List.erase_subset⟩
    · exact ⟨rfl, rfl, rfl, Or.inr rfl, List.Subset.refl _⟩
  · exact .refl

theorem operations_stopLoop {k : Nat} {l : Loop}
    (standing : s.operations[op]? = some ⟨k, .receiving l⟩) (outcome : Except ChannelError Unit) :
    (s.stopLoop op l outcome).operations[op]? = some ⟨k, .receiving (l.stopped outcome)⟩ := by
  refine getElem?_setState_self (o := ⟨k, .receiving l⟩) ?_ _
  rw [operations_dropSource]
  split
  · rename_i d _
    cases d.acker <;> exact standing
  · exact standing

theorem acts_abandon (s : System) (op : Nat) : Acts (.abandon op) op s (s.abandon op) := by
  unfold abandon
  split
  · rename_i l h
    obtain ⟨k, standing⟩ := getElem?_of_map_state h
    refine (acts_stopLoop standing (.error .closed)).trans (.single ?_)
    exact .moved _ _ (operations_stopLoop standing _) ⟨rfl, rfl, rfl, Or.inl rfl, List.nil_subset _⟩
  · rename_i c h
    obtain ⟨k, standing⟩ := getElem?_of_map_state h
    refine .head (.leftSource c.source) (.single (.moved ⟨k, .collecting c⟩ _ ?_ ?_))
    · cases c.source <;> exact standing
    · exact ⟨rfl, rfl, rfl, Or.inl rfl, List.nil_subset _⟩
  · exact .refl
  · rename_i hreceiving hcollecting _
    cases hstate : (s.operations[op]?).map Operation.state with
    | none =>
      have hsame : s.setState op .abandoned = s := by
        have hnone : s.operations[op]? = none := by simpa using hstate
        simp only [setState, List.modify_eq_self (List.getElem?_eq_none_iff.1 hnone)]
      rw [hsame]
    | some state =>
      obtain ⟨k, standing⟩ := getElem?_of_map_state hstate
      cases hrouting : state.routing? with
      | some i => exact .single (.dropped ⟨k, state⟩ i rfl standing hrouting)
      | none =>
        refine .single (.moved ⟨k, state⟩ _ standing ⟨hrouting, rfl, ?_, Or.inl rfl, List.nil_subset _⟩)
        cases state with
        | receiving l => exact absurd hstate (hreceiving l)
        | _ => rfl

/-! ## All events -/

theorem kept_refl (services : List Service) : Kept services services :=
  fun _ v hv => ⟨v, hv, rfl, rfl, id⟩

theorem acts_settle (s : System) (i : Nat) (v : Settlement) (cause : e.Settles s op i v) :
    Acts e op s (s.settleFrom i .received v) := by
  cases found : s.envelopes[i]? with
  | none =>
    have hsame : s.settleFrom i .received v = s := by simp [settleFrom, found]
    rw [hsame]
  | some made =>
    by_cases received : made.disposition = .received
    · exact .single (.settled i made v found received cause)
    · have hsame : s.settleFrom i .received v = s := by simp [settleFrom, found, received]
      rw [hsame]

/-- **Every event is a sequence of acts**, all about the operation that the event is about. -/
theorem acts_step (s : System) (e : Event) : Acts e (e.operation s) s (s.step e) := by
  cases e with
  | addService v =>
    refine .single (.world (s.services ++ [v]) s.clock s.tokens s.scripts (fun k w hw => ?_)
      (fun _ h => h) fun other => absurd rfl (other v))
    refine ⟨w, ?_, rfl, rfl, id⟩
    exact List.getElem?_append_left (List.getElem?_eq_some_iff.1 hw).1 ▸ hw
  | addToken =>
    refine .single (.world s.services s.clock _ s.scripts (kept_refl _) (fun t h => ?_) fun _ => rfl)
    exact (List.getElem?_append_left (List.getElem?_eq_some_iff.1 h).1).trans h
  | addScript script =>
    exact .single (.world s.services s.clock s.tokens _ (kept_refl _) (fun _ h => h) fun _ => rfl)
  | cancel token =>
    refine .single (.world s.services s.clock _ s.scripts (kept_refl _) (fun t h => ?_) fun _ => rfl)
    obtain ⟨bound, _⟩ := List.getElem?_eq_some_iff.1 h
    by_cases same : token = t
    · subst same
      exact List.getElem?_set_self bound
    · exact (List.getElem?_set_ne same).trans h
  | setClock now =>
    exact .single (.world s.services now s.tokens s.scripts (kept_refl _) (fun _ h => h) fun _ => rfl)
  | changeHandles k n =>
    refine .single (.world _ s.clock s.tokens s.scripts (fun j v hv => ?_) (fun _ h => h)
      fun _ => List.length_modify _ _ _)
    by_cases h : k = j
    · subst h
      exact ⟨{ v with handles := (v.handles + n).toNat }, by simp [hv], rfl, rfl, id⟩
    · exact ⟨v, by simp [h, hv], rfl, rfl, id⟩
  | direct c => exact .single (.direct c rfl)
  | begin k c => exact acts_begin s k c
  | fail i c cause => exact acts_beginFailure s i c cause
  | serve op => exact acts_serve s op
  | reply op r => exact acts_answer (Or.inr ⟨r, rfl⟩) s r
  | turn op => exact acts_turn s op
  | handlerEnded op i panicked => exact acts_handlerEnded s op i panicked
  | abandon op => exact acts_abandon s op
  | ack i => exact acts_settle s i .ack (Or.inl ⟨rfl, rfl⟩)
  | nack i => exact acts_settle s i .nack (Or.inr (Or.inl ⟨rfl, rfl⟩))
  | release i =>
    show Acts _ _ s (s.release i)
    unfold release
    split
    · exact .refl
    · rename_i made found
      exact .single (.gaveUp i made rfl found)

end System

end MessageChannels
