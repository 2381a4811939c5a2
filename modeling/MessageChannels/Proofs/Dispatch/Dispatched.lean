import Mathlib.Data.List.Induction
import MessageChannels.Proofs.Dispatch.Handover

/-!
# Every delivery is handed over

Whatever receiving has taken from its source it has handed to handlers, in order and each delivery
once, but for the last, which it may still hold. That one is given up only if the loop stops while it
holds it, because it is cancelled or its service closed, or if receiving is itself given up; nothing
is passed to its handle then. Receiving counts each delivery that it hands over and never settles any
(`handsOver`).
-/

set_option autoImplicit false

namespace MessageChannels

namespace Broker

/-- A delivery that is given up is neither acknowledged nor rejected, and is held no more. -/
theorem unsettled_release (b : Broker) (n : Nat) :
    ((b.release n).acked = b.acked ∧ (b.release n).nacked = b.nacked) ∧
      (b.release n).held? n = none := by
  constructor
  · unfold release
    split
    · exact ⟨rfl, rfl⟩
    · dsimp only
      split
      · exact ⟨rfl, rfl⟩
      · unfold enqueue
        split <;> exact ⟨rfl, rfl⟩
  · rw [held?, held_release, List.find?_eq_none]
    intro h mem
    simpa using (List.mem_filter.1 mem).2

end Broker

namespace System

/-- From one state to another a delivery is given up without a settlement. -/
structure LetsGo (s s' : System) (d : Taken) : Prop where
  acked : s'.broker.acked = s.broker.acked
  nacked : s'.broker.nacked = s.broker.nacked
  unheld : ∀ n, d.acker = .held n → s'.broker.held? n = none

/-- What was taken in a run and is handed over no more. -/
inductive Dropped (s : System) (op k ctx : Nat) (es : List Event) : List Taken → Prop where
  | nothing : Dropped s op k ctx es []
  /-- The loop held a delivery when it stopped because it was cancelled or its service closed. -/
  | stopped (before after : List Event) (l : Loop) (d : Taken)
      (split : es = before ++ .turn op :: after)
      (standing : (s.after before).operations[op]? = some ⟨k, .receiving l⟩)
      (phase : l.phase = .holding d)
      (halted : (s.after before).isCancelled ctx = true ∨ (s.after before).isClosed k = true)
      (unsettled : (s.after before).LetsGo ((s.after before).step (.turn op)) d) :
      Dropped s op k ctx es [d]
  /-- The loop held a delivery when receiving was given up. -/
  | abandoned (before after : List Event) (l : Loop) (d : Taken)
      (split : es = before ++ .abandon op :: after)
      (standing : (s.after before).operations[op]? = some ⟨k, .receiving l⟩)
      (phase : l.phase = .holding d) : Dropped s op k ctx es [d]

/-- In a run, deliveries were taken and handed over but for some, and nothing else was counted as
received or settled. -/
structure Delivers (s : System) (op k : Nat) (channel : String) (es : List Event)
    (handed left : List Taken) : Prop where
  taken : s.pulled op es = handed ++ left
  carries : (s.after es).Carries k channel (s.handlersBegun op es) handed
  distinct : (s.handlersBegun op es).Nodup
  counted : ∀ label, (s.written op es).count (.note (.counted .received label))
    = if label = channel then handed.length else 0
  unsettling : ∀ w ∈ s.written op es, w.settlement? = none

/-- Where an operation that receives can be after a run, and what it has taken and not handed over.
-/
inductive DispatchAfter (s : System) (op k : Nat) (channel : String) (ctx : Nat) (es : List Event) :
    OperationState → List Taken → Prop where
  | opens (topic subscription : String) : DispatchAfter s op k channel ctx es
      (.opening ⟨channel, topic, subscription, ctx, .dispatch⟩) []
  | listens (l : Loop) (same : l.channel = channel ∧ l.ctx = ctx) (phase : l.phase = .listening) :
      DispatchAfter s op k channel ctx es (.receiving l) []
  | holds (l : Loop) (d : Taken) (same : l.channel = channel ∧ l.ctx = ctx)
      (phase : l.phase = .holding d) : DispatchAfter s op k channel ctx es (.receiving l) [d]
  | drains (l : Loop) (outcome : Except ChannelError Unit) (left : List Taken)
      (phase : l.phase = .draining outcome) (dropped : s.Dropped op k ctx es left) :
      DispatchAfter s op k channel ctx es (.receiving l) left
  | ended (state : OperationState) (left : List Taken) (ended : state.inProgress = false)
      (dropped : s.Dropped op k ctx es left) : DispatchAfter s op k channel ctx es state left

/-- What receiving takes in a run, and what it hands over. -/
structure HandsOver (s : System) (op k : Nat) (channel : String) (ctx : Nat) (es : List Event) :
    Prop where
  /-- Sources give up what it takes and nothing else. -/
  drawn : s.DrawsOpenly op es
  /-- The handlers got what was taken, in order, but for the last one if that was dropped or is still
  held. -/
  inOrder : ∃ handed left, s.pulled op es = handed ++ left ∧
    (s.after es).Carries k channel (s.handlersBegun op es) handed ∧
    (s.Dropped op k ctx es left ∨ ∃ l d,
      (s.after es).operations[op]? = some ⟨k, .receiving l⟩ ∧ l.phase = .holding d ∧ left = [d])
  /-- No two handlers got the same envelope. -/
  distinct : (s.handlersBegun op es).Nodup
  counted : ∀ label, (s.written op es).count (.note (.counted .received label))
    = if label = channel then (s.handlersBegun op es).length else 0
  unsettling : ∀ w ∈ s.written op es, w.settlement? = none
  /-- What it holds it hands over in its next turn, if there is a permit and nothing stops it. -/
  hands : ∀ l d, (s.after es).operations[op]? = some ⟨k, .receiving l⟩ → l.phase = .holding d →
    (s.after es).isCancelled ctx = false → (s.after es).isClosed k = false → 0 < l.free →
    (s.after es).begunIn op (.turn op) = [(s.after es).envelopes.length] ∧
      ((s.after es).step (.turn op)).envelopes
        = (s.after es).envelopes ++ [⟨d.message, channel, k, d.acker, .received⟩]

/-- An operation that receives stands somewhere after a run, and has handed over what it took but
for what it holds or was dropped. -/
def DeliveredAfter (s : System) (op k : Nat) (channel : String) (ctx : Nat) (es : List Event) :
    Prop :=
  ∃ state handed left, (s.after es).operations[op]? = some ⟨k, state⟩ ∧
    s.Delivers op k channel es handed left ∧ s.DispatchAfter op k channel ctx es state left

variable {e : Event} {op k ctx : Nat} {s : System} {l : Loop} {es : List Event} {channel : String}
  {handed left ds : List Taken} {ws : List Entry} {state : OperationState}

/-! ## What is given up -/

theorem letsGo_stopLoop {d : Taken} (s : System) (op : Nat) (phase : l.phase = .holding d)
    (outcome : Except ChannelError Unit) : s.LetsGo (s.stopLoop op l outcome) d := by
  have dropped : (s.stopLoop op l outcome).broker
      = ((s.dropAcker d.acker).dropSource l.source).broker := by
    simp only [stopLoop, phase]
    rfl
  have gone : s.LetsGo (s.dropAcker d.acker) d := by
    cases acker : d.acker with
    | scripted id => exact ⟨rfl, rfl, fun n h => by cases acker.symm.trans h⟩
    | held n =>
      obtain ⟨⟨acked, nacked⟩, unheld⟩ := s.broker.unsettled_release n
      refine ⟨acked, nacked, fun m h => ?_⟩
      cases acker.symm.trans h
      exact unheld
  have source : s.LetsGo ((s.dropAcker d.acker).dropSource l.source) d := by
    cases l.source <;> exact ⟨gone.acked, gone.nacked, gone.unheld⟩
  exact ⟨dropped ▸ source.acked, dropped ▸ source.nacked, dropped ▸ source.unheld⟩

theorem Dropped.snoc (dropped : s.Dropped op k ctx es left) (e : Event) :
    s.Dropped op k ctx (es ++ [e]) left := by
  cases dropped with
  | nothing => exact .nothing
  | stopped before after l d split standing phase halted unsettled =>
    exact .stopped before (after ++ [e]) l d (by simp [split]) standing phase halted unsettled
  | abandoned before after l d split standing phase =>
    exact .abandoned before (after ++ [e]) l d (by simp [split]) standing phase

/-! ## Runs -/

theorem handlersBegun_snoc (s : System) (op : Nat) (es : List Event) (e : Event) :
    s.handlersBegun op (es ++ [e]) = s.handlersBegun op es ++ (s.after es).begunIn op e := by
  induction es generalizing s with
  | nil => exact List.append_nil _
  | cons e' es ih =>
    rw [List.cons_append, handlersBegun, ih, handlersBegun, List.append_assoc]
    rfl

theorem delivers_nil (s : System) (op k : Nat) (channel : String) :
    s.Delivers op k channel [] [] [] where
  taken := rfl
  carries := .nil
  distinct := List.nodup_nil
  counted := fun label => by simp [written]
  unsettling := nofun

/-- An event in which no handler begins and at most something is reported. -/
theorem Delivers.rests (delivers : s.Delivers op k channel es handed left)
    (reachable : (s.after es).Reachable) (does : (s.after es).Does op e ds ws)
    (idle : (s.after es).begunIn op e = []) (reports : ∀ w ∈ ws, w.Reports) :
    s.Delivers op k channel (es ++ [e]) handed (left ++ ds) where
  taken := by rw [pulled_snoc, does.pulled, delivers.taken, List.append_assoc]
  carries := by
    rw [handlersBegun_snoc, idle, List.append_nil, after_snoc]
    exact delivers.carries.step reachable e
  distinct := by
    rw [handlersBegun_snoc, idle, List.append_nil]
    exact delivers.distinct
  counted := by
    intro label
    have uncounted : ws.count (.note (.counted .received label)) = 0 := by
      apply List.count_eq_zero.2
      intro mem
      obtain ⟨text, cause, h⟩ := reports _ mem
      cases h
    rw [written_snoc, does.written, List.count_append, uncounted, Nat.add_zero,
      delivers.counted label]
  unsettling := by
    intro w mem
    rw [written_snoc, does.written] at mem
    rcases List.mem_append.1 mem with earlier | now
    · exact delivers.unsettling w earlier
    · obtain ⟨text, cause, rfl⟩ := reports w now
      rfl

/-- The delivery that a loop holds is handed over. -/
theorem Delivers.hands {d : Taken} (delivers : s.Delivers op k channel es handed [d])
    (reachable : (s.after es).Reachable)
    (does : (s.after es).Does op e [] [.note (.counted .received channel)])
    (begins : (s.after es).begunIn op e = [(s.after es).envelopes.length])
    (made : ((s.after es).step e).envelopes
      = (s.after es).envelopes ++ [⟨d.message, channel, k, d.acker, .received⟩]) :
    s.Delivers op k channel (es ++ [e]) (handed ++ [d]) [] where
  taken := by rw [pulled_snoc, does.pulled, delivers.taken, List.append_nil]
  carries := by
    rw [handlersBegun_snoc, begins, after_snoc]
    refine List.rel_append (delivers.carries.step reachable e) (.cons ⟨.received, ?_⟩ .nil)
    rw [made, List.getElem?_concat_length]
  distinct := by
    have fresh : (s.after es).envelopes.length ∉ s.handlersBegun op es := fun mem =>
      absurd (delivers.carries.lt_length _ mem) (Nat.lt_irrefl _)
    rw [handlersBegun_snoc, begins, ← List.concat_eq_append, List.nodup_concat]
    exact ⟨fresh, delivers.distinct⟩
  counted := by
    intro label
    rw [written_snoc, does.written, List.count_append, delivers.counted label, List.length_append]
    by_cases same : label = channel
    · subst same
      simp
    · have other : (Entry.note (.counted .received channel) == .note (.counted .received label))
          = false := by
        simpa using Ne.symm same
      simp [same, List.count_cons, other]
  unsettling := by
    intro w mem
    rw [written_snoc, does.written] at mem
    rcases List.mem_append.1 mem with earlier | now
    · exact delivers.unsettling w earlier
    · rw [List.mem_singleton.1 now]
      rfl

/-- Nothing is taken and no handler begins. -/
theorem Delivers.idles (delivers : s.Delivers op k channel es handed left)
    (reachable : (s.after es).Reachable) (does : (s.after es).Does op e [] ws)
    (idle : (s.after es).begunIn op e = []) (reports : ∀ w ∈ ws, w.Reports) :
    s.Delivers op k channel (es ++ [e]) handed left := by
  have rests := delivers.rests reachable does idle reports
  rwa [List.append_nil] at rests

theorem deliveredAfter_snoc (standing : ((s.after es).step e).operations[op]? = some ⟨k, state⟩)
    (delivers : s.Delivers op k channel (es ++ [e]) handed left)
    (after : s.DispatchAfter op k channel ctx (es ++ [e]) state left) :
    s.DeliveredAfter op k channel ctx (es ++ [e]) := by
  refine ⟨state, handed, left, ?_, delivers, after⟩
  rw [after_snoc]
  exact standing

/-! ## One more event -/

theorem opens_snoc {topic subscription : String} (reachable : (s.after es).Reachable)
    (standing : (s.after es).operations[op]?
      = some ⟨k, .opening ⟨channel, topic, subscription, ctx, .dispatch⟩⟩)
    (delivers : s.Delivers op k channel es handed []) (e : Event) :
    s.DeliveredAfter op k channel ctx (es ++ [e]) := by
  obtain ⟨⟨state, standing', next⟩, does⟩ := opening_step standing e
  have none : (s.after es).NoLoop op := fun j l found => by cases standing.symm.trans found
  have idle : (s.after es).begunIn op e = [] := by
    apply begunIn_of_subset
    rw [none.running_step e]
    exact List.nil_subset _
  refine deliveredAfter_snoc standing' (delivers.idles reachable does idle nofun) ?_
  cases next with
  | waits => exact .opens topic subscription
  | dispatches source intent => exact .listens _ ⟨rfl, rfl⟩ rfl
  | collects count source intent => cases intent
  | failed err => exact .ended _ _ rfl .nothing
  | abandoned => exact .ended _ _ rfl .nothing

theorem listens_snoc (reachable : (s.after es).Reachable)
    (standing : (s.after es).operations[op]? = some ⟨k, .receiving l⟩)
    (same : l.channel = channel ∧ l.ctx = ctx) (phase : l.phase = .listening)
    (delivers : s.Delivers op k channel es handed []) (e : Event) :
    s.DeliveredAfter op k channel ctx (es ++ [e]) := by
  obtain ⟨state, ds, is, ws, standing', does, begins, next⟩ := handover_step reachable standing e
  cases next with
  | took d =>
    exact deliveredAfter_snoc standing' (delivers.rests reachable does begins nofun)
      (.holds _ d same rfl)
  | stopped outcome =>
    exact deliveredAfter_snoc standing' (delivers.idles reachable does begins nofun)
      (.drains _ outcome _ rfl .nothing)
  | went l' alike ws reports =>
    exact deliveredAfter_snoc standing' (delivers.idles reachable does begins reports)
      (.listens l' ⟨alike.channel.trans same.1, alike.ctx.trans same.2⟩ (alike.phase.trans phase))
  | abandoned cause =>
    exact deliveredAfter_snoc standing' (delivers.idles reachable does begins nofun)
      (.ended _ _ rfl .nothing)
  | handed d holding => cases phase.symm.trans holding
  | gaveUp d outcome cause holding => cases phase.symm.trans holding
  | returned outcome draining => cases phase.symm.trans draining

theorem holds_snoc {d : Taken} (reachable : (s.after es).Reachable)
    (standing : (s.after es).operations[op]? = some ⟨k, .receiving l⟩)
    (same : l.channel = channel ∧ l.ctx = ctx) (phase : l.phase = .holding d)
    (delivers : s.Delivers op k channel es handed [d]) (e : Event) :
    s.DeliveredAfter op k channel ctx (es ++ [e]) := by
  obtain ⟨state, ds, is, ws, standing', does, begins, next⟩ := handover_step reachable standing e
  cases next with
  | handed d' holding made =>
    cases phase.symm.trans holding
    rw [same.1] at does made
    exact deliveredAfter_snoc standing' (delivers.hands reachable does begins made)
      (.listens _ same rfl)
  | gaveUp d' outcome cause holding halted stopped =>
    cases phase.symm.trans holding
    subst cause
    rw [same.2] at halted
    have unsettled := letsGo_stopLoop (s.after es) op phase outcome
    rw [← stopped] at unsettled
    exact deliveredAfter_snoc standing' (delivers.idles reachable does begins nofun)
      (.drains _ outcome _ rfl (.stopped es [] l d rfl standing phase halted unsettled))
  | went l' alike ws reports =>
    exact deliveredAfter_snoc standing' (delivers.idles reachable does begins reports)
      (.holds l' d ⟨alike.channel.trans same.1, alike.ctx.trans same.2⟩ (alike.phase.trans phase))
  | abandoned cause =>
    subst cause
    exact deliveredAfter_snoc standing' (delivers.idles reachable does begins nofun)
      (.ended _ _ rfl (.abandoned es [] l d rfl standing phase))
  | took d' listening => cases phase.symm.trans listening
  | stopped outcome listening => cases phase.symm.trans listening
  | returned outcome draining => cases phase.symm.trans draining

theorem drains_snoc {outcome : Except ChannelError Unit} (reachable : (s.after es).Reachable)
    (standing : (s.after es).operations[op]? = some ⟨k, .receiving l⟩)
    (phase : l.phase = .draining outcome) (dropped : s.Dropped op k ctx es left)
    (delivers : s.Delivers op k channel es handed left) (e : Event) :
    s.DeliveredAfter op k channel ctx (es ++ [e]) := by
  obtain ⟨state, ds, is, ws, standing', does, begins, next⟩ := handover_step reachable standing e
  cases next with
  | went l' alike ws reports =>
    exact deliveredAfter_snoc standing' (delivers.idles reachable does begins reports)
      (.drains l' outcome _ (alike.phase.trans phase) (dropped.snoc e))
  | returned outcome' =>
    exact deliveredAfter_snoc standing' (delivers.idles reachable does begins nofun)
      (.ended _ _ rfl (dropped.snoc e))
  | abandoned =>
    exact deliveredAfter_snoc standing' (delivers.idles reachable does begins nofun)
      (.ended _ _ rfl (dropped.snoc e))
  | took d listening => cases phase.symm.trans listening
  | handed d holding => cases phase.symm.trans holding
  | gaveUp d outcome' cause holding => cases phase.symm.trans holding
  | stopped outcome' listening => cases phase.symm.trans listening

theorem DispatchAfter.snoc (reachable : (s.after es).Reachable)
    (after : s.DispatchAfter op k channel ctx es state left)
    (standing : (s.after es).operations[op]? = some ⟨k, state⟩)
    (delivers : s.Delivers op k channel es handed left) (e : Event) :
    s.DeliveredAfter op k channel ctx (es ++ [e]) := by
  cases after with
  | opens topic subscription => exact opens_snoc reachable standing delivers e
  | listens l same phase => exact listens_snoc reachable standing same phase delivers e
  | holds l d same phase => exact holds_snoc reachable standing same phase delivers e
  | drains l outcome left phase dropped =>
    exact drains_snoc reachable standing phase dropped delivers e
  | ended state left ended dropped =>
    have standing' := (ended_step standing ended e).1
    have idle := begunIn_of_standing standing standing' (List.Subset.refl _)
    have does := does_nothing_ended standing ended e
    exact deliveredAfter_snoc standing' (delivers.idles reachable does idle nofun)
      (.ended _ _ ended (dropped.snoc e))

/-- **Where receiving can be after a run**, and what it has taken and not handed over. -/
theorem dispatching_after (reachable : s.Reachable) (k : Nat) (channel : String) (ctx : Nat)
    (es : List Event) : (s.step (.begin k (.receive channel ctx))).DeliveredAfter
      s.operations.length k channel ctx es := by
  induction es using List.reverseRecOn with
  | nil =>
    obtain ⟨state, standing, begins⟩ := receive_begun s k .dispatch channel ctx
    refine ⟨state, [], [], standing, delivers_nil _ _ _ _, ?_⟩
    rcases begins with ⟨err, rfl⟩ | ⟨nothing, _⟩ | ⟨topic, subscription, rfl⟩
    · exact .ended _ _ rfl .nothing
    · cases nothing
    · exact .opens topic subscription
  | append_singleton es e ih =>
    obtain ⟨state, handed, left, standing, delivers, after⟩ := ih
    exact after.snoc ((reachable.step _).after es) standing delivers e

/-! ## Handing over -/

theorem DispatchAfter.left_cases (after : s.DispatchAfter op k channel ctx es state left) :
    s.Dropped op k ctx es left ∨ ∃ l d, state = .receiving l ∧ l.phase = .holding d ∧ left = [d] := by
  cases after with
  | opens => exact Or.inl .nothing
  | listens => exact Or.inl .nothing
  | holds l d same phase => exact Or.inr ⟨l, d, rfl, phase, rfl⟩
  | drains l outcome left phase dropped => exact Or.inl dropped
  | ended state left ended dropped => exact Or.inl dropped

theorem DispatchAfter.of_holding {d : Taken}
    (after : s.DispatchAfter op k channel ctx es (.receiving l) left) (phase : l.phase = .holding d) :
    l.channel = channel ∧ l.ctx = ctx := by
  cases after with
  | listens l same => exact same
  | holds l d same => exact same
  | drains l outcome left draining => cases phase.symm.trans draining
  | ended state left ended => cases ended

/-- What a loop holds it hands over, if there is a permit and nothing stops it. -/
theorem hands_of_permit {d : Taken} (reachable : s.Reachable)
    (found : s.operations[op]? = some ⟨k, .receiving l⟩) (phase : l.phase = .holding d)
    (going : s.isCancelled l.ctx = false) (opened : s.isClosed k = false) (permit : 0 < l.free) :
    s.begunIn op (.turn op) = [s.envelopes.length] ∧ (s.step (.turn op)).envelopes
      = s.envelopes ++ [⟨d.message, l.channel, k, d.acker, .received⟩] := by
  have move : l.move (s.isCancelled l.ctx) (s.isClosed k) = .hand d := by
    simp [Loop.move, phase, going, opened, permit]
  obtain ⟨turned, _, begins⟩ := turn_hand reachable found move
  refine ⟨begins, ?_⟩
  rw [turned]
  rfl

/-- **Receiving hands over every delivery that it takes.** -/
theorem handsOver (reachable : s.Reachable) (k : Nat) (channel : String) (ctx : Nat)
    (es : List Event) : (s.step (.begin k (.receive channel ctx))).HandsOver s.operations.length k
      channel ctx es := by
  have reachable' := (reachable.step (.begin k (.receive channel ctx))).after es
  obtain ⟨state, handed, left, standing, delivers, after⟩ :=
    dispatching_after reachable k channel ctx es
  refine ⟨?drawn, ?inOrder, delivers.distinct, ?counted, delivers.unsettling, ?hands⟩
  case drawn =>
    obtain ⟨_, first, _⟩ := receive_begun s k .dispatch channel ctx
    exact drawsOpenly (List.getElem?_eq_some_iff.1 first).1 es
  case inOrder =>
    refine ⟨handed, left, delivers.taken, delivers.carries, after.left_cases.imp_right ?_⟩
    rintro ⟨l, d, rfl, phase, rfl⟩
    exact ⟨l, d, standing, phase, rfl⟩
  case counted =>
    intro label
    rw [delivers.counted label, delivers.carries.length_eq]
  case hands =>
    intro l d receiving phase going opened permit
    cases standing.symm.trans receiving
    obtain ⟨rfl, rfl⟩ := after.of_holding phase
    exact hands_of_permit reachable' standing phase going opened permit

/-- A service that allows one handler has two orders. -/
def twoWaiting : List Event :=
  [.addService (.build ordersService.registry (some 1)), .addToken,
    .direct (.perform .epoch (.createTopic "orders-topic")),
    .direct (.perform .epoch (.createSubscription "orders-topic" "orders-sub" (.ofSecs 10))),
    .begin 0 (.publish "orders" "made" (.ok .null)), .serve 0,
    .begin 0 (.publish "orders" "sent" (.ok .null)), .serve 1]

/-- The second order is held while the handler of the first runs; the caller cancels, and the handler
panics. -/
def cancelledHolding : List Event :=
  [.serve 2, .turn 2, .turn 2, .turn 2, .cancel 0, .turn 2, .handlerEnded 2 0 true, .turn 2, .turn 2]

theorem handsOver_cancelledHolding :
    (((start .epoch).after twoWaiting).step (.begin 0 (.receive "orders" 0))).HandsOver 2 0 "orders" 0
        cancelledHolding ∧
      ((((start .epoch).after twoWaiting).step (.begin 0 (.receive "orders" 0))).pulled 2
        cancelledHolding).length = 2 ∧
      (((start .epoch).after twoWaiting).step (.begin 0 (.receive "orders" 0))).handlersBegun 2
        cancelledHolding = [0] ∧
      ((((start .epoch).after twoWaiting).step (.begin 0 (.receive "orders" 0))).after
        cancelledHolding).result? 2 = some (.ok .done) :=
  ⟨handsOver ⟨.epoch, _, rfl⟩ 0 "orders" 0 cancelledHolding, rfl, by decide +kernel, rfl⟩

end System

end MessageChannels
