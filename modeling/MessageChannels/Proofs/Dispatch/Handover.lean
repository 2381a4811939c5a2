import MessageChannels.Proofs.Dispatch.Handlers
import MessageChannels.Proofs.Dispatch.Sources

/-!
# What a receive loop hands over

A receive loop holds a delivery that it takes until it hands it to a handler, so that at any time it
has handed over all that it took but what it holds (`Delivers`). What it holds when it stops is given
up without a settlement. `handover_step` says what one event does to the loop, what is taken and
written in it and which handlers begin.
-/

set_option autoImplicit false

namespace MessageChannels

/-- An entry reports something. -/
def Entry.Reports (w : Entry) : Prop := ∃ text cause, w = .note (.reported text cause)

/-- Two states of one loop in which it is at the same. -/
structure Loop.Alike (l l' : Loop) : Prop where
  channel : l'.channel = l.channel
  ctx : l'.ctx = l.ctx
  phase : l'.phase = l.phase

namespace Loop

theorem alike_refl (l : Loop) : l.Alike l := ⟨rfl, rfl, rfl⟩

theorem alike_joined (l : Loop) : l.Alike l.joined := ⟨rfl, rfl, rfl⟩

theorem alike_handlerEnded (l : Loop) (i : Nat) (panicked : Bool) :
    l.Alike (l.handlerEnded i panicked) := by
  unfold handlerEnded
  split <;> exact ⟨rfl, rfl, rfl⟩

theorem running_handlerEnded (l : Loop) (i : Nat) (panicked : Bool) :
    (l.handlerEnded i panicked).running ⊆ l.running := by
  unfold handlerEnded
  split
  · exact List.erase_subset
  · exact List.Subset.refl _

end Loop

namespace System

/-- What an event makes of an operation that is a receive loop of a service, what the operation takes
in it, whose handlers begin and what is written. -/
inductive HandoverNext (s : System) (e : Event) (op k : Nat) (l : Loop) :
    OperationState → List Taken → List Nat → List Entry → Prop where
  | took (d : Taken) (phase : l.phase = .listening) :
      HandoverNext s e op k l (.receiving { l with phase := .holding d }) [d] [] []
  /-- The loop hands its delivery over as a new envelope. -/
  | handed (d : Taken) (phase : l.phase = .holding d)
      (made : (s.step e).envelopes
        = s.envelopes ++ [⟨d.message, l.channel, k, d.acker, .received⟩]) :
      HandoverNext s e op k l (.receiving (l.handed s.envelopes.length)) []
        [s.envelopes.length] [.note (.counted .received l.channel)]
  /-- The loop stops while it holds a delivery. -/
  | gaveUp (d : Taken) (outcome : Except ChannelError Unit) (cause : e = .turn op)
      (phase : l.phase = .holding d) (halted : s.isCancelled l.ctx = true ∨ s.isClosed k = true)
      (stopped : s.step e = s.stopLoop op l outcome) :
      HandoverNext s e op k l (.receiving (l.stopped outcome)) [] [] []
  | stopped (outcome : Except ChannelError Unit) (phase : l.phase = .listening) :
      HandoverNext s e op k l (.receiving (l.stopped outcome)) [] [] []
  /-- The loop holds what it held; at most a panic is reported. -/
  | went (l' : Loop) (alike : l.Alike l') (ws : List Entry) (reports : ∀ w ∈ ws, w.Reports) :
      HandoverNext s e op k l (.receiving l') [] [] ws
  | returned (outcome : Except ChannelError Unit) (phase : l.phase = .draining outcome) :
      HandoverNext s e op k l (.finished (outcome.map fun _ => .done)) [] [] []
  | abandoned (cause : e = .abandon op) : HandoverNext s e op k l .abandoned [] [] []

/-- An event leaves a receive loop somewhere that accounts for what the loop does in it. -/
def Advances (s : System) (e : Event) (op k : Nat) (l : Loop) : Prop :=
  ∃ state ds is ws, (s.step e).operations[op]? = some ⟨k, state⟩ ∧ s.Does op e ds ws ∧
    s.begunIn op e = is ∧ s.HandoverNext e op k l state ds is ws

variable {e : Event} {op k ctx : Nat} {s : System} {l : Loop} {es : List Event} {channel : String}

/-! ## Turns -/

theorem begunIn_of_standing {state state' : OperationState}
    (found : s.operations[op]? = some ⟨k, state⟩)
    (found' : (s.step e).operations[op]? = some ⟨k, state'⟩)
    (fewer : state'.running ⊆ state.running) : s.begunIn op e = [] := by
  apply begunIn_of_subset
  rw [running_of_getElem? found, running_of_getElem? found']
  exact fewer

/-- The handler of a new envelope begins. -/
theorem begunIn_of_handed (reachable : s.Reachable)
    (found : s.operations[op]? = some ⟨k, .receiving l⟩)
    (found' : (s.step e).operations[op]? = some ⟨k, .receiving (l.handed s.envelopes.length)⟩) :
    s.begunIn op e = [s.envelopes.length] := by
  have fresh : s.envelopes.length ∉ l.running := by
    intro runs
    obtain ⟨made, made_found, _⟩ := reachable.running (o := ⟨k, .receiving l⟩) found runs
    have bound := (List.getElem?_eq_some_iff.1 made_found).1
    omega
  rw [begunIn, running_of_getElem? found, running_of_getElem? found']
  simp [OperationState.running, Loop.handed, List.filter_append, fresh]

/-- A loop that stops by a move other than a look is cancelled or its service closed. -/
theorem halted_of_stop {outcome : Except ChannelError Unit}
    (move : l.move (s.isCancelled l.ctx) (s.isClosed k) = .stop outcome) :
    s.isCancelled l.ctx = true ∨ s.isClosed k = true := by
  unfold Loop.move at move
  cases phase : l.phase with
  | listening => grind
  | holding d => grind
  | draining outcome => grind

theorem journal_stopLoop (s : System) (op : Nat) (l : Loop) (outcome : Except ChannelError Unit) :
    (s.stopLoop op l outcome).journal = s.journal := by
  unfold stopLoop
  refine (journal_dropSource _ _).trans ?_
  split
  · exact journal_dropAcker _ _
  · rfl

/-- What moves a loop without taking, writing or beginning anything. -/
theorem advances_quietly {state : OperationState}
    (found : s.operations[op]? = some ⟨k, .receiving l⟩)
    (standing : (s.step e).operations[op]? = some ⟨k, state⟩) (does : s.Does op e [] [])
    (fewer : state.running ⊆ l.running) (next : s.HandoverNext e op k l state [] [] []) :
    s.Advances e op k l :=
  ⟨state, [], [], [], standing, does, begunIn_of_standing found standing fewer, next⟩

/-- A loop that an event leaves as it is. -/
theorem advances_unmoved (found : s.operations[op]? = some ⟨k, .receiving l⟩)
    (standing : (s.step e).operations[op]? = some ⟨k, .receiving l⟩) (does : s.Does op e [] []) :
    s.Advances e op k l :=
  advances_quietly found standing does (List.Subset.refl _) (.went l l.alike_refl [] nofun)

/-- A look of a loop at its source. -/
theorem handover_look (found : s.operations[op]? = some ⟨k, .receiving l⟩)
    (move : l.move (s.isCancelled l.ctx) (s.isClosed k) = .look) : s.Advances (.turn op) op k l := by
  obtain ⟨_, listening, _⟩ := phase_of_move l (s.isCancelled l.ctx) (s.isClosed k)
  have polled := standing_poll found
  have hears := heardIn_turn_loop found
  rw [move] at hears
  have stopped {outcome : Except ChannelError Unit}
      (seen : l.seen (s.isClosed k) (s.poll l.source).2 = some (.inr outcome))
      (silent : (Heard.ofPoll l.subscription (s.poll l.source).2).filterMap Heard.delivery? = []) :
      s.Advances (.turn op) op k l := by
    have turned : s.step (.turn op) = (s.poll l.source).1.stopLoop op l outcome := by
      rw [turn_loop found]
      simp only [turnLoop, move, seen]
    have standing := operations_stopLoop polled outcome
    rw [← turned] at standing
    refine advances_quietly found standing ⟨?_, writtenIn_of_journal rfl ?_⟩
      (List.Subset.refl _) (.stopped outcome (listening move))
    · rw [pulledIn, hears, silent]
    · rw [turned, journal_stopLoop, journal_poll, List.append_nil]
  cases shown : (s.poll l.source).2 with
  | pending =>
    rw [shown] at hears
    have turned : s.step (.turn op) = (s.poll l.source).1 := by
      rw [turn_loop found]
      simp only [turnLoop, move, shown, Loop.seen]
    refine advances_unmoved found (turned ▸ polled) (does_nothing rfl hears ?_)
    rw [turned, journal_poll]
  | delivered d =>
    rw [shown] at hears
    have turned : s.step (.turn op)
        = (s.poll l.source).1.setState op (.receiving { l with phase := .holding d }) := by
      rw [turn_loop found]
      simp only [turnLoop, move, shown, Loop.seen]
    have standing : (s.step (.turn op)).operations[op]?
        = some ⟨k, .receiving { l with phase := .holding d }⟩ :=
      turned ▸ getElem?_setState_self polled _
    refine ⟨_, [d], [], [], standing, ⟨?_, writtenIn_of_journal rfl ?_⟩,
      begunIn_of_standing found standing (List.Subset.refl _), .took d (listening move)⟩
    · rw [pulledIn, hears]
      rfl
    · rw [turned, List.append_nil]
      exact journal_poll s l.source
  | failed err => exact stopped (by rw [shown]; rfl) (by rw [shown]; rfl)
  | ended => exact stopped (by rw [shown]; rfl) (by rw [shown]; rfl)

/-- A turn of a loop that stops because it is cancelled or its service is closed. -/
theorem handover_stop {outcome : Except ChannelError Unit}
    (found : s.operations[op]? = some ⟨k, .receiving l⟩)
    (move : l.move (s.isCancelled l.ctx) (s.isClosed k) = .stop outcome) :
    s.Advances (.turn op) op k l := by
  have hears := heardIn_turn_loop found
  rw [move] at hears
  have turned : s.step (.turn op) = s.stopLoop op l outcome := by
    rw [turn_loop found]
    simp only [turnLoop, move]
  have does : s.Does op (.turn op) [] [] := by
    refine does_nothing rfl hears ?_
    rw [turned, journal_stopLoop]
  refine advances_quietly found (turn_stop found move) does (List.Subset.refl _) ?_
  cases phase : l.phase with
  | listening => exact .stopped outcome phase
  | holding d => exact .gaveUp d outcome rfl phase (halted_of_stop move) turned
  | draining outcome' => exact absurd phase ((stop_cases move).1 outcome')

/-- A turn of a loop that takes notice of a handler's end. -/
theorem handover_join {panicked : Bool} (found : s.operations[op]? = some ⟨k, .receiving l⟩)
    (move : l.move (s.isCancelled l.ctx) (s.isClosed k) = .join panicked) :
    s.Advances (.turn op) op k l := by
  have hears := heardIn_turn_loop found
  rw [move] at hears
  have standing := turn_join found move
  have turned : s.step (.turn op) = (if panicked then
      s.note (.reported "Message handler panicked" none) else s).setState op
        (.receiving l.joined) := by
    rw [turn_loop found]
    simp only [turnLoop, move]
  cases panicked with
  | false =>
    refine advances_quietly found standing (does_nothing rfl hears ?_) (List.Subset.refl _)
      (.went l.joined l.alike_joined [] (by simp))
    rw [turned]
    rfl
  | true =>
    refine ⟨_, [], [], [.note (.reported "Message handler panicked" none)], standing,
      ⟨?_, writtenIn_of_journal rfl ?_⟩, begunIn_of_standing found standing (List.Subset.refl _),
      .went l.joined l.alike_joined _ ?_⟩
    · rw [pulledIn, hears, List.filterMap_nil]
    · rw [turned]
      rfl
    · intro w mem
      exact ⟨_, _, List.mem_singleton.1 mem⟩

/-- A turn in which a loop hands its delivery over makes the envelope and begins its handler. -/
theorem turn_hand (reachable : s.Reachable) {d : Taken}
    (found : s.operations[op]? = some ⟨k, .receiving l⟩)
    (move : l.move (s.isCancelled l.ctx) (s.isClosed k) = .hand d) :
    s.step (.turn op) = (s.addEnvelope k l.channel d).1.setState op
        (.receiving (l.handed s.envelopes.length)) ∧
      (s.step (.turn op)).operations[op]?
        = some ⟨k, .receiving (l.handed s.envelopes.length)⟩ ∧
      s.begunIn op (.turn op) = [s.envelopes.length] := by
  have turned : s.step (.turn op) = (s.addEnvelope k l.channel d).1.setState op
      (.receiving (l.handed s.envelopes.length)) := by
    rw [turn_loop found]
    simp only [turnLoop, move]
    rfl
  have standing : (s.step (.turn op)).operations[op]?
      = some ⟨k, .receiving (l.handed s.envelopes.length)⟩ :=
    turned ▸ getElem?_setState_self (o := ⟨k, .receiving l⟩) found _
  exact ⟨turned, standing, begunIn_of_handed reachable found standing⟩

theorem handover_hand (reachable : s.Reachable) {d : Taken}
    (found : s.operations[op]? = some ⟨k, .receiving l⟩)
    (move : l.move (s.isCancelled l.ctx) (s.isClosed k) = .hand d) :
    s.Advances (.turn op) op k l := by
  obtain ⟨_, _, holding⟩ := phase_of_move l (s.isCancelled l.ctx) (s.isClosed k)
  obtain ⟨turned, standing, begins⟩ := turn_hand reachable found move
  have hears := heardIn_turn_loop found
  rw [move] at hears
  refine ⟨_, [], _, [.note (.counted .received l.channel)], standing,
    ⟨?_, writtenIn_of_journal rfl ?_⟩, begins, .handed d (holding d move) ?_⟩
  · rw [pulledIn, hears, List.filterMap_nil]
  · rw [turned]
    rfl
  · rw [turned]
    rfl

theorem handover_turn (reachable : s.Reachable)
    (found : s.operations[op]? = some ⟨k, .receiving l⟩) : s.Advances (.turn op) op k l := by
  have hears := heardIn_turn_loop found
  cases move : l.move (s.isCancelled l.ctx) (s.isClosed k) with
  | look => exact handover_look found move
  | stop outcome => exact handover_stop found move
  | join panicked => exact handover_join found move
  | hand d => exact handover_hand reachable found move
  | finish outcome =>
    rw [move] at hears
    have turned : s.step (.turn op) = s.finish op (outcome.map fun _ => .done) := by
      rw [turn_loop found]
      simp only [turnLoop, move]
    refine advances_quietly found (turned ▸ getElem?_setState_self found _)
      (does_nothing rfl hears ?_) (List.nil_subset _) (.returned outcome (phase_of_finish move))
    rw [turned]
    rfl
  | wait =>
    rw [move] at hears
    have same : s.step (.turn op) = s := by
      rw [turn_loop found]
      simp only [turnLoop, move]
    refine advances_unmoved found ?_ (does_nothing rfl hears ?_)
    · rw [same, found]
    · rw [same]

/-- **What an event does to a receive loop**, and what the loop takes, begins and writes in it. -/
theorem handover_step (reachable : s.Reachable)
    (found : s.operations[op]? = some ⟨k, .receiving l⟩) (e : Event) : s.Advances e op k l := by
  have begun := (List.getElem?_eq_some_iff.1 found).1
  have stands := map_state_of_getElem? found
  have unmoved {e : Event} (about : e.operation s = op) (turns : e ≠ .turn op)
      (same : s.step e = s) : s.Advances e op k l :=
    advances_unmoved found (by rw [same, found])
      (does_nothing_unturned about turns (by rw [same]))
  by_cases about : e.operation s = op
  · cases concerns_of_about begun about with
    | serve =>
      have waits : s.request? op = none := by simp [request?, found, OperationState.request?]
      exact unmoved about (by simp) (by simp only [step, serve, waits])
    | reply r => exact unmoved about (by simp) (by simp only [step, answer, found])
    | turn => exact handover_turn reachable found
    | handlerEnded i panicked =>
      have ended : s.step (.handlerEnded op i panicked)
          = s.setState op (.receiving (l.handlerEnded i panicked)) := by
        simp only [step, System.handlerEnded, stands]
      have standing : (s.step (.handlerEnded op i panicked)).operations[op]?
          = some ⟨k, .receiving (l.handlerEnded i panicked)⟩ :=
        ended ▸ getElem?_setState_self found _
      refine advances_quietly found standing (does_nothing_unturned about (by simp) ?_)
        (l.running_handlerEnded i panicked) (.went _ (l.alike_handlerEnded i panicked) [] (by simp))
      rw [ended]
      rfl
    | abandon =>
      have given : s.step (.abandon op)
          = (s.stopLoop op l (.error .closed)).setState op .abandoned := by
        simp only [step, abandon, stands]
      refine advances_quietly found ?_ (does_nothing_unturned about (by simp) ?_) (List.nil_subset _)
        (.abandoned rfl)
      · rw [given]
        exact getElem?_setState_self (operations_stopLoop found (.error .closed)) _
      · rw [given]
        exact journal_stopLoop s op l (.error .closed)
  · obtain ⟨same, _⟩ := s.frame_step e (Ne.symm about) begun
    exact advances_unmoved found (same.trans found) (does_nothing_elsewhere about)

end System

end MessageChannels
