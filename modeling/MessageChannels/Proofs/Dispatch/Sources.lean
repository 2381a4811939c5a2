import Mathlib.Algebra.GroupWithZero.Nat
import MessageChannels.Proofs.Dispatch.Intake

/-!
# What sources give up

A source shows a delivery once: the broker counts the deliveries that it makes, and a written source
has one fewer left. What the sources give up in an event about an operation is what the operation is
said to take in it (`gives_step`), so nothing that it takes goes by unseen.
-/

set_option autoImplicit false

namespace MessageChannels

/-- How many deliveries a written source has left. -/
def ScriptedSource.unread (source : ScriptedSource) : Nat := source.items.countP Except.isOk

namespace System

/-- How many deliveries the written sources have left. -/
def unread (s : System) : Nat := (s.scripts.map ScriptedSource.unread).sum

/-- From one state to another, sources give up a number of deliveries. -/
def Gives (s s' : System) (n : Nat) : Prop :=
  s'.broker.taken + s.unread = s.broker.taken + s'.unread + n

/-- In every event about an operation, sources give up what the operation takes. -/
def DrawsOpenly (s : System) (op : Nat) (es : List Event) : Prop :=
  ∀ before e after, es = before ++ e :: after → e.operation (s.after before) = op →
    (s.after before).Gives ((s.after before).step e) ((s.after before).pulledIn op e).length

/-- No source has shown anything. -/
structure Undrawn (s s' : System) : Prop where
  taken : s'.broker.taken = s.broker.taken
  scripts : s'.scripts = s.scripts

variable {e : Event} {op k n : Nat} {s s₁ s' : System} {l : Loop} {c : Collection}

/-! ## What shows nothing -/

theorem Undrawn.trans (first : s.Undrawn s₁) (second : s₁.Undrawn s') : s.Undrawn s' :=
  ⟨second.taken.trans first.taken, second.scripts.trans first.scripts⟩

theorem Undrawn.gives (undrawn : s.Undrawn s') : s.Gives s' 0 := by
  unfold Gives unread
  rw [undrawn.taken, undrawn.scripts]
  rfl

theorem Gives.undrawn (gives : s.Gives s₁ n) (undrawn : s₁.Undrawn s') : s.Gives s' n := by
  unfold Gives unread at *
  rw [undrawn.taken, undrawn.scripts]
  exact gives

theorem undrawn_change (s : System) {c : Broker.Change} (unasked : c.isRequest = false)
    (unseen : c.isPoll = false) : s.Undrawn { s with broker := s.broker.change c } :=
  ⟨(Broker.numbers_change unasked unseen).2, rfl⟩

theorem undrawn_dropAcker (s : System) (a : Acker) : s.Undrawn (s.dropAcker a) := by
  cases a with
  | held n => exact s.undrawn_change (c := .release n) rfl rfl
  | scripted id => exact ⟨rfl, rfl⟩

theorem undrawn_dropSource (s : System) (source : Source) : s.Undrawn (s.dropSource source) := by
  cases source <;> exact ⟨rfl, rfl⟩

theorem undrawn_settleFrom (s : System) (i : Nat) (d : Disposition) (v : Settlement) :
    s.Undrawn (s.settleFrom i d v) := by
  rcases s.settleFrom_cases i d v with same | ⟨made, _, _, heq⟩
  · rw [same]
    exact ⟨rfl, rfl⟩
  · rw [heq]
    cases made.acker with
    | scripted id => cases v <;> exact ⟨rfl, rfl⟩
    | held n =>
      cases v with
      | ack => exact ⟨(Broker.numbers_change (c := .ack n) rfl rfl).2, rfl⟩
      | nack => exact ⟨(Broker.numbers_change (c := .nack n) rfl rfl).2, rfl⟩

theorem undrawn_tend (s : System) (op : Nat) (next : Topology.Next) :
    s.Undrawn (s.tend op next) := by
  refine ⟨by rw [broker_tend], ?_⟩
  unfold tend await
  split
  · split <;> rfl
  · rfl
  · rfl

theorem undrawn_endPublish (s : System) (op : Nat) (p : Publishing)
    (result : Except ChannelError String) : s.Undrawn (s.endPublish op p result) := by
  have settled (i : Nat) (waits : Bool) (v : Settlement) :
      s.Undrawn (if waits then s.settleFrom i .deadLetterPending v else s) := by
    split
    · exact s.undrawn_settleFrom i _ v
    · exact ⟨rfl, rfl⟩
  unfold endPublish
  split
  · exact ⟨rfl, rfl⟩
  · exact ⟨rfl, rfl⟩
  · exact (settled _ _ .ack).trans ⟨rfl, rfl⟩
  · exact (settled _ _ .nack).trans ⟨rfl, rfl⟩

theorem undrawn_answerPublish (s : System) (op : Nat) (p : Publishing)
    (reply : Except TransportError Reply) : s.Undrawn (s.answerPublish op p reply) := by
  cases reply with
  | ok reply =>
    have counted : s.Undrawn ((s.count .published p.label).count .publishDurations p.label) :=
      ⟨rfl, rfl⟩
    exact counted.trans (undrawn_endPublish _ op p _)
  | error err =>
    have counted : s.Undrawn (s.count .publishErrors p.label) := ⟨rfl, rfl⟩
    exact counted.trans (undrawn_endPublish _ op p _)

/-- A reply to an operation draws nothing. -/
theorem undrawn_answer (s : System) (op : Nat) (reply : Except TransportError Reply) :
    s.Undrawn (s.answer op reply) := by
  unfold answer
  split
  · exact ⟨rfl, rfl⟩
  · split
    · exact s.undrawn_answerPublish op _ reply
    · exact s.undrawn_tend op _
    · split <;> exact ⟨rfl, rfl⟩
    · unfold answerOpening listen
      split
      · split <;> exact ⟨rfl, rfl⟩
      · exact ⟨rfl, rfl⟩
      · exact ⟨rfl, rfl⟩
    · exact ⟨rfl, rfl⟩

theorem undrawn_stopLoop (s : System) (op : Nat) (l : Loop) (outcome : Except ChannelError Unit) :
    s.Undrawn (s.stopLoop op l outcome) := by
  unfold stopLoop
  split
  · rename_i d _
    exact ((s.undrawn_dropAcker d.acker).trans (undrawn_dropSource _ l.source)).trans ⟨rfl, rfl⟩
  · exact (undrawn_dropSource s l.source).trans ⟨rfl, rfl⟩

/-! ## A look at a source -/

theorem sum_unread_set {scripts : List ScriptedSource} {source : ScriptedSource}
    (found : scripts[n]? = some source) (rest : ScriptedSource) :
    ((scripts.set n rest).map ScriptedSource.unread).sum + source.unread
      = (scripts.map ScriptedSource.unread).sum + rest.unread := by
  induction scripts generalizing n with
  | nil => cases found
  | cons first later ih =>
    cases n with
    | zero =>
      cases found
      simp only [List.set_cons_zero, List.map_cons, List.sum_cons]
      omega
    | succ n =>
      have rest := ih found
      simp only [List.set_cons_succ, List.map_cons, List.sum_cons]
      omega

theorem unread_poll (source : ScriptedSource) (name : String) : source.unread
    = source.poll.1.unread + ((Heard.ofPoll name source.poll.2).filterMap Heard.delivery?).length := by
  unfold ScriptedSource.poll
  split
  · cases source.hangs <;> rfl
  · rename_i m rest items
    simp only [ScriptedSource.unread, items]
    exact List.countP_cons_of_pos rfl
  · rename_i err rest items
    simp only [ScriptedSource.unread, items]
    exact List.countP_cons_of_neg (by simp [Except.isOk, Except.toBool])

/-- A look takes from a source what it shows. -/
theorem gives_poll (s : System) (source : Source) (name : String) :
    s.Gives (s.poll source).1
      ((Heard.ofPoll name (s.poll source).2).filterMap Heard.delivery?).length := by
  cases source with
  | stream n =>
    simp only [poll]
    rcases s.broker.pollStream_cases n with ⟨none, same⟩ | ⟨name', sub, m, rest, _, _, _, heq⟩
    · have silent : (Heard.ofPoll name (s.broker.pollStream n).2).filterMap Heard.delivery? = [] := by
        cases shown : (s.broker.pollStream n).2 with
        | delivered d => exact absurd shown (none d)
        | _ => rfl
      rw [silent]
      exact Undrawn.gives ⟨congrArg Ledger.taken same, rfl⟩
    · rw [heq]
      show s.broker.taken + 1 + s.unread = s.broker.taken + s.unread + 1
      omega
  | script n =>
    cases found : s.scripts[n]? with
    | none =>
      simp only [poll, found]
      exact Undrawn.gives ⟨rfl, rfl⟩
    | some source =>
      have total := sum_unread_set found source.poll.1
      have shown := unread_poll source name
      simp only [poll, found]
      show s.broker.taken + (s.scripts.map ScriptedSource.unread).sum
        = s.broker.taken + ((s.scripts.set n source.poll.1).map ScriptedSource.unread).sum + _
      omega

/-! ## Events -/

theorem gives_turn_loop (found : s.operations[op]? = some ⟨k, .receiving l⟩) :
    s.Gives (s.step (.turn op)) (s.pulledIn op (.turn op)).length := by
  rw [pulledIn, heardIn_turn_loop found, turn_loop found, turnLoop]
  cases move : l.move (s.isCancelled l.ctx) (s.isClosed k) with
  | look =>
    have looks := s.gives_poll l.source l.subscription
    dsimp only
    split
    · exact looks
    · exact looks.undrawn ⟨rfl, rfl⟩
    · exact looks.undrawn (undrawn_stopLoop _ op l _)
  | join panicked => cases panicked <;> exact Undrawn.gives ⟨rfl, rfl⟩
  | stop outcome => exact (s.undrawn_stopLoop op l outcome).gives
  | _ => exact Undrawn.gives ⟨rfl, rfl⟩

theorem gives_turn_collection (found : s.operations[op]? = some ⟨k, .collecting c⟩) :
    s.Gives (s.step (.turn op)) (s.pulledIn op (.turn op)).length := by
  rw [pulledIn, heardIn_turn_collection found, turn_collection found, turnCollection]
  cases move : c.move (s.isCancelled c.ctx) (s.isClosed k) with
  | look =>
    have looks := s.gives_poll c.source c.subscription
    dsimp only
    split
    · exact looks
    · rename_i d _
      have made : (s.poll c.source).1.Undrawn ((s.poll c.source).1.addEnvelope k c.channel d).1 :=
        ⟨rfl, rfl⟩
      have settled := undrawn_settleFrom ((s.poll c.source).1.addEnvelope k c.channel d).1
        (s.poll c.source).1.envelopes.length .received .ack
      exact (looks.undrawn (made.trans settled)).undrawn ⟨rfl, rfl⟩
    · exact (looks.undrawn (undrawn_dropSource _ c.source)).undrawn ⟨rfl, rfl⟩
  | finish result => exact ((s.undrawn_dropSource c.source).trans ⟨rfl, rfl⟩).gives

/-- **Sources give up what an operation takes**, in every event about the operation. -/
theorem gives_step (begun : op < s.operations.length) (about : e.operation s = op) :
    s.Gives (s.step e) (s.pulledIn op e).length := by
  obtain ⟨⟨k, state⟩, found⟩ : ∃ o, s.operations[op]? = some o :=
    ⟨_, List.getElem?_eq_getElem begun⟩
  have stands := map_state_of_getElem? found
  cases concerns_of_about begun about with
  | serve =>
    rw [pulledIn_of_not_turn (e := .serve op) (by simp)]
    simp only [step, serve]
    split
    · exact Undrawn.gives ⟨rfl, rfl⟩
    · rename_i r _
      refine (Undrawn.trans ?_ (undrawn_answer _ op _)).gives
      exact ⟨(s.broker.deliveries_perform s.clock r).1, rfl⟩
  | reply r =>
    rw [pulledIn_of_not_turn (e := .reply op r) (by simp)]
    exact (s.undrawn_answer op r).gives
  | turn =>
    cases state with
    | receiving l => exact gives_turn_loop found
    | collecting c => exact gives_turn_collection found
    | _ =>
      have same : s.step (.turn op) = s := by simp only [step, turn, found]
      have silent : s.pulledIn op (.turn op) = [] := by
        simp only [pulledIn, heardIn, if_true, seenBy, found, List.filterMap_nil]
      rw [same, silent]
      exact Undrawn.gives ⟨rfl, rfl⟩
  | handlerEnded i panicked =>
    rw [pulledIn_of_not_turn (e := .handlerEnded op i panicked) (by simp)]
    simp only [step, handlerEnded, stands]
    cases state <;> exact Undrawn.gives ⟨rfl, rfl⟩
  | abandon =>
    rw [pulledIn_of_not_turn (e := .abandon op) (by simp)]
    simp only [step, abandon, stands]
    cases state with
    | receiving l => exact ((s.undrawn_stopLoop op l (.error .closed)).trans ⟨rfl, rfl⟩).gives
    | collecting c => exact ((s.undrawn_dropSource c.source).trans ⟨rfl, rfl⟩).gives
    | _ => exact Undrawn.gives ⟨rfl, rfl⟩

theorem drawsOpenly (begun : op < s.operations.length) (es : List Event) : s.DrawsOpenly op es := by
  intro before e after _ about
  exact gives_step (Nat.lt_of_lt_of_le begun (s.length_le_after before)) about

end System

end MessageChannels
