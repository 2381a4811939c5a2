import MessageChannels.Proofs.Broker.Origin

/-!
# How a queue moves

Messages join the backlog of a subscription at its end, and deliveries take from its front.
`QueueMove` says what one change does to the queue of a subscription that is there before and after
it. Over a run this makes the queue first in, first out, however many streams read it (`fifo`), so
that a message which is put back is delivered again only after all those that waited then (`behind`).
-/

set_option autoImplicit false

namespace MessageChannels

namespace Broker

/-! ## What a run delivers -/

/-- The message that a change delivers from the subscription of a name, if it does. -/
def deliveredIn (b : Broker) (name : String) : Change → List Message
  | .poll n =>
    match b.streams.find? (fun s => s.number = n), (b.pollStream n).2 with
    | some s, .delivered d => if s.subscription = name then [d.message] else []
    | _, _ => []
  | _ => []

/-- What a run delivers from the subscription of a name, one message for each delivery. -/
def deliveries (b : Broker) (name : String) : List Change → List Message
  | [] => []
  | c :: cs => b.deliveredIn name c ++ (b.change c).deliveries name cs

variable {b : Broker} {c : Change} {name topic : String} {sub : Subscription}

theorem deliveries_append (b : Broker) (name : String) (cs ds : List Change) :
    b.deliveries name (cs ++ ds) = b.deliveries name cs ++ (b.after cs).deliveries name ds := by
  induction cs generalizing b with
  | nil => rfl
  | cons c cs ih =>
    rw [List.cons_append, deliveries, deliveries, ih, List.append_assoc]
    rfl

theorem deliveries_snoc (b : Broker) (name : String) (cs : List Change) (c : Change) :
    b.deliveries name (cs ++ [c]) = b.deliveries name cs ++ (b.after cs).deliveredIn name c := by
  rw [deliveries_append, deliveries, deliveries, List.append_nil]

/-! ## One change -/

/-- A delivery is held under the subscription that its stream reads. -/
theorem held_pollStream {n : Nat} {s : Stream} {d : Taken}
    (reads : b.streams.find? (fun s => s.number = n) = some s)
    (shown : (b.pollStream n).2 = .delivered d) :
    (b.pollStream n).1.held = b.held ++ [⟨b.taken, s.subscription, d.message⟩] := by
  unfold pollStream at shown ⊢
  rw [reads] at shown ⊢
  dsimp only at shown ⊢
  by_cases ended : s.ended = true
  · rw [if_pos ended] at shown
    cases shown
  rw [if_neg ended] at shown ⊢
  by_cases sleeps : b.parked.any (fun p => p.stream = n) = true
  · rw [if_pos sleeps] at shown
    cases shown
  rw [if_neg sleeps] at shown ⊢
  unfold look at shown ⊢
  split at shown
  · cases shown
  · rename_i opened
    rw [if_neg opened]
    split at shown
    · cases shown
    · rename_i sub found
      split at shown
      · rename_i m rest first
        cases shown
        rfl
      · cases shown

/-- Looking at a stream delivers nothing and changes nothing in the ledger, or delivers the first
message that waits on one subscription. -/
theorem deliveredIn_poll (b : Broker) (name : String) (n : Nat) :
    (b.deliveredIn name (.poll n) = [] ∧ (b.change (.poll n)).ledger = b.ledger) ∨
      ∃ taken s m rest, b.subscriptions.get? taken = some s ∧ s.backlog = m :: rest ∧
        b.deliveredIn name (.poll n) = (if taken = name then [m] else []) ∧
        (b.change (.poll n)).ledger = { b.ledger with
          subscriptions := b.subscriptions.insert taken { s with backlog := rest }
          held := b.held ++ [⟨b.taken, taken, m⟩]
          taken := b.taken + 1 } := by
  rcases b.pollStream_cases n with ⟨nothing, same⟩ | ⟨taken, s, m, rest, _, found, first, heq⟩
  · left
    constructor
    · dsimp only [deliveredIn]
      split
      · rename_i d _ shown
        exact absurd shown (nothing d)
      · rfl
    · exact same
  · right
    refine ⟨taken, s, m, rest, found, first, ?_, congrArg (fun p => p.1.ledger) heq⟩
    have shown : (b.pollStream n).2 = .delivered ⟨m, .held b.taken⟩ := congrArg Prod.snd heq
    dsimp only [deliveredIn]
    rw [shown]
    cases reads : b.streams.find? (fun s => s.number = n) with
    | none =>
      have ended : b.pollStream n = (b, .ended) := by
        unfold pollStream
        rw [reads]
      rw [ended] at shown
      cases shown
    | some stream =>
      have held := held_pollStream reads shown
      rw [heq] at held
      have same := List.singleton_inj.1 (List.append_cancel_left held)
      have named : taken = stream.subscription := congrArg Held.subscription same
      dsimp only
      rw [named]

/-- What a change does to the queue of a subscription of `topic` that is there before it and after
it. -/
inductive QueueMove (b : Broker) (c : Change) (name topic : String) : Prop where
  | rests (new : List (String × Message))
      (waiting : (b.change c).backlog name = b.backlog name)
      (delivered : b.deliveredIn name c = [])
      (published : (b.change c).published = b.published ++ new)
      (elsewhere : Ledger.ofTopic topic new = [])
  | arrives (m : Message)
      (waiting : (b.change c).backlog name = b.backlog name ++ [m])
      (delivered : b.deliveredIn name c = [])
      (published : (b.change c).published = b.published ++ [(topic, m)])
  | delivers (m : Message)
      (waiting : b.backlog name = m :: (b.change c).backlog name)
      (delivered : b.deliveredIn name c = [m])
      (published : (b.change c).published = b.published)
  | returns (h : Held) (held : h ∈ b.held) (subscription : h.subscription = name)
      (waiting : (b.change c).backlog name = b.backlog name ++ [h.message])
      (delivered : b.deliveredIn name c = [])
      (published : (b.change c).published = b.published)

theorem backlog_of_get? (found : b.subscriptions.get? name = some sub) :
    b.backlog name = sub.backlog := by
  unfold backlog
  rw [found]
  rfl

theorem QueueMove.of_same (waiting : (b.change c).backlog name = b.backlog name)
    (delivered : b.deliveredIn name c = []) (published : (b.change c).published = b.published) :
    b.QueueMove c name topic := by
  apply QueueMove.rests []
  · exact waiting
  · exact delivered
  · rw [published, List.append_nil]
  · rfl

theorem deliveredIn_of_unseen (unseen : c.isPoll = false) : b.deliveredIn name c = [] := by
  cases c with
  | poll n => cases unseen
  | _ => rfl

/-- A change that looks at no stream moves the queue of a subscription that lasts, if at all, by
adding to its end. -/
theorem queueMove_of_unseen (unseen : c.isPoll = false)
    (found : b.subscriptions.get? name = some sub)
    (lasts : (b.change c).subscriptions.get? name ≠ none) : b.QueueMove c name sub.topic := by
  have delivered : b.deliveredIn name c = [] := deliveredIn_of_unseen unseen
  have taken := (quiet_change (b := b) unseen).taken
  have step := b.ledger_change c
  generalize hl : (b.change c).ledger = l at step taken
  have waiting : (b.change c).backlog name = l.backlog name := hl ▸ rfl
  have published : (b.change c).published = l.published := hl ▸ rfl
  have lasts : l.subscriptions.get? name ≠ none := hl ▸ lasts
  have rests (same : l.subscriptions.get? name = b.subscriptions.get? name)
      (pub : l.published = b.published) : b.QueueMove c name sub.topic := by
    apply QueueMove.of_same
    · rw [waiting, Ledger.backlog, same]
      rfl
    · exact delivered
    · exact published.trans pub
  cases step with
  | create created t deadline opened fresh =>
    have others : name ≠ created := by
      rintro rfl
      cases fresh.symm.trans found
    apply rests
    · show (b.subscriptions.insert created _).get? name = _
      rw [Dictionary.get?_insert, if_neg others]
    · rfl
  | delete gone opened =>
    have others : name ≠ gone := by
      rintro rfl
      apply lasts
      show (b.subscriptions.erase name).get? name = none
      rw [Dictionary.get?_erase, if_pos rfl]
    apply rests
    · show (b.subscriptions.erase gone).get? name = _
      rw [Dictionary.get?_erase, if_neg others]
    · rfl
  | accept t m opened numbered =>
    have queue : (b.change c).backlog name = (sub.deposit t m).backlog := by
      rw [waiting, Ledger.backlog]
      show ((b.subscriptions.map _).get? name |>.map _).getD [] = _
      rw [Dictionary.get?_map, found]
      rfl
    rw [Subscription.deposit] at queue
    by_cases own : sub.topic = t
    · rw [if_pos own] at queue
      apply QueueMove.arrives m
      · rw [queue, backlog_of_get? found]
        rfl
      · exact delivered
      · rw [own]
        exact published
    · rw [if_neg own] at queue
      apply QueueMove.rests [(t, m)]
      · rw [queue, backlog_of_get? found]
      · exact delivered
      · exact published
      · simp [Ledger.ofTopic, Ne.symm own]
  | deliver name' s m rest opened before first =>
    have more : b.taken + 1 = b.taken := taken
    omega
  | requeue h nacked opened member =>
    have queue := b.ledger.backlog_queued h.subscription h.message name
      { b.ledger with
        held := Ledger.without b.ledger.held h.number
        nacked := b.ledger.nacked ++ nacked
        subscriptions := queued b.ledger.subscriptions h.subscription h.message } rfl
    rw [← waiting] at queue
    by_cases own : h.subscription = name
    · have there : (b.ledger.subscriptions.get? h.subscription).isSome := by
        rw [own]
        exact Option.isSome_of_eq_some found
      rw [if_pos ⟨own.symm, there⟩] at queue
      exact .returns h member own queue delivered published
    · rw [if_neg (fun both => own both.1.symm), List.append_nil] at queue
      exact .of_same queue delivered published
  | _ => exact rests rfl rfl

/-- Every change moves the queue of a subscription that lasts in one of four ways. -/
theorem queueMove (found : b.subscriptions.get? name = some sub)
    (lasts : (b.change c).subscriptions.get? name ≠ none) : b.QueueMove c name sub.topic := by
  by_cases looks : ∃ n, c = .poll n
  · obtain ⟨n, rfl⟩ := looks
    rcases b.deliveredIn_poll name n with
      ⟨nothing, same⟩ | ⟨taken, s, m, rest, before, first, delivered, ledger⟩
    · apply QueueMove.of_same
      · exact congrArg (Ledger.backlog · name) same
      · exact nothing
      · exact congrArg Ledger.published same
    · have published : (b.change (.poll n)).published = b.published :=
        congrArg Ledger.published ledger
      have after : (b.change (.poll n)).subscriptions.get? name
          = if name = taken then some { s with backlog := rest } else b.subscriptions.get? name := by
        show (b.change (.poll n)).ledger.subscriptions.get? name = _
        rw [ledger]
        exact Dictionary.get?_insert _ _ _ _
      by_cases own : name = taken
      · subst own
        rw [if_pos rfl] at delivered after
        apply QueueMove.delivers m
        · rw [backlog_of_get? before, backlog_of_get? after, first]
        · exact delivered
        · exact published
      · rw [if_neg own] at after
        rw [if_neg (Ne.symm own)] at delivered
        apply QueueMove.of_same
        · rw [backlog, after]
          rfl
        · exact delivered
        · exact published
  · have unseen : c.isPoll = false := by
      cases c with
      | poll n => exact absurd ⟨n, rfl⟩ looks
      | _ => rfl
    exact queueMove_of_unseen unseen found lasts

/-- What is held from a subscription after a change was held before it, or is delivered by it. -/
theorem held_or_delivered {h : Held} (held : h ∈ (b.change c).held)
    (subscription : h.subscription = name) : h ∈ b.held ∨ h.message ∈ b.deliveredIn name c := by
  by_cases seen : c.isPoll = true
  · cases c with
    | poll n =>
      rcases b.deliveredIn_poll name n with
        ⟨_, same⟩ | ⟨taken, s, m, rest, _, _, delivered, ledger⟩
      · left
        have unchanged : (b.change (.poll n)).held = b.held := congrArg Ledger.held same
        exact unchanged ▸ held
      · have grown : (b.change (.poll n)).held = b.held ++ [⟨b.taken, taken, m⟩] :=
          congrArg Ledger.held ledger
        rw [grown] at held
        rcases List.mem_append.1 held with old | new
        · exact Or.inl old
        · obtain rfl := List.mem_singleton.1 new
          right
          rw [delivered, if_pos subscription]
          exact List.mem_singleton.2 rfl
    | _ => cases seen
  · left
    exact (quiet_change (Bool.eq_false_iff.2 seen)).held h held

/-! ## Runs -/

theorem creations_le_after (b : Broker) (cs : List Change) :
    b.creations ≤ (b.after cs).creations := by
  induction cs generalizing b with
  | nil => apply Nat.le_refl
  | cons c cs ih =>
    have first : b.creations ≤ (b.change c).creations := (b.ledger_change c).creations_le
    exact Nat.le_trans first (ih (b.change c))

/-- A subscription that was made before some changes is there after them. -/
def Lasts (b : Broker) (cs : List Change) (name topic : String) : Prop :=
  ∃ sub, (b.after cs).subscriptions.get? name = some sub ∧ sub.topic = topic ∧
    sub.creation < b.creations

/-- A subscription that lasts is there from the first to the last. -/
theorem Lasts.split {cs ds : List Change} (lasts : b.Lasts (cs ++ ds) name topic) :
    b.Lasts cs name topic ∧ (b.after cs).Lasts ds name topic := by
  obtain ⟨sub, found, same, old⟩ := lasts
  rw [after_append] at found
  have older : sub.creation < (b.after cs).creations :=
    Nat.lt_of_lt_of_le old (b.creations_le_after cs)
  obtain ⟨sub₀, before, topic₀, creation₀⟩ := survives_after ds found older
  constructor
  · refine ⟨sub₀, before, topic₀.trans same, ?_⟩
    rw [creation₀]
    exact old
  · exact ⟨sub, found, same, older⟩

theorem Lasts.of_cons {cs : List Change} (lasts : b.Lasts (c :: cs) name topic) :
    (∃ sub, b.subscriptions.get? name = some sub ∧ sub.topic = topic) ∧
      b.QueueMove c name topic ∧ (b.change c).Lasts cs name topic := by
  have whole : b.Lasts ([] ++ ([c] ++ cs)) name topic := lasts
  obtain ⟨⟨sub, found, same, _⟩, run⟩ := whole.split
  obtain ⟨⟨after, there, _⟩, later⟩ := run.split
  refine ⟨⟨sub, found, same⟩, ?_, later⟩
  rw [← same]
  apply queueMove found
  intro gone
  cases there.symm.trans gone

/-- **First in, first out**: what waits, followed by what joins in a run, is what the run delivers,
followed by what waits after it. -/
theorem fifo {cs : List Change} (lasts : b.Lasts cs name topic) :
    ∃ joined, b.backlog name ++ joined = b.deliveries name cs ++ (b.after cs).backlog name := by
  induction cs generalizing b with
  | nil => exact ⟨[], List.append_nil _⟩
  | cons c cs ih =>
    obtain ⟨_, move, later⟩ := lasts.of_cons
    obtain ⟨joined, rest⟩ := ih later
    have moved : ∃ new, b.backlog name ++ new
        = b.deliveredIn name c ++ (b.change c).backlog name := by
      cases move with
      | rests new waiting delivered published elsewhere =>
        refine ⟨[], ?_⟩
        rw [delivered, waiting, List.append_nil, List.nil_append]
      | arrives m waiting delivered published =>
        refine ⟨[m], ?_⟩
        rw [delivered, waiting, List.nil_append]
      | delivers m waiting delivered published =>
        refine ⟨[], ?_⟩
        rw [delivered, waiting, List.append_nil, List.singleton_append]
      | returns h held subscription waiting delivered published =>
        refine ⟨[h.message], ?_⟩
        rw [delivered, waiting, List.nil_append]
    obtain ⟨new, moved⟩ := moved
    refine ⟨new ++ joined, ?_⟩
    calc
      b.backlog name ++ (new ++ joined)
        = b.deliveredIn name c ++ ((b.change c).backlog name ++ joined) := by
          rw [← List.append_assoc, moved, List.append_assoc]
      _ = b.deliveries name (c :: cs) ++ (b.after (c :: cs)).backlog name := by
          rw [rest, deliveries, List.append_assoc]
          rfl

/-! ## A message that is put back -/

theorem held?_of_mem (sound : b.ledger.Sound) {h : Held} (held : h ∈ b.held) :
    b.held? h.number = some h := by
  cases found : b.held? h.number with
  | none =>
    have other := List.find?_eq_none.1 found h held
    simp at other
  | some h' =>
    obtain ⟨held', number⟩ := held?_eq_some found
    congr 1
    apply sound.eq_of_number (List.mem_append_left _ held) (List.mem_append_left _ held') number

/-- A delivery that is put back stands at the end of the queue. -/
theorem backlog_putsBack (sound : b.ledger.Sound) (opened : b.closed = false) {h : Held}
    (held : h ∈ b.held) (puts : c.PutsBack h.number)
    (found : b.subscriptions.get? h.subscription = some sub) :
    (b.change c).backlog h.subscription = b.backlog h.subscription ++ [h.message] := by
  have unsettled := held?_of_mem sound held
  have shut : ¬ (b.unhold h.number).closed = true := by
    show ¬ b.closed = true
    rw [opened]
    exact Bool.false_ne_true
  have queues (b' : Broker) (same : b'.subscriptions = b.subscriptions) :
      (b'.enqueue h.subscription h.message).backlog h.subscription
        = b.backlog h.subscription ++ [h.message] := by
    have subscriptions : (b'.enqueue h.subscription h.message).subscriptions
        = queued b'.subscriptions h.subscription h.message :=
      congrArg Ledger.subscriptions (b'.ledger_enqueue h.subscription h.message)
    unfold backlog
    rw [subscriptions, get?_queued, if_pos rfl, same, found]
    rfl
  rcases puts with rfl | rfl
  · dsimp only [change, nack]
    rw [unsettled]
    dsimp only
    rw [if_neg shut]
    exact queues _ rfl
  · dsimp only [change, release]
    rw [unsettled]
    dsimp only
    rw [if_neg shut]
    exact queues _ rfl

/-- Two lists that are equal up to where an element stands: one that is not in the first part of the
one list stands behind this part in the other as well. -/
theorem prefix_of_append_cons {α : Type} {q d j r : List α} {a : α} (absent : a ∉ q)
    (same : q ++ a :: j = d ++ a :: r) : q <+: d := by
  rcases List.append_eq_append_iff.1 same with ⟨x, longer, _⟩ | ⟨x, shorter, tail⟩
  · exact ⟨x, longer.symm⟩
  · cases x with
    | nil =>
      have equal : q = d := shorter.trans (List.append_nil d)
      exact ⟨[], (List.append_nil q).trans equal⟩
    | cons y x =>
      rw [List.cons_append] at tail
      obtain ⟨rfl, _⟩ := List.cons_eq_cons.1 tail
      exact absurd (shorter ▸ List.mem_append_right _ List.mem_cons_self) absent

/-- Messages that wait on a subscription differ. -/
theorem nodup_backlog (sound : b.ledger.Sound) (name : String) : (b.backlog name).Nodup := by
  have once := sound.once name
  unfold Ledger.whereabouts at once
  rw [List.append_assoc, List.map_append] at once
  exact (List.nodup_append.1 once).1.of_map Message.id

/-- **A message that is put back is delivered again only after all that waited then**, in their
order. -/
theorem behind {h : Held} {between : List Change} (sound : b.ledger.Sound)
    (opened : b.closed = false) (held : h ∈ b.held) (puts : c.PutsBack h.number)
    {q : Change} (lasts : b.Lasts (c :: (between ++ [q])) h.subscription topic)
    (again : ((b.change c).after between).deliveredIn h.subscription q = [h.message]) :
    b.backlog h.subscription <+: (b.change c).deliveries h.subscription between := by
  obtain ⟨⟨sub, found, _⟩, _, run⟩ := lasts.of_cons
  obtain ⟨waits, last⟩ := run.split
  obtain ⟨_, move, _⟩ := last.of_cons
  have joins : (b.change c).backlog h.subscription = b.backlog h.subscription ++ [h.message] :=
    backlog_putsBack sound opened held puts found
  obtain ⟨rest, front⟩ : ∃ rest,
      ((b.change c).after between).backlog h.subscription = h.message :: rest := by
    cases move with
    | delivers m waiting delivered published =>
      obtain rfl := List.singleton_inj.1 (again.symm.trans delivered)
      exact ⟨_, waiting⟩
    | rests new waiting delivered published elsewhere => cases again.symm.trans delivered
    | arrives m waiting delivered published => cases again.symm.trans delivered
    | returns h' held subscription waiting delivered published => cases again.symm.trans delivered
  have absent : h.message ∉ b.backlog h.subscription := by
    have differ := nodup_backlog ((b.ledger_change c).sound sound) h.subscription
    rw [joins] at differ
    intro waited
    exact (List.nodup_append.1 differ).2.2 _ waited _ (List.mem_singleton.2 rfl) rfl
  obtain ⟨joined, passes⟩ := fifo waits
  rw [joins, front, List.append_assoc, List.singleton_append] at passes
  exact prefix_of_append_cons absent passes

end Broker

end MessageChannels
