import MessageChannels.Proofs.Broker.Conservation

/-!
# Which changes make subscriptions and deliveries

Only a request makes a subscription, and only looking at a stream makes a delivery. Every other
change is quiet: deliveries are held, or known at all, only if they were before.
-/

set_option autoImplicit false

namespace MessageChannels

namespace Ledger

/-- No delivery is new, none changes, and what was published stays published. -/
structure Quiet (l l' : Ledger) : Prop where
  held : ∀ h ∈ l'.held, h ∈ l.held
  known : ∀ h ∈ l'.held ++ l'.acked, h ∈ l.held ++ l.acked
  published : ∀ p ∈ l.published, p ∈ l'.published
  taken : l'.taken = l.taken

theorem Quiet.refl (l : Ledger) : Quiet l l := ⟨fun _ h => h, fun _ h => h, fun _ h => h, rfl⟩

/-- A step that makes no delivery is quiet. -/
theorem Step.quiet {l l' : Ledger} (step : Step l l') (same : l'.taken = l.taken) :
    Quiet l l' := by
  have sub : ∀ n, ∀ h ∈ without l.held n, h ∈ l.held := fun n h hh =>
    (without_sublist l.held n).subset hh
  have known : ∀ n, ∀ h ∈ without l.held n ++ l.acked, h ∈ l.held ++ l.acked := fun n h hh => by
    rcases List.mem_append.1 hh with hh | hh
    · exact List.mem_append_left _ (sub n h hh)
    · exact List.mem_append_right _ hh
  cases step with
  | deliver name s m rest opened found first =>
    have : l.taken + 1 = l.taken := same
    omega
  | accept t m opened numbered =>
    exact ⟨fun _ h => h, fun _ h => h, fun p hp => List.mem_append_left _ hp, rfl⟩
  | ack h opened member =>
    refine ⟨sub h.number, fun x hx => ?_, fun _ hp => hp, rfl⟩
    simp only [List.mem_append, List.mem_singleton] at hx ⊢
    rcases hx with hx | hx | rfl
    · exact Or.inl (sub _ x hx)
    · exact Or.inr hx
    · exact Or.inl member
  | requeue h nacked opened member => exact ⟨sub h.number, known h.number, fun _ hp => hp, rfl⟩
  | forget h shut member => exact ⟨sub h.number, known h.number, fun _ hp => hp, rfl⟩
  | _ => exact ⟨fun _ h => h, fun _ h => h, fun _ hp => hp, rfl⟩

theorem Step.taken_le {l l' : Ledger} (step : Step l l') : l.taken ≤ l'.taken := by
  cases step with
  | deliver name s m rest opened found first => exact Nat.le_succ _
  | _ => exact Nat.le_refl _

/-- A step makes no delivery under an old number. -/
theorem Step.held_before {l l' : Ledger} (step : Step l l') {h : Held} (held : h ∈ l'.held)
    (old : h.number < l.taken) : h ∈ l.held := by
  cases step with
  | deliver name s m rest opened found first =>
    rcases List.mem_append.1 held with before | new
    · exact before
    · obtain rfl := List.mem_singleton.1 new
      exact absurd old (Nat.lt_irrefl _)
  | ack x opened member => exact (without_sublist _ _).subset held
  | requeue x nacked opened member => exact (without_sublist _ _).subset held
  | forget x shut member => exact (without_sublist _ _).subset held
  | _ => exact held

end Ledger

namespace Broker

/-- Whether a change of a broker is made by a request. -/
def Change.isRequest : Change → Bool
  | perform _ _ => true
  | _ => false

/-- Whether a change of a broker is made by looking at a stream. -/
def Change.isPoll : Change → Bool
  | poll _ => true
  | _ => false

/-! ## Numbers of subscriptions and deliveries -/

/-- A change that is neither a request nor a look makes no subscription and no delivery. -/
theorem numbers_change {b : Broker} {c : Change} (unasked : c.isRequest = false)
    (unseen : c.isPoll = false) :
    (b.change c).creations = b.creations ∧ (b.change c).taken = b.taken := by
  have enqueued (b : Broker) (name : String) (m : Message) :
      (b.enqueue name m).creations = b.creations ∧ (b.enqueue name m).taken = b.taken :=
    ⟨congrArg Ledger.creations (b.ledger_enqueue name m),
      congrArg Ledger.taken (b.ledger_enqueue name m)⟩
  cases c with
  | perform now r => cases unasked
  | poll n => cases unseen
  | failNext t e => exact ⟨rfl, rfl⟩
  | dropStream n => exact ⟨rfl, rfl⟩
  | ack n =>
    dsimp only [change, ack]
    split
    · exact ⟨rfl, rfl⟩
    · split <;> exact ⟨rfl, rfl⟩
  | nack n =>
    dsimp only [change, nack]
    split
    · exact ⟨rfl, rfl⟩
    · split
      · exact ⟨rfl, rfl⟩
      · exact enqueued _ _ _
  | release n =>
    dsimp only [change, release]
    split
    · exact ⟨rfl, rfl⟩
    · split
      · exact ⟨rfl, rfl⟩
      · exact enqueued _ _ _

/-- Only requests make subscriptions. -/
theorem creations_change {b : Broker} {c : Change} (unasked : c.isRequest = false) :
    (b.change c).creations = b.creations := by
  cases c with
  | poll n =>
    rcases b.pollStream_cases n with ⟨_, same⟩ | ⟨name, s, m, rest, _, _, _, heq⟩
    · exact congrArg Ledger.creations same
    · show (b.pollStream n).1.creations = b.creations
      rw [heq]
  | _ => exact (numbers_change unasked rfl).1

/-- A request makes no delivery and settles none. -/
theorem deliveries_perform (b : Broker) (now : Timestamp) (r : Request) :
    (b.perform now r).1.taken = b.taken ∧ (b.perform now r).1.held = b.held := by
  by_cases publishes : ∃ t m, r = .publish t m
  · obtain ⟨t, m, rfl⟩ := publishes
    unfold perform
    split
    · exact ⟨rfl, rfl⟩
    · dsimp only [publish]
      split
      · exact ⟨rfl, rfl⟩
      · split
        · have ledger := b.ledger_accept t (b.stamped now m)
          exact ⟨congrArg Ledger.taken ledger, congrArg Ledger.held ledger⟩
        · exact ⟨rfl, rfl⟩
  · by_cases closes : r = .close
    · subst closes
      unfold perform
      split
      · exact ⟨rfl, rfl⟩
      · exact ⟨congrArg Ledger.taken b.ledger_close, congrArg Ledger.held b.ledger_close⟩
    · have silent : ∀ t m, r ≠ .publish t m := by
        intro t m asks
        exact publishes ⟨t, m, asks⟩
      obtain ⟨_, _, _, _, _, _, same⟩ := b.perform_elsewhere now silent closes
      rw [same]
      exact ⟨rfl, rfl⟩

/-- Only looking at a stream makes a delivery. -/
theorem quiet_change {b : Broker} {c : Change} (unseen : c.isPoll = false) :
    Ledger.Quiet b.ledger (b.change c).ledger := by
  apply (b.ledger_change c).quiet
  cases c with
  | perform now r => exact (b.deliveries_perform now r).1
  | _ => exact (numbers_change rfl unseen).2

/-- What is delivered was waiting, and is held under the next number. -/
theorem ledger_of_delivered {b : Broker} {n : Nat} {d : Taken}
    (shown : (b.pollStream n).2 = .delivered d) :
    ∃ name, d.acker = .held b.taken ∧ d.message ∈ b.ledger.backlog name ∧
      (b.pollStream n).1.held = b.held ++ [⟨b.taken, name, d.message⟩] ∧
      (b.pollStream n).1.acked = b.acked ∧ (b.pollStream n).1.published = b.published ∧
      (b.pollStream n).1.taken = b.taken + 1 := by
  rcases b.pollStream_cases n with ⟨nothing, _⟩ | ⟨name, s, m, rest, _, found, first, heq⟩
  · exact absurd shown (nothing d)
  · rw [heq] at shown ⊢
    cases shown
    refine ⟨name, rfl, ?_, rfl, rfl, rfl, rfl⟩
    simp [Ledger.backlog, ledger, found, first]

/-- Looking at a stream changes nothing in the ledger when no delivery is shown. -/
theorem ledger_of_not_delivered {b : Broker} {n : Nat}
    (nothing : ∀ d, (b.pollStream n).2 ≠ .delivered d) :
    (b.pollStream n).1.ledger = b.ledger := by
  rcases b.pollStream_cases n with ⟨_, same⟩ | ⟨name, s, m, rest, _, _, _, heq⟩
  · exact same
  · rw [heq] at nothing
    exact absurd rfl (nothing _)

/-! ## What is published -/

/-- A publish fails and brings nothing in, or brings in one message. -/
theorem perform_publish (b : Broker) (now : Timestamp) (t : String) (m : Outbound) :
    (∃ err, (b.perform now (.publish t m)).2 = .error err ∧
        (b.perform now (.publish t m)).1.published = b.published) ∨
      (b.perform now (.publish t m)).2 = .ok (.accepted (b.stamped now m).id) ∧
        (b.perform now (.publish t m)).1.published = b.published ++ [(t, b.stamped now m)] := by
  unfold perform
  split
  · exact Or.inl ⟨_, rfl, rfl⟩
  · dsimp only [publish]
    split
    · exact Or.inl ⟨_, rfl, rfl⟩
    · split
      · refine Or.inr ⟨rfl, ?_⟩
        exact congrArg Ledger.published (b.ledger_accept t (b.stamped now m))
      · exact Or.inl ⟨_, rfl, rfl⟩

theorem published_enqueue (b : Broker) (name : String) (m : Message) :
    (b.enqueue name m).published = b.published :=
  congrArg Ledger.published (b.ledger_enqueue name m)

theorem published_ack (b : Broker) (n : Nat) : (b.ack n).published = b.published := by
  unfold ack
  split
  · rfl
  · dsimp only
    split <;> rfl

theorem published_nack (b : Broker) (n : Nat) : (b.nack n).published = b.published := by
  unfold nack
  split
  · rfl
  · dsimp only
    split
    · rfl
    · exact published_enqueue _ _ _

theorem published_release (b : Broker) (n : Nat) : (b.release n).published = b.published := by
  unfold release
  split
  · rfl
  · dsimp only
    split
    · rfl
    · exact published_enqueue _ _ _

/-- What was published stays published. -/
theorem published_after {b : Broker} {p : String × Message} (h : p ∈ b.published)
    (cs : List Change) : p ∈ (b.after cs).published := by
  induction cs generalizing b with
  | nil => exact h
  | cons c cs ih =>
    apply ih (b := b.change c)
    have step := b.ledger_change c
    generalize hl : (b.change c).ledger = l at step
    have grown : p ∈ l.published := by
      cases step with
      | accept t m opened numbered => exact List.mem_append_left _ h
      | _ => exact h
    rw [← hl] at grown
    exact grown

/-- A broker that accepts a message is open, and stays open. -/
theorem opened_of_accepted {b : Broker} {now : Timestamp} {t : String} {m : Outbound} {reply : Reply}
    (ok : (b.perform now (.publish t m)).2 = .ok reply) :
    (b.perform now (.publish t m)).1.closed = false := by
  unfold perform at ok ⊢
  cases shut : b.closed with
  | true =>
    rw [shut, if_pos rfl] at ok
    cases ok
  | false =>
    rw [if_neg Bool.false_ne_true]
    dsimp only [publish]
    split
    · exact shut
    · split
      · exact (congrArg Ledger.closed (b.ledger_accept t (b.stamped now m))).trans shut
      · exact shut

/-! ## Deliveries over a run -/

/-- What was acknowledged stays acknowledged. -/
theorem acked_after {b : Broker} {h : Held} (acked : h ∈ b.acked) (cs : List Change) :
    h ∈ (b.after cs).acked := by
  induction cs generalizing b with
  | nil => exact acked
  | cons c cs ih =>
    apply ih (b := b.change c)
    have step := b.ledger_change c
    generalize hl : (b.change c).ledger = l at step
    have kept : h ∈ l.acked := by
      cases step with
      | ack x opened member => exact List.mem_append_left _ acked
      | _ => exact acked
    rw [← hl] at kept
    exact kept

/-- A delivery that is older than some changes, and held after them, was held before. -/
theorem held_before {b : Broker} (cs : List Change) {h : Held} (held : h ∈ (b.after cs).held)
    (old : h.number < b.taken) : h ∈ b.held := by
  induction cs generalizing b with
  | nil => exact held
  | cons c cs ih =>
    have step := b.ledger_change c
    exact step.held_before (ih held (Nat.lt_of_lt_of_le old step.taken_le)) old

/-! ## A settled delivery is held no more -/

theorem without_eq_self {b : Broker} {n : Nat} (absent : b.held? n = none) :
    Ledger.without b.held n = b.held := by
  apply List.filter_eq_self.2
  intro h hh
  simpa using List.find?_eq_none.1 absent h hh

theorem held_enqueue (b : Broker) (name : String) (m : Message) :
    (b.enqueue name m).held = b.held :=
  congrArg Ledger.held (b.ledger_enqueue name m)

theorem held_ack (b : Broker) (n : Nat) : (b.ack n).held = Ledger.without b.held n := by
  unfold ack
  split
  · rename_i absent
    exact (without_eq_self absent).symm
  · dsimp only
    split <;> rfl

/-- An open broker acknowledges a delivery that it holds. -/
theorem acked_ack {b : Broker} (sound : b.ledger.Sound) (opened : b.closed = false) {h : Held}
    (held : h ∈ b.held) : h ∈ (b.ack h.number).acked := by
  unfold ack
  cases found : b.held? h.number with
  | none =>
    have other := List.find?_eq_none.1 found h held
    simp at other
  | some h' =>
    obtain ⟨held', number⟩ := held?_eq_some found
    obtain rfl : h' = h :=
      sound.eq_of_number (List.mem_append_left _ held) (List.mem_append_left _ held') number
    have opened' : (b.unhold h'.number).closed = false := opened
    dsimp only
    rw [opened', if_neg Bool.false_ne_true]
    exact List.mem_append_right _ (List.mem_singleton.2 rfl)

theorem held_nack (b : Broker) (n : Nat) : (b.nack n).held = Ledger.without b.held n := by
  unfold nack
  split
  · rename_i absent
    exact (without_eq_self absent).symm
  · dsimp only
    split
    · rfl
    · exact held_enqueue _ _ _

theorem held_release (b : Broker) (n : Nat) : (b.release n).held = Ledger.without b.held n := by
  unfold release
  split
  · rename_i absent
    exact (without_eq_self absent).symm
  · dsimp only
    split
    · rfl
    · exact held_enqueue _ _ _

end Broker

end MessageChannels
