import MessageChannels.Proofs.Delivery.Owner

/-!
# What is in hand is held

`Owned` says that every delivery which the broker holds is in someone's hands. Here is the converse:
whoever has a delivery in hand finds it held by the broker, as long as nobody settles deliveries
behind the back of their owners and no envelope is given up before it is settled.
-/

set_option autoImplicit false

namespace MessageChannels

/-- Whether a change of a broker settles a delivery or gives one up. -/
def Broker.Change.isSettlement : Broker.Change → Bool
  | ack _ => true
  | nack _ => true
  | release _ => true
  | _ => false

namespace System

/-- Whoever has a delivery in hand finds it held by the broker. -/
def Backed (s : System) : Prop := ∀ a n, s.Holds a n → ∃ h ∈ s.broker.held, h.number = n

/-- An event leaves to the owners what is theirs: an envelope is given up only when it is settled,
and nobody settles a delivery of the broker directly. -/
def Spares (s : System) : Event → Prop
  | .release i => ∀ made, s.envelopes[i]? = some made → made.disposition.isTerminal = true
  | .direct c => c.isSettlement = false
  | _ => True

variable {e : Event} {op : Nat} {s s' : System} {outside : List Nat}

theorem backed_start (now : Timestamp) : (start now).Backed := by
  rintro (i | op) n ⟨⟨m, h⟩, _⟩ <;> simp [delivery?, start] at h

/-! ## How hands and the broker change together -/

theorem Backed.of_back (backed : s.Backed) (held : s'.broker.held = s.broker.held)
    (back : ∀ a n, s'.Holds a n → ∃ b, s.Holds b n) : s'.Backed := by
  intro a n holds
  obtain ⟨b, before⟩ := back a n holds
  rw [held]
  exact backed b n before

theorem Backed.of_same (backed : s.Backed) (held : s'.broker.held = s.broker.held)
    (same : ∀ a, s'.delivery? a = s.delivery? a) (unsettled : ∀ a, s'.Unsettled a → s.Unsettled a) :
    s'.Backed :=
  backed.of_back held fun a _ ⟨⟨m, hd⟩, hu⟩ => ⟨a, ⟨m, (same a).symm.trans hd⟩, unsettled a hu⟩

/-- The broker holds one delivery less, and its owner has it no more. -/
theorem Backed.of_without (owned : s.Owned outside) (backed : s.Backed) {giver : Owner} {n : Nat}
    {m : Message} (had : s.delivery? giver = some (n, m))
    (held : s'.broker.held = Ledger.without s.broker.held n)
    (back : ∀ a k, s'.Holds a k → a ≠ giver ∧ s.Holds a k) : s'.Backed := by
  intro a k holds
  obtain ⟨other, before⟩ := back a k holds
  obtain ⟨h, member, rfl⟩ := backed a k before
  have hne : h.number ≠ n := by
    intro heq
    obtain ⟨m', hd⟩ := before.1
    exact other (owned.number_once a giver n m' m (heq ▸ hd) had)
  refine ⟨h, ?_, rfl⟩
  rw [held]
  exact List.mem_filter.2 ⟨member, by simpa using hne⟩

/-- The broker delivers to an owner, or a written source does. -/
theorem Backed.of_shown (backed : s.Backed) {source : Source} {d : Taken}
    (shown : (s.poll source).2 = .delivered d) (broker : s'.broker = (s.poll source).1.broker)
    (taker : Owner) (got : s'.delivery? taker = d.held?)
    (others : ∀ a, a ≠ taker → s'.delivery? a = s.delivery? a ∧ (s'.Unsettled a → s.Unsettled a)) :
    s'.Backed := by
  intro a n ⟨⟨m, hd⟩, hu⟩
  have old (h : a ≠ taker) : ∃ h ∈ s.broker.held, h.number = n := by
    obtain ⟨same, unsettled⟩ := others a h
    exact backed a n ⟨⟨m, same.symm.trans hd⟩, unsettled hu⟩
  cases source with
  | stream k =>
    obtain ⟨name, acker, _, held, _⟩ := Broker.ledger_of_delivered shown
    rw [show s'.broker.held = s.broker.held ++ [⟨s.broker.taken, name, d.message⟩] from
      (congrArg Broker.held broker).trans held]
    by_cases h : a = taker
    · subst h
      have number : d.held? = some (s.broker.taken, d.message) := by
        unfold Taken.held?
        rw [acker]
      rw [got, number] at hd
      cases hd
      exact ⟨_, List.mem_append_right _ (List.mem_singleton.2 rfl), rfl⟩
    · obtain ⟨x, member, number⟩ := old h
      exact ⟨x, List.mem_append_left _ member, number⟩
  | script k =>
    have hne : a ≠ taker := by
      rintro rfl
      rw [got, held?_of_script shown] at hd
      cases hd
    rw [broker, broker_poll_script]
    exact old hne

/-! ## Settling and giving up -/

theorem held_dropAcker (s : System) (n : Nat) :
    (s.dropAcker (.held n)).broker.held = Ledger.without s.broker.held n := s.broker.held_release n

/-- A settled envelope has nothing in hand, and the others have what they had. -/
theorem unsettled_of_settleFrom {i : Nat} {made : Envelope} (found : s.envelopes[i]? = some made)
    (v : Settlement) {a : Owner} (h : (s.settleFrom i made.disposition v).Unsettled a) :
    a ≠ .envelope i ∧ s.Unsettled a := by
  cases a with
  | operation k => exact ⟨Owner.noConfusion, trivial⟩
  | envelope j =>
    have hne : j ≠ i := by
      rintro rfl
      have settled : (s.settleFrom j made.disposition v).envelopes[j]?
          = some { made with disposition := v.disposition } := by
        simp only [settleFrom, found, if_true]
        show ((s.setDisposition j v.disposition).useAcker j made.acker v).envelopes[j]? = _
        rw [envelopes_useAcker, envelopes_setDisposition found, getElem?_set_iff found, if_pos rfl]
      have open_ : v.disposition.isTerminal = false := h _ settled
      cases v <;> cases open_
    refine ⟨fun heq => hne (Owner.envelope.inj heq), fun made' found' => h made' ?_⟩
    rw [getElem?_settleFrom_of_ne hne]
    exact found'

theorem backed_settleFrom (owned : s.Owned outside) (backed : s.Backed) (i : Nat)
    (expected : Disposition) (v : Settlement) : (s.settleFrom i expected v).Backed := by
  rcases s.settleFrom_cases i expected v with same | ⟨made, found, rfl, heq⟩
  · rw [same]
    exact backed
  · have back : ∀ a n, (s.settleFrom i made.disposition v).Holds a n →
        a ≠ .envelope i ∧ s.Holds a n := by
      rintro a n ⟨⟨m, hd⟩, hu⟩
      obtain ⟨other, before⟩ := unsettled_of_settleFrom found v hu
      exact ⟨other, ⟨m, (delivery?_settleFrom s i _ v a).symm.trans hd⟩, before⟩
    cases hacker : made.acker with
    | scripted id =>
      refine backed.of_back ?_ fun a n h => ⟨a, (back a n h).2⟩
      rw [heq, hacker]
      rfl
    | held n =>
      have had : s.delivery? (.envelope i) = some (n, made.message) := by
        simp [delivery?, found, Envelope.taken, Taken.held?, hacker]
      refine backed.of_without owned had ?_ back
      rw [heq, hacker]
      exact held_useAcker (s.setDisposition i v.disposition) i n v

/-- An operation lets go of what it holds. -/
theorem backed_letGo (owned : s.Owned outside) (backed : s.Backed) {o : Operation} {d : Taken}
    (found : s.operations[op]? = some o) (holding : o.state.holding? = some d)
    {state : OperationState} (empty : state.holding? = none) :
    ((s.dropAcker d.acker).setState op state).Backed := by
  have deliveries := delivery?_letGo s d.acker op empty
  have back : ∀ a n, ((s.dropAcker d.acker).setState op state).Holds a n →
      a ≠ .operation op ∧ s.Holds a n := by
    rintro a n ⟨⟨m, hd⟩, hu⟩
    rw [deliveries] at hd
    split at hd
    · cases hd
    · rename_i other
      exact ⟨other, ⟨m, hd⟩, unsettled_congr (envelopes_dropAcker s d.acker).symm a hu⟩
  cases hacker : d.acker with
  | scripted id =>
    rw [hacker] at back
    exact backed.of_back rfl fun a n h => ⟨a, (back a n h).2⟩
  | held n =>
    have had : s.delivery? (.operation op) = some (n, d.message) := by
      simp [delivery?, found, holding, Taken.held?, hacker]
    rw [hacker] at back
    exact backed.of_without owned had (held_dropAcker s n) back

/-- A settled envelope is given up. -/
theorem backed_release (owned : s.Owned outside) (backed : s.Backed) {i : Nat}
    (spared : ∀ made, s.envelopes[i]? = some made → made.disposition.isTerminal = true) :
    (s.release i).Backed := by
  unfold release
  cases found : s.envelopes[i]? with
  | none => exact backed
  | some made =>
    have back : ∀ a n, (s.dropAcker made.acker).Holds a n → a ≠ .envelope i ∧ s.Holds a n := by
      rintro a n ⟨⟨m, hd⟩, hu⟩
      have operations : (s.dropAcker made.acker).operations = s.operations := by
        cases made.acker <;> rfl
      have before : s.Unsettled a := unsettled_congr (envelopes_dropAcker s made.acker).symm a hu
      refine ⟨?_, ⟨m, (delivery?_congr (envelopes_dropAcker s _) operations a).symm.trans hd⟩,
        before⟩
      rintro rfl
      exact Bool.false_ne_true ((before made found).symm.trans (spared made found))
    show (s.dropAcker made.acker).Backed
    cases hacker : made.acker with
    | scripted id => exact backed
    | held n =>
      have had : s.delivery? (.envelope i) = some (n, made.message) := by
        simp [delivery?, found, Envelope.taken, Taken.held?, hacker]
      rw [hacker] at back
      exact backed.of_without owned had (held_dropAcker s n) back

/-! ## Acts -/

/-- Making an envelope settles no other. -/
theorem unsettled_of_addEnvelope {k : Nat} {channel : String} {d : Taken} {a : Owner}
    (other : a ≠ .envelope s.envelopes.length) (h : (s.addEnvelope k channel d).1.Unsettled a) :
    s.Unsettled a := by
  cases a with
  | operation j => trivial
  | envelope i =>
    have hne : i ≠ s.envelopes.length := fun heq => other (heq ▸ rfl)
    intro made found
    apply h made
    rw [getElem?_addEnvelope, if_neg hne]
    exact found

/-- An envelope that was received has its delivery in hand, also while it waits for a dead letter.
-/
theorem unsettled_of_pending {i : Nat} {made : Envelope} (found : s.envelopes[i]? = some made)
    (received : made.disposition = .received) {a : Owner}
    (h : (s.setDisposition i .deadLetterPending).Unsettled a) : s.Unsettled a := by
  cases a with
  | operation j => trivial
  | envelope j =>
    intro made' found'
    by_cases hj : j = i
    · subst hj
      obtain rfl : made = made' := Option.some.inj (found.symm.trans found')
      rw [received]
      rfl
    · apply h made'
      rw [envelopes_setDisposition found, getElem?_set_iff found, if_neg hj]
      exact found'

theorem Act.backed (act : Act e op s s') (kept : ∀ i, e ≠ .release i) (inside : ∀ c, e ≠ .direct c)
    (owned : s.Owned outside) (backed : s.Backed) : s'.Backed := by
  cases act with
  | direct c cause => exact absurd cause (inside c)
  | gaveUp i made cause found => exact absurd cause (kept i)
  | performed r cause waits =>
    exact backed.of_same (s.broker.deliveries_perform s.clock r).2 (delivery?_congr rfl rfl)
      (unsettled_congr rfl)
  | looked source nothing =>
    have held : (s.poll source).1.broker.held = s.broker.held := by
      cases source with
      | stream n => exact congrArg Ledger.held (Broker.ledger_of_not_delivered nothing)
      | script n => rw [broker_poll_script]
    exact backed.of_same held (delivery?_poll s source)
      (unsettled_congr (envelopes_poll s source).symm)
  | leftSource source =>
    cases source with
    | stream n => exact backed.of_same rfl (delivery?_congr rfl rfl) (unsettled_congr rfl)
    | script n => exact backed
  | started service new =>
    exact backed.of_same rfl (delivery?_addOperation s service) (unsettled_congr rfl)
  | moved o state found plain =>
    exact backed.of_same rfl (delivery?_setState_same found plain.holding) (unsettled_congr rfl)
  | registered k v o c found service lookup topic subscription opened =>
    exact backed.of_same rfl (delivery?_setState_same found rfl) (unsettled_congr rfl)
  | pulled k l d found phase shown =>
    refine backed.of_shown shown rfl (.operation op) ?_ fun a ha => ⟨?_, ?_⟩
    · rw [delivery?_pulled found, if_pos rfl]
    · rw [delivery?_pulled found, if_neg ha]
    · exact unsettled_congr (envelopes_poll s l.source).symm a
  | handed k l d cause found phase =>
    refine backed.of_back rfl fun a n ⟨⟨m, hd⟩, hu⟩ => ?_
    rw [delivery?_handed] at hd
    split at hd
    · cases hd
    · split at hd
      · refine ⟨.operation op, ⟨m, ?_⟩, trivial⟩
        simpa [delivery?, found, holding?_of_holding phase] using hd
      · rename_i old
        exact ⟨a, ⟨m, hd⟩, unsettled_of_addEnvelope old (unsettled_congr rfl a hu)⟩
  | letGo k l d outcome found phase =>
    exact backed_letGo owned backed found (holding?_of_holding phase) rfl
  | collected k c d found shown =>
    refine backed.of_shown shown rfl (.envelope s.envelopes.length) ?_ fun a ha => ⟨?_, fun hu => ?_⟩
    · rw [delivery?_collected, if_pos rfl]
    · rw [delivery?_collected, if_neg ha]
    · have other : a ≠ .envelope (s.poll c.source).1.envelopes.length := by
        rw [envelopes_poll]
        exact ha
      exact unsettled_congr (envelopes_poll s c.source).symm a (unsettled_of_addEnvelope other hu)
  | settled i made v found received cause =>
    exact backed_settleFrom owned backed i .received v
  | entered i made p k c text channel cause found received standing purpose =>
    have pending : (s.setDisposition i .deadLetterPending).Backed :=
      backed.of_same rfl (delivery?_setDisposition s i _) fun _ => unsettled_of_pending found received
    exact pending.of_same rfl (delivery?_setState_same (o := ⟨k, .abandoned⟩) standing rfl)
      (unsettled_congr rfl)
  | left i k p v channel result cause standing purpose =>
    refine (backed_settleFrom owned backed i .deadLetterPending v).of_same rfl
      (delivery?_setState_same (o := ⟨k, .publishing p⟩) ?_ rfl) (unsettled_congr rfl)
    rw [operations_settleFrom]
    exact standing
  | dropped o i cause found routing =>
    exact backed.of_same rfl
      (delivery?_setState_same found (holding?_of_routing? routing).symm) (unsettled_congr rfl)
  | _ => exact backed.of_same rfl (delivery?_congr rfl rfl) (unsettled_congr rfl)

/-! ## Events -/

theorem backed_direct (backed : s.Backed) {c : Broker.Change} (spared : c.isSettlement = false) :
    (s.step (.direct c)).Backed := by
  have same : ∀ a, (s.step (.direct c)).delivery? a = s.delivery? a := delivery?_congr rfl rfl
  cases c with
  | perform now r =>
    exact backed.of_same (s.broker.deliveries_perform now r).2 same (unsettled_congr rfl)
  | failNext t err => exact backed.of_same rfl same (unsettled_congr rfl)
  | dropStream n => exact backed.of_same rfl same (unsettled_congr rfl)
  | poll n =>
    intro a k ⟨⟨m, hd⟩, hu⟩
    obtain ⟨h, member, number⟩ := backed a k ⟨⟨m, (same a).symm.trans hd⟩, unsettled_congr rfl a hu⟩
    refine ⟨h, ?_, number⟩
    show h ∈ (s.broker.pollStream n).1.held
    rcases s.broker.pollStream_cases n with ⟨_, ledger⟩ | ⟨name, sub, m, rest, _, _, _, heq⟩
    · rw [show (s.broker.pollStream n).1.held = s.broker.held from congrArg Ledger.held ledger]
      exact member
    · rw [heq]
      exact List.mem_append_left _ member
  | ack n => cases spared
  | nack n => cases spared
  | release n => cases spared

theorem backed_acts (acts : Acts e op s s') (kept : ∀ i, e ≠ .release i)
    (inside : ∀ c, e ≠ .direct c) (sound : s.broker.ledger.Sound) (owned : s.Owned outside)
    (backed : s.Backed) : s'.Backed := by
  suffices h : s'.broker.ledger.Sound ∧ s'.Owned outside ∧ s'.Backed from h.2.2
  induction acts with
  | refl => exact ⟨sound, owned, backed⟩
  | tail _ act ih =>
    obtain ⟨sound, owned, backed⟩ := ih
    exact ⟨act.sound sound, act.owned (fun stream => inside (.poll stream)) sound owned,
      act.backed kept inside owned backed⟩

/-- **What is in hand stays held** over every event that leaves to the owners what is theirs. -/
theorem backed_step (sound : s.broker.ledger.Sound) (owned : s.Owned outside) (backed : s.Backed)
    (spared : s.Spares e) : (s.step e).Backed := by
  by_cases direct : ∃ c, e = .direct c
  · obtain ⟨c, rfl⟩ := direct
    exact backed_direct backed spared
  · by_cases released : ∃ i, e = .release i
    · obtain ⟨i, rfl⟩ := released
      exact backed_release owned backed spared
    · exact backed_acts (s.acts_step e) (fun i h => released ⟨i, h⟩) (fun c h => direct ⟨c, h⟩)
        sound owned backed

end System

end MessageChannels
