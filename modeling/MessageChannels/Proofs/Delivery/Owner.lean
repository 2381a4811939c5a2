import MessageChannels.Proofs.System.Broker
import MessageChannels.Proofs.System.Frame

/-!
# Who has a delivery in hand

A delivery that the broker holds is in the hands of one owner: a receive loop that waits for a
permit, or an envelope that is not settled. Every act passes a delivery on, takes one from the
broker, or gives some up; three lemmas say that each of these keeps `Owned`, and `owned_acts` puts
the acts together. Deliveries that someone took from the broker directly are outside.
-/

set_option autoImplicit false

namespace MessageChannels

/-- Whoever can have a delivery in hand. -/
inductive Owner where
  | envelope (i : Nat)
  | operation (op : Nat)
  deriving DecidableEq

/-- The number and the message of a delivery that the broker holds. -/
def Taken.held? (d : Taken) : Option (Nat × Message) :=
  match d.acker with
  | .held n => some (n, d.message)
  | .scripted _ => none

/-- The delivery that an envelope was made of. -/
def Envelope.taken (made : Envelope) : Taken := ⟨made.message, made.acker⟩

namespace System

/-- The delivery of the broker that an owner was given, by number, with its message. -/
def delivery? (s : System) : Owner → Option (Nat × Message)
  | .envelope i => (s.envelopes[i]?).bind fun made => made.taken.held?
  | .operation op => (s.operations[op]?).bind fun o => o.state.holding?.bind Taken.held?

/-- An envelope that is settled owns nothing. -/
def Unsettled (s : System) : Owner → Prop
  | .envelope i => ∀ made, s.envelopes[i]? = some made → made.disposition.isTerminal = false
  | .operation _ => True

/-- Whether an owner has the delivery of a number in hand. -/
def Holds (s : System) (a : Owner) (n : Nat) : Prop :=
  (∃ m, s.delivery? a = some (n, m)) ∧ s.Unsettled a

/-- What holds of owners and deliveries wherever a run leads, given which deliveries are outside. -/
structure Owned (s : System) (outside : List Nat) : Prop where
  number_lt : ∀ a n m, s.delivery? a = some (n, m) → n < s.broker.taken
  number_once : ∀ a b n m m', s.delivery? a = some (n, m) → s.delivery? b = some (n, m') → a = b
  same_message : ∀ a h m, s.delivery? a = some (h.number, m) →
    h ∈ s.broker.held ++ s.broker.acked → h.message = m
  published : ∀ a n m, s.delivery? a = some (n, m) → ∃ topic, (topic, m) ∈ s.broker.published
  in_hand : ∀ h ∈ s.broker.held, h.number ∈ outside ∨ ∃ a, s.Holds a h.number

theorem owned_start (now : Timestamp) : (start now).Owned [] where
  number_lt := by rintro (i | op) n m h <;> simp [delivery?, start] at h
  number_once := by rintro (i | op) b n m m' h <;> simp [delivery?, start] at h
  same_message := by rintro (i | op) x m h <;> simp [delivery?, start] at h
  published := by rintro (i | op) n m h <;> simp [delivery?, start] at h
  in_hand := by intro h hh; simp [start, Broker.empty] at hh

variable {e : Event} {op : Nat} {s s' : System} {outside : List Nat}

/-! ## Three ways of changing hands -/

/-- Owners keep what they have or give it up, and the broker delivers nothing. -/
theorem Owned.of_quiet (owned : s.Owned outside) (quiet : s.broker.ledger.Quiet s'.broker.ledger)
    (less : ∀ a d, s'.delivery? a = some d → s.delivery? a = some d)
    (kept : ∀ a, ∀ h ∈ s'.broker.held, s.Holds a h.number → s'.Holds a h.number) :
    s'.Owned outside where
  number_lt := fun a n m hd => by
    have hlt := owned.number_lt a n m (less a _ hd)
    have htaken : s'.broker.taken = s.broker.taken := quiet.taken
    omega
  number_once := fun a b n m m' hd hd' =>
    owned.number_once a b n m m' (less a _ hd) (less b _ hd')
  same_message := fun a h m hd hh => owned.same_message a h m (less a _ hd) (quiet.known h hh)
  published := fun a n m hd => by
    obtain ⟨topic, ht⟩ := owned.published a n m (less a _ hd)
    exact ⟨topic, quiet.published _ ht⟩
  in_hand := fun h hh => by
    rcases owned.in_hand h (quiet.held h hh) with out | ⟨a, ha⟩
    · exact Or.inl out
    · exact Or.inr ⟨a, kept a h hh ha⟩

/-- An owner gives what it has to one who had nothing. -/
theorem Owned.of_passed (owned : s.Owned outside) (same : s'.broker = s.broker)
    {giver taker : Owner} {d : Nat × Message} (given : s.delivery? giver = some d)
    (empty : s.delivery? taker = none) (gone : s'.delivery? giver = none)
    (got : s'.delivery? taker = some d) (unsettled : s'.Unsettled taker)
    (others : ∀ a, a ≠ giver → a ≠ taker → s'.delivery? a = s.delivery? a ∧
      (s.Unsettled a → s'.Unsettled a)) : s'.Owned outside := by
  -- Whoever has a delivery had it before, but the taker has what was the giver's.
  have back : ∀ a x, s'.delivery? a = some x → ∃ a₀, s.delivery? a₀ = some x ∧
      (a = a₀ ∧ a ≠ taker ∨ a = taker ∧ a₀ = giver) := by
    intro a x hx
    by_cases ht : a = taker
    · subst ht
      rw [got] at hx
      exact ⟨giver, given.trans hx, Or.inr ⟨rfl, rfl⟩⟩
    · have hg : a ≠ giver := by
        rintro rfl
        rw [gone] at hx
        cases hx
      rw [(others a hg ht).1] at hx
      exact ⟨a, hx, Or.inl ⟨rfl, ht⟩⟩
  have notGiver : ∀ a x, s'.delivery? a = some x → a ≠ giver := by
    rintro a x hx rfl
    rw [gone] at hx
    cases hx
  refine ⟨?_, ?_, ?_, ?_, ?_⟩
  · intro a n m hd
    obtain ⟨a₀, h₀, _⟩ := back a _ hd
    rw [same]
    exact owned.number_lt a₀ n m h₀
  · intro a b n m m' hd hd'
    obtain ⟨a₀, h₀, ha⟩ := back a _ hd
    obtain ⟨b₀, h₀', hb⟩ := back b _ hd'
    have heq := owned.number_once a₀ b₀ n m m' h₀ h₀'
    rcases ha with ⟨rfl, _⟩ | ⟨rfl, rfl⟩
    · rcases hb with ⟨rfl, _⟩ | ⟨rfl, rfl⟩
      · exact heq
      · exact absurd heq (notGiver a _ hd)
    · rcases hb with ⟨rfl, _⟩ | ⟨rfl, _⟩
      · exact absurd heq.symm (notGiver b _ hd')
      · rfl
  · intro a h m hd hh
    obtain ⟨a₀, h₀, _⟩ := back a _ hd
    rw [same] at hh
    exact owned.same_message a₀ h m h₀ hh
  · intro a n m hd
    obtain ⟨a₀, h₀, _⟩ := back a _ hd
    rw [same]
    exact owned.published a₀ n m h₀
  · intro h hh
    rw [same] at hh
    rcases owned.in_hand h hh with out | ⟨a, ⟨m, hd⟩, hu⟩
    · exact Or.inl out
    · by_cases hg : a = giver
      · subst hg
        exact Or.inr ⟨taker, ⟨m, got.trans (given.symm.trans hd)⟩, unsettled⟩
      · have ht : a ≠ taker := by
          rintro rfl
          rw [empty] at hd
          cases hd
        obtain ⟨hsame, hkept⟩ := others a hg ht
        exact Or.inr ⟨a, ⟨m, hsame.trans hd⟩, hkept hu⟩

/-- The broker delivers to an owner who had nothing. -/
theorem Owned.of_delivered (owned : s.Owned outside) (sound : s.broker.ledger.Sound)
    {stream : Nat} {d : Taken} (shown : (s.broker.pollStream stream).2 = .delivered d)
    (broker : s'.broker = (s.broker.pollStream stream).1) {taker : Owner}
    (empty : s.delivery? taker = none) (got : s'.delivery? taker = d.held?)
    (unsettled : s'.Unsettled taker)
    (others : ∀ a, a ≠ taker → s'.delivery? a = s.delivery? a ∧
      (s.Unsettled a → s'.Unsettled a)) : s'.Owned outside := by
  obtain ⟨name, hacker, hwaiting, hheld, hacked, hpublished, htaken⟩ :=
    Broker.ledger_of_delivered shown
  have new : d.held? = some (s.broker.taken, d.message) := by
    unfold Taken.held?
    rw [hacker]
  rw [new] at got
  have back : ∀ a n m, s'.delivery? a = some (n, m) →
      (a = taker ∧ n = s.broker.taken ∧ m = d.message) ∨
        (a ≠ taker ∧ s.delivery? a = some (n, m)) := by
    intro a n m hd
    by_cases ht : a = taker
    · subst ht
      rw [got] at hd
      cases hd
      exact Or.inl ⟨rfl, rfl, rfl⟩
    · rw [(others a ht).1] at hd
      exact Or.inr ⟨ht, hd⟩
  -- No one had the number of the new delivery before, and the broker did not know it.
  have fresh : ∀ a m, s.delivery? a ≠ some (s.broker.taken, m) := fun a m hd =>
    Nat.lt_irrefl _ (owned.number_lt a _ m hd)
  have unknown : ∀ h ∈ s.broker.held ++ s.broker.acked, h.number ≠ s.broker.taken := by
    intro h hh hn
    have hlt : h.number < s.broker.taken := sound.handles_lt h hh
    omega
  refine ⟨?_, ?_, ?_, ?_, ?_⟩
  · intro a n m hd
    rw [broker, htaken]
    rcases back a n m hd with ⟨_, rfl, _⟩ | ⟨_, hd⟩
    · exact Nat.lt_succ_self _
    · exact Nat.lt_succ_of_lt (owned.number_lt a n m hd)
  · intro a b n m m' hd hd'
    rcases back a n m hd with ⟨rfl, rfl, _⟩ | ⟨_, hda⟩
    · rcases back b _ m' hd' with ⟨rfl, _⟩ | ⟨_, hdb⟩
      · rfl
      · exact absurd hdb (fresh b m')
    · rcases back b n m' hd' with ⟨_, rfl, _⟩ | ⟨_, hdb⟩
      · exact absurd hda (fresh a m)
      · exact owned.number_once a b n m m' hda hdb
  · intro a h m hd hh
    rw [broker, hheld, hacked] at hh
    have cases : h ∈ s.broker.held ++ s.broker.acked ∨ h = ⟨s.broker.taken, name, d.message⟩ := by
      simp only [List.mem_append, List.mem_singleton] at hh ⊢
      rcases hh with (hh | hh) | hh
      · exact Or.inl (Or.inl hh)
      · exact Or.inr hh
      · exact Or.inl (Or.inr hh)
    rcases back a h.number m hd with ⟨_, hn, rfl⟩ | ⟨_, hda⟩
    · rcases cases with old | rfl
      · exact absurd hn (unknown h old)
      · rfl
    · rcases cases with old | rfl
      · exact owned.same_message a h m hda old
      · exact absurd hda (fresh a m)
  · intro a n m hd
    rw [broker, hpublished]
    rcases back a n m hd with ⟨_, _, rfl⟩ | ⟨_, hda⟩
    · apply sound.accepted name d.message
      exact List.mem_append_left _ (List.mem_append_left _ hwaiting)
    · exact owned.published a n m hda
  · intro h hh
    rw [broker, hheld] at hh
    rcases List.mem_append.1 hh with old | last
    · rcases owned.in_hand h old with out | ⟨a, ⟨m, hd⟩, hu⟩
      · exact Or.inl out
      · have ht : a ≠ taker := by
          rintro rfl
          rw [empty] at hd
          cases hd
        obtain ⟨hsame, hkept⟩ := others a ht
        exact Or.inr ⟨a, ⟨m, hsame.trans hd⟩, hkept hu⟩
    · obtain rfl := List.mem_singleton.1 last
      exact Or.inr ⟨taker, ⟨d.message, got⟩, unsettled⟩

/-- Every owner keeps what it has, and the broker delivers nothing. -/
theorem Owned.of_same (owned : s.Owned outside) (quiet : s.broker.ledger.Quiet s'.broker.ledger)
    (same : ∀ a, s'.delivery? a = s.delivery? a) (kept : ∀ a, s.Unsettled a → s'.Unsettled a) :
    s'.Owned outside := by
  apply owned.of_quiet quiet (fun a d hd => (same a).symm.trans hd)
  intro a h _ ⟨⟨m, hd⟩, hu⟩
  exact ⟨⟨m, (same a).trans hd⟩, kept a hu⟩

/-! ## What owners have after an act -/

theorem delivery?_congr (envelopes : s'.envelopes = s.envelopes)
    (operations : s'.operations = s.operations) (a : Owner) : s'.delivery? a = s.delivery? a := by
  cases a with
  | envelope i => simp only [delivery?, envelopes]
  | operation k => simp only [delivery?, operations]

theorem unsettled_congr (envelopes : s'.envelopes = s.envelopes) (a : Owner)
    (h : s.Unsettled a) : s'.Unsettled a := by
  cases a with
  | operation k => trivial
  | envelope i =>
    intro made found
    rw [envelopes] at found
    exact h made found

theorem delivery?_setState (s : System) (op : Nat) (state : OperationState) (k : Nat) :
    (s.setState op state).delivery? (.operation k)
      = if k = op then (s.operations[op]?).bind fun _ => state.holding?.bind Taken.held?
        else s.delivery? (.operation k) := by
  unfold delivery?
  dsimp only
  rw [getElem?_setState]
  by_cases h : k = op
  · subst h
    simp only [if_true]
    cases s.operations[k]? <;> rfl
  · simp [h]

/-- An operation that holds what it held leaves every owner with what it had. -/
theorem delivery?_setState_same {o : Operation} {state : OperationState}
    (found : s.operations[op]? = some o) (same : state.holding? = o.state.holding?) (a : Owner) :
    (s.setState op state).delivery? a = s.delivery? a := by
  cases a with
  | envelope i => rfl
  | operation k =>
    rw [delivery?_setState]
    by_cases h : k = op
    · subst h
      simp [delivery?, found, same]
    · simp [h]

/-- An operation that is begun holds nothing. -/
theorem delivery?_addOperation (s : System) (k : Nat) (a : Owner) :
    (s.addOperation k).delivery? a = s.delivery? a := by
  cases a with
  | envelope i => rfl
  | operation j =>
    show ((s.operations ++ [⟨k, .abandoned⟩])[j]?).bind _ = _
    by_cases hlt : j < s.operations.length
    · rw [List.getElem?_append_left hlt]
      rfl
    · have hnone : s.operations[j]? = none := List.getElem?_eq_none (by omega)
      rw [List.getElem?_append_right (by omega)]
      simp only [delivery?, hnone]
      cases j - s.operations.length <;> rfl

theorem delivery?_setDisposition (s : System) (i : Nat) (d : Disposition) (a : Owner) :
    (s.setDisposition i d).delivery? a = s.delivery? a := by
  cases a with
  | operation k => rfl
  | envelope j =>
    by_cases h : i = j
    · subst h
      cases hs : s.envelopes[i]? <;> simp [delivery?, setDisposition, hs, Envelope.taken]
    · simp [delivery?, setDisposition, h]

theorem delivery?_addEnvelope (s : System) (k : Nat) (channel : String) (d : Taken) (a : Owner) :
    (s.addEnvelope k channel d).1.delivery? a
      = if a = .envelope s.envelopes.length then d.held? else s.delivery? a := by
  cases a with
  | operation j => rfl
  | envelope i =>
    unfold delivery?
    dsimp only
    rw [getElem?_addEnvelope]
    by_cases h : i = s.envelopes.length
    · subst h
      simp [Envelope.taken]
    · simp [h]

theorem unsettled_addEnvelope (s : System) (k : Nat) (channel : String) (d : Taken) (a : Owner)
    (h : s.Unsettled a) : (s.addEnvelope k channel d).1.Unsettled a := by
  cases a with
  | operation j => trivial
  | envelope i =>
    intro made found
    rw [getElem?_addEnvelope] at found
    split at found
    · cases found
      rfl
    · exact h made found

/-! ## Settling and giving up -/

theorem quiet_useAcker (s : System) (i : Nat) (a : Acker) (v : Settlement) :
    s.broker.ledger.Quiet (s.useAcker i a v).broker.ledger := by
  cases a with
  | scripted id => exact .refl _
  | held n =>
    cases v with
    | ack => exact Broker.quiet_change (c := .ack n) rfl
    | nack => exact Broker.quiet_change (c := .nack n) rfl

theorem held_useAcker (s : System) (i n : Nat) (v : Settlement) :
    (s.useAcker i (.held n) v).broker.held = Ledger.without s.broker.held n := by
  cases v with
  | ack => exact s.broker.held_ack n
  | nack => exact s.broker.held_nack n

theorem quiet_dropAcker (s : System) (a : Acker) :
    s.broker.ledger.Quiet (s.dropAcker a).broker.ledger := by
  cases a with
  | scripted id => exact .refl _
  | held n => exact Broker.quiet_change (c := .release n) rfl

theorem Taken.acker_of_held? {d : Taken} {n : Nat} {m : Message} (h : d.held? = some (n, m)) :
    d.acker = .held n ∧ d.message = m := by
  unfold Taken.held? at h
  split at h
  · rename_i hacker
    cases h
    exact ⟨hacker, rfl⟩
  · cases h

theorem number_ne_of_without {held : List Held} {n : Nat} {h : Held}
    (member : h ∈ Ledger.without held n) : h.number ≠ n := by
  simpa using (List.mem_filter.1 member).2

/-- Settling leaves an envelope with the delivery that it was made of. -/
theorem delivery?_settleFrom (s : System) (i : Nat) (expected : Disposition) (v : Settlement)
    (a : Owner) : (s.settleFrom i expected v).delivery? a = s.delivery? a := by
  rcases s.settleFrom_cases i expected v with same | ⟨made, _, _, heq⟩
  · rw [same]
  · rw [heq]
    exact (delivery?_congr (envelopes_useAcker _ _ _ _) (operations_useAcker _ _ _ _) a).trans
      (delivery?_setDisposition s i v.disposition a)

theorem owned_settleFrom (owned : s.Owned outside) (i : Nat) (expected : Disposition)
    (v : Settlement) : (s.settleFrom i expected v).Owned outside := by
  rcases s.settleFrom_cases i expected v with same | ⟨made, found, _, heq⟩
  · rw [same]
    exact owned
  · rw [heq]
    have deliveries := delivery?_settleFrom s i expected v
    rw [heq] at deliveries
    refine owned.of_quiet (quiet_useAcker (s.setDisposition i v.disposition) i made.acker v)
      (fun a d hd => (deliveries a).symm.trans hd) ?_
    intro a h hh ⟨⟨m, hd⟩, unsettled⟩
    refine ⟨⟨m, (deliveries a).trans hd⟩, ?_⟩
    cases a with
    | operation k => trivial
    | envelope j =>
      -- The envelope that was settled does not hold what is still held.
      have hne : i ≠ j := by
        rintro rfl
        have htaken : made.taken.held? = some (h.number, m) := by simpa [delivery?, found] using hd
        have hacker : made.acker = .held h.number := (Taken.acker_of_held? htaken).1
        change h ∈ ((s.setDisposition i v.disposition).useAcker i made.acker v).broker.held at hh
        rw [hacker, held_useAcker] at hh
        exact number_ne_of_without hh rfl
      intro made' found'
      apply unsettled made'
      rw [← found']
      show s.envelopes[j]? = ((s.setDisposition i v.disposition).useAcker i _ v).envelopes[j]?
      rw [envelopes_useAcker]
      simp [setDisposition, hne]

theorem delivery?_letGo (s : System) (acker : Acker) (op : Nat) {state : OperationState}
    (empty : state.holding? = none) (a : Owner) :
    ((s.dropAcker acker).setState op state).delivery? a
      = if a = .operation op then none else s.delivery? a := by
  have dropped : (s.dropAcker acker).delivery? a = s.delivery? a := by
    refine delivery?_congr ?_ ?_ a <;> cases acker <;> rfl
  cases a with
  | envelope i => exact dropped
  | operation k =>
    rw [delivery?_setState, empty]
    by_cases h : k = op
    · subst h
      rw [if_pos rfl, if_pos rfl]
      cases (s.dropAcker acker).operations[k]? <;> rfl
    · rw [if_neg h, if_neg (fun heq => h (Owner.operation.inj heq))]
      exact dropped

/-- An operation lets go of what it holds. -/
theorem owned_letGo (owned : s.Owned outside) {o : Operation} {d : Taken}
    (found : s.operations[op]? = some o) (holding : o.state.holding? = some d)
    {state : OperationState} (empty : state.holding? = none) :
    ((s.dropAcker d.acker).setState op state).Owned outside := by
  have others : ∀ a, a ≠ .operation op →
      ((s.dropAcker d.acker).setState op state).delivery? a = s.delivery? a := by
    intro a ha
    rw [delivery?_letGo s d.acker op empty, if_neg ha]
  have gone : ((s.dropAcker d.acker).setState op state).delivery? (.operation op) = none := by
    rw [delivery?_letGo s d.acker op empty, if_pos rfl]
  refine owned.of_quiet (quiet_dropAcker s d.acker) ?_ ?_
  · intro a x hx
    by_cases ha : a = .operation op
    · subst ha
      rw [gone] at hx
      cases hx
    · exact (others a ha).symm.trans hx
  · intro a h hh ⟨⟨m, hd⟩, unsettled⟩
    have ha : a ≠ .operation op := by
      rintro rfl
      have hheld : d.held? = some (h.number, m) := by
        simpa [delivery?, found, holding] using hd
      have hacker : d.acker = .held h.number := (Taken.acker_of_held? hheld).1
      change h ∈ (s.dropAcker d.acker).broker.held at hh
      rw [hacker, show (s.dropAcker (.held h.number)).broker.held = _ from
        s.broker.held_release h.number] at hh
      exact number_ne_of_without hh rfl
    refine ⟨⟨m, (others a ha).trans hd⟩, ?_⟩
    refine unsettled_congr ?_ a unsettled
    show (s.dropAcker d.acker).envelopes = s.envelopes
    cases d.acker <;> rfl

/-! ## Acts -/

theorem holding?_of_listening {l : Loop} (phase : l.phase = .listening) :
    (OperationState.receiving l).holding? = none := by
  simp [OperationState.holding?, phase]

theorem holding?_of_holding {l : Loop} {d : Taken} (phase : l.phase = .holding d) :
    (OperationState.receiving l).holding? = some d := by
  simp [OperationState.holding?, phase]

theorem holding?_of_routing? {state : OperationState} {i : Nat} (h : state.routing? = some i) :
    state.holding? = none := by
  obtain ⟨p, channel, rfl, _⟩ := OperationState.routing?_eq_some h
  rfl

/-- A written source shows deliveries that are not the broker's. -/
theorem held?_of_script {n : Nat} {d : Taken} (shown : (s.poll (.script n)).2 = .delivered d) :
    d.held? = none := by
  dsimp only [poll] at shown
  split at shown
  · cases shown
  · rename_i source _
    unfold ScriptedSource.poll at shown
    split at shown
    · split at shown <;> cases shown
    · cases shown
      rfl
    · cases shown

theorem delivery?_poll (s : System) (source : Source) (a : Owner) :
    (s.poll source).1.delivery? a = s.delivery? a :=
  delivery?_congr (envelopes_poll s source) (operations_poll s source) a

/-- A loop that takes a delivery holds it. -/
theorem delivery?_pulled {k : Nat} {l : Loop} (found : s.operations[op]? = some ⟨k, .receiving l⟩)
    (d : Taken) (a : Owner) :
    ((s.poll l.source).1.setState op (.receiving { l with phase := .holding d })).delivery? a
      = if a = .operation op then d.held? else s.delivery? a := by
  rw [← delivery?_poll s l.source a]
  cases a with
  | envelope i => rfl
  | operation j =>
    rw [delivery?_setState]
    by_cases h : j = op
    · subst h
      rw [if_pos rfl, if_pos rfl, operations_poll, found]
      rfl
    · rw [if_neg h, if_neg (fun heq => h (Owner.operation.inj heq))]

/-- The envelope that a collection makes has the delivery that the collection takes. -/
theorem delivery?_collected (s : System) (k : Nat) (c : Collection) (d : Taken) (a : Owner) :
    ((s.poll c.source).1.addEnvelope k c.channel d).1.delivery? a
      = if a = .envelope s.envelopes.length then d.held? else s.delivery? a := by
  rw [delivery?_addEnvelope, envelopes_poll, delivery?_poll]

/-- An owner who had nothing is given what a source shows. -/
theorem Owned.of_shown (owned : s.Owned outside) (sound : s.broker.ledger.Sound) {source : Source}
    {d : Taken} (shown : (s.poll source).2 = .delivered d)
    (broker : s'.broker = (s.poll source).1.broker) {taker : Owner}
    (empty : s.delivery? taker = none) (got : s'.delivery? taker = d.held?)
    (unsettled : ∀ a, s.Unsettled a → s'.Unsettled a) (free : s'.Unsettled taker)
    (others : ∀ a, a ≠ taker → s'.delivery? a = s.delivery? a) : s'.Owned outside := by
  cases source with
  | stream n =>
    exact owned.of_delivered sound shown broker empty got free fun a ha =>
      ⟨others a ha, unsettled a⟩
  | script n =>
    have hbroker : s'.broker = s.broker := broker.trans (broker_poll_script s n)
    refine owned.of_same (hbroker ▸ .refl _) (fun a => ?_) unsettled
    by_cases ha : a = taker
    · subst ha
      rw [got, empty, held?_of_script shown]
    · exact others a ha

/-- A loop that hands its delivery over has none, and the new envelope has it. -/
theorem delivery?_handed (s : System) (op k : Nat) (l : Loop) (d : Taken) (a : Owner) :
    ((s.addEnvelope k l.channel d).1.setState op
        (.receiving (l.handed s.envelopes.length))).delivery? a
      = if a = .operation op then none
        else if a = .envelope s.envelopes.length then d.held? else s.delivery? a := by
  rw [← delivery?_addEnvelope s k l.channel d a]
  cases a with
  | envelope i => rfl
  | operation j =>
    rw [delivery?_setState]
    by_cases h : j = op
    · subst h
      rw [if_pos rfl, if_pos rfl]
      cases (s.addEnvelope k l.channel d).1.operations[j]? <;> rfl
    · rw [if_neg h, if_neg (fun heq => h (Owner.operation.inj heq))]

/-- A loop hands its delivery over to the envelope it makes. -/
theorem owned_handed (owned : s.Owned outside) {k : Nat} {l : Loop} {d : Taken}
    (found : s.operations[op]? = some ⟨k, .receiving l⟩) (phase : l.phase = .holding d) :
    ((s.addEnvelope k l.channel d).1.setState op
      (.receiving (l.handed s.envelopes.length))).Owned outside := by
  have deliveries := delivery?_handed s op k l d
  generalize hs : (s.addEnvelope k l.channel d).1.setState op
    (.receiving (l.handed s.envelopes.length)) = s' at deliveries
  have given : s.delivery? (.operation op) = d.held? := by
    simp [delivery?, found, holding?_of_holding phase]
  have empty : s.delivery? (.envelope s.envelopes.length) = none := by simp [delivery?]
  have gone : s'.delivery? (.operation op) = none := by
    rw [deliveries, if_pos rfl]
  have got : s'.delivery? (.envelope s.envelopes.length) = d.held? := by
    rw [deliveries, if_neg Owner.noConfusion, if_pos rfl]
  have others : ∀ a, a ≠ .operation op → a ≠ .envelope s.envelopes.length →
      s'.delivery? a = s.delivery? a := by
    intro a hg ht
    rw [deliveries, if_neg hg, if_neg ht]
  have unsettled : ∀ a, s.Unsettled a → s'.Unsettled a := fun a ha => by
    rw [← hs]
    exact unsettled_congr rfl a (unsettled_addEnvelope s k l.channel d a ha)
  cases hd : d.held? with
  | none =>
    refine owned.of_same (hs ▸ .refl _) (fun a => ?_) unsettled
    by_cases hg : a = .operation op
    · rw [hg, gone, given, hd]
    · by_cases ht : a = .envelope s.envelopes.length
      · rw [ht, got, empty, hd]
      · exact others a hg ht
  | some x =>
    refine owned.of_passed (hs ▸ rfl) (given.trans hd) empty gone (got.trans hd) ?_
      fun a hg ht => ⟨others a hg ht, unsettled a⟩
    refine unsettled _ fun made found => ?_
    simp at found

theorem unsettled_pending (s : System) (i : Nat) (a : Owner) (h : s.Unsettled a) :
    (s.setDisposition i .deadLetterPending).Unsettled a := by
  cases a with
  | operation k => trivial
  | envelope j =>
    intro made found
    simp only [setDisposition, List.getElem?_modify] at found
    obtain ⟨made₀, h₀, rfl⟩ := Option.map_eq_some_iff.1 found
    split
    · rfl
    · exact h made₀ h₀

/-- An act changes hands in order, unless someone takes a delivery from the broker directly. -/
theorem Act.owned (act : Act e op s s') (inside : ∀ stream, e ≠ .direct (.poll stream))
    (sound : s.broker.ledger.Sound) (owned : s.Owned outside) : s'.Owned outside := by
  cases act with
  | world services clock tokens scripts kept =>
    exact owned.of_same (.refl _) (delivery?_congr rfl rfl) (unsettled_congr rfl)
  | wrote n => exact owned.of_same (.refl _) (delivery?_congr rfl rfl) (unsettled_congr rfl)
  | asked r waits => exact owned.of_same (.refl _) (delivery?_congr rfl rfl) (unsettled_congr rfl)
  | direct c cause =>
    refine owned.of_same (Broker.quiet_change ?_) (delivery?_congr rfl rfl) (unsettled_congr rfl)
    cases c with
    | poll stream => exact absurd cause (inside stream)
    | _ => rfl
  | performed r cause waits =>
    exact owned.of_same (Broker.quiet_change (c := .perform s.clock r) rfl) (delivery?_congr rfl rfl)
      (unsettled_congr rfl)
  | looked source nothing =>
    have ledger : (s.poll source).1.broker.ledger = s.broker.ledger := by
      cases source with
      | stream n => exact Broker.ledger_of_not_delivered nothing
      | script n => rw [broker_poll_script]
    exact owned.of_same (ledger ▸ .refl _) (delivery?_poll s source)
      (unsettled_congr (envelopes_poll s source))
  | leftSource source =>
    cases source with
    | stream n =>
      exact owned.of_same (.refl _) (delivery?_congr rfl rfl) (unsettled_congr rfl)
    | script n => exact owned
  | gaveUp i made cause found =>
    refine owned.of_same (quiet_dropAcker s made.acker) (delivery?_congr ?_ ?_) (unsettled_congr ?_)
    all_goals cases made.acker <;> rfl
  | started service new =>
    exact owned.of_same (.refl _) (delivery?_addOperation s service) (unsettled_congr rfl)
  | moved o state found plain =>
    exact owned.of_same (.refl _) (delivery?_setState_same found plain.holding) (unsettled_congr rfl)
  | registered k v o c found service lookup topic subscription opened =>
    exact owned.of_same (.refl _) (delivery?_setState_same found rfl) (unsettled_congr rfl)
  | pulled k l d found phase shown =>
    have empty : s.delivery? (.operation op) = none := by
      simp [delivery?, found, holding?_of_listening phase]
    refine owned.of_shown sound shown rfl empty ?_ (unsettled_congr (envelopes_poll s l.source))
      trivial fun a ha => ?_
    · rw [delivery?_pulled found, if_pos rfl]
    · rw [delivery?_pulled found, if_neg ha]
  | handed k l d cause found phase => exact owned_handed owned found phase
  | letGo k l d outcome found phase =>
    exact owned_letGo owned found (holding?_of_holding phase) rfl
  | collected k c d found shown =>
    have empty : s.delivery? (.envelope s.envelopes.length) = none := by simp [delivery?]
    refine owned.of_shown sound shown rfl empty ?_ (fun a ha => ?_) ?_ fun a ha => ?_
    · rw [delivery?_collected, if_pos rfl]
    · exact unsettled_addEnvelope _ _ _ _ a (unsettled_congr (envelopes_poll s c.source) a ha)
    · apply unsettled_addEnvelope
      intro made found
      simp [envelopes_poll] at found
    · rw [delivery?_collected, if_neg ha]
  | settled i made v found received cause => exact owned_settleFrom owned i .received v
  | entered i made p k c text channel cause found received standing purpose =>
    have pending : (s.setDisposition i .deadLetterPending).Owned outside :=
      owned.of_same (.refl _) (delivery?_setDisposition s i _) (unsettled_pending s i)
    exact pending.of_same (.refl _) (delivery?_setState_same (o := ⟨k, .abandoned⟩) standing rfl)
      (unsettled_congr rfl)
  | left i k p v channel result cause standing purpose =>
    refine (owned_settleFrom owned i .deadLetterPending v).of_same (.refl _)
      (delivery?_setState_same (o := ⟨k, .publishing p⟩) ?_ rfl) (unsettled_congr rfl)
    rw [operations_settleFrom]
    exact standing
  | dropped o i cause found routing =>
    exact owned.of_same (.refl _)
      (delivery?_setState_same found (holding?_of_routing? routing).symm) (unsettled_congr rfl)

/-- An act keeps the ledger sound. -/
theorem Act.sound (act : Act e op s s') (sound : s.broker.ledger.Sound) :
    s'.broker.ledger.Sound := by
  rcases act.broker with same | ⟨c, changed, _⟩
  · rw [same]
    exact sound
  · rw [changed]
    exact (s.broker.ledger_change c).sound sound

theorem owned_acts (acts : Acts e op s s') (inside : ∀ stream, e ≠ .direct (.poll stream))
    (sound : s.broker.ledger.Sound) (owned : s.Owned outside) : s'.Owned outside := by
  suffices h : s'.broker.ledger.Sound ∧ s'.Owned outside from h.2
  induction acts with
  | refl => exact ⟨sound, owned⟩
  | tail _ act ih => exact ⟨act.sound ih.1, act.owned inside ih.1 ih.2⟩

/-! ## Runs -/

/-- The number of the delivery that an event takes from the broker directly. -/
def takenDirectly (s : System) : Event → List Nat
  | .direct (.poll stream) =>
    match (s.broker.pollStream stream).2 with
    | .delivered d => (d.held?.map Prod.fst).toList
    | _ => []
  | _ => []

/-- The numbers of the deliveries that were taken from the broker directly in a run. -/
def outsiders (s : System) : List Event → List Nat
  | [] => []
  | e :: es => s.takenDirectly e ++ (s.step e).outsiders es

/-- A delivery taken directly is outside, and changes nothing for those who own one. -/
theorem owned_direct (owned : s.Owned outside) (stream : Nat) :
    (s.step (.direct (.poll stream))).Owned
      (outside ++ s.takenDirectly (.direct (.poll stream))) := by
  rcases s.broker.pollStream_cases stream with
    ⟨nothing, same⟩ | ⟨name, sub, m, rest, opened, found, first, heq⟩
  · have none : s.takenDirectly (.direct (.poll stream)) = [] := by
      unfold takenDirectly
      cases hshown : (s.broker.pollStream stream).2 with
      | delivered d => exact absurd hshown (nothing d)
      | _ => simp
    rw [none, List.append_nil]
    have ledger : (s.step (.direct (.poll stream))).broker.ledger = s.broker.ledger := same
    exact owned.of_same (ledger ▸ .refl _) (delivery?_congr rfl rfl) (unsettled_congr rfl)
  · have new : s.takenDirectly (.direct (.poll stream)) = [s.broker.taken] := by
      simp only [takenDirectly, heq]
      rfl
    have broker : (s.step (.direct (.poll stream))).broker = (s.broker.pollStream stream).1 := rfl
    have deliveries : ∀ a, (s.step (.direct (.poll stream))).delivery? a = s.delivery? a :=
      delivery?_congr rfl rfl
    rw [heq] at broker
    rw [new]
    refine ⟨?_, ?_, ?_, ?_, ?_⟩
    · intro a n m hd
      rw [broker]
      exact Nat.lt_succ_of_lt (owned.number_lt a n m ((deliveries a).symm.trans hd))
    · intro a b n m m' hd hd'
      exact owned.number_once a b n m m' ((deliveries a).symm.trans hd)
        ((deliveries b).symm.trans hd')
    · intro a h m hd hh
      rw [deliveries] at hd
      rw [broker] at hh
      simp only [List.mem_append, List.mem_singleton] at hh
      rcases hh with (hh | rfl) | hh
      · exact owned.same_message a h m hd (List.mem_append_left _ hh)
      · exact absurd (owned.number_lt a _ m hd) (Nat.lt_irrefl _)
      · exact owned.same_message a h m hd (List.mem_append_right _ hh)
    · intro a n m hd
      rw [broker]
      exact owned.published a n m ((deliveries a).symm.trans hd)
    · intro h hh
      rw [broker] at hh
      rcases List.mem_append.1 hh with old | last
      · rcases owned.in_hand h old with out | ⟨a, ⟨m, hd⟩, hu⟩
        · exact Or.inl (List.mem_append_left _ out)
        · exact Or.inr ⟨a, ⟨m, (deliveries a).trans hd⟩, unsettled_congr rfl a hu⟩
      · obtain rfl := List.mem_singleton.1 last
        exact Or.inl (List.mem_append_right _ (List.mem_singleton.2 rfl))

theorem owned_step (sound : s.broker.ledger.Sound) (owned : s.Owned outside) (e : Event) :
    (s.step e).Owned (outside ++ s.takenDirectly e) := by
  by_cases h : ∃ stream, e = .direct (.poll stream)
  · obtain ⟨stream, rfl⟩ := h
    exact owned_direct owned stream
  · have none : s.takenDirectly e = [] := by
      unfold takenDirectly
      split
      · exact absurd ⟨_, rfl⟩ h
      · rfl
    rw [none, List.append_nil]
    exact owned_acts (s.acts_step e) (fun stream he => h ⟨stream, he⟩) sound owned

/-- **Every delivery that the broker holds is in someone's hands**, after every run. -/
theorem owned_after (now : Timestamp) (es : List Event) :
    ((start now).after es).Owned ((start now).outsiders es) := by
  suffices h : ∀ (s : System) (outside : List Nat), s.Reachable → s.Owned outside →
      (s.after es).Owned (outside ++ s.outsiders es) by
    have := h (start now) [] ⟨now, [], rfl⟩ (owned_start now)
    simpa using this
  induction es with
  | nil =>
    intro s outside _ owned
    rw [outsiders, List.append_nil]
    exact owned
  | cons e es ih =>
    intro s outside reachable owned
    rw [outsiders, ← List.append_assoc]
    exact ih (s.step e) _ (reachable.step e) (owned_step reachable.sound owned e)

end System

end MessageChannels
