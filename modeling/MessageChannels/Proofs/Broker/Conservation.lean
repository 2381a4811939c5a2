import Mathlib.Data.List.Nodup
import MessageChannels.Proofs.Broker.Ledger

/-!
# No message is lost, doubled or altered

The whereabouts of a name are the messages waiting on the subscription of that name, those held by
its deliveries and those acknowledged through it. A step of a ledger moves messages between the
three, brings in what is published to the subscription's topic (`arrivals`), and loses some only
where the broker is closed or the subscription gone (`Step.moves`). With `Ledger.Sound`, which every
step keeps, this becomes `whereabouts_after`: while a subscription lasts and its broker is open, its
whereabouts are those of before and what was published to its topic since.
-/

set_option autoImplicit false

namespace MessageChannels

namespace Decimal

theorem toString_nat_inj {m n : Nat} (h : toString m = toString n) : m = n := by
  have hd : Nat.toDigits 10 m = Nat.toDigits 10 n := by
    rw [← Nat.toList_repr, ← Nat.toList_repr]
    exact congrArg String.toList h
  rw [← Nat.ofDigitChars_ten_toDigits (n := m), hd, Nat.ofDigitChars_ten_toDigits]

end Decimal

namespace Ledger

/-! ## Where messages are -/

/-- The messages waiting on a subscription. -/
def backlog (l : Ledger) (name : String) : List Message :=
  ((l.subscriptions.get? name).map Subscription.backlog).getD []

/-- The messages of some deliveries that were taken from a subscription. -/
def messagesOn (deliveries : List Held) (name : String) : List Message :=
  (deliveries.filter fun h => h.subscription = name).map Held.message

/-- The messages of a subscription, wherever they are. -/
def whereabouts (l : Ledger) (name : String) : List Message :=
  l.backlog name ++ messagesOn l.held name ++ messagesOn l.acked name

/-- The messages of a topic, of those that were published. -/
def ofTopic (topic : String) (published : List (String × Message)) : List Message :=
  (published.filter fun p => p.1 = topic).map Prod.snd

/-- What the publishing of messages brings to the subscription of a name. -/
def arrivals (l : Ledger) (name : String) (new : List (String × Message)) : List Message :=
  match l.subscriptions.get? name with
  | none => []
  | some s => ofTopic s.topic new

@[simp] theorem arrivals_nil (l : Ledger) (name : String) : l.arrivals name [] = [] := by
  unfold arrivals
  cases l.subscriptions.get? name <;> rfl

/-- What holds of every ledger that a broker can have. -/
structure Sound (l : Ledger) : Prop where
  numbered : ∀ i p, l.published[i]? = some p → p.2.id = toString (i + 1)
  handles_lt : ∀ h ∈ l.held ++ l.acked, h.number < l.taken
  handles_once : ((l.held ++ l.acked).map Held.number).Nodup
  creation_lt : ∀ name s, l.subscriptions.get? name = some s → s.creation < l.creations
  accepted : ∀ name, ∀ m ∈ l.whereabouts name, ∃ topic, (topic, m) ∈ l.published
  once : ∀ name, ((l.whereabouts name).map Message.id).Nodup

theorem sound_empty : Sound Broker.empty.ledger where
  numbered := by intro i p h; simp [Broker.ledger, Broker.empty] at h
  handles_lt := by intro h hh; simp [Broker.ledger, Broker.empty] at hh
  handles_once := by simp [Broker.ledger, Broker.empty]
  creation_lt := by intro name s h; simp [Broker.ledger, Broker.empty] at h
  accepted := by
    intro name m h
    simp [whereabouts, backlog, messagesOn, Broker.ledger, Broker.empty] at h
  once := by
    intro name
    simp [whereabouts, backlog, messagesOn, Broker.ledger, Broker.empty]

/-! ## Taking one delivery out -/

theorem perm_cons_without {held : List Held} {h : Held} (once : (held.map Held.number).Nodup)
    (member : h ∈ held) : held.Perm (h :: without held h.number) := by
  induction held with
  | nil => cases member
  | cons first rest ih =>
    obtain ⟨hnew, hrest⟩ := List.nodup_cons.1 once
    rcases List.mem_cons.1 member with rfl | later
    · have hsame : without rest h.number = rest := by
        apply List.filter_eq_self.2
        intro x hx
        have hne : x.number ≠ h.number := fun e => hnew (e ▸ List.mem_map_of_mem hx)
        simpa using hne
      have hgone : without (h :: rest) h.number = without rest h.number := by simp [without]
      rw [hgone, hsame]
    · have hne : first.number ≠ h.number := fun e => hnew (e ▸ List.mem_map_of_mem later)
      have hkeep : without (first :: rest) h.number = first :: without rest h.number := by
        simp [without, hne]
      rw [hkeep]
      exact ((ih hrest later).cons first).trans (List.Perm.swap _ _ _)

theorem without_sublist (held : List Held) (n : Nat) : (without held n).Sublist held :=
  List.filter_sublist

/-- A delivery's message, if the delivery was taken from the subscription of a name. -/
def messageOn (h : Held) (name : String) : List Message :=
  if h.subscription = name then [h.message] else []

theorem messagesOn_cons (h : Held) (rest : List Held) (name : String) :
    messagesOn (h :: rest) name = messageOn h name ++ messagesOn rest name := by
  by_cases hn : h.subscription = name <;> simp [messagesOn, messageOn, hn]

theorem messagesOn_append (a b : List Held) (name : String) :
    messagesOn (a ++ b) name = messagesOn a name ++ messagesOn b name := by
  simp [messagesOn]

theorem messagesOn_without {held : List Held} {h : Held} (once : (held.map Held.number).Nodup)
    (member : h ∈ held) (name : String) :
    (messagesOn held name).Perm (messageOn h name ++ messagesOn (without held h.number) name) := by
  rw [← messagesOn_cons]
  exact ((perm_cons_without once member).filter _).map _

theorem Sound.held_once {l : Ledger} (sound : l.Sound) : (l.held.map Held.number).Nodup := by
  have h := sound.handles_once
  rw [List.map_append] at h
  exact (List.nodup_append.1 h).1

/-- A number is that of one delivery. -/
theorem Sound.eq_of_number {l : Ledger} (sound : l.Sound) {h h' : Held}
    (member : h ∈ l.held ++ l.acked) (member' : h' ∈ l.held ++ l.acked)
    (same : h'.number = h.number) : h' = h :=
  List.inj_on_of_nodup_map sound.handles_once member' member same

/-- A message has one delivery from a subscription that is held or was acknowledged. -/
theorem Sound.eq_of_message {l : Ledger} (sound : l.Sound) {h h' : Held}
    (member : h ∈ l.held ++ l.acked) (member' : h' ∈ l.held ++ l.acked)
    (subscription : h'.subscription = h.subscription) (id : h'.message.id = h.message.id) :
    h' = h := by
  have once : (((l.held ++ l.acked).filter fun x => x.subscription = h.subscription).map
      fun x => x.message.id).Nodup := by
    have all := sound.once h.subscription
    rw [whereabouts, List.append_assoc, ← messagesOn_append, List.map_append] at all
    have part := (List.nodup_append.1 all).2.1
    rw [messagesOn, List.map_map] at part
    exact part
  refine List.inj_on_of_nodup_map once ?_ ?_ id
  · exact List.mem_filter.2 ⟨member', by simpa using subscription⟩
  · exact List.mem_filter.2 ⟨member, by simp⟩

theorem Sound.not_held_of_acked {l : Ledger} (sound : l.Sound) {h : Held} (acked : h ∈ l.acked) :
    h ∉ l.held := by
  intro held
  have once := sound.handles_once
  rw [List.map_append] at once
  exact (List.nodup_append.1 once).2.2 _ (List.mem_map_of_mem held) _ (List.mem_map_of_mem acked) rfl

/-! ## What a step moves -/

theorem backlog_queued (l : Ledger) (name : String) (m : Message) (other : String)
    (l' : Ledger) (h : l'.subscriptions = queued l.subscriptions name m) :
    l'.backlog other = l.backlog other
      ++ if other = name ∧ (l.subscriptions.get? name).isSome then [m] else [] := by
  unfold backlog
  rw [h, get?_queued]
  by_cases hn : other = name
  · subst hn
    cases l.subscriptions.get? other <;> simp [Subscription.append]
  · simp [hn]

/-- A step moves the messages of a name about, brings in what arrives, and loses messages only if
the broker is closed or the subscription is gone. -/
theorem Step.moves {l l' : Ledger} (sound : l.Sound) (step : Step l l') (name : String) :
    ∃ new lost, l'.published = l.published ++ new ∧
      (l'.whereabouts name ++ lost).Perm (l.whereabouts name ++ l.arrivals name new) ∧
      (lost = [] ∨ l'.closed = true ∨ l'.subscriptions.get? name = none) := by
  have same : l.published = l.published ++ [] := (List.append_nil _).symm
  cases step with
  | stay => exact ⟨[], [], same, by simp, Or.inl rfl⟩
  | close => exact ⟨[], [], same, by rw [arrivals_nil]; exact .refl _, Or.inl rfl⟩
  | create created topic deadline opened fresh =>
    refine ⟨[], [], same, ?_, Or.inl rfl⟩
    rw [arrivals_nil]
    by_cases hn : name = created
    · subst hn
      simp [whereabouts, backlog, fresh]
    · simp [whereabouts, backlog, hn]
  | delete gone opened =>
    by_cases hn : name = gone
    · subst hn
      refine ⟨[], l.backlog name, same, ?_, Or.inr (Or.inr (by simp))⟩
      rw [arrivals_nil, List.append_nil]
      have hb : backlog { l with subscriptions := l.subscriptions.erase name } name = [] := by
        simp [backlog]
      rw [whereabouts, hb, List.nil_append, whereabouts, List.append_assoc (l.backlog name)]
      exact List.perm_append_comm
    · refine ⟨[], [], same, ?_, Or.inl rfl⟩
      simp [whereabouts, backlog, hn]
  | accept topic m opened numbered =>
    refine ⟨[(topic, m)], [], rfl, ?_, Or.inl rfl⟩
    rw [List.append_nil]
    cases hs : l.subscriptions.get? name with
    | none => simp [whereabouts, backlog, arrivals, hs]
    | some s =>
      by_cases ht : s.topic = topic
      · apply List.perm_iff_count.2
        intro a
        simp [whereabouts, backlog, arrivals, ofTopic, hs, ht, Subscription.deposit,
          Subscription.append, List.count_cons]
        omega
      · simp [whereabouts, backlog, arrivals, ofTopic, hs, ht, Subscription.deposit,
          Ne.symm ht]
  | deliver taken s m rest opened found first =>
    refine ⟨[], [], same, ?_, Or.inl rfl⟩
    rw [arrivals_nil]
    by_cases hn : name = taken
    · subst hn
      apply List.perm_iff_count.2
      intro a
      simp [whereabouts, backlog, messagesOn, found, first, List.count_cons]
      omega
    · simp [whereabouts, backlog, messagesOn, hn, Ne.symm hn]
  | ack h opened member =>
    refine ⟨[], [], same, List.perm_iff_count.2 fun a => ?_, Or.inl rfl⟩
    have hcount := (messagesOn_without sound.held_once member name).count_eq a
    rw [arrivals_nil]
    simp only [whereabouts, backlog, messagesOn_append, messagesOn_cons, List.count_append,
      List.count_nil] at hcount ⊢
    simp only [messagesOn, List.filter_nil, List.map_nil, List.count_nil] at hcount ⊢
    omega
  | requeue h nacked opened member =>
    have hperm := messagesOn_without sound.held_once member name
    have hback := backlog_queued l h.subscription h.message name
      { l with
        held := without l.held h.number
        nacked := l.nacked ++ nacked
        subscriptions := queued l.subscriptions h.subscription h.message } rfl
    by_cases hn : h.subscription = name
    · subst hn
      cases hs : l.subscriptions.get? h.subscription with
      | none =>
        refine ⟨[], [h.message], same, List.perm_iff_count.2 fun a => ?_, Or.inr (Or.inr ?_)⟩
        · have hcount := hperm.count_eq a
          simp only [whereabouts, hback, messageOn, arrivals_nil, List.count_append] at hcount ⊢
          simp [hs] at hcount ⊢
          omega
        · simp [get?_queued, hs]
      | some s =>
        refine ⟨[], [], same, List.perm_iff_count.2 fun a => ?_, Or.inl rfl⟩
        have hcount := hperm.count_eq a
        simp only [whereabouts, hback, messageOn, arrivals_nil, List.count_append] at hcount ⊢
        simp [hs] at hcount ⊢
        omega
    · refine ⟨[], [], same, List.perm_iff_count.2 fun a => ?_, Or.inl rfl⟩
      have hcount := hperm.count_eq a
      simp only [whereabouts, hback, messageOn, arrivals_nil, List.count_append] at hcount ⊢
      simp [hn, Ne.symm hn] at hcount ⊢
      omega
  | forget h shut member =>
    refine ⟨[], messageOn h name, same, List.perm_iff_count.2 fun a => ?_, Or.inr (Or.inl shut)⟩
    have hcount := (messagesOn_without sound.held_once member name).count_eq a
    simp only [whereabouts, backlog, arrivals_nil, List.count_append, List.count_nil] at hcount ⊢
    omega

/-! ## Soundness -/

theorem mem_arrivals {l : Ledger} {name : String} {new : List (String × Message)} {m : Message}
    (h : m ∈ l.arrivals name new) : ∃ topic, (topic, m) ∈ new := by
  unfold arrivals at h
  cases hs : l.subscriptions.get? name with
  | none => simp [hs] at h
  | some s =>
    simp only [hs, ofTopic, List.mem_map, List.mem_filter] at h
    obtain ⟨p, ⟨hp, _⟩, rfl⟩ := h
    exact ⟨p.1, hp⟩

theorem arrivals_sublist (l : Ledger) (name : String) (new : List (String × Message)) :
    (l.arrivals name new).Sublist (new.map Prod.snd) := by
  unfold arrivals
  cases l.subscriptions.get? name with
  | none => exact List.nil_sublist _
  | some s => exact List.filter_sublist.map _

/-- The numbers of accepted messages go on where they stood. -/
theorem Step.numbered {l l' : Ledger} (sound : l.Sound) (step : Step l l') :
    ∀ i p, l'.published[i]? = some p → p.2.id = toString (i + 1) := by
  cases step with
  | accept topic m opened numbered =>
    intro i p h
    rw [List.getElem?_append] at h
    split at h
    · exact sound.numbered i p h
    · have hi : i - l.published.length = 0 := by
        have := (List.getElem?_eq_some_iff.1 h).1
        simp at this
        omega
      rw [hi] at h
      cases h
      rw [numbered]
      congr 1
      omega
  | _ => exact sound.numbered

/-- Handles stay below the number of deliveries made, and no two deliveries share one. -/
theorem Step.handles {l l' : Ledger} (sound : l.Sound) (step : Step l l') :
    (∀ h ∈ l'.held ++ l'.acked, h.number < l'.taken) ∧
      ((l'.held ++ l'.acked).map Held.number).Nodup := by
  have hless : ∀ n, (without l.held n ++ l.acked).Sublist (l.held ++ l.acked) :=
    fun n => (without_sublist l.held n).append (.refl _)
  have keep : ∀ n, (∀ h ∈ without l.held n ++ l.acked, h.number < l.taken) ∧
      ((without l.held n ++ l.acked).map Held.number).Nodup := fun n =>
    ⟨fun h hh => sound.handles_lt h ((hless n).subset hh),
      ((hless n).map _).nodup sound.handles_once⟩
  cases step with
  | deliver taken s m rest opened found first =>
    have hperm : ((l.held ++ [(⟨l.taken, taken, m⟩ : Held)]) ++ l.acked).Perm
        (⟨l.taken, taken, m⟩ :: (l.held ++ l.acked)) := by
      rw [List.append_assoc]
      exact List.perm_middle
    refine ⟨fun h hh => ?_, (hperm.map _).nodup_iff.2 (List.nodup_cons.2 ⟨?_, sound.handles_once⟩)⟩
    · rcases List.mem_cons.1 (hperm.mem_iff.1 hh) with rfl | old
      · exact Nat.lt_succ_self l.taken
      · exact Nat.lt_succ_of_lt (sound.handles_lt h old)
    · intro hmem
      obtain ⟨h, hh, hnum⟩ := List.mem_map.1 hmem
      have hlt := sound.handles_lt h hh
      rw [hnum] at hlt
      exact Nat.lt_irrefl _ hlt
  | ack h opened member =>
    have hperm : (without l.held h.number ++ (l.acked ++ [h])).Perm (l.held ++ l.acked) := by
      have hout := (perm_cons_without sound.held_once member).append_right l.acked
      refine List.Perm.trans ?_ hout.symm
      rw [← List.append_assoc]
      exact List.perm_append_comm
    exact ⟨fun x hx => sound.handles_lt x (hperm.mem_iff.1 hx),
      (hperm.map _).nodup_iff.2 sound.handles_once⟩
  | requeue h nacked opened member => exact keep h.number
  | forget h shut member => exact keep h.number
  | _ => exact ⟨sound.handles_lt, sound.handles_once⟩

/-- A subscription that a step leaves was there before the step, with the same topic, unless the
step created it. -/
theorem Step.survives {l l' : Ledger} (step : Step l l') {name : String} {s' : Subscription}
    (found : l'.subscriptions.get? name = some s') :
    (∃ s, l.subscriptions.get? name = some s ∧ s.topic = s'.topic ∧ s.creation = s'.creation) ∨
      (l.subscriptions.get? name = none ∧ s'.creation = l.creations ∧
        l'.creations = l.creations + 1) := by
  cases step with
  | create created topic deadline opened fresh =>
    rw [Dictionary.get?_insert] at found
    split at found
    · rename_i hn
      cases found
      exact Or.inr ⟨hn ▸ fresh, rfl, rfl⟩
    · exact Or.inl ⟨s', found, rfl, rfl⟩
  | delete gone opened =>
    rw [Dictionary.get?_erase] at found
    split at found
    · cases found
    · exact Or.inl ⟨s', found, rfl, rfl⟩
  | accept topic m opened numbered =>
    rw [Dictionary.get?_map] at found
    obtain ⟨s, hs, rfl⟩ := Option.map_eq_some_iff.1 found
    refine Or.inl ⟨s, hs, ?_⟩
    unfold Subscription.deposit
    split <;> exact ⟨rfl, rfl⟩
  | deliver taken s m rest opened hs first =>
    rw [Dictionary.get?_insert] at found
    split at found
    · rename_i hn
      cases found
      exact Or.inl ⟨s, hn ▸ hs, rfl, rfl⟩
    · exact Or.inl ⟨s', found, rfl, rfl⟩
  | requeue h nacked opened member =>
    rw [get?_queued] at found
    split at found
    · rename_i hn
      obtain ⟨s, hs, rfl⟩ := Option.map_eq_some_iff.1 found
      exact Or.inl ⟨s, hn ▸ hs, rfl, rfl⟩
    · exact Or.inl ⟨s', found, rfl, rfl⟩
  | _ => exact Or.inl ⟨s', found, rfl, rfl⟩

theorem Step.creations_le {l l' : Ledger} (step : Step l l') : l.creations ≤ l'.creations := by
  cases step with
  | create => exact Nat.le_succ _
  | _ => exact Nat.le_refl _

theorem Sound.id_of_mem {l : Ledger} (sound : l.Sound) {p : String × Message}
    (h : p ∈ l.published) : ∃ i, i < l.published.length ∧ p.2.id = toString (i + 1) := by
  obtain ⟨i, hi⟩ := List.mem_iff_getElem?.1 h
  exact ⟨i, (List.getElem?_eq_some_iff.1 hi).1, sound.numbered i p hi⟩

/-- No two published messages have one identifier. -/
theorem Sound.eq_of_id {l : Ledger} (sound : l.Sound) {p q : String × Message}
    (hp : p ∈ l.published) (hq : q ∈ l.published) (same : p.2.id = q.2.id) : p = q := by
  obtain ⟨i, hi⟩ := List.mem_iff_getElem?.1 hp
  obtain ⟨j, hj⟩ := List.mem_iff_getElem?.1 hq
  have hnat : i + 1 = j + 1 := Decimal.toString_nat_inj
    ((sound.numbered i p hi).symm.trans (same.trans (sound.numbered j q hj)))
  obtain rfl : i = j := Nat.succ.inj hnat
  exact Option.some.inj (hi.symm.trans hj)

/-- What a step publishes has an identifier that no message had before. -/
theorem Step.fresh {l l' : Ledger} (sound : l.Sound) (step : Step l l')
    {new : List (String × Message)} (grown : l'.published = l.published ++ new) :
    (new.map fun p => p.2.id).Nodup ∧
      ∀ p ∈ new, ∀ q ∈ l.published, p.2.id ≠ q.2.id := by
  have none_new : l'.published = l.published → new = [] := fun h => by
    rw [h] at grown
    simpa using grown
  have nothing : new = [] → (new.map fun p => p.2.id).Nodup ∧
      ∀ p ∈ new, ∀ q ∈ l.published, p.2.id ≠ q.2.id := by
    rintro rfl
    simp
  cases step with
  | accept topic m opened numbered =>
    obtain rfl : [(topic, m)] = new := by simpa using grown
    refine ⟨by simp, fun p hp q hq => ?_⟩
    obtain rfl := List.mem_singleton.1 hp
    obtain ⟨i, hi, hid⟩ := sound.id_of_mem hq
    intro heq
    have hnat : l.published.length + 1 = i + 1 :=
      Decimal.toString_nat_inj (numbered.symm.trans (heq.trans hid))
    omega
  | _ => exact nothing (none_new rfl)

/-- Every step keeps a ledger sound. -/
theorem Step.sound {l l' : Ledger} (sound : l.Sound) (step : Step l l') : l'.Sound where
  numbered := step.numbered sound
  handles_lt := (step.handles sound).1
  handles_once := (step.handles sound).2
  creation_lt := by
    intro name s' found
    rcases step.survives found with ⟨s, hs, _, hc⟩ | ⟨_, hc, hnext⟩
    · have := sound.creation_lt name s hs
      have := step.creations_le
      omega
    · omega
  accepted := by
    intro name m hm
    obtain ⟨new, lost, hpub, hperm, _⟩ := step.moves sound name
    have hin := hperm.mem_iff.1 (List.mem_append_left lost hm)
    rw [hpub]
    rcases List.mem_append.1 hin with old | arrived
    · obtain ⟨topic, ht⟩ := sound.accepted name m old
      exact ⟨topic, List.mem_append_left _ ht⟩
    · obtain ⟨topic, ht⟩ := mem_arrivals arrived
      exact ⟨topic, List.mem_append_right _ ht⟩
  once := by
    intro name
    obtain ⟨new, lost, hpub, hperm, _⟩ := step.moves sound name
    obtain ⟨hnew, hfresh⟩ := step.fresh sound hpub
    have harr : ((l.arrivals name new).map Message.id).Nodup := by
      have hsub := (l.arrivals_sublist name new).map Message.id
      rw [List.map_map] at hsub
      exact hsub.nodup hnew
    have hall : ((l.whereabouts name ++ l.arrivals name new).map Message.id).Nodup := by
      rw [List.map_append, List.nodup_append]
      refine ⟨sound.once name, harr, ?_⟩
      intro i hi j hj
      obtain ⟨m, hm, rfl⟩ := List.mem_map.1 hi
      obtain ⟨m', hm', rfl⟩ := List.mem_map.1 hj
      obtain ⟨topic, ht⟩ := sound.accepted name m hm
      obtain ⟨topic', ht'⟩ := mem_arrivals hm'
      exact (hfresh _ ht' _ ht).symm
    have hboth := (hperm.map Message.id).nodup_iff.2 hall
    rw [List.map_append] at hboth
    exact (List.nodup_append.1 hboth).1

end Ledger

namespace Broker

/-! ## Several changes -/

theorem after_cons (b : Broker) (c : Change) (cs : List Change) :
    b.after (c :: cs) = (b.change c).after cs := rfl

theorem after_append (b : Broker) (cs ds : List Change) :
    b.after (cs ++ ds) = (b.after cs).after ds := List.foldl_append

theorem after_snoc (b : Broker) (cs : List Change) (c : Change) :
    b.after (cs ++ [c]) = (b.after cs).change c := after_append b cs [c]

theorem sound_after {b : Broker} (sound : b.ledger.Sound) (cs : List Change) :
    (b.after cs).ledger.Sound := by
  induction cs generalizing b with
  | nil => exact sound
  | cons c cs ih => exact ih ((b.ledger_change c).sound sound)

/-- A broker that is closed stays closed. -/
theorem closed_after {b : Broker} (shut : b.closed = true) (cs : List Change) :
    (b.after cs).closed = true := by
  induction cs generalizing b with
  | nil => exact shut
  | cons c cs ih =>
    have step := b.ledger_change c
    generalize hl : (b.change c).ledger = l' at step
    have hshut : b.ledger.closed = true := shut
    apply ih (b := b.change c)
    show (b.change c).ledger.closed = true
    rw [hl]
    cases step with
    | close => rfl
    | _ => simp_all

/-- A subscription that is older than some changes was there before them, with the same topic. -/
theorem survives_after {b : Broker} (cs : List Change) {name : String} {s' : Subscription}
    (found : (b.after cs).subscriptions.get? name = some s') (old : s'.creation < b.creations) :
    ∃ s, b.subscriptions.get? name = some s ∧ s.topic = s'.topic ∧ s.creation = s'.creation := by
  induction cs generalizing b with
  | nil => exact ⟨s', found, rfl, rfl⟩
  | cons c cs ih =>
    have step := b.ledger_change c
    obtain ⟨s₁, h₁, ht, hc⟩ := ih found (Nat.lt_of_lt_of_le old step.creations_le)
    rcases step.survives h₁ with ⟨s, hs, ht', hc'⟩ | ⟨_, hnew, _⟩
    · exact ⟨s, hs, ht'.trans ht, hc'.trans hc⟩
    · have hnew : s₁.creation = b.creations := hnew
      omega

/-- While a subscription lasts and its broker is open, its messages are those of before and what was
published to its topic since. -/
theorem whereabouts_after {b : Broker} (sound : b.ledger.Sound) {cs : List Change} {name : String}
    {s' : Subscription} (opened : (b.after cs).closed = false)
    (found : (b.after cs).subscriptions.get? name = some s') (old : s'.creation < b.creations) :
    ∃ new, (b.after cs).published = b.published ++ new ∧
      ((b.after cs).ledger.whereabouts name).Perm
        (b.ledger.whereabouts name ++ Ledger.ofTopic s'.topic new) := by
  induction cs generalizing b with
  | nil => exact ⟨[], (List.append_nil _).symm, by simp [Ledger.ofTopic, after]⟩
  | cons c cs ih =>
    have step := b.ledger_change c
    have older := Nat.lt_of_lt_of_le old step.creations_le
    obtain ⟨late, hlate, hperm⟩ := ih (step.sound sound) opened found older
    obtain ⟨s₁, h₁, ht₁, hc₁⟩ := survives_after cs found older
    obtain ⟨s, hs, ht, _⟩ := survives_after (c :: cs) found old
    obtain ⟨new, lost, hnew, hmoved, hlost⟩ := step.moves sound name
    have hopen : (b.change c).closed = false := by
      cases hshut : (b.change c).closed with
      | false => rfl
      | true => exact absurd (closed_after hshut cs) (by simp [← after_cons, opened])
    have hnone : lost = [] := by
      rcases hlost with h | h | h
      · exact h
      · exact absurd (hopen.symm.trans h) Bool.false_ne_true
      · exact absurd (h₁.symm.trans h) (Option.some_ne_none _)
    refine ⟨new ++ late, ?_, ?_⟩
    · rw [← List.append_assoc, ← show (b.change c).published = b.published ++ new from hnew]
      exact hlate
    · have harr : b.ledger.arrivals name new = Ledger.ofTopic s'.topic new := by
        simp only [Ledger.arrivals, show b.ledger.subscriptions.get? name = some s from hs, ht]
      rw [hnone, List.append_nil, harr] at hmoved
      refine hperm.trans ((hmoved.append_right _).trans ?_)
      simp [Ledger.ofTopic]

end Broker

end MessageChannels
