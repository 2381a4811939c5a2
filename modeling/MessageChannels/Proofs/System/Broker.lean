import MessageChannels.Proofs.Broker.Delivery
import MessageChannels.Proofs.System.Step

/-!
# The broker under a system

An act changes the broker at most once, and every run of a system is a run of its broker
(`broker_after`). Only a request makes subscriptions, and no event makes two, so a subscription that
is there before and after an event is the same one (`survives_step`).
-/

set_option autoImplicit false

namespace MessageChannels

namespace System

variable {e : Event} {op : Nat} {s s' : System}

/-- A broker that is as it was, or was changed once; only some events make a request. -/
def ChangedOnce (e : Event) (op : Nat) (b b' : Broker) : Prop :=
  b' = b ∨ ∃ c, b' = b.change c ∧
    (c.isRequest = true → (∃ c, e = .direct c) ∨ e = .serve op)

theorem ChangedOnce.settling {b b' : Broker} (c : Broker.Change) (h : b' = b.change c)
    (settling : c.isRequest = false) : ChangedOnce e op b b' :=
  Or.inr ⟨c, h, fun hr => absurd (settling.symm.trans hr) Bool.false_ne_true⟩

theorem changedOnce_dropAcker (s : System) (a : Acker) :
    ChangedOnce e op s.broker (s.dropAcker a).broker := by
  cases a with
  | held n => exact .settling (.release n) rfl rfl
  | scripted id => exact Or.inl rfl

theorem changedOnce_poll (s : System) (source : Source) :
    ChangedOnce e op s.broker (s.poll source).1.broker := by
  cases source with
  | stream n => exact .settling (.poll n) rfl rfl
  | script n =>
    dsimp only [poll]
    split <;> exact Or.inl rfl

theorem changedOnce_dropSource (s : System) (source : Source) :
    ChangedOnce e op s.broker (s.dropSource source).broker := by
  cases source with
  | stream n => exact .settling (.dropStream n) rfl rfl
  | script n => exact Or.inl rfl

theorem changedOnce_settleFrom (s : System) (i : Nat) (d : Disposition) (v : Settlement) :
    ChangedOnce e op s.broker (s.settleFrom i d v).broker := by
  unfold settleFrom
  split
  · exact Or.inl rfl
  · rename_i made _
    split
    · unfold useAcker
      cases made.acker with
      | held n =>
        cases v with
        | ack => exact .settling (.ack n) rfl rfl
        | nack => exact .settling (.nack n) rfl rfl
      | scripted id => exact Or.inl rfl
    · exact Or.inl rfl

/-- An act changes the broker at most once. -/
theorem Act.broker (act : Act e op s s') : ChangedOnce e op s.broker s'.broker := by
  cases act with
  | direct c cause => exact Or.inr ⟨c, rfl, fun _ => Or.inl ⟨c, cause⟩⟩
  | performed r cause waits => exact Or.inr ⟨.perform s.clock r, rfl, fun _ => Or.inr cause⟩
  | looked source nothing => exact changedOnce_poll s source
  | leftSource source => exact changedOnce_dropSource s source
  | gaveUp i made cause found => exact changedOnce_dropAcker s made.acker
  | pulled k l d found phase shown => exact changedOnce_poll s l.source
  | letGo k l d outcome found phase => exact changedOnce_dropAcker s d.acker
  | collected k c d found shown => exact changedOnce_poll s c.source
  | settled i made v found received cause => exact changedOnce_settleFrom s i _ v
  | left i k p v channel result cause standing purpose => exact changedOnce_settleFrom s i _ v
  | _ => exact Or.inl rfl

/-- What acts make of the broker is made by changes of it. -/
theorem broker_acts (acts : Acts e op s s') : ∃ cs, s'.broker = s.broker.after cs := by
  induction acts with
  | refl => exact ⟨[], rfl⟩
  | tail _ act ih =>
    obtain ⟨cs, hcs⟩ := ih
    rcases act.broker with h | ⟨c, h, _⟩
    · exact ⟨cs, h.trans hcs⟩
    · refine ⟨cs ++ [c], ?_⟩
      rw [h, hcs, Broker.after_append]
      rfl

/-- Acts of an event that makes no request make no subscription. -/
theorem creations_acts (acts : Acts e op s s') (quiet : ¬ ((∃ c, e = .direct c) ∨ e = .serve op)) :
    s'.broker.creations = s.broker.creations := by
  induction acts with
  | refl => rfl
  | tail _ act ih =>
    rcases act.broker with h | ⟨c, h, hcause⟩
    · rw [h, ih]
    · have settling : c.isRequest = false := by
        cases hr : c.isRequest with
        | false => rfl
        | true => exact absurd (hcause hr) quiet
      rw [h, Broker.creations_change settling, ih]

/-- **Every run of a system is a run of its broker.** -/
theorem broker_after (s : System) (es : List Event) :
    ∃ cs, (s.after es).broker = s.broker.after cs := by
  induction es generalizing s with
  | nil => exact ⟨[], rfl⟩
  | cons e es ih =>
    obtain ⟨cs, hcs⟩ := broker_acts (s.acts_step e)
    obtain ⟨ds, hds⟩ := ih (s.step e)
    refine ⟨cs ++ ds, ?_⟩
    rw [after_cons, hds, hcs, Broker.after_append]

/-- The ledger of a broker that a run can lead to is sound. -/
theorem Reachable.sound (h : s.Reachable) : s.broker.ledger.Sound := by
  obtain ⟨now, es, rfl⟩ := h
  obtain ⟨cs, hcs⟩ := broker_after (start now) es
  rw [hcs]
  exact Broker.sound_after Ledger.sound_empty cs

/-- A subscription that is there before and after an event is the same one. -/
theorem survives_step (reachable : s.Reachable) {name : String} {sub' : Subscription}
    (before : s.broker.hasSubscription name = true)
    (found : (s.step e).broker.subscriptions.get? name = some sub') :
    ∃ sub, s.broker.subscriptions.get? name = some sub ∧ sub.topic = sub'.topic ∧
      sub.creation = sub'.creation := by
  have present : s.broker.subscriptions.get? name ≠ none := by
    simpa [Broker.hasSubscription, Dictionary.contains, Option.isSome_iff_ne_none] using before
  have bound := (reachable.step e).sound.creation_lt name sub' found
  -- One change cannot remove the subscription and make it again.
  have once (b' : Broker) (c : Broker.Change) (h : b' = s.broker.change c) {sub₁ : Subscription}
      (found₁ : b'.subscriptions.get? name = some sub₁) :
      ∃ sub, s.broker.subscriptions.get? name = some sub ∧ sub.topic = sub₁.topic ∧
        sub.creation = sub₁.creation := by
    subst h
    rcases (s.broker.ledger_change c).survives found₁ with h | ⟨hnone, _⟩
    · exact h
    · exact absurd hnone present
  by_cases quiet : (∃ c, e = .direct c) ∨ e = .serve (e.operation s)
  · rcases quiet with ⟨c, rfl⟩ | hserve
    · exact once _ c rfl found
    · rw [hserve] at found bound
      generalize e.operation s = op at found bound
      change (s.serve op).broker.subscriptions.get? name = some sub' at found
      change sub'.creation < (s.serve op).broker.creations at bound
      unfold serve at found bound
      split at found
      · exact ⟨sub', found, rfl, rfl⟩
      · rename_i r hr
        rw [hr] at bound
        have acts : Acts (.reply op (.ok .done)) op
            { s with broker := (s.broker.perform s.clock r).1 } _ :=
          acts_answer (Or.inr ⟨_, rfl⟩) _ (s.broker.perform s.clock r).2
        have hcreations := creations_acts acts (by simp)
        obtain ⟨cs, hcs⟩ := broker_acts acts
        dsimp only at found bound
        rw [hcreations] at bound
        rw [hcs] at found
        obtain ⟨sub₁, h₁, ht₁, hc₁⟩ := Broker.survives_after cs found bound
        obtain ⟨sub, hsub, ht, hc⟩ := once _ (.perform s.clock r) rfl h₁
        exact ⟨sub, hsub, ht.trans ht₁, hc.trans hc₁⟩
  · have acts := s.acts_step e
    have hcreations := creations_acts acts quiet
    obtain ⟨cs, hcs⟩ := broker_acts acts
    change sub'.creation < (s.step e).broker.creations at bound
    rw [hcreations] at bound
    rw [hcs] at found
    exact Broker.survives_after cs found bound

end System

end MessageChannels
