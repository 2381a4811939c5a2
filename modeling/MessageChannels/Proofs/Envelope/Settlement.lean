import MessageChannels.Proofs.Envelope.Disposition
import MessageChannels.Proofs.Envelope.Reply

/-!
# How an envelope comes to be settled

An envelope goes from received to settled, directly or through the wait for a dead letter, and never
back. `Turn` says what one event can do to its disposition; everything else follows over runs. The
operation that makes an envelope wait is the only one that can end the wait.
-/

set_option autoImplicit false

namespace MessageChannels

namespace System

variable {e : Event} {op i : Nat} {s s' : System} {made : Envelope}

/-- What one event, about an operation, can do to the disposition of an envelope. -/
inductive Turn (e : Event) (op i : Nat) (s s' : System) (before : Disposition) : Disposition → Prop
  where
  | stayed (fewer : ∀ k, s'.routing? k = some i → s.routing? k = some i)
      (kept : ∀ k, s.routing? k = some i → s'.routing? k = some i ∨ e = .abandon k) :
      Turn e op i s s' before before
  | settled (v : Settlement) (received : before = .received) (cause : e.MaySettle op i)
      (free : ∀ k, s'.routing? k ≠ some i) : Turn e op i s s' before v.disposition
  | entered (received : before = .received) (c : FailureCommand) (text : String)
      (cause : e = .fail i c text) (waits : s'.routing? op = some i) :
      Turn e op i s s' before .deadLetterPending
  | left (v : Settlement) (pending : before = .deadLetterPending) (cause : e.Answers op)
      (waits : s.routing? op = some i) (free : ∀ k, s'.routing? k ≠ some i) :
      Turn e op i s s' before v.disposition

theorem Touch.turn (touch : Touch e op s s') (settled : s.Settled)
    (found : s.envelopes[i]? = some made) :
    ∃ d, s'.envelopes[i]? = some { made with disposition := d } ∧
      Turn e op i s s' made.disposition d := by
  cases touch with
  | still envelopes settlements routing =>
    exact ⟨made.disposition, envelopes ▸ found,
      .stayed (fun k h => routing k ▸ h) fun k h => Or.inl (routing k ▸ h)⟩
  | made new received envelopes settlements routing =>
    refine ⟨made.disposition, ?_, .stayed (fun k h => routing k ▸ h) fun k h => Or.inl (routing k ▸ h)⟩
    rw [envelopes, List.getElem?_append_left (List.getElem?_eq_some_iff.1 found).1]
    exact found
  | settled j made₀ v found₀ received cause as routing =>
    by_cases h : i = j
    · subst h
      obtain rfl : made = made₀ := Option.some.inj (found.symm.trans found₀)
      refine ⟨v.disposition, ?_, .settled v received cause fun k => ?_⟩
      · rw [as.envelopes, getElem?_set_iff found, if_pos rfl]
      · rw [routing]
        exact settled.not_routing found received k
    · refine ⟨made.disposition, ?_,
        .stayed (fun k h => routing k ▸ h) fun k h => Or.inl (routing k ▸ h)⟩
      rw [as.envelopes, getElem?_set_iff found₀, if_neg h]
      exact found
  | entered j made₀ c text cause found₀ received idle envelopes settlements routing =>
    by_cases h : i = j
    · subst h
      obtain rfl : made = made₀ := Option.some.inj (found.symm.trans found₀)
      refine ⟨.deadLetterPending, ?_, .entered received c text cause ?_⟩
      · rw [envelopes, getElem?_set_iff found, if_pos rfl]
      · rw [routing, if_pos rfl]
    · refine ⟨made.disposition, ?_, .stayed (fun k hk => ?_) fun k hk => ?_⟩
      · rw [envelopes, getElem?_set_iff found₀, if_neg h]
        exact found
      · rw [routing] at hk
        split at hk
        · exact absurd (Option.some.inj hk).symm h
        · exact hk
      · have hne : k ≠ op := by
          rintro rfl
          cases idle.symm.trans hk
        exact Or.inl (by rw [routing, if_neg hne]; exact hk)
  | left j made₀ v cause waits found₀ pending as routing =>
    by_cases h : i = j
    · subst h
      obtain rfl : made = made₀ := Option.some.inj (found.symm.trans found₀)
      refine ⟨v.disposition, ?_, .left v pending cause waits fun k hk => ?_⟩
      · rw [as.envelopes, getElem?_set_iff found, if_pos rfl]
      · rw [routing] at hk
        split at hk
        · cases hk
        · exact ‹¬ k = op› (settled.alone k op i hk waits)
    · refine ⟨made.disposition, ?_, .stayed (fun k hk => ?_) fun k hk => Or.inl ?_⟩
      · rw [as.envelopes, getElem?_set_iff found₀, if_neg h]
        exact found
      · rw [routing] at hk
        split at hk
        · cases hk
        · exact hk
      · have hne : k ≠ op := by
          rintro rfl
          exact h (Option.some.inj (hk.symm.trans waits))
        rw [routing, if_neg hne]
        exact hk
  | dropped cause envelopes settlements routing =>
    refine ⟨made.disposition, envelopes ▸ found, .stayed (fun k hk => ?_) fun k hk => ?_⟩
    · rw [routing] at hk
      split at hk
      · cases hk
      · exact hk
    · rw [routing]
      by_cases h : k = op
      · exact Or.inr (h ▸ cause)
      · exact Or.inl ((if_neg h).trans hk)

theorem Turn.trans {s₁ : System} {a b c : Disposition} (first : Turn e op i s s₁ a b)
    (second : Turn e op i s₁ s' b c) : Turn e op i s s' a c := by
  cases first with
  | stayed fewer kept =>
    cases second with
    | stayed fewer' kept' =>
      refine .stayed (fun k h => fewer k (fewer' k h)) fun k h => ?_
      rcases kept k h with h | h
      · exact kept' k h
      · exact Or.inr h
    | settled v received cause free => exact .settled v received cause free
    | entered received c text cause waits => exact .entered received c text cause waits
    | left v pending cause waits free => exact .left v pending cause (fewer op waits) free
  | settled v received cause free =>
    cases second with
    | stayed fewer kept => exact .settled v received cause fun k h => free k (fewer k h)
    | settled w received' _ => cases v <;> cases received'
    | entered received' => cases v <;> cases received'
    | left w pending => cases v <;> cases pending
  | entered received c text cause waits =>
    cases second with
    | stayed fewer kept =>
      rcases kept op waits with waits | abandoned
      · exact .entered received c text cause waits
      · exact absurd (cause.symm.trans abandoned) Event.noConfusion
    | settled w received' => cases received'
    | entered received' => cases received'
    | left w pending answers =>
      rcases answers with answers | ⟨r, answers⟩ <;> cases cause.symm.trans answers
  | left v pending cause waits free =>
    cases second with
    | stayed fewer kept => exact .left v pending cause waits fun k h => free k (fewer k h)
    | settled w received => cases v <;> cases received
    | entered received => cases v <;> cases received
    | left w pending' => cases v <;> cases pending'

/-- What one event can do to the disposition of an envelope; the rest of an envelope never changes.
-/
theorem turn_acts (acts : Acts e op s s') (settled : s.Settled)
    (found : s.envelopes[i]? = some made) :
    ∃ d, s'.envelopes[i]? = some { made with disposition := d } ∧
      Turn e op i s s' made.disposition d := by
  induction acts with
  | refl => exact ⟨made.disposition, found, .stayed (fun _ h => h) fun _ h => Or.inl h⟩
  | tail acts act ih =>
    obtain ⟨d, found₁, turn₁⟩ := ih
    have settled₁ := settled_acts acts settled
    obtain ⟨d', found₂, turn₂⟩ := (act.touch settled₁).turn settled₁ found₁
    exact ⟨d', found₂, turn₁.trans turn₂⟩

theorem turn_step (reachable : s.Reachable) (found : s.envelopes[i]? = some made) (e : Event) :
    ∃ d, (s.step e).envelopes[i]? = some { made with disposition := d } ∧
      Turn e (e.operation s) i s (s.step e) made.disposition d :=
  turn_acts (s.acts_step e) reachable.settled found

/-! ## Runs -/

/-- An envelope changes in its disposition only. -/
theorem envelope_after (reachable : s.Reachable) (found : s.envelopes[i]? = some made)
    (es : List Event) :
    ∃ d, (s.after es).envelopes[i]? = some { made with disposition := d } := by
  induction es generalizing s made with
  | nil => exact ⟨made.disposition, found⟩
  | cons e es ih =>
    obtain ⟨d, found', _⟩ := turn_step reachable found e
    have later := ih (reachable.step e) found'
    exact later

/-- A settled envelope stays as it is. -/
theorem terminal_after (reachable : s.Reachable) (found : s.envelopes[i]? = some made)
    (terminal : made.disposition.isTerminal = true) (es : List Event) :
    (s.after es).envelopes[i]? = some made := by
  induction es generalizing s with
  | nil => exact found
  | cons e es ih =>
    obtain ⟨d, found', turn⟩ := turn_step reachable found e
    have same : d = made.disposition := by
      cases turn with
      | stayed => rfl
      | settled v received => rw [received] at terminal; cases terminal
      | entered received => rw [received] at terminal; cases terminal
      | left v pending => rw [pending] at terminal; cases terminal
    subst same
    exact ih (reachable.step e) found'

/-- Once an operation waits for an envelope, no other ever does. -/
theorem router_after (reachable : s.Reachable) (waits : s.routing? op = some i) (es : List Event)
    {k : Nat} (later : (s.after es).routing? k = some i) : k = op := by
  obtain ⟨made, found, pending⟩ := reachable.settled.pending op i waits
  -- The envelope is never received again, so no operation begins to wait for it.
  suffices h : ∀ (es : List Event) (s : System) (made : Envelope), s.Reachable →
      s.envelopes[i]? = some made → made.disposition ≠ .received →
      (s.after es).routing? k = some i → s.routing? k = some i by
    refine reachable.settled.alone k op i (h es s made reachable found ?_ later) waits
    rw [pending]
    exact Disposition.noConfusion
  intro es
  induction es with
  | nil => exact fun _ _ _ _ _ later => later
  | cons e es ih =>
    intro s made reachable found kept later
    obtain ⟨d, found', turn⟩ := turn_step reachable found e
    have next := fun hd => ih (s.step e) _ (reachable.step e) found' hd later
    cases turn with
    | stayed fewer _ => exact fewer k (next kept)
    | settled v received => exact absurd received kept
    | entered received => exact absurd received kept
    | left v pending cause waits free =>
      exact absurd (next (by cases v <;> exact Disposition.noConfusion)) (free k)

/-! ## The reply to a dead letter -/

/-- **The settlement at the end of a route always succeeds.** -/
theorem disposition_answer (settled : s.Settled) (waits : s.routing? op = some i)
    (reply : Except TransportError Reply) :
    (s.answer op reply).disposition? i = some (Settlement.ofReply reply).disposition := by
  obtain ⟨made, found, pending⟩ := settled.pending op i waits
  obtain ⟨⟨k, state⟩, standing, hrouting⟩ := Option.bind_eq_some_iff.1 waits
  obtain ⟨p, channel, rfl, purpose⟩ := OperationState.routing?_eq_some hrouting
  obtain ⟨notes, counter, heq⟩ := answer_route standing purpose reply
  have found' : (s.noted notes).envelopes[i]? = some made := by
    rw [envelopes_noted]
    exact found
  rw [heq]
  show ((((s.noted notes).settleFrom i .deadLetterPending _).envelopes[i]?).map _) = _
  rw [← pending, (settleFrom_settledAs found' _).envelopes, getElem?_set_iff found', if_pos rfl]
  rfl

/-! ## What was passed to the handle -/

theorem mem_settlements (settled : s.Settled) (found : s.envelopes[i]? = some made)
    (v : Settlement) :
    (made.acker, v) ∈ s.settlements i ↔ made.disposition = v.disposition := by
  rw [settled.settlements i made found, Envelope.settlements]
  cases hd : made.disposition <;> cases v <;> simp [Disposition.settlement?, Settlement.disposition]

theorem disposition?_of_getElem? {d : Disposition}
    (found : s.envelopes[i]? = some { made with disposition := d }) :
    s.disposition? i = some d := by
  simp [disposition?, found]

/-- The wait that a call begins is ended by the reply to it. -/
theorem answers_of_left (reachable : s.Reachable) (waits : s.routing? op = some i)
    (es : List Event) (e : Event)
    (pending : (s.after es).disposition? i = some .deadLetterPending)
    (left : ((s.after es).step e).disposition? i ≠ some .deadLetterPending) :
    e.Answers op ∧ ∃ v, ((s.after es).step e).disposition? i = some (Settlement.disposition v) := by
  obtain ⟨made, found, hmade⟩ := Option.map_eq_some_iff.1 pending
  obtain ⟨d, found', turn⟩ := turn_step (reachable.after es) found e
  have hd := disposition?_of_getElem? found'
  rw [hd] at left ⊢
  cases turn with
  | stayed => exact absurd (congrArg some hmade) left
  | entered => exact absurd rfl left
  | settled v received => cases hmade.symm.trans received
  | left v _ answers waits' _ =>
    have same := router_after reachable waits es waits'
    exact ⟨same ▸ answers, v, rfl⟩

end System

end MessageChannels
