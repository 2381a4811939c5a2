import MessageChannels.Proofs.System.Step

/-!
# What small operations leave alone

Settling, looking at a source and giving a handle up each change a part of a system; the facts here
say what the other parts are afterwards.
-/

set_option autoImplicit false

namespace MessageChannels

namespace System

variable {s : System}

/-- Settling does nothing, or changes the disposition and uses the handle. -/
theorem settleFrom_cases (s : System) (i : Nat) (expected : Disposition) (v : Settlement) :
    s.settleFrom i expected v = s ∨
      ∃ made, s.envelopes[i]? = some made ∧ made.disposition = expected ∧
        s.settleFrom i expected v
          = ((s.setDisposition i v.disposition).useAcker i made.acker v).count (settlementCounter v)
            made.channel := by
  unfold settleFrom
  split
  · exact Or.inl rfl
  · rename_i made found
    split
    · rename_i standing
      exact Or.inr ⟨made, found, standing, rfl⟩
    · exact Or.inl rfl

@[simp] theorem envelopes_useAcker (s : System) (i : Nat) (a : Acker) (v : Settlement) :
    (s.useAcker i a v).envelopes = s.envelopes := by
  cases a <;> cases v <;> rfl

@[simp] theorem operations_useAcker (s : System) (i : Nat) (a : Acker) (v : Settlement) :
    (s.useAcker i a v).operations = s.operations := by
  cases a <;> cases v <;> rfl

theorem getElem?_settleFrom_of_ne {i j : Nat} (h : j ≠ i) (d : Disposition) (v : Settlement) :
    (s.settleFrom i d v).envelopes[j]? = s.envelopes[j]? := by
  rcases s.settleFrom_cases i d v with same | ⟨made, _, _, heq⟩
  · rw [same]
  · rw [heq]
    show ((s.setDisposition i v.disposition).useAcker i made.acker v).envelopes[j]? = _
    rw [envelopes_useAcker]
    simp [setDisposition, Ne.symm h]

theorem envelopes_setDisposition {i : Nat} {made : Envelope}
    (found : s.envelopes[i]? = some made) (d : Disposition) :
    (s.setDisposition i d).envelopes = s.envelopes.set i { made with disposition := d } := by
  apply List.ext_getElem?
  intro j
  by_cases h : i = j
  · subst h
    obtain ⟨bound, rfl⟩ := List.getElem?_eq_some_iff.1 found
    simp [setDisposition, bound]
  · simp [setDisposition, h]

theorem getElem?_set_iff {envelopes : List Envelope} {i : Nat} {made new : Envelope}
    (found : envelopes[i]? = some made) (j : Nat) :
    (envelopes.set i new)[j]? = if j = i then some new else envelopes[j]? := by
  by_cases h : j = i
  · subst h
    have bound := (List.getElem?_eq_some_iff.1 found).1
    simp [bound]
  · simp [h, Ne.symm h]

theorem getElem?_addEnvelope (s : System) (k : Nat) (channel : String) (d : Taken) (i : Nat) :
    (s.addEnvelope k channel d).1.envelopes[i]?
      = if i = s.envelopes.length then some ⟨d.message, channel, k, d.acker, .received⟩
        else s.envelopes[i]? := by
  show (s.envelopes ++ [_])[i]? = _
  by_cases h : i = s.envelopes.length
  · subst h
    simp
  · by_cases hlt : i < s.envelopes.length
    · rw [List.getElem?_append_left hlt, if_neg h]
    · have hnone : s.envelopes[i]? = none := List.getElem?_eq_none (by omega)
      rw [if_neg h, hnone, List.getElem?_eq_none_iff, List.length_append, List.length_singleton]
      omega

theorem envelopes_dropAcker (s : System) (a : Acker) :
    (s.dropAcker a).envelopes = s.envelopes := by
  cases a <;> rfl

theorem envelopes_poll (s : System) (source : Source) :
    (s.poll source).1.envelopes = s.envelopes := by
  cases source with
  | stream n => rfl
  | script n =>
    dsimp only [poll]
    split <;> rfl

theorem journal_poll (s : System) (source : Source) : (s.poll source).1.journal = s.journal := by
  cases source with
  | stream n => rfl
  | script n =>
    dsimp only [poll]
    split <;> rfl

theorem broker_poll_script (s : System) (n : Nat) :
    (s.poll (.script n)).1.broker = s.broker := by
  dsimp only [poll]
  split <;> rfl

theorem journal_useAcker (s : System) (i : Nat) (a : Acker) (v : Settlement) :
    (s.useAcker i a v).journal = s.journal ++ [.settled i a v] := by
  cases a <;> cases v <;> rfl

theorem journal_dropAcker (s : System) (a : Acker) : (s.dropAcker a).journal = s.journal := by
  cases a <;> rfl

theorem journal_dropSource (s : System) (source : Source) :
    (s.dropSource source).journal = s.journal := by
  cases source <;> rfl

theorem journal_settleFrom (s : System) (i : Nat) (d : Disposition) (v : Settlement) :
    s.journal <+: (s.settleFrom i d v).journal := by
  rcases s.settleFrom_cases i d v with same | ⟨made, _, _, heq⟩
  · exact same.symm ▸ List.prefix_refl _
  · rw [heq]
    show s.journal <+: ((s.setDisposition i _).useAcker i made.acker v).journal ++ _
    rw [journal_useAcker]
    exact (List.prefix_append _ _).trans (List.prefix_append _ _)

end System

end MessageChannels
