import MessageChannels.Proofs.System.Broker
import MessageChannels.Proofs.System.Frame

/-!
# Channels in use are registered

Receiving begins on a registered channel only, the registry of a service never changes, and an
envelope bears the channel of the operation that made it. So the service of an envelope knows the
envelope's channel, wherever a run leads.
-/

set_option autoImplicit false

namespace MessageChannels

namespace System

variable {e : Event} {op : Nat} {s s' : System}

/-- Whether a service has a channel. -/
def HasChannel (s : System) (service : Nat) (channel : String) : Prop :=
  ∃ v c, s.services[service]? = some v ∧ v.registry.lookup? channel = some c

/-- Operations that receive, and envelopes, have channels of their services. -/
structure Registered (s : System) : Prop where
  operations : ∀ (k : Nat) (o : Operation) (channel : String), s.operations[k]? = some o →
    o.state.channel? = some channel → s.HasChannel o.service channel
  envelopes : ∀ (i : Nat) (made : Envelope), s.envelopes[i]? = some made → s.HasChannel made.service made.channel

theorem HasChannel.kept {service : Nat} {channel : String} (h : s.HasChannel service channel)
    (kept : Kept s.services s'.services) : s'.HasChannel service channel := by
  obtain ⟨v, c, hv, hc⟩ := h
  obtain ⟨v', hv', registry, _⟩ := kept service v hv
  exact ⟨v', c, hv', registry ▸ hc⟩

theorem registered_start (now : Timestamp) : (start now).Registered where
  operations := by intro k o channel h; simp [start] at h
  envelopes := by intro i made h; simp [start] at h

/-- The operation that an act is about goes on with the channel it had, or with none. -/
theorem registered_setState {o : Operation} {state : OperationState} (registered : s.Registered)
    (found : s.operations[op]? = some o)
    (channel : state.channel? = none ∨ state.channel? = o.state.channel?) :
    (s.setState op state).Registered where
  envelopes := registered.envelopes
  operations := by
    intro k o' ch found' hch
    rw [getElem?_setState] at found'
    split at found'
    · rename_i h
      subst h
      rw [found] at found'
      cases found'
      rcases channel with none | same
      · cases none.symm.trans hch
      · exact registered.operations k o ch found (same ▸ hch)
    · exact registered.operations k o' ch found' hch

theorem registered_congr (registered : s.Registered) (services : s'.services = s.services)
    (operations : s'.operations = s.operations) (envelopes : s'.envelopes = s.envelopes) :
    s'.Registered where
  operations := by
    intro k o channel found h
    have kept : Kept s.services s'.services := services ▸ kept_refl _
    exact (registered.operations k o channel (operations ▸ found) h).kept kept
  envelopes := by
    intro i made found
    have kept : Kept s.services s'.services := services ▸ kept_refl _
    exact (registered.envelopes i made (envelopes ▸ found)).kept kept

theorem registered_addEnvelope (registered : s.Registered) {k : Nat} {channel : String}
    (known : s.HasChannel k channel) (d : Taken) : (s.addEnvelope k channel d).1.Registered where
  operations := registered.operations
  envelopes := by
    intro i made found
    rw [getElem?_addEnvelope] at found
    split at found
    · cases found
      exact known
    · exact registered.envelopes i made found

theorem registered_setDisposition (registered : s.Registered) (i : Nat) (d : Disposition) :
    (s.setDisposition i d).Registered where
  operations := registered.operations
  envelopes := by
    intro j made found
    simp only [setDisposition, List.getElem?_modify] at found
    obtain ⟨made₀, h₀, rfl⟩ := Option.map_eq_some_iff.1 found
    have known := registered.envelopes j made₀ h₀
    split <;> exact known

theorem services_useAcker (s : System) (i : Nat) (a : Acker) (v : Settlement) :
    (s.useAcker i a v).services = s.services := by
  cases a <;> cases v <;> rfl

theorem services_poll (s : System) (source : Source) :
    (s.poll source).1.services = s.services := by
  cases source with
  | stream n => rfl
  | script n =>
    dsimp only [poll]
    split <;> rfl

theorem registered_settleFrom (registered : s.Registered) (i : Nat) (d : Disposition)
    (v : Settlement) : (s.settleFrom i d v).Registered := by
  rcases s.settleFrom_cases i d v with same | ⟨made, _, _, heq⟩
  · rw [same]
    exact registered
  · rw [heq]
    exact registered_congr (registered_setDisposition registered i v.disposition)
      (services_useAcker _ _ _ _) (operations_useAcker _ _ _ _) (envelopes_useAcker _ _ _ _)

theorem registered_poll (registered : s.Registered) (source : Source) :
    (s.poll source).1.Registered :=
  registered_congr registered (services_poll s source) (operations_poll s source)
    (envelopes_poll s source)

theorem registered_dropAcker (registered : s.Registered) (a : Acker) :
    (s.dropAcker a).Registered := by
  cases a <;> exact registered_congr registered rfl rfl rfl

theorem Act.registered_keeps (act : Act e op s s') (registered : s.Registered) :
    s'.Registered := by
  cases act with
  | world services clock tokens scripts kept =>
    exact ⟨fun k o channel found h => (registered.operations k o channel found h).kept kept,
      fun i made found => (registered.envelopes i made found).kept kept⟩
  | looked source nothing => exact registered_poll registered source
  | leftSource source => cases source <;> exact registered_congr registered rfl rfl rfl
  | gaveUp i made cause found => exact registered_dropAcker registered made.acker
  | started service new =>
    refine ⟨fun k o channel found h => ?_, registered.envelopes⟩
    have found : (s.operations ++ [⟨service, .abandoned⟩])[k]? = some o := found
    rw [List.getElem?_append] at found
    split at found
    · exact registered.operations k o channel found h
    · obtain rfl := List.mem_singleton.1 (List.mem_of_getElem? found)
      cases h
  | moved o state found plain => exact registered_setState registered found plain.channel
  | registered k v o c found service lookup topic subscription opened =>
    refine ⟨fun j o' channel found' h => ?_, registered.envelopes⟩
    rw [getElem?_setState] at found'
    split at found'
    · rename_i hj
      subst hj
      rw [found] at found'
      cases found'
      cases h
      exact ⟨v, c, service, lookup⟩
    · exact registered.operations j o' channel found' h
  | pulled k l d found phase shown =>
    refine registered_setState (o := ⟨k, .receiving l⟩) (registered_poll registered l.source) ?_
      (Or.inr rfl)
    rw [operations_poll]
    exact found
  | handed k l d cause found phase =>
    have known : s.HasChannel k l.channel := registered.operations op _ l.channel found rfl
    exact registered_setState (o := ⟨k, .receiving l⟩) (registered_addEnvelope registered known d)
      found (Or.inr rfl)
  | letGo k l d outcome found phase =>
    refine registered_setState (o := ⟨k, .receiving l⟩) (registered_dropAcker registered d.acker)
      ?_ (Or.inr rfl)
    cases d.acker <;> exact found
  | collected k c d found shown =>
    have known : s.HasChannel k c.channel := registered.operations op _ c.channel found rfl
    refine registered_addEnvelope (registered_poll registered c.source) (known.kept ?_) d
    rw [services_poll]
    exact kept_refl _
  | settled i made v found received cause => exact registered_settleFrom registered i _ v
  | entered i made p k c text channel cause found received standing purpose =>
    exact registered_setState (o := ⟨k, .abandoned⟩) (registered_setDisposition registered i _)
      standing (Or.inl rfl)
  | left i k p v channel result cause standing purpose =>
    refine registered_setState (o := ⟨k, .publishing p⟩) (registered_settleFrom registered i _ v)
      ?_ (Or.inl rfl)
    rw [operations_settleFrom]
    exact standing
  | dropped o i cause found routing => exact registered_setState registered found (Or.inl rfl)
  | _ => exact registered_congr registered rfl rfl rfl

theorem registered_acts (acts : Acts e op s s') (registered : s.Registered) : s'.Registered := by
  induction acts with
  | refl => exact registered
  | tail _ act ih => exact act.registered_keeps ih

/-- The channel of every envelope is registered with the envelope's service. -/
theorem Reachable.registered (reachable : s.Reachable) : s.Registered :=
  reachable.induction registered_start fun s e h => registered_acts (s.acts_step e) h

end System

end MessageChannels
