import MessageChannels.System.State

/-!
# Settling envelopes and reading sources

An envelope's disposition changes only from the one that the change expects; the handle is used by
the change that succeeds. Giving up an envelope that is not settled leaves its message to the
transport.
-/

set_option autoImplicit false

namespace MessageChannels

/-- What a written source shows, and what is left of it. -/
def ScriptedSource.poll (source : ScriptedSource) : ScriptedSource × Poll :=
  match source.items with
  | [] => (source, if source.hangs then .pending else .ended)
  | .ok m :: rest => ({ source with items := rest }, .delivered ⟨m, .scripted m.id⟩)
  | .error e :: rest => ({ source with items := rest }, .failed e)

namespace System

/-- The counter of a settlement. -/
def settlementCounter : Settlement → Counter
  | .ack => .acked
  | .nack => .nacked

/-- Pass a settlement to the handle of an envelope. -/
def useAcker (s : System) (envelope : Nat) (a : Acker) (v : Settlement) : System :=
  let s := s.record (.settled envelope a v)
  match a, v with
  | .held n, .ack => { s with broker := s.broker.ack n }
  | .held n, .nack => { s with broker := s.broker.nack n }
  | .scripted _, _ => s

/-- Give up a handle. -/
def dropAcker (s : System) : Acker → System
  | .held n => { s with broker := s.broker.release n }
  | .scripted _ => s

/-- Settle an envelope whose disposition is the expected one. -/
def settleFrom (s : System) (envelope : Nat) (expected : Disposition) (v : Settlement) : System :=
  match s.envelopes[envelope]? with
  | none => s
  | some e =>
    if e.disposition = expected then
      ((s.setDisposition envelope v.disposition).useAcker envelope e.acker v).count
        (settlementCounter v) e.channel
    else s

/-- Acknowledge an envelope; without effect unless it is only received. -/
def ack (s : System) (envelope : Nat) : System := s.settleFrom envelope .received .ack

/-- Return an envelope's message; without effect unless it is only received. -/
def nack (s : System) (envelope : Nat) : System := s.settleFrom envelope .received .nack

/-- Give up an envelope. -/
def release (s : System) (envelope : Nat) : System :=
  match s.envelopes[envelope]? with
  | none => s
  | some e => s.dropAcker e.acker

/-- Make an envelope of a delivery that a service received on a channel. -/
def addEnvelope (s : System) (service : Nat) (channel : String) (d : Taken) : System × Nat :=
  let made : Envelope := ⟨d.message, channel, service, d.acker, .received⟩
  let s' : System := { s with envelopes := s.envelopes ++ [made] }
  (s'.count .received channel, s.envelopes.length)

/-- Look at a source. -/
def poll (s : System) : Source → System × Poll
  | .stream n =>
    let (broker, shown) := s.broker.pollStream n
    ({ s with broker := broker }, shown)
  | .script n =>
    match s.scripts[n]? with
    | none => (s, .ended)
    | some source =>
      let (rest, shown) := source.poll
      ({ s with scripts := s.scripts.set n rest }, shown)

/-- Give up a source. -/
def dropSource (s : System) : Source → System
  | .stream n => { s with broker := s.broker.dropStream n }
  | .script _ => s

end System

end MessageChannels
