import Mathlib.Data.List.Induction
import MessageChannels.Proofs.Envelope.Route
import MessageChannels.Proofs.Text.Decimal
import MessageChannels.Proofs.Text.Fitting

/-!
# What dead letters say about where they come from

A dead letter that fails again is dead-lettered like any other message. Its copies then form a chain
of hops: the message of each hop carries what the copy of the one before holds, under an identifier
and a time of its own. However long the chain, and whatever the attributes that the first message
came with, the last copy counts the hops, describes the last of them, and otherwise is the first
message (`lineage`).
-/

set_option autoImplicit false

namespace MessageChannels

namespace DeadLetter

/-- The attributes that a dead letter has of its own. -/
def ownAttributes : List String :=
  [originalMessageId, originalTopicId, originalSubscriptionId, errorAttribute, countAttribute]

variable (m : Message) (source : Channel) (cause : String)

/-- Only the attributes that a dead letter has of its own depend on more than the message. -/
theorem get?_attributes_of_not_mem {key : String} (other : key ∉ ownAttributes) :
    (attributes m source cause).get? key = m.attribute? key := by
  simp only [ownAttributes, List.mem_cons, List.not_mem_nil, or_false, not_or] at other
  simp only [attributes, Dictionary.get?_insert, other, if_false]
  rfl

theorem get?_attributes_originalMessageId :
    (attributes m source cause).get? originalMessageId = some m.id := by
  simp [attributes, Dictionary.get?_insert, originalMessageId, originalTopicId,
    originalSubscriptionId, errorAttribute, countAttribute]

theorem get?_attributes_originalTopicId :
    (attributes m source cause).get? originalTopicId = some source.topic := by
  simp [attributes, Dictionary.get?_insert, originalTopicId, originalSubscriptionId,
    errorAttribute, countAttribute]

theorem get?_attributes_originalSubscriptionId :
    (attributes m source cause).get? originalSubscriptionId
      = some source.subscriptionOrEmpty := by
  simp [attributes, Dictionary.get?_insert, originalSubscriptionId, errorAttribute, countAttribute]

theorem get?_attributes_error :
    (attributes m source cause).get? errorAttribute
      = some (Text.take cause maxErrorBytes) := by
  simp [attributes, Dictionary.get?_insert, errorAttribute, countAttribute]

/-- The count is made of the message's own, which the other attributes leave alone. -/
theorem get?_attributes_count :
    (attributes m source cause).get? countAttribute
      = some (nextCount (m.attribute? countAttribute)) := by
  simp [attributes, Dictionary.get?_insert, originalMessageId, originalTopicId,
    originalSubscriptionId, errorAttribute, countAttribute, Message.attribute?]

variable {m source cause}

/-! ## Counts -/

/-- A message whose attributes hold no count. -/
def Uncounted (m : Message) : Prop :=
  (m.attribute? countAttribute).bind (Decimal.read? countRange) = none

instance (m : Message) : Decidable (Uncounted m) := inferInstanceAs (Decidable (_ = none))

theorem nextCount_of_uncounted (h : Uncounted m) :
    nextCount (m.attribute? countAttribute) = toString 1 := by
  rw [nextCount, h]
  rfl

theorem nextCount_toString {n : Nat} (bounded : n + 1 ≤ 2 ^ 63 - 1) :
    nextCount (some (toString n)) = toString (n + 1) := by
  have greatest : countRange.greatest = 2 ^ 63 - 1 := rfl
  have least : countRange.least = -2 ^ 63 := rfl
  have read : Decimal.read? countRange (toString n) = some (n : Int) :=
    Decimal.read?_toString (n := (n : Int)) (by omega) (by omega)
  rw [nextCount, Option.bind_some, read]
  show toString (min ((n : Int) + 1) countRange.greatest) = _
  rw [Int.min_eq_left (by omega)]
  rfl

end DeadLetter

/-! ## Hops -/

/-- A message, the channel it was received on, why its handling failed, and the message that came of
it. -/
structure Hop where
  message : Message
  source : Channel
  cause : String
  copy : Message

namespace System

variable {op i k : Nat} {s : System} {e : Envelope} {v : Service} {r : Request}

/-- A dead letter is asked for unless the service is closed. -/
theorem request?_beginPublish {service : Nat} {p : Publishing} {waits : Bool} {channel : String}
    (standing : s.operations[op]? = some ⟨k, .abandoned⟩)
    (purpose : p.purpose = .deadLetter i waits channel)
    (asked : (s.beginPublish op service p).request? op = some r) :
    r = .publish p.topic p.message := by
  cases closed : s.isClosed service with
  | true =>
    rw [request?, (beginPublish_closed standing purpose closed).1] at asked
    cases asked
  | false =>
    rw [request?, (beginPublish_open standing closed).1] at asked
    exact (Option.some.inj asked).symm

theorem request?_finish (s : System) (op : Nat) (result : Except ChannelError Outcome) :
    (s.finish op result).request? op = none := by
  simp only [request?, finish, setState, List.getElem?_modify_eq]
  cases s.operations[op]? <;> rfl

/-- All that a route asks for is the dead letter of the envelope's message. -/
theorem request?_route {source : Channel} {cause : String}
    (standing : s.operations[op]? = some ⟨k, .abandoned⟩)
    (known : v.registry.lookup? e.channel = some source)
    (asked : (s.route op i e v cause).request? op = some r) :
    ∃ topic, r = .publish topic (DeadLetter.copy e.message source cause) := by
  have idle {result : Except ChannelError Outcome} {P : Prop}
      (h : (s.finish op result).request? op = some r) : P := by
    cases (request?_finish s op result).symm.trans h
  cases configured : v.registry.deadLetter? with
  | none =>
    simp only [route, configured] at asked
    exact idle asked
  | some target =>
    cases hd : e.disposition with
    | received =>
      rw [route_received configured known hd] at asked
      exact ⟨target.topic, request?_beginPublish (s := s.setDisposition i _) standing rfl asked⟩
    | acked =>
      rw [route_acked configured known hd] at asked
      exact ⟨target.topic, request?_beginPublish standing rfl asked⟩
    | nacked =>
      simp only [route, configured, known, hd] at asked
      exact idle asked
    | deadLetterPending =>
      simp only [route, configured, known, hd] at asked
      exact idle asked

/-- All that a decision on a failed envelope asks for is the dead letter of its message. -/
theorem request?_step_fail {source : Channel} {c : FailureCommand} {cause : String}
    (found : s.envelopes[i]? = some e) (alive : s.service? e.service = some v)
    (known : v.registry.lookup? e.channel = some source)
    (asked : (s.step (.fail i c cause)).request? s.operations.length = some r) :
    ∃ topic, r = .publish topic (DeadLetter.copy e.message source cause) := by
  have standing := s.getElem?_addOperation e.service
  rw [step_fail found alive] at asked
  cases c with
  | deadLetter => exact request?_route standing known asked
  | retry =>
    simp only [decide, known] at asked
    split at asked
    · cases (request?_finish _ _ _).symm.trans asked
    · exact request?_route standing known asked

end System

namespace Hop

/-- A hop is one that a system makes: a decision on an envelope of the message, which a service
received on the source, asks for a publish of what the copy carries. -/
inductive Made (h : Hop) : Prop where
  | intro (s : System) (i : Nat) (e : Envelope) (v : Service) (c : FailureCommand) (topic : String)
      (found : s.envelopes[i]? = some e) (message : e.message = h.message)
      (alive : s.service? e.service = some v)
      (source : v.registry.lookup? e.channel = some h.source)
      (asked : (s.step (.fail i c h.cause)).request? s.operations.length
        = some (.publish topic ⟨h.copy.data, h.copy.attributes⟩))

variable {h : Hop}

/-- What a copy carries is determined by the message, its source and the cause. -/
theorem Made.carries (made : h.Made) :
    (⟨h.copy.data, h.copy.attributes⟩ : Outbound)
      = DeadLetter.copy h.message h.source h.cause := by
  cases made with
  | intro s i e v c topic found message alive source asked =>
    obtain ⟨_, heq⟩ := System.request?_step_fail found alive source asked
    rw [← message]
    exact (Request.publish.inj heq).2

theorem Made.data (made : h.Made) : h.copy.data = h.message.data :=
  congrArg Outbound.data made.carries

theorem Made.attribute? (made : h.Made) (key : String) :
    h.copy.attribute? key = (DeadLetter.attributes h.message h.source h.cause).get? key :=
  congrArg (fun o => o.attributes.get? key) made.carries

/-- A service whose dead letters go to the channel that they come from. -/
def keeper (source : Channel) : Service := .build (Registry.empty.setDeadLetter source) none

/-- An envelope of a message that was received on a channel. -/
def received (m : Message) (source : Channel) : Envelope :=
  ⟨m, source.id, 0, .scripted m.id, .received⟩

/-- A system of one service that holds one envelope. -/
def setting (m : Message) (source : Channel) : System :=
  { System.start .epoch with services := [keeper source], envelopes := [received m source] }

/-- The hop of a message from a source, its copy under a new identifier and at a new time. -/
def of (m : Message) (source : Channel) (cause id : String) (time : Timestamp) : Hop :=
  let copy := DeadLetter.copy m source cause
  ⟨m, source, cause, ⟨id, copy.data, copy.attributes, time⟩⟩

/-- Every message is dead-lettered from every channel that a registry can hold under its name. -/
theorem made_of (m : Message) {source : Channel} (cause id : String) (time : Timestamp)
    (named : source.id ≠ "") (aged : source.maxRetryAge ≠ Span.zero) :
    (of m source cause id time).Made := by
  have name : Registry.deadLetterNamed source = source := if_neg named
  have known : (keeper source).registry.lookup? source.id = some source := by
    show (Registry.empty.add (Registry.deadLetterNamed source)).lookup? source.id = some source
    rw [name, Registry.lookup?_add, if_pos rfl, Channel.completed, if_neg aged]
  have configured : (keeper source).registry.deadLetter? = some source := by
    show (keeper source).registry.lookup? (Registry.deadLetterNamed source).id = some source
    rw [name, known]
  refine .intro (setting m source) 0 (received m source) (keeper source) .deadLetter source.topic
    rfl rfl rfl known ?_
  let a := (setting m source).addOperation 0
  let p := System.routePublishing 0 (received m source) source source cause true
  have standing : ((a.setDisposition 0 .deadLetterPending).beginPublish 0 0 p).operations[0]?
      = some ⟨0, .publishing p⟩ := (System.beginPublish_open rfl rfl).1
  rw [@System.step_fail 0 _ (received m source) (keeper source) rfl rfl]
  show (a.route 0 0 (received m source) (keeper source) cause).request? 0 = _
  rw [System.route_received configured known rfl]
  exact congrArg (Option.bind · fun o => o.state.request?) standing

/-- Hops in a row, the first from a message, each other one from the copy before it. -/
def Chain (m : Message) : List Hop → Prop
  | [] => True
  | h :: hops => h.message = m ∧ h.Made ∧ Chain h.copy hops

theorem chain_append {m : Message} {hops : List Hop} {before last : Hop}
    (chain : Chain m (hops ++ [before] ++ [last])) :
    Chain m (hops ++ [before]) ∧ last.message = before.copy ∧ last.Made := by
  induction hops generalizing m with
  | nil =>
    obtain ⟨hm, made, hlast, madeLast, _⟩ := chain
    exact ⟨⟨hm, made, trivial⟩, hlast, madeLast⟩
  | cons h hops ih =>
    obtain ⟨hm, made, rest⟩ := chain
    obtain ⟨hrest, hlast, madeLast⟩ := ih rest
    exact ⟨⟨hm, made, hrest⟩, hlast, madeLast⟩

end Hop

/-! ## Lineage -/

/-- What the copy of the last of so many hops from a message carries. -/
structure Lineage (m : Message) (n : Nat) (last : Hop) : Prop where
  data : last.copy.data = m.data
  count : last.copy.attribute? DeadLetter.countAttribute = some (toString n)
  id : last.copy.attribute? DeadLetter.originalMessageId = some last.message.id
  topic : last.copy.attribute? DeadLetter.originalTopicId = some last.source.topic
  subscription : last.copy.attribute? DeadLetter.originalSubscriptionId
    = some last.source.subscriptionOrEmpty
  error : ∃ part, last.copy.attribute? DeadLetter.errorAttribute = some part ∧
    Text.IsLongestPart last.cause 1024 part
  /-- Every other attribute is the message's, and there is none that the message has not. -/
  others : ∀ key, key ∉ DeadLetter.ownAttributes →
    last.copy.attribute? key = m.attribute? key

namespace Lineage

variable {m : Message} {n : Nat} {h last : Hop}

/-- What one hop makes of a message that carries the data and the other attributes of the first. -/
theorem of_made (made : last.Made) (data : last.message.data = m.data)
    (counted : DeadLetter.nextCount (last.message.attribute? DeadLetter.countAttribute)
      = toString n)
    (others : ∀ key, key ∉ DeadLetter.ownAttributes →
      last.message.attribute? key = m.attribute? key) : Lineage m n last where
  data := made.data.trans data
  count := by rw [made.attribute?, DeadLetter.get?_attributes_count, counted]
  id := by rw [made.attribute?, DeadLetter.get?_attributes_originalMessageId]
  topic := by rw [made.attribute?, DeadLetter.get?_attributes_originalTopicId]
  subscription := by rw [made.attribute?, DeadLetter.get?_attributes_originalSubscriptionId]
  error := ⟨_, (made.attribute? _).trans (DeadLetter.get?_attributes_error _ _ _),
    Text.isLongestPart_take last.cause 1024⟩
  others := fun key other => by
    rw [made.attribute?, DeadLetter.get?_attributes_of_not_mem _ _ _ other, others key other]

/-- The first hop begins to count, whatever stood in place of a count. -/
theorem first (uncounted : DeadLetter.Uncounted m) (made : last.Made)
    (message : last.message = m) : Lineage m 1 last := by
  subst message
  exact of_made made rfl (DeadLetter.nextCount_of_uncounted uncounted) fun _ _ => rfl

/-- Every further hop counts one more and describes itself in place of the hop before. -/
theorem next (lineage : Lineage m n h) (bounded : n + 1 ≤ 2 ^ 63 - 1) (made : last.Made)
    (message : last.message = h.copy) : Lineage m (n + 1) last := by
  refine of_made made ?_ ?_ ?_
  · rw [message, lineage.data]
  · rw [message, lineage.count, DeadLetter.nextCount_toString bounded]
  · intro key other
    rw [message, lineage.others key other]

end Lineage

/-- **Dead-letter lineage**: from a message without a count, the copy of the last of `n` hops in a
row carries the message's data, the number `n`, what there is to say about the last hop, and all
other attributes of the message. -/
theorem lineage {m : Message} (uncounted : DeadLetter.Uncounted m) {hops : List Hop} {last : Hop}
    (chain : Hop.Chain m (hops ++ [last])) (bounded : hops.length + 1 ≤ 2 ^ 63 - 1) :
    Lineage m (hops.length + 1) last := by
  -- Every beginning of a chain is one, so the hop before the last has its own lineage.
  induction hops using List.reverseRecOn generalizing last with
  | nil =>
    obtain ⟨message, made, _⟩ := chain
    exact .first uncounted made message
  | append_singleton hops before ih =>
    obtain ⟨earlier, message, made⟩ := Hop.chain_append chain
    rw [List.length_append, List.length_singleton] at bounded ⊢
    exact (ih earlier (by omega)).next bounded made message

/-- A message that came with a count that is none and with an attribute that dead letters have of
their own. -/
def mislabelledOrder : Message :=
  ⟨"7", [0x7b, 0x7d], .ofList [("deadLetterCount", "three"), ("error", "none"), ("tenant", "a")],
    .epoch⟩

/-- An order is dead-lettered from its channel, and its copy from the channel of dead letters. -/
def mislabelledHops : List Hop :=
  let first := Hop.of mislabelledOrder
    ⟨"orders", "orders-topic", some "orders-sub", .ofSecs 120⟩ "no stock" "8" .epoch
  [first, .of first.copy ⟨"dead", "dead-topic", none, .ofSecs 120⟩ "no stock" "9" .epoch]

theorem lineage_mislabelledOrder : ∃ last, mislabelledHops.getLast? = some last ∧
    last.source.topic = "dead-topic" ∧ Lineage mislabelledOrder 2 last := by
  refine ⟨_, rfl, rfl, @lineage _ ?_ [_] _ ⟨rfl, ?_, rfl, ?_, trivial⟩ (by decide)⟩
  · decide
  · exact Hop.made_of _ _ _ _ (by decide) (by decide)
  · exact Hop.made_of _ _ _ _ (by decide) (by decide)

end MessageChannels
