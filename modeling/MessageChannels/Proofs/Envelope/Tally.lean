import MessageChannels.Proofs.System.Broker
import MessageChannels.Proofs.System.Frame

/-!
# Envelopes are counted

A service counts the envelopes that it makes and those that it settles, where it makes and settles
them. So after any run the counters are the numbers of the envelopes that there are, by what has
become of them (`Booked`). It is kept by each act, since what an act notes otherwise are reports and
counts of publishes.
-/

set_option autoImplicit false

namespace MessageChannels

namespace System

/-- How often something was counted under a label. -/
def tally (s : System) (counter : Counter) (label : String) : Nat :=
  Note.count s.notes counter label

/-- How many envelopes of a channel there are, of those that are of a kind. -/
def envelopesOf (s : System) (label : String) (kind : Envelope → Bool) : Nat :=
  s.envelopes.countP fun made => made.channel == label && kind made

/-- Whether an envelope was settled in a way. -/
def isSettledAs (v : Settlement) (made : Envelope) : Bool := made.disposition == v.disposition

/-- The counters of envelopes are the numbers of those made, and of those settled either way. -/
structure Booked (s : System) : Prop where
  received : ∀ label, s.tally .received label = s.envelopesOf label fun _ => true
  settled : ∀ v label, s.tally (settlementCounter v) label = s.envelopesOf label (isSettledAs v)

variable {e : Event} {op i : Nat} {s s' : System} {made : Envelope}

/-! ## What is counted -/

theorem tally_congr (journal : s'.journal = s.journal) (counter : Counter) (label : String) :
    s'.tally counter label = s.tally counter label := by
  rw [tally, tally, notes, notes, journal]

theorem tally_note (s : System) (n : Note) (counter : Counter) (label : String) :
    (s.note n).tally counter label = s.tally counter label + Note.count [n] counter label := by
  rw [tally, tally, ← Note.count_append]
  refine congrArg (Note.count · counter label) ?_
  exact List.filterMap_append

theorem tally_asked (s : System) (op : Nat) (r : Request) (counter : Counter) (label : String) :
    (s.record (.asked op r)).tally counter label = s.tally counter label := by
  rw [tally, tally, notes, record, List.filterMap_append]
  exact congrArg (Note.count · counter label) (List.append_nil _)

theorem tally_useAcker (s : System) (i : Nat) (a : Acker) (v : Settlement) (counter : Counter)
    (label : String) : (s.useAcker i a v).tally counter label = s.tally counter label := by
  rw [tally, tally, notes, journal_useAcker, List.filterMap_append]
  exact congrArg (Note.count · counter label) (List.append_nil _)

/-- One note counts once, for what it says. -/
theorem count_counted (counter : Counter) (label : String) (other : Counter) (name : String) :
    Note.count [.counted counter label] other name
      = if counter = other ∧ label = name then 1 else 0 := by
  unfold Note.count
  rw [List.filter_singleton]
  by_cases same : counter = other ∧ label = name
  · simp [same]
  · simp [same]

/-! ## Envelopes of a kind -/

/-- Whether an envelope is one of those counted, as a number. -/
def isOne (label : String) (kind : Envelope → Bool) (made : Envelope) : Nat :=
  if made.channel == label && kind made then 1 else 0

theorem envelopesOf_set {new : Envelope} (found : s.envelopes[i]? = some made)
    (changed : s'.envelopes = s.envelopes.set i new) (label : String) (kind : Envelope → Bool) :
    s'.envelopesOf label kind + isOne label kind made
      = s.envelopesOf label kind + isOne label kind new := by
  obtain ⟨bound, rfl⟩ := List.getElem?_eq_some_iff.1 found
  have least := List.boole_getElem_le_countP bound (p := fun m => m.channel == label && kind m)
  unfold envelopesOf isOne
  rw [changed, List.countP_set bound]
  omega

theorem envelopesOf_append {new : Envelope} (grown : s'.envelopes = s.envelopes ++ [new])
    (label : String) (kind : Envelope → Bool) :
    s'.envelopesOf label kind = s.envelopesOf label kind + isOne label kind new := by
  unfold envelopesOf isOne
  rw [grown, List.countP_append, List.countP_singleton]

theorem isOne_unsettled (unsettled : made.disposition.isTerminal = false) (label : String)
    (v : Settlement) : isOne label (isSettledAs v) made = 0 := by
  refine if_neg fun h => ?_
  have settled : made.disposition = v.disposition := by
    simpa [isSettledAs] using ((Bool.and_eq_true _ _).mp h).2
  rw [settled] at unsettled
  cases v <;> cases unsettled

/-! ## What keeps the books -/

theorem Booked.of_same (booked : s.Booked) (envelopes : s'.envelopes = s.envelopes)
    (received : ∀ label, s'.tally .received label = s.tally .received label)
    (settled : ∀ v label,
      s'.tally (settlementCounter v) label = s.tally (settlementCounter v) label) : s'.Booked := by
  constructor
  · intro label
    rw [received, booked.received, envelopesOf, envelopesOf, envelopes]
  · intro v label
    rw [settled, booked.settled, envelopesOf, envelopesOf, envelopes]

theorem Booked.of_journal (booked : s.Booked) (envelopes : s'.envelopes = s.envelopes)
    (journal : s'.journal = s.journal) : s'.Booked :=
  booked.of_same envelopes (tally_congr journal _) fun _ => tally_congr journal _

theorem Booked.note (booked : s.Booked) {n : Note} (told : e.Tells op n) : (s.note n).Booked := by
  have apart {counter : Counter} (other : counter.countsPublishes = false) (label : String) :
      (s.note n).tally counter label = s.tally counter label := by
    rw [tally_note]
    cases n with
    | reported event cause => rfl
    | counted counter' label' =>
      rw [count_counted, if_neg, Nat.add_zero]
      rintro ⟨rfl, _⟩
      cases told.1.symm.trans other
  refine booked.of_same rfl (apart rfl) fun v => apart ?_
  cases v <;> rfl

/-- An envelope that is made is counted as received. -/
theorem Booked.addEnvelope (booked : s.Booked) (k : Nat) (channel : String) (d : Taken) :
    (s.addEnvelope k channel d).1.Booked := by
  have grown : (s.addEnvelope k channel d).1.envelopes
      = s.envelopes ++ [⟨d.message, channel, k, d.acker, .received⟩] := rfl
  have counted (counter : Counter) (label : String) :
      (s.addEnvelope k channel d).1.tally counter label
        = s.tally counter label + if .received = counter ∧ channel = label then 1 else 0 := by
    rw [← count_counted]
    exact tally_note _ _ _ _
  constructor
  · intro label
    rw [counted, envelopesOf_append grown, booked.received, isOne]
    simp
  · intro v label
    rw [counted, envelopesOf_append grown, booked.settled, isOne]
    cases v <;> simp [settlementCounter, isSettledAs, Settlement.disposition]

/-- An envelope that was not settled becomes one that waits, or one that is settled and counted. -/
theorem Booked.settleFrom (booked : s.Booked) {expected : Disposition}
    (unsettled : expected.isTerminal = false) (i : Nat) (v : Settlement) :
    (s.settleFrom i expected v).Booked := by
  rcases s.settleFrom_cases i expected v with same | ⟨made, found, rfl, settles⟩
  · rw [same]
    exact booked
  · have changed : (s.settleFrom i made.disposition v).envelopes
        = s.envelopes.set i { made with disposition := v.disposition } := by
      rw [settles, ← envelopes_setDisposition found]
      exact envelopes_useAcker _ _ _ _
    have counted (counter : Counter) (label : String) :
        (s.settleFrom i made.disposition v).tally counter label = s.tally counter label
          + if settlementCounter v = counter ∧ made.channel = label then 1 else 0 := by
      rw [settles, ← count_counted]
      exact (tally_note _ _ _ _).trans (congrArg (· + _) (tally_useAcker _ _ _ _ _ _))
    constructor
    · intro label
      have kept := envelopesOf_set found changed label fun _ => true
      have other : ¬ settlementCounter v = .received := by cases v <;> exact nofun
      rw [counted, if_neg fun h => other h.1, booked.received]
      exact (Nat.add_right_cancel kept).symm
    · intro w label
      have moved := envelopesOf_set found changed label (isSettledAs w)
      have before := isOne_unsettled unsettled label w
      have after : isOne label (isSettledAs w) { made with disposition := v.disposition }
          = if settlementCounter v = settlementCounter w ∧ made.channel = label then 1 else 0 := by
        cases v <;> cases w <;> simp [isOne, isSettledAs, settlementCounter, Settlement.disposition]
      rw [counted, booked.settled, ← after]
      omega

/-- An envelope that begins to wait was not counted as settled, and still is not. -/
theorem Booked.setPending (booked : s.Booked) (found : s.envelopes[i]? = some made)
    (received : made.disposition = .received) :
    (s.setDisposition i .deadLetterPending).Booked := by
  have changed := envelopes_setDisposition found .deadLetterPending
  have journal : (s.setDisposition i .deadLetterPending).journal = s.journal := rfl
  constructor
  · intro label
    have kept := envelopesOf_set found changed label fun _ => true
    rw [tally_congr journal, booked.received]
    exact (Nat.add_right_cancel kept).symm
  · intro v label
    have moved := envelopesOf_set found changed label (isSettledAs v)
    rw [isOne_unsettled (by rw [received]; rfl), isOne_unsettled rfl] at moved
    rw [tally_congr journal, booked.settled]
    exact moved.symm

/-! ## Runs -/

theorem Act.booked (act : Act e op s s') (booked : s.Booked) : s'.Booked := by
  cases act with
  | wrote n told => exact booked.note told
  | asked r waits =>
    exact booked.of_same rfl (fun _ => tally_asked _ _ _ _ _) fun _ _ => tally_asked _ _ _ _ _
  | looked source nothing =>
    exact booked.of_journal (envelopes_poll s source) (journal_poll s source)
  | leftSource source => cases source <;> exact booked.of_journal rfl rfl
  | gaveUp i made cause found =>
    exact booked.of_journal (envelopes_dropAcker s _) (journal_dropAcker s _)
  | pulled k l d found phase shown =>
    exact booked.of_journal (envelopes_poll s l.source) (journal_poll s l.source)
  | handed k l d cause found phase =>
    exact (booked.addEnvelope k l.channel d).of_journal rfl rfl
  | letGo k l d outcome found phase =>
    exact booked.of_journal (envelopes_dropAcker s d.acker) (journal_dropAcker s d.acker)
  | collected k c d found shown =>
    have polled : (s.poll c.source).1.Booked :=
      booked.of_journal (envelopes_poll s c.source) (journal_poll s c.source)
    exact polled.addEnvelope k c.channel d
  | settled i made v found received cause => exact booked.settleFrom rfl i v
  | entered i made p k c text channel cause found received standing purpose =>
    exact (booked.setPending found received).of_journal rfl rfl
  | left i k p v channel result cause standing purpose =>
    exact (booked.settleFrom rfl i v).of_journal rfl rfl
  | _ => exact booked.of_journal rfl rfl

/-- **The counters of envelopes are right** after any run. -/
theorem Reachable.booked (reachable : s.Reachable) : s.Booked := by
  refine reachable.induction (P := Booked) (fun now => ?_) fun s e booked => ?_
  · exact ⟨fun _ => rfl, fun _ _ => rfl⟩
  · have acts := s.acts_step e
    generalize s.step e = s' at acts
    induction acts with
    | refl => exact booked
    | tail _ act ih => exact act.booked ih

/-- No more envelopes are settled than are made. -/
theorem settled_le (s : System) (label : String) :
    s.envelopesOf label (isSettledAs .ack) + s.envelopesOf label (isSettledAs .nack)
      ≤ s.envelopesOf label fun _ => true := by
  unfold envelopesOf
  induction s.envelopes with
  | nil => exact Nat.le_refl _
  | cons made envelopes ih =>
    have once : isOne label (isSettledAs .ack) made + isOne label (isSettledAs .nack) made
        ≤ isOne label (fun _ => true) made := by
      unfold isOne isSettledAs
      cases made.channel == label <;> cases made.disposition <;> simp [Settlement.disposition]
    unfold isOne at once
    rw [List.countP_cons, List.countP_cons, List.countP_cons]
    omega

end System

end MessageChannels
