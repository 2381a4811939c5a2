import MessageChannels.Proofs.System.Registered

/-!
# What is never taken back

A service keeps its registry and its limit, and once it is closed it stays so; a token that is
cancelled stays cancelled. Both hold from any point of a run on, whatever happens.
-/

set_option autoImplicit false

namespace MessageChannels

namespace System

variable {e : Event} {op k t : Nat} {s s' : System}

/-- No service is opened again, and no token is taken back. -/
structure Lasts (s s' : System) : Prop where
  services : Kept s.services s'.services
  tokens : ∀ t : Nat, s.tokens[t]? = some true → s'.tokens[t]? = some true

theorem Lasts.of_same (services : s'.services = s.services) (tokens : s'.tokens = s.tokens) :
    s.Lasts s' :=
  ⟨services ▸ kept_refl _, fun _ h => tokens ▸ h⟩

theorem Kept.trans {a b c : List Service} (first : Kept a b) (second : Kept b c) : Kept a c := by
  intro k v hv
  obtain ⟨v₁, h₁, registry₁, limit₁, closed₁⟩ := first k v hv
  obtain ⟨v₂, h₂, registry₂, limit₂, closed₂⟩ := second k v₁ h₁
  exact ⟨v₂, h₂, registry₂.trans registry₁, limit₂.trans limit₁, fun h => closed₂ (closed₁ h)⟩

theorem Lasts.trans {s₁ : System} (first : s.Lasts s₁) (second : s₁.Lasts s') : s.Lasts s' :=
  ⟨first.services.trans second.services, fun t h => second.tokens t (first.tokens t h)⟩

theorem tokens_poll (s : System) (source : Source) : (s.poll source).1.tokens = s.tokens := by
  cases source with
  | stream n => rfl
  | script n =>
    dsimp only [poll]
    split <;> rfl

theorem lasts_settleFrom (s : System) (i : Nat) (d : Disposition) (v : Settlement) :
    s.Lasts (s.settleFrom i d v) := by
  rcases s.settleFrom_cases i d v with same | ⟨made, _, _, heq⟩
  · rw [same]
    exact .of_same rfl rfl
  · rw [heq]
    refine .of_same (services_useAcker _ _ _ _) ?_
    cases made.acker <;> cases v <;> rfl

theorem Act.lasts (act : Act e op s s') : s.Lasts s' := by
  cases act with
  | world services clock tokens scripts kept lasting => exact ⟨kept, lasting⟩
  | looked source nothing => exact .of_same (services_poll s source) (tokens_poll s source)
  | leftSource source => cases source <;> exact .of_same rfl rfl
  | gaveUp i made cause found => cases made.acker <;> exact .of_same rfl rfl
  | pulled j l d found phase shown =>
    exact .of_same (services_poll s l.source) (tokens_poll s l.source)
  | letGo j l d outcome found phase => cases d.acker <;> exact .of_same rfl rfl
  | collected j c d found shown =>
    exact .of_same (services_poll s c.source) (tokens_poll s c.source)
  | settled i made v found received cause => exact lasts_settleFrom s i _ v
  | left i j p v channel result cause standing purpose =>
    obtain ⟨services, tokens⟩ := lasts_settleFrom s i .deadLetterPending v
    exact ⟨services, tokens⟩
  | _ => exact .of_same rfl rfl

theorem lasts_acts (acts : Acts e op s s') : s.Lasts s' := by
  induction acts with
  | refl => exact .of_same rfl rfl
  | tail _ act ih => exact ih.trans act.lasts

/-- **Nothing is taken back** in any run. -/
theorem lasts_after (s : System) (es : List Event) : s.Lasts (s.after es) :=
  after_induction (P := s.Lasts) (fun s₁ e h => h.trans (lasts_acts (s₁.acts_step e)))
    (.of_same rfl rfl) es

theorem isCancelled_after (cancelled : s.isCancelled t = true) (es : List Event) :
    (s.after es).isCancelled t = true := by
  have found : s.tokens[t]? = some true := by
    unfold isCancelled at cancelled
    cases h : s.tokens[t]? with
    | none => simp [h] at cancelled
    | some b => simpa [h] using cancelled
  simp [isCancelled, (lasts_after s es).tokens t found]

/-- A service that is closed stays closed. -/
theorem closed_after {v : Service} (found : s.services[k]? = some v) (closed : v.closed = true)
    (es : List Event) :
    ∃ v' : Service, (s.after es).services[k]? = some v' ∧ v'.registry = v.registry ∧
      v'.closed = true := by
  obtain ⟨v', found', registry, _, lasts⟩ := (lasts_after s es).services k v found
  exact ⟨v', found', registry, lasts closed⟩

theorem isClosed_of_getElem? {v : Service} (found : s.services[k]? = some v) :
    s.isClosed k = v.closed := by
  simp [isClosed, found]

theorem isClosed_after {v : Service} (found : s.services[k]? = some v)
    (closed : s.isClosed k = true) (es : List Event) : (s.after es).isClosed k = true := by
  rw [isClosed_of_getElem? found] at closed
  obtain ⟨v', found', _, closed'⟩ := closed_after found closed es
  exact (isClosed_of_getElem? found').trans closed'

/-! ## Who the services are -/

/-- All services have the same channels. -/
def Governed (s : System) (r : Registry) : Prop :=
  ∀ (k : Nat) (v : Service), s.services[k]? = some v → v.registry = r

theorem services_settleFrom (s : System) (i : Nat) (d : Disposition) (v : Settlement) :
    (s.settleFrom i d v).services = s.services := by
  rcases s.settleFrom_cases i d v with same | ⟨made, _, _, heq⟩
  · rw [same]
  · rw [heq]
    exact services_useAcker _ _ _ _

theorem Act.services_length (act : Act e op s s') (others : ∀ v, e ≠ .addService v) :
    s'.services.length = s.services.length := by
  cases act with
  | world services clock tokens scripts kept lasting number => exact number others
  | looked source nothing => exact congrArg List.length (services_poll s source)
  | leftSource source => cases source <;> rfl
  | gaveUp i made cause found => cases made.acker <;> rfl
  | pulled j l d found phase shown => exact congrArg List.length (services_poll s l.source)
  | letGo j l d outcome found phase => cases d.acker <;> rfl
  | collected j c d found shown => exact congrArg List.length (services_poll s c.source)
  | settled i made v found received cause =>
    exact congrArg List.length (services_settleFrom s i _ v)
  | left i j p v channel result cause standing purpose =>
    exact congrArg List.length (services_settleFrom s i .deadLetterPending v)
  | _ => rfl

theorem services_length_acts (acts : Acts e op s s') (others : ∀ v, e ≠ .addService v) :
    s'.services.length = s.services.length := by
  induction acts with
  | refl => rfl
  | tail _ act ih => exact (act.services_length others).trans ih

theorem governed_step {r : Registry} (governed : s.Governed r) (others : ∀ v, e ≠ .addService v) :
    (s.step e).Governed r := by
  have kept := (lasts_acts (s.acts_step e)).services
  have number := services_length_acts (s.acts_step e) others
  intro k v found
  have bound : k < s.services.length := number ▸ (List.getElem?_eq_some_iff.1 found).1
  obtain ⟨v', found', registry, _⟩ := kept k _ (List.getElem?_eq_getElem bound)
  cases found'.symm.trans found
  exact registry.trans (governed k _ (List.getElem?_eq_getElem bound))

/-- A service's channels are those of all services as long as no other service is added. -/
theorem governed_after {r : Registry} (governed : s.Governed r) {es : List Event}
    (others : ∀ v, .addService v ∉ es) : (s.after es).Governed r := by
  induction es generalizing s with
  | nil => exact governed
  | cons e es ih =>
    refine ih (governed_step governed fun v h => others v ?_) fun v mem => others v ?_
    · exact h ▸ List.mem_cons_self
    · exact List.mem_cons_of_mem _ mem

end System

end MessageChannels
