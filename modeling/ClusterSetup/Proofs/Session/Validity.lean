import ClusterSetup.Proofs.Session.Operations

namespace ClusterSetup

def Step.tickets (s : Step) : List Ticket := s.pending.map (⟨s.id, s.generation, ·⟩)

theorem Step.tickets_eq_nil {s : Step} (h : s.pending = []) : s.tickets = [] := by
  rw [Step.tickets, h, List.map_nil]

namespace Session

/-- The actions of which the results were not read, because they run or because their results have
only arrived, each with the guards that it holds. -/
def charges (s : Session) : List (Ticket × List Guard) :=
  s.running.map (fun a => (a.ticket, a.guards)) ++ s.arrived.map fun r => (r.ticket, r.guards)

/-- The actions of which the results were not read. -/
def outstanding (s : Session) : List Ticket := s.charges.map (·.1)

/-- The guards that a session holds through its actions. -/
def heldGuards (s : Session) : List Guard := s.charges.flatMap (·.2)

structure Placed (s : Session) : Prop where
  arena : Arena s.steps
  current : ∃ step, s.steps[s.current]? = some step
  onPath : OnPath s.steps s.current
  finished : s.finished = true →
    s.canceled = false ∧ ∀ step, s.steps[s.current]? = some step → step.kind = .confirm

/-- The results that are still to be read are counted, and each action holds its guards. -/
structure Accounted (s : Session) : Prop where
  inFlight_eq : s.inFlight = s.charges.length
  guarded : ∀ charge ∈ s.charges, charge.2 = charge.1.key.guards s.host.id

/-- No step was canceled, and only the one at a place waits for results. -/
structure WaitsOnlyAt (steps : List Step) (i : StepId) : Prop where
  live : ∀ {j : StepId} {u : Step}, steps[j]? = some u → u.canceled = false
  idle : ∀ {j : StepId} {u : Step}, steps[j]? = some u → j ≠ i → u.pending = []

/-- The current step waits for what is outstanding, and no other step waits. -/
structure Awaited (s : Session) : Prop where
  waits : WaitsOnlyAt s.steps s.current
  outstanding_perm : ∀ {step : Step}, s.steps[s.current]? = some step →
    s.outstanding.Perm step.tickets

/-- What holds of a session throughout its history. -/
structure Valid (s : Session) : Prop where
  placed : s.Placed
  accounted : s.Accounted
  awaited : s.canceled = false → s.Awaited

namespace WaitsOnlyAt

variable {steps : List Step} {i : StepId}

theorem set (h : WaitsOnlyAt steps i) {t : Step} (ht : t.canceled = false) :
    WaitsOnlyAt (steps.set i t) i where
  live hu := by
    rcases getElem?_set_cases hu with ⟨-, rfl⟩ | ⟨-, hu⟩
    · exact ht
    · exact h.live hu
  idle hu hj := by
    rcases getElem?_set_cases hu with ⟨rfl, -⟩ | ⟨-, hu⟩
    · exact absurd rfl hj
    · exact h.idle hu hj

theorem attach (h : WaitsOnlyAt steps i) {t : Step} (ht : t.canceled = false) :
    WaitsOnlyAt (Session.attach steps i t) i where
  live hu := by
    rcases getElem?_attach_cases hu with ⟨-, next, rfl⟩ | ⟨-, hu⟩ | ⟨-, kind, -, rfl⟩
    · exact ht
    · exact h.live hu
    · rfl
  idle hu hj := by
    rcases getElem?_attach_cases hu with ⟨rfl, -⟩ | ⟨-, hu⟩ | ⟨-, kind, -, rfl⟩
    · exact absurd rfl hj
    · exact h.idle hu hj
    · rfl

theorem all_idle (h : WaitsOnlyAt steps i) {s : Step} (hs : steps[i]? = some s)
    (hidle : s.pending = []) {j : StepId} {u : Step} (hu : steps[j]? = some u) :
    u.pending = [] := by
  by_cases hj : j = i
  · subst hj
    rw [hs, Option.some.injEq] at hu
    subst hu
    exact hidle
  · exact h.idle hu hj

end WaitsOnlyAt

theorem Awaited.charges_eq_nil {s : Session} {step : Step} (h : s.Awaited)
    (hstep : s.steps[s.current]? = some step) (hidle : step.pending = []) : s.charges = [] := by
  have hperm := h.outstanding_perm hstep
  rw [Step.tickets_eq_nil hidle] at hperm
  exact List.map_eq_nil_iff.mp hperm.eq_nil

theorem Valid.pending_of_finished {s : Session} {step : Step} (h : s.Valid)
    (hfinished : s.finished = true) (hstep : s.steps[s.current]? = some step) :
    step.pending = [] := by
  have hkeys := (h.placed.arena.sound hstep).pending_sublist
  rw [(h.placed.finished hfinished).2 step hstep] at hkeys
  exact List.sublist_nil.mp hkeys

theorem Valid.with_inputs {s : Session} (h : s.Valid) (credentials : Option VendorCredentials)
    (attempts : PerComponent Nat) :
    Valid { s with credentials := credentials, attempts := attempts } where
  placed := ⟨h.placed.arena, h.placed.current, h.placed.onPath, h.placed.finished⟩
  accounted := ⟨h.accounted.inFlight_eq, h.accounted.guarded⟩
  awaited hlive := ⟨(h.awaited hlive).waits, (h.awaited hlive).outstanding_perm⟩

theorem new_valid (host : Host) (resources : Resources) (policy : Policy)
    (options : SessionOptions) (credentials : Option VendorCredentials) :
    (new host resources policy options credentials).Valid := by
  have hfirst : ∀ {i : StepId} {u : Step},
      (new host resources policy options credentials).steps[i]? = some u →
        u = Step.new 0 (firstKind host) none := by
    intro i u hu
    exact List.mem_singleton.mp (List.mem_of_getElem? hu)
  refine ⟨⟨Arena.singleton _, ⟨_, rfl⟩, .refl, fun h => nomatch h⟩,
    ⟨rfl, fun charge h => nomatch h⟩, fun _ => ⟨⟨?_, ?_⟩, ?_⟩⟩
  · intro j u hu
    rw [hfirst hu]
    rfl
  · intro j u hu _
    rw [hfirst hu]
    rfl
  · intro step hstep
    rw [hfirst hstep]
    exact .refl _

end Session

end ClusterSetup
