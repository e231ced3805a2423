import ClusterSetup.Proofs.Session.Performing
import ClusterSetup.Proofs.Step.Commands

namespace ClusterSetup

namespace Session

theorem advance?_apt {s t : Session} {place : Nat} {reply : Reply}
    (h : s.advance? place reply = some t) (hapt : ∀ a ∈ s.running, a.Apt) :
    (∀ a ∈ t.running, a.Apt) ∧ ∃ made, t.calls = s.calls ++ made ∧
      ∀ call ∈ made, call.Connects := by
  cases Advances.of_advance? h with
  | runs at_place proceeds unsettled =>
      obtain ⟨hmoved, -, hcalls⟩ :=
        (hapt _ (List.mem_of_getElem? at_place)).proceeds proceeds unsettled
      refine ⟨?_, _, rfl, fun call hcall => hcalls call (Option.mem_toList.mp hcall)⟩
      intro a ha
      rcases List.mem_or_eq_of_mem_set ha with hold | rfl
      · exact hapt a hold
      · exact hmoved
  | arrives =>
      refine ⟨?_, [], (List.append_nil _).symm, fun _ hcall => absurd hcall List.not_mem_nil⟩
      intro a ha
      exact hapt a (List.mem_of_mem_eraseIdx ha)

theorem Reachable.apt {s : Session} (h : s.Reachable) : ∀ a ∈ s.running, a.Apt := by
  obtain ⟨host, resources, policy, options, credentials, hlater⟩ := h
  refine (hlater.induct (P := fun s => ∀ a ∈ s.running, a.Apt) ?_
    (new_valid host resources policy options credentials) fun _ ha => (nomatch ha)).1
  intro d d' _ hapt hchange
  cases hchange with
  | cancel active =>
      obtain ⟨cluster, membership, heq⟩ := Desk.cancel_eq active
      rw [heq]
      exact hapt
  | @start s g g' step active current live idle entry =>
      intro a ha
      rcases List.mem_append.mp ha with hold | hnew
      · exact hapt a hold
      · obtain ⟨key, -, rfl⟩ := List.mem_map.mp hnew
        exact RunningAction.apt_actionFor s.enterContext step.reset key
  | answer advance => exact (advance?_apt advance hapt).1
  | _ => exact hapt

end Session

namespace Desk

/-- The command of an install was sent: the current step is the one of the install, with its
credentials if it needs any, and the action that waits for the answer has taken its guard. -/
structure InstallSent (g : Guards) (call : RemoteCall) (c : Component) (n : Nat) (d : Desk) :
    Prop where
  live : d.session.canceled = false
  step : ∃ u, d.session.steps[d.session.current]? = some u ∧ u.kind = .install c n
  funded : Step.lacksCredentials d.session.enterContext c n = false
  action : ∃ a ∈ d.session.running, a.step = d.session.current ∧ a.key = .install c ∧
    a.work.call? = some call ∧ a.guards = [⟨d.session.host.id, c⟩]
  took : Guards.Took g [⟨d.session.host.id, c⟩] d.guards

theorem Entering.sent {s : Session} {g : Guards} {step : Step} {entered : Entered} {d : Desk}
    (h : Entering s g step entered d) (hid : step.id = s.current) {call : RemoteCall}
    (hcall : call ∈ entered.firstCalls) {c : Component} {n : Nat} (hinstalls : call.Installs c n) :
    step.kind = .install c n ∧ InstallSent g call c n d := by
  obtain ⟨hkind, hfunded, hstarted, hfirst, htook⟩ := h.entry.of_installs hcall hinstalls
  obtain ⟨-, -, hkind', -⟩ := h.entry.rerun
  have hcurrent := (List.getElem?_eq_some_iff.mp h.current).1
  have hguards := h.guards_eq
  refine ⟨hkind, ?_⟩
  obtain ⟨t, g'⟩ := d
  have hsession := h.session_eq
  dsimp only at hsession hguards
  constructor
  · rw [hsession]
    exact h.active.live
  · rw [hsession]
    exact ⟨_, List.getElem?_set_self hcurrent, hkind'.trans hkind⟩
  · rw [hsession]
    exact hfunded
  · refine ⟨step.reset.actionFor s.enterContext (.install c), ?_, ?_, rfl, hfirst, ?_⟩
    · rw [hsession, hstarted]
      exact List.mem_append_right _ (List.mem_singleton_self _)
    · rw [hsession]
      exact hid
    · rw [hsession]
      rfl
  · rw [hsession]
    dsimp only
    rw [hguards]
    exact htook

/-- The calls that a move makes. The command of an install is sent as it should be, and never
while a session only hears of results. -/
theorem perform_calls {s : Session} (h : s.Reachable) (g : Guards) (m : Move) :
    ∃ made, (m.perform ⟨s, g⟩).session.calls = s.calls ++ made ∧
      ∀ call ∈ made, ∀ c n, call.Installs c n →
        ¬ m.Hears ∧ InstallSent g call c n (m.perform ⟨s, g⟩) := by
  cases perform_spec h.valid g m with
  | quiet _ calls_eq _ =>
      exact ⟨[], by rw [calls_eq, List.append_nil], fun _ hcall => (nomatch hcall)⟩
  | reads _ _ _ calls_eq _ _ =>
      exact ⟨[], by rw [calls_eq, List.append_nil], fun _ hcall => (nomatch hcall)⟩
  | answers advance =>
      obtain ⟨-, made, hmade, hconnects⟩ := Session.advance?_apt advance h.apt
      refine ⟨made, hmade, ?_⟩
      intro call hcall c n hinstalls
      exact absurd hinstalls ((hconnects call hcall).not_installs c n)
  | @enters acts credentials step entered entering =>
      refine ⟨entered.firstCalls, by rw [entering.session_eq], ?_⟩
      intro call hcall c n hinstalls
      have hid : step.id = s.current := h.valid.placed.arena.id_eq entering.current
      exact ⟨acts, (entering.sent hid hcall hinstalls).2⟩
  | @chooses attempts step d m picks choosing =>
      obtain ⟨entered, entering⟩ := choosing.entering
      refine ⟨entered.firstCalls, by rw [entering.session_eq]; rfl, ?_⟩
      intro call hcall c n hinstalls
      exact ⟨picks.not_hears, (entering.sent rfl hcall hinstalls).2⟩

theorem Entering.charges {s : Session} {g : Guards} {step : Step} {entered : Entered} {d : Desk}
    (h : Entering s g step entered d) {charge : Ticket × List Guard}
    (hcharge : charge ∈ s.charges) : charge ∈ d.session.charges := by
  rw [h.session_eq, Session.charges, List.map_append]
  rcases List.mem_append.mp hcharge with hrunning | harrived
  · exact List.mem_append_left _ (List.mem_append_left _ hrunning)
  · exact List.mem_append_right _ harrived

/-- An action stays outstanding with its guards until its result is read, which gives them back. -/
theorem perform_charges {s : Session} (h : s.Valid) (g : Guards) (m : Move)
    {charge : Ticket × List Guard} (hcharge : charge ∈ s.charges) :
    charge ∈ (m.perform ⟨s, g⟩).session.charges ∨
      m = .read ∧ (∃ result rest, s.arrived = result :: rest ∧
        (result.ticket, result.guards) = charge) ∧
        (m.perform ⟨s, g⟩).guards = g.releaseAll charge.2 := by
  cases perform_spec h g m with
  | quiet _ _ charges_eq =>
      left
      rw [charges_eq]
      exact hcharge
  | reads move arrived _ _ charges_perm guards_eq =>
      rcases List.mem_cons.mp (charges_perm.subset hcharge) with rfl | hleft
      · exact .inr ⟨move, ⟨_, _, arrived, rfl⟩, guards_eq⟩
      · exact .inl hleft
  | answers advance =>
      have hperm := (Session.advance?_answered advance).charges_perm
      exact .inl (hperm.symm.subset hcharge)
  | enters _ _ entering => exact .inl (entering.charges hcharge)
  | chooses _ choosing =>
      obtain ⟨entered, entering⟩ := choosing.entering
      exact .inl (entering.charges hcharge)

end Desk

end ClusterSetup
