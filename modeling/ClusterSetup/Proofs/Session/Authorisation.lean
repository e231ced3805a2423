import ClusterSetup.Proofs.Office
import ClusterSetup.Proofs.Session.Calls
import ClusterSetup.Proofs.Session.Methods
import ClusterSetup.Proofs.Session.Offers

namespace ClusterSetup

namespace Session

/-- A move chose an install: it made a step for it, which the session did not have before, where the
current step offered the install and the method was listed. -/
structure ChosenBy (d : Desk) (m : Move) (i : StepId) (c : Component) (n : Nat) : Prop where
  picks : m.Picks c n
  unmade : d.session.steps[i]? = none
  made : ∃ u, (m.perform d).session.steps[i]? = some u ∧ u.kind = .install c n
  offers : d.session.currentStep.offersInstall c = true
  listed : ∃ method, (d.session.methods c).find? n = some method ∧
    (method.staging = true → d.session.options.staging.get c = true)

/-- Every step of an install was made by a move of the log that chose the install. -/
def InstallsChosen (log : List (Desk × Move)) (s : Session) : Prop :=
  ∀ (i : StepId) (u : Step), s.steps[i]? = some u → ∀ c n, u.kind = .install c n →
    ∃ entry ∈ log, ChosenBy entry.1 entry.2 i c n

theorem Recorded.installs_chosen {log : List (Desk × Move)} {s : Session} (h : Recorded log s) :
    s.InstallsChosen log := by
  refine h.induct ?_ ?_
  · intro host resources policy options credentials i u hu c n hkind
    exact absurd hkind (new_has_no_install hu c n)
  · intro log s g m hlog ih i u hu c n hkind
    rcases Desk.perform_installs hlog.reachable.valid g m hu hkind with
      ⟨old, hold, hsame⟩ | ⟨hpicks, hchose⟩
    · obtain ⟨entry, hentry, hchosen⟩ := ih i old hold c n (hsame.kind_eq.symm.trans hkind)
      exact ⟨entry, List.mem_append_left _ hentry, hchosen⟩
    · refine ⟨(⟨s, g⟩, m), List.mem_append_right _ (List.mem_singleton_self _), hpicks, ?_,
        ⟨u, hu, hkind⟩, hchose.offers, ?_⟩
      · rw [hchose.place]
        exact List.getElem?_eq_none (Nat.le_refl _)
      · obtain ⟨method, hmethod⟩ := Option.isSome_iff_exists.mp hchose.listed
        exact ⟨method, hmethod, Resources.staging_of_listed hmethod⟩

theorem Lists.funded {s : Session} {c : Component} {n : Nat} (h : s.Lists c n)
    (hfunded : Step.lacksCredentials s.enterContext c n = false) :
    ∃ method, (s.methods c).find? n = some method ∧
      (method.usesVendorRepository = true → s.credentials.isSome = true) := by
  obtain ⟨method, hmethod⟩ := Option.isSome_iff_exists.mp h
  refine ⟨method, hmethod, ?_⟩
  intro hvendor
  rw [lacksCredentials_of_offered hmethod, hvendor, Bool.true_and] at hfunded
  rwa [← Option.not_isNone, Bool.not_eq_true']

/-- All that the command of an install needs when it is sent, according to a log that ends with
the move by which it is sent. -/
structure Authorised (log : List (Desk × Move)) (d : Desk) (call : RemoteCall) (c : Component)
    (n : Nat) : Prop where
  reported : ∃ u p v scope status, d.session.steps[d.session.current]? = some u ∧
    u.kind = .install c n ∧ u.previous = some p ∧
    d.session.steps[p]? = some v ∧ v.kind = .probe scope ∧ v.completed = true ∧
    v.components.get c = some status ∧
    (status.state = .needsInstall ∨ status.state = .upgradeAvailable)
  chosen : ∃ entry ∈ log, ChosenBy entry.1 entry.2 d.session.current c n
  funded : ∃ method, (d.session.methods c).find? n = some method ∧
    (method.usesVendorRepository = true → d.session.credentials.isSome = true)
  guarded : ∃ a ∈ d.session.running, a.step = d.session.current ∧ a.key = .install c ∧
    a.work.call? = some call ∧ a.guards = [⟨d.session.host.id, c⟩] ∧
    d.guards.isBusy d.session.host.id c = true

theorem authorised_of_sent {log : List (Desk × Move)} {g : Guards} {d : Desk} {call : RemoteCall}
    {c : Component} {n : Nat} (h : Recorded log d.session) (hsent : d.InstallSent g call c n) :
    Authorised log d call c n := by
  obtain ⟨u, hu, hkind⟩ := hsent.step
  have hpath := h.reachable.valid.placed.onPath
  obtain ⟨hlisted, p, v, hp, hv, hoffer⟩ :=
    (h.reachable.offering hsent.live).1 _ u hpath hu c n hkind
  obtain ⟨scope, status, hprobe, hcompleted, hget, hstate⟩ := Step.reported_of_offersInstall hoffer
  obtain ⟨a, ha, hstep, hkey, hcall, hguards⟩ := hsent.action
  constructor
  · exact ⟨u, p, v, scope, status, hu, hkind, hp, hv, hprobe, hcompleted, hget, hstate⟩
  · exact h.installs_chosen _ u hu c n hkind
  · exact hlisted.funded hsent.funded
  · refine ⟨a, ha, hstep, hkey, hcall, hguards, ?_⟩
    rw [Guards.mem_held_iff_isBusy, hsent.took.held_eq]
    exact List.mem_cons_self

/-- The action of an outstanding install is the only one in the office that works on the component
of the host, which is therefore busy. -/
theorem busy_of_outstanding {o : Office} (ho : o.Reachable) {s : Session} (hs : s ∈ o.sessions)
    {t : Ticket} (ht : t ∈ s.outstanding) {c : Component} (hkey : t.key = .install c) :
    o.guards.isBusy s.host.id c = true ∧ o.actionsOn s.host.id c = [t] := by
  obtain ⟨hbusy, hone⟩ := ho.valid.busy_iff s.host.id c
  have hown : t ∈ s.actionsOn s.host.id c := by
    rw [actionsOn, if_pos rfl, List.mem_filter]
    refine ⟨ht, ?_⟩
    rw [hkey]
    exact decide_eq_true (List.mem_singleton_self c)
  have hall : t ∈ o.actionsOn s.host.id c := List.mem_flatMap.mpr ⟨s, hs, hown⟩
  have hlength : (o.actionsOn s.host.id c).length = 1 :=
    Nat.le_antisymm hone (List.length_pos_of_mem hall)
  obtain ⟨only, honly⟩ := List.length_eq_one_iff.mp hlength
  rw [honly, List.mem_singleton] at hall
  exact ⟨hbusy.mpr hlength, by rw [honly, hall]⟩

/-- Whatever is done to a session, it only sends authorised commands of installs, and the action
of an install holds the guard of its component until its result is read. -/
theorem installs_authorised {log : List (Desk × Move)} {s : Session} (h : Recorded log s) :
    (∀ (g : Guards) (m : Move), ∃ made,
      (m.perform ⟨s, g⟩).session.calls = s.calls ++ made ∧
        ∀ call ∈ made, ∀ c n, call.Installs c n →
          Authorised (log ++ [(⟨s, g⟩, m)]) (m.perform ⟨s, g⟩) call c n) ∧
    ∀ charge ∈ s.charges, ∀ c, charge.1.key = .install c →
      charge.2 = [⟨s.host.id, c⟩] ∧
      (∀ (g : Guards) (m : Move), charge ∈ (m.perform ⟨s, g⟩).session.charges ∨
        m = .read ∧
          (∃ result rest, s.arrived = result :: rest ∧ (result.ticket, result.guards) = charge) ∧
          (m.perform ⟨s, g⟩).guards = g.releaseAll charge.2) ∧
      ∀ o : Office, o.Reachable → s ∈ o.sessions →
        o.guards.isBusy s.host.id c = true ∧ o.actionsOn s.host.id c = [charge.1] := by
  have hvalid := h.reachable.valid
  constructor
  · intro g m
    obtain ⟨made, hmade, hsent⟩ := Desk.perform_calls h.reachable g m
    refine ⟨made, hmade, ?_⟩
    intro call hcall c n hinstalls
    exact authorised_of_sent (h.snoc g m) (hsent call hcall c n hinstalls).2
  · intro charge hcharge c hkey
    refine ⟨?_, fun g m => Desk.perform_charges hvalid g m hcharge, ?_⟩
    · rw [hvalid.accounted.guarded charge hcharge, hkey]
      rfl
    · intro o ho hs
      exact busy_of_outstanding ho hs (List.mem_map_of_mem hcharge) hkey

def sentLast (s : Session) (c : Component) (n : Nat) : Bool :=
  match s.calls.getLast? with
  | some (.execute _ command _) => command.key == ResourceKey.methodCommand c n
  | _ => false

theorem installs_authorised_sample : ∃ log s call,
    Recorded log s ∧ Authorised (log ++ [(⟨s, .empty⟩, .turn)])
      (Move.turn.perform ⟨s, .empty⟩) call .drbd 1 := by
  let first : Desk := ⟨{ lackingSample with policy := .unattended }, .empty⟩
  let s := (first.performAll lackingMoves).session
  have hlog : Recorded (first.logAll lackingMoves) s :=
    ⟨_, _, .unattended, _, _, Logged.performAll (d := first) .nil lackingMoves⟩
  obtain ⟨hsends, -⟩ := installs_authorised hlog
  obtain ⟨made, hmade, hauthorised⟩ := hsends .empty .turn
  have hcount : (Move.turn.perform ⟨s, .empty⟩).session.calls.length = s.calls.length + 1 := by
    decide +kernel
  have hlast : (Move.turn.perform ⟨s, .empty⟩).session.sentLast .drbd 1 = true := by
    decide +kernel
  rw [hmade, List.length_append, Nat.add_left_cancel_iff] at hcount
  obtain ⟨call, rfl⟩ := List.length_eq_one_iff.mp hcount
  rw [sentLast, hmade, List.getLast?_concat] at hlast
  refine ⟨_, s, call, hlog, hauthorised call (List.mem_singleton_self call) .drbd 1 ?_⟩
  cases call with
  | connect target timeout => cases hlast
  | execute target command timeout => exact ⟨target, command, timeout, rfl, by simpa using hlast⟩

end Session

end ClusterSetup
