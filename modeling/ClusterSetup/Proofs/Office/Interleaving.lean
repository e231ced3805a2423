import ClusterSetup.Proofs.Office
import ClusterSetup.Proofs.Session.Acts

/-!
Sessions on different hosts do not interfere. Each session sees no guards but those of its own host,
and what the others do leaves these alone, so that from the shared registry it is told what it would
be told if it had one to itself.
-/

namespace ClusterSetup.Office

def act (o : Office) (i : Nat) (a : Act) : Office :=
  match o.sessions[i]? with
  | none => o
  | some s =>
    let d := a.perform ⟨s, o.guards⟩
    ⟨o.sessions.set i d.session, d.guards⟩

/-- What a script of acts makes of the sessions. An act names the session with which it is done. -/
def actAll (o : Office) (script : List (Nat × Act)) : Office :=
  script.foldl (fun o (i, a) => o.act i a) o

/-- What occurs with one of the sessions in the course of a script. -/
def occurrences (o : Office) (i : Nat) : List (Nat × Act) → List Occurrence
  | [] => []
  | (j, a) :: script =>
    let now := o.sessions[i]?.map fun s =>
      let d : Desk := ⟨s, o.guards⟩
      (⟨a, a.result d, (a.perform d).session⟩ : Occurrence)
    if j = i then now.toList ++ (o.act j a).occurrences i script
    else (o.act j a).occurrences i script

def ownActs (i : Nat) (script : List (Nat × Act)) : List Act :=
  (script.filter (·.1 = i)).map (·.2)

/-- The sessions are new, no two of them are about the same host, and no guard is held. -/
structure Fresh (o : Office) : Prop where
  isNew : ∀ s ∈ o.sessions, ∃ (host : Host) (resources : Resources) (policy : Policy)
    (options : SessionOptions) (credentials : Option VendorCredentials),
      s = .new host resources policy options credentials
  nodup : (o.sessions.map (·.host.id)).Nodup
  guards_eq : o.guards = .empty

structure Apart (o : Office) : Prop where
  valid : ∀ s ∈ o.sessions, s.Valid
  nodup : (o.sessions.map (·.host.id)).Nodup

/-- What one of the sessions can see: itself, and the guards of its own host. -/
def view (o : Office) (i : Nat) : Option Desk :=
  o.sessions[i]?.map fun s => ⟨s, o.guards.on s.host.id⟩

variable {o : Office} {i j : Nat} {s : Session} {d : Desk}

theorem act_of_session (hs : o.sessions[i]? = some s) (a : Act) :
    o.act i a = ⟨o.sessions.set i (a.perform ⟨s, o.guards⟩).session,
      (a.perform ⟨s, o.guards⟩).guards⟩ := by
  simp [act, hs]

theorem Fresh.apart (h : o.Fresh) : o.Apart where
  valid := by
    intro s hs
    obtain ⟨host, resources, policy, options, credentials, rfl⟩ := h.isNew s hs
    exact Session.new_valid host resources policy options credentials
  nodup := h.nodup

theorem Fresh.view (h : o.Fresh) (hs : o.sessions[i]? = some s) :
    o.view i = some ⟨s, .empty⟩ := by
  rw [Office.view, hs, h.guards_eq]
  rfl

theorem Apart.host_ne (h : o.Apart) {t : Session} (hs : o.sessions[i]? = some s)
    (ht : o.sessions[j]? = some t) (hij : i ≠ j) : s.host.id ≠ t.host.id := by
  intro heq
  obtain ⟨hi, rfl⟩ := List.getElem?_eq_some_iff.mp hs
  obtain ⟨hj, rfl⟩ := List.getElem?_eq_some_iff.mp ht
  have hi' : i < (o.sessions.map (·.host.id)).length := by simpa using hi
  have hj' : j < (o.sessions.map (·.host.id)).length := by simpa using hj
  have hsame : (o.sessions.map (·.host.id))[i] = (o.sessions.map (·.host.id))[j] := by
    simpa using heq
  exact hij (h.nodup.getElem_inj_iff.mp hsame)

theorem hostIds_set {sessions : List Session} {t : Session} (hs : sessions[i]? = some s)
    (hhost : t.host.id = s.host.id) :
    (sessions.set i t).map (·.host.id) = sessions.map (·.host.id) := by
  obtain ⟨hid, rfl⟩ := List.getElem?_eq_some_iff.mp hs
  rw [List.map_set, hhost, ← List.map_set, List.set_getElem_self]

theorem Apart.act (h : o.Apart) (i : Nat) (a : Act) : (o.act i a).Apart := by
  cases hs : o.sessions[i]? with
  | none =>
      have hnothing : o.act i a = o := by simp [Office.act, hs]
      rw [hnothing]
      exact h
  | some s =>
      have hvalid := h.valid s (List.mem_of_getElem? hs)
      have hlater := a.later ⟨s, o.guards⟩
      rw [act_of_session hs]
      constructor
      · intro t ht
        rcases List.mem_or_eq_of_mem_set ht with hold | rfl
        · exact h.valid t hold
        · exact hlater.valid hvalid
      · rw [hostIds_set hs (hlater.hostId_eq hvalid)]
        exact h.nodup

/-- A session goes on in its own view as it does at the shared registry. -/
theorem Apart.view_act_self (h : o.Apart) (hs : o.sessions[i]? = some s) (a : Act) :
    (o.act i a).view i = some (a.perform ⟨s, o.guards.on s.host.id⟩) := by
  have hvalid := h.valid s (List.mem_of_getElem? hs)
  have hhost := (a.later ⟨s, o.guards⟩).hostId_eq hvalid
  have hid := (List.getElem?_eq_some_iff.mp hs).1
  rw [act_of_session hs, view, List.getElem?_set_self hid, Option.map_some, hhost,
    (a.same_on hvalid rfl).2]
  rfl

theorem Apart.view_act_of_ne (h : o.Apart) (hij : j ≠ i) (a : Act) :
    (o.act j a).view i = o.view i := by
  cases ht : o.sessions[j]? with
  | none => simp [Office.act, ht]
  | some t =>
      have hvalid := h.valid t (List.mem_of_getElem? ht)
      rw [act_of_session ht, view, view, List.getElem?_set_ne hij]
      cases hs : o.sessions[i]? with
      | none => rfl
      | some s =>
          have helsewhere := (a.becomes ⟨t, o.guards⟩).on_elsewhere hvalid (h.host_ne ht hs hij)
          dsimp only [Option.map_some]
          rw [helsewhere]

theorem ownActs_cons_self (i : Nat) (a : Act) (script : List (Nat × Act)) :
    ownActs i ((i, a) :: script) = a :: ownActs i script := by
  simp [ownActs]

theorem ownActs_cons_of_ne (hij : j ≠ i) (a : Act) (script : List (Nat × Act)) :
    ownActs i ((j, a) :: script) = ownActs i script := by
  simp [ownActs, hij]

theorem Apart.view_actAll (h : o.Apart) (hview : o.view i = some d)
    (script : List (Nat × Act)) :
    o.occurrences i script = d.occurrences (ownActs i script) ∧
      (o.actAll script).view i = some (d.actAll (ownActs i script)) := by
  induction script generalizing o d with
  | nil => exact ⟨rfl, hview⟩
  | cons entry script ih =>
      obtain ⟨j, a⟩ := entry
      -- An own act brings the view on as it does the desk alone; any other act leaves both.
      by_cases hij : j = i
      · subst hij
        obtain ⟨s, hs, rfl⟩ := Option.map_eq_some_iff.mp hview
        have hvalid := h.valid s (List.mem_of_getElem? hs)
        obtain ⟨hresult, hperform⟩ := a.same_on (g := o.guards) hvalid rfl
        obtain ⟨hoccurs, hlast⟩ := ih (h.act j a) (h.view_act_self hs a)
        rw [ownActs_cons_self]
        refine ⟨?_, hlast⟩
        rw [occurrences, if_pos rfl, hs, hoccurs, Desk.occurrences, hresult]
        dsimp only [Option.map_some, Option.toList_some, List.cons_append, List.nil_append]
        rw [hperform]
        rfl
      · obtain ⟨hoccurs, hlast⟩ := ih (h.act j a) ((h.view_act_of_ne hij a).trans hview)
        rw [ownActs_cons_of_ne hij]
        refine ⟨?_, hlast⟩
        rw [occurrences, if_neg hij, hoccurs]

/-- However the acts of sessions on different hosts are interleaved, each session is told the same
and goes through the same states, its calls and events among them, as if its own acts were done
alone with a registry of its own. -/
theorem sessions_do_not_interfere (hfresh : o.Fresh) (script : List (Nat × Act))
    (hs : o.sessions[i]? = some s) :
    let alone : Desk := ⟨s, .empty⟩
    o.occurrences i script = alone.occurrences (ownActs i script) ∧
      (o.actAll script).view i = some (alone.actAll (ownActs i script)) :=
  hfresh.apart.view_actAll (hfresh.view hs) script

def neighbour : Session :=
  .new { Host.new ⟨2⟩ "beta" "10.0.0.2" with connectivity := .connected } Session.sample.resources

/-- The neighbour is entered while the other session works on its own host, and is canceled before
its results are read. -/
def separateScript : List (Nat × Act) :=
  [(0, .move .enter), (1, .move .enter), (0, .move (.printed "8.4")),
    (1, .move .cancel), (1, .move (.answer 0 (.answered (.error (.connectionLost "reset"))))),
    (0, .move .read), (1, .move .read)]

theorem sessions_do_not_interfere_sample :
    let o : Office := ⟨[Session.sample, neighbour], .empty⟩
    let alone : Desk := ⟨neighbour, .empty⟩
    let own : List Act := [.move .enter, .move .cancel,
      .move (.answer 0 (.answered (.error (.connectionLost "reset")))), .move .read]
    o.occurrences 1 separateScript = alone.occurrences own ∧
      (o.actAll separateScript).view 1 = some (alone.actAll own) ∧
      (o.actAll separateScript).guards ≠ (alone.actAll own).guards := by
  intro o alone own
  have hfresh : o.Fresh := by
    refine ⟨?_, by decide, rfl⟩
    intro s hs
    rcases List.mem_pair.mp hs with rfl | rfl
    · exact ⟨_, _, _, _, _, rfl⟩
    · exact ⟨_, _, _, _, _, rfl⟩
  obtain ⟨hoccurs, hview⟩ := sessions_do_not_interfere (i := 1) hfresh separateScript rfl
  exact ⟨hoccurs, hview, by decide +kernel⟩

end ClusterSetup.Office
