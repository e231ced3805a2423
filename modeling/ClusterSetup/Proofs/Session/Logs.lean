import ClusterSetup.Proofs.Session.Histories

namespace ClusterSetup

open Relation (ReflTransGen)

def Desk.logAll (d : Desk) : List Move → List (Desk × Move)
  | [] => []
  | m :: moves => (d, m) :: (m.perform d).logAll moves

namespace Session

/-- The moves of a log make one session of another. Between two moves other sessions may have
changed the guards. -/
inductive Logged (first : Session) : List (Desk × Move) → Session → Prop
  | nil : Logged first [] first
  | snoc {log : List (Desk × Move)} {s : Session} (before : Logged first log s) (g : Guards)
      (m : Move) : Logged first (log ++ [(⟨s, g⟩, m)]) (m.perform ⟨s, g⟩).session

/-- A session with all that was done to it since it was new. -/
def Recorded (log : List (Desk × Move)) (s : Session) : Prop :=
  ∃ (host : Host) (resources : Resources) (policy : Policy) (options : SessionOptions)
    (credentials : Option VendorCredentials),
    Logged (.new host resources policy options credentials) log s

theorem Logged.later {first s : Session} {log : List (Desk × Move)} (h : Logged first log s) :
    Later first s := by
  induction h with
  | nil => exact .refl
  | snoc _ g m ih => exact ih.tail (.of_desk (.move m ⟨_, g⟩))

theorem Recorded.reachable {s : Session} {log : List (Desk × Move)} (h : Recorded log s) :
    s.Reachable := by
  obtain ⟨host, resources, policy, options, credentials, hlog⟩ := h
  exact ⟨host, resources, policy, options, credentials, hlog.later⟩

theorem Logged.append_moves {first s : Session} {log : List (Desk × Move)}
    (h : Logged first log s) {kind : Move → Prop} {g : Guards} {d : Desk}
    (hmoves : ReflTransGen (Desk.MovesBy kind) ⟨s, g⟩ d) :
    ∃ more, (∀ entry ∈ more, kind entry.2) ∧ Logged first (log ++ more) d.session := by
  induction hmoves with
  | refl => exact ⟨[], fun _ hentry => (nomatch hentry), by rwa [List.append_nil]⟩
  | @tail b c _ hmove ih =>
      obtain ⟨more, hkind, hlog⟩ := ih
      obtain ⟨m, hm, rfl⟩ := hmove
      refine ⟨more ++ [(b, m)], ?_, ?_⟩
      · intro entry hentry
        rcases List.mem_append.mp hentry with hold | hnew
        · exact hkind entry hold
        · rw [List.mem_singleton.mp hnew]
          exact hm
      · rw [← List.append_assoc]
        exact hlog.snoc b.guards m

theorem Logged.performAll {first : Session} {log : List (Desk × Move)} {d : Desk}
    (h : Logged first log d.session) (moves : List Move) :
    Logged first (log ++ d.logAll moves) (d.performAll moves).session := by
  induction moves generalizing log d with
  | nil => rwa [Desk.logAll, List.append_nil]
  | cons m moves ih =>
      have hrest := ih (h.snoc d.guards m)
      rwa [List.append_assoc] at hrest

theorem Logged.of_later {first s : Session} (h : Later first s) : ∃ log, Logged first log s := by
  induction h with
  | refl => exact ⟨[], .nil⟩
  | tail _ hbecomes ih =>
      obtain ⟨log, hlog⟩ := ih
      obtain ⟨g, g', hdesk⟩ := hbecomes
      have hmoves := ReflTransGen.mono
        (fun _ _ ⟨m, hm⟩ => (⟨m, trivial, hm⟩ : Desk.MovesBy (fun _ => True) _ _)) _ _ hdesk.moves
      obtain ⟨more, -, hmore⟩ := hlog.append_moves hmoves
      exact ⟨log ++ more, hmore⟩

theorem Reachable.recorded {s : Session} (h : s.Reachable) : ∃ log, Recorded log s := by
  obtain ⟨host, resources, policy, options, credentials, hlater⟩ := h
  obtain ⟨log, hlog⟩ := Logged.of_later hlater
  exact ⟨log, host, resources, policy, options, credentials, hlog⟩

theorem Recorded.snoc {s : Session} {log : List (Desk × Move)} (h : Recorded log s) (g : Guards)
    (m : Move) : Recorded (log ++ [(⟨s, g⟩, m)]) (m.perform ⟨s, g⟩).session := by
  obtain ⟨host, resources, policy, options, credentials, hlog⟩ := h
  exact ⟨host, resources, policy, options, credentials, hlog.snoc g m⟩

/-- What holds of every new session and is kept by every move holds of every session. -/
theorem Recorded.induct {P : List (Desk × Move) → Session → Prop}
    (opened : ∀ host resources policy options credentials,
      P [] (.new host resources policy options credentials))
    (keeps : ∀ {log s} (g : Guards) (m : Move), Recorded log s → P log s →
      P (log ++ [(⟨s, g⟩, m)]) (m.perform ⟨s, g⟩).session)
    {log : List (Desk × Move)} {s : Session} (h : Recorded log s) : P log s := by
  obtain ⟨host, resources, policy, options, credentials, hlog⟩ := h
  induction hlog with
  | nil => exact opened host resources policy options credentials
  | snoc before g m ih =>
      exact keeps g m ⟨host, resources, policy, options, credentials, before⟩ ih

theorem Recorded.of_mem {log : List (Desk × Move)} {s : Session} (h : Recorded log s)
    {entry : Desk × Move} (hentry : entry ∈ log) : entry.1.session.Reachable := by
  refine h.induct (P := fun log _ => ∀ entry ∈ log, entry.1.session.Reachable) ?_ ?_ entry hentry
  · intro host resources policy options credentials entry hentry
    cases hentry
  · intro log s g m hlog ih entry hentry
    rcases List.mem_append.mp hentry with hold | hnew
    · exact ih entry hold
    · rw [List.mem_singleton.mp hnew]
      exact hlog.reachable

end Session

end ClusterSetup
