import ClusterSetup.Proofs.Guards.Restriction
import ClusterSetup.Proofs.Session.Histories

namespace ClusterSetup

open Relation (ReflTransGen)

theorem Step.enter_on (ctx : EnterContext) (g : Guards) (s : Step) :
    s.enter ctx (g.on ctx.host.id) =
      { s.enter ctx g with guards := (s.enter ctx g).guards.on ctx.host.id } := by
  rw [enter, enter]
  split
  · rfl
  split
  · rfl
  split
  · rfl
  · rw [enterProbe, enterProbe, Guards.acquireProbes_on]
    rcases g.acquireProbes ctx.host.id [] _ with ⟨e | taken, g'⟩
    · rfl
    · rfl
  · rw [enterInstall, enterInstall]
    split
    · rfl
    split
    · rfl
    rw [Guards.acquire_on]
    cases g.acquire ctx.host.id _ with
    | error e => rfl
    | ok g' => rfl
  · rfl

theorem Session.linkNext_host (s : Session) (id : StepId) : (s.linkNext id).host = s.host := by
  rw [linkNext]
  split
  · rfl
  · split <;> rfl

namespace Desk

/-- The desk with the guards of one host only. -/
def on (d : Desk) (host : HostId) : Desk := ⟨d.session, d.guards.on host⟩

/-- What is done at a desk comes out the same when only the guards of one host are there, and leaves
the others as they were. -/
def Confined {α : Type} (host : HostId) (act : Desk → α × Desk) (s : Session) (g : Guards) :
    Prop :=
  act ⟨s, g.on host⟩ = Prod.map id (·.on host) (act ⟨s, g⟩)

variable {host : HostId} {s : Session} {g : Guards}

theorem whenActive_confined {α : Type} {operation : Operation α}
    (h : Confined host operation s g) : Confined host (whenActive operation) s g := by
  rw [Confined, whenActive, whenActive]
  cases s.checkActive with
  | error e => rfl
  | ok _ => exact h

theorem next_confined (host : HostId) (s : Session) (g : Guards) : Confined host next s g := by
  refine whenActive_confined ?_
  rw [Confined]
  dsimp only
  rcases s.currentStep.next? with e | _ | n
  · rfl
  · rfl
  · rfl

theorem next_host (d : Desk) : (next d).2.session.host = d.session.host := by
  rw [next, whenActive]
  split
  · rfl
  · dsimp only
    split <;> rfl

theorem previous_confined : Confined host previous s g := by
  refine whenActive_confined ?_
  rw [Confined]
  dsimp only
  split
  · rfl
  · cases s.currentStep.previous <;> rfl

theorem join_confined (cluster : Cluster) : Confined host (join cluster) s g := by
  refine whenActive_confined ?_
  rw [Confined]
  dsimp only
  split
  · rfl
  · cases cluster.addHost s.host <;> rfl

theorem cancel_on (host : HostId) (s : Session) (g : Guards) :
    cancel ⟨s, g.on host⟩ = (cancel ⟨s, g⟩).on host := by
  rw [cancel, cancel]
  dsimp only
  split
  · rfl
  · rfl

section Guards

variable (hhost : s.host.id = host)
include hhost

theorem enterStep_confined (id : StepId) : Confined host (enterStep id) s g := by
  subst hhost
  rw [Confined, enterStep, enterStep]
  dsimp only
  cases s.steps[id]? with
  | none => rfl
  | some step =>
      have henter : step.enter s.enterContext (g.on s.host.id) = _ :=
        Step.enter_on s.enterContext g step
      dsimp only
      rw [henter]
      dsimp only
      cases (step.enter s.enterContext g).result with
      | error e => rfl
      | ok outcome => rfl

theorem enterCurrent_confined : Confined host enterCurrent s g := by
  have henter := enterStep_confined (g := g) hhost s.current
  rw [Confined] at henter ⊢
  rw [enterCurrent, enterCurrent]
  dsimp only
  rw [henter]
  rcases enterStep s.current ⟨s, g⟩ with ⟨e | outcome, d⟩
  · rfl
  · cases outcome <;> rfl

theorem enter_confined : Confined host enter s g :=
  whenActive_confined (enterCurrent_confined hhost)

theorem retry_confined : Confined host retry s g := by
  refine whenActive_confined ?_
  rw [Confined]
  dsimp only
  split
  · rfl
  split
  · exact enter_confined hhost
  · rfl

theorem setCredentials_confined (credentials : VendorCredentials) :
    Confined host (setCredentials credentials) s g := by
  have henter : Confined host enter { s with credentials := some credentials } g :=
    enter_confined hhost
  rw [Confined] at henter ⊢
  rw [setCredentials, setCredentials]
  dsimp only
  split
  · rw [henter]
    rcases enter ⟨{ s with credentials := some credentials }, g⟩ with ⟨e | outcome, d⟩
    · rfl
    · rfl
  · rfl

theorem startInstall_confined (c : Component) (method : Nat) :
    Confined host (startInstall c method) s g := by
  rw [Confined, startInstall, startInstall]
  dsimp only
  split
  · rfl
  cases (s.methods c).find? method with
  | none => rfl
  | some m =>
      cases s.currentStep.chooseInstall c method with
      | error e => rfl
      | ok step =>
          -- The install step is entered after a move, which has to be shown to keep the host.
          have hkept : ((s.setStep s.current step).linkNext s.current).host.id = host := by
            rw [Session.linkNext_host]
            exact hhost
          have hmoved := next_host ⟨(s.setStep s.current step).linkNext s.current, g⟩
          have hnext := next_confined host ((s.setStep s.current step).linkNext s.current) g
          rw [Confined] at hnext
          dsimp only
          rw [hnext]
          generalize next ⟨(s.setStep s.current step).linkNext s.current, g⟩ = moved at hmoved
          rcases moved with ⟨e | install, d⟩
          · rfl
          · have henter : enter (d.on host) = _ :=
              enter_confined ((congrArg Host.id hmoved).trans hkept)
            dsimp only [Prod.map, id]
            rw [henter]
            rcases enter d with ⟨e | outcome, d'⟩
            · rfl
            · rfl

theorem chooseInstall_confined (c : Component) (method : Nat) :
    Confined host (chooseInstall c method) s g := by
  have hstart := startInstall_confined (g := g) hhost c method
  refine whenActive_confined ?_
  rw [Confined] at hstart ⊢
  dsimp only
  rw [hstart]
  rcases startInstall c method ⟨s, g⟩ with ⟨e | install, d⟩
  · rfl
  · rfl

theorem turn_confined : Confined host turn s g := by
  have henter : enter ⟨s, g.on host⟩ = _ := enter_confined hhost
  have hnext : next ⟨s, g.on host⟩ = _ := next_confined host s g
  rw [Confined, turn, turn]
  dsimp only
  rw [henter, hnext]
  split
  · rfl
  split
  · rfl
  split
  · rcases enter ⟨s, g⟩ with ⟨e | outcome, d⟩
    · rfl
    · cases outcome <;> rfl
  split
  · rfl
  split
  · rfl
  split
  · split
    · rcases next ⟨s, g⟩ with ⟨e | n, d⟩
      · rfl
      · rfl
    · rfl
  rcases plannedInstall s with _ | ⟨c, _ | method⟩
  · rfl
  · rfl
  · have hchoose : chooseInstall c method ⟨s.counted c, g.on host⟩ = _ :=
      chooseInstall_confined (s := s.counted c) hhost c method
    dsimp only
    rw [← Session.counted, hchoose]
    rcases chooseInstall c method ⟨s.counted c, g⟩ with ⟨e | install, d⟩
    · rfl
    · rfl

end Guards

theorem countAttempt_on (host : HostId) (c : Component) (s : Session) (g : Guards) :
    countAttempt c ⟨s, g.on host⟩ = (countAttempt c ⟨s, g⟩).on host := by
  rw [countAttempt, countAttempt]
  dsimp only
  split
  · rfl
  · rfl

theorem answer_on (host : HostId) (place : Nat) (reply : Reply) (s : Session) (g : Guards) :
    answer place reply ⟨s, g.on host⟩ = (answer place reply ⟨s, g⟩).on host := by
  rw [answer, answer]
  dsimp only
  split
  · rfl
  · rfl

theorem receive_confined (result : ActionResult) : Confined host (receive result) s g := by
  rw [Confined, receive, receive]
  dsimp only
  rw [Guards.releaseAll_on]
  split
  · rfl
  · rfl

theorem read?_on (host : HostId) (s : Session) (g : Guards) :
    read? ⟨s, g.on host⟩ = (read? ⟨s, g⟩).map (Prod.map id (·.on host)) := by
  rw [read?, read?]
  dsimp only
  split
  · rfl
  · rename_i result rest harrived
    have hreceive : receive result ⟨{ s with arrived := rest }, g.on host⟩ = _ :=
      receive_confined result
    rw [hreceive]
    rfl

theorem readNext_on (host : HostId) (s : Session) (g : Guards) :
    readNext ⟨s, g.on host⟩ = (readNext ⟨s, g⟩).on host := by
  rw [readNext, readNext, read?_on]
  cases read? ⟨s, g⟩ with
  | none => rfl
  | some read => rfl

section Remote

variable {σ : Type} (remote : Remote σ)

theorem wait_on (host : HostId) (memory : σ) (s : Session) (g : Guards) :
    wait remote memory ⟨s, g.on host⟩ =
      Prod.map id (Prod.map id (·.on host)) (wait remote memory ⟨s, g⟩) := by
  rw [wait, wait]
  dsimp only
  split
  · rfl
  rcases s.awaitResult remote memory with ⟨_ | _, memory', t⟩
  · dsimp only
    rw [read?_on]
    cases read? ⟨t, g⟩ with
    | none => rfl
    | some read => rfl
  · rfl

theorem settleFor_on (host : HostId) (count : Nat) (memory : σ) (s : Session) (g : Guards) :
    settleFor remote count memory ⟨s, g.on host⟩ =
      Prod.map id (Prod.map id (·.on host)) (settleFor remote count memory ⟨s, g⟩) := by
  induction count generalizing memory s g with
  | zero => rfl
  | succ count ih =>
      rw [settleFor, settleFor, wait_on]
      dsimp only
      split
      · rcases wait remote memory ⟨s, g⟩ with ⟨_ | applied, memory', d⟩
        · rfl
        · exact ih memory' d.session d.guards
      · rfl

theorem runFor_on {host : HostId} (fuel pauses : Nat) (memory : σ) {s : Session} (g : Guards)
    (hvalid : s.Valid) (hhost : s.host.id = host) :
    runFor remote fuel pauses memory ⟨s, g.on host⟩ =
      Prod.map id (Prod.map id (Prod.map id (·.on host)))
        (runFor remote fuel pauses memory ⟨s, g⟩) := by
  induction fuel generalizing pauses memory s g with
  | zero => rfl
  | succ fuel ih =>
      -- Both runs take the same turn; as it keeps the host, they go on with the same guards.
      have hturn : turn ⟨s, g.on host⟩ = _ := turn_confined hhost
      have hlater : Session.Later s (turn ⟨s, g⟩).2.session :=
        .single (.of_desk (.move .turn ⟨s, g⟩))
      have hvalid' := hlater.valid hvalid
      have hhost' := (hlater.hostId_eq hvalid).trans hhost
      rw [runFor, runFor, hturn]
      generalize turn ⟨s, g⟩ = turned at hvalid' hhost' ⊢
      rcases turned with ⟨_ | _ | _, d⟩
      · rfl
      · have hsettle : settle remote memory (d.on host) = _ :=
          settleFor_on remote host d.session.inFlight memory d.session d.guards
        have hlater' : Session.Later d.session (settle remote memory d).2.2.session :=
          .single (.of_desk (.settle remote memory d))
        dsimp only [Prod.map, id]
        rw [hsettle, ← settle]
        generalize settle remote memory d = settled at hlater' ⊢
        rcases settled with ⟨_ | _, memory', d'⟩
        · exact ih pauses memory' d'.guards (hlater'.valid hvalid')
            ((hlater'.hostId_eq hvalid').trans hhost')
        · rfl
      · exact ih _ memory d.guards hvalid' hhost'

end Remote

theorem Deals.on_elsewhere {d d' : Desk} {host : HostId} (h : Deals d d')
    (haccounted : d.session.Accounted) (hother : d.session.host.id ≠ host) :
    d'.guards.on host = d.guards.on host := by
  have hown : ∀ key : ActionKey, ∀ guard ∈ key.guards d.session.host.id, guard.host ≠ host := by
    intro key guard hguard
    obtain ⟨c, -, rfl⟩ := List.mem_map.mp hguard
    exact hother
  cases h with
  | keeps charges_perm inFlight_eq guards_eq => rw [guards_eq]
  | takes tickets charges_perm inFlight_eq took =>
      refine took.on_elsewhere fun guard hguard => ?_
      obtain ⟨ticket, -, hguard⟩ := List.mem_flatMap.mp hguard
      exact hown ticket.key guard hguard
  | returns charge charges_perm inFlight_eq guards_eq =>
      have hcharge := haccounted.guarded charge (charges_perm.symm.subset List.mem_cons_self)
      rw [guards_eq, hcharge]
      exact Guards.releaseAll_on_elsewhere (hown charge.1.key)

theorem Becomes.on_elsewhere {d d' : Desk} {host : HostId} (h : Becomes d d')
    (hvalid : d.session.Valid) (hother : d.session.host.id ≠ host) :
    d'.guards.on host = d.guards.on host := by
  refine (h.induct (P := fun e => e.session.host.id = d.session.host.id ∧
    e.guards.on host = d.guards.on host) ?_ hvalid ⟨rfl, rfl⟩).1.2
  rintro e e' hvalid ⟨hhost, hguards⟩ hchange
  refine ⟨(hchange.hostId_eq hvalid.placed).trans hhost, ?_⟩
  rw [hchange.deals.on_elsewhere hvalid.accounted (by rwa [hhost]), hguards]

end Desk

end ClusterSetup
