import ClusterSetup.Proofs.Session.Confinement

namespace ClusterSetup

/-- What the caller of a move is told. -/
def Move.Result : Move → Type
  | enter | retry => Except Refusal EnterOutcome
  | next | chooseInstall _ _ => Except Refusal StepId
  | previous => Except Refusal (Option StepId)
  | setCredentials _ => Except Refusal (Option EnterOutcome)
  | join _ => Except Refusal Bool
  | read => Option (Option StepId)
  | turn => Turn
  | cancel | giveUp _ | answer _ _ => Unit

def Move.result : (m : Move) → Desk → m.Result
  | enter, d => d.enter.1
  | retry, d => d.retry.1
  | next, d => d.next.1
  | previous, d => d.previous.1
  | chooseInstall c method, d => (Desk.chooseInstall c method d).1
  | setCredentials credentials, d => (Desk.setCredentials credentials d).1
  | join cluster, d => (Desk.join cluster d).1
  | read, d => d.read?.map (·.1)
  | turn, d => d.turn.1
  | cancel, _ | giveUp _, _ | answer _ _, _ => ()

/-- A move, or waiting for a result, settling or running while a remote side answers. A run that
other sessions interrupt is a list of moves: its turns, the answers and the results it reads. -/
inductive Act : Type 1 where
  | move (m : Move)
  | wait {σ : Type} (remote : Remote σ) (memory : σ)
  | settle {σ : Type} (remote : Remote σ) (memory : σ)
  | run {σ : Type} (remote : Remote σ) (memory : σ)

namespace Act

def Result : Act → Type
  | move m => m.Result
  | @wait σ _ _ => Option (Option StepId) × σ
  | @settle σ _ _ => Waited × σ
  | @run σ _ _ => RunEnd × Nat × σ

def result : (a : Act) → Desk → a.Result
  | move m, d => m.result d
  | wait remote memory, d =>
    let (applied, memory, _) := d.wait remote memory
    (applied, memory)
  | settle remote memory, d =>
    let (waited, memory, _) := d.settle remote memory
    (waited, memory)
  | run remote memory, d =>
    let (ending, pauses, memory, _) := d.run remote memory
    (ending, pauses, memory)

def perform : Act → Desk → Desk
  | move m, d => m.perform d
  | wait remote memory, d => (d.wait remote memory).2.2
  | settle remote memory, d => (d.settle remote memory).2.2
  | run remote memory, d => (d.run remote memory).2.2.2

theorem becomes (a : Act) (d : Desk) : Desk.Becomes d (a.perform d) := by
  cases a with
  | move m => exact .move m d
  | wait remote memory => exact .wait remote memory d
  | settle remote memory => exact .settle remote memory d
  | run remote memory => exact .run remote memory d

theorem later (a : Act) (d : Desk) : Session.Later d.session (a.perform d).session :=
  .single (.of_desk (a.becomes d))

end Act

section Confinement

variable {host : HostId} {s : Session} {g : Guards}

theorem Desk.Confined.same {α : Type} {act : Desk → α × Desk} (h : Confined host act s g) :
    (act ⟨s, g.on host⟩).1 = (act ⟨s, g⟩).1 ∧
      (act ⟨s, g.on host⟩).2 = (act ⟨s, g⟩).2.on host := by
  rw [h]
  exact ⟨rfl, rfl⟩

theorem Move.same_on (m : Move) (hhost : s.host.id = host) :
    m.result ⟨s, g.on host⟩ = m.result ⟨s, g⟩ ∧
      m.perform ⟨s, g.on host⟩ = (m.perform ⟨s, g⟩).on host := by
  cases m with
  | enter => exact (Desk.enter_confined hhost).same
  | retry => exact (Desk.retry_confined hhost).same
  | next => exact (Desk.next_confined host s g).same
  | previous => exact Desk.previous_confined.same
  | chooseInstall c method => exact (Desk.chooseInstall_confined hhost c method).same
  | setCredentials credentials => exact (Desk.setCredentials_confined hhost credentials).same
  | join cluster => exact (Desk.join_confined cluster).same
  | cancel => exact ⟨rfl, Desk.cancel_on host s g⟩
  | read =>
      refine ⟨?_, Desk.readNext_on host s g⟩
      rw [result, Desk.read?_on, Option.map_map]
      rfl
  | turn => exact (Desk.turn_confined hhost).same
  | giveUp c => exact ⟨rfl, Desk.countAttempt_on host c s g⟩
  | answer place reply => exact ⟨rfl, Desk.answer_on host place reply s g⟩

/-- Whatever is done with a session comes out the same when the guards of all other hosts are left
out. -/
theorem Act.same_on (a : Act) (hvalid : s.Valid) (hhost : s.host.id = host) :
    a.result ⟨s, g.on host⟩ = a.result ⟨s, g⟩ ∧
      a.perform ⟨s, g.on host⟩ = (a.perform ⟨s, g⟩).on host := by
  cases a with
  | move m => exact m.same_on hhost
  | wait remote memory =>
      rw [result, result, perform, perform, Desk.wait_on]
      exact ⟨rfl, rfl⟩
  | settle remote memory =>
      rw [result, result, perform, perform, Desk.settle, Desk.settle, Desk.settleFor_on]
      exact ⟨rfl, rfl⟩
  | run remote memory =>
      rw [result, result, perform, perform, Desk.run, Desk.run,
        Desk.runFor_on remote _ 0 memory g hvalid hhost]
      exact ⟨rfl, rfl⟩

end Confinement

/-- What was done with a session, what the caller was told and how the session was afterwards. -/
structure Occurrence : Type 1 where
  act : Act
  result : act.Result
  session : Session

namespace Desk

def occurrences (d : Desk) : List Act → List Occurrence
  | [] => []
  | a :: acts => ⟨a, a.result d, (a.perform d).session⟩ :: (a.perform d).occurrences acts

def actAll (d : Desk) (acts : List Act) : Desk := acts.foldl (fun d a => a.perform d) d

end Desk

end ClusterSetup
