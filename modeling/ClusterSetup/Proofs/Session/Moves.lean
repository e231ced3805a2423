import Mathlib.Logic.Relation
import ClusterSetup.Session.Run

/-!
The histories of a session. Waiting, settling and running, whatever the remote side does, come down
to moves: calls of operations, results that are read, turns of a run and replies of the remote
side. Between any two moves other sessions may have taken guards or given them back.
-/

namespace ClusterSetup

/-- What can happen to a session at one moment. -/
inductive Move where
  | enter
  | retry
  | next
  | previous
  | chooseInstall (c : Component) (method : Nat)
  | setCredentials (credentials : VendorCredentials)
  | join (cluster : Cluster)
  | cancel
  /-- The oldest result that has arrived is read. -/
  | read
  /-- A run takes one turn. -/
  | turn
  /-- A run has counted an install and is given up in the pause before it. -/
  | giveUp (c : Component)
  /-- The remote side replies to one of the running actions. -/
  | answer (place : Nat) (reply : Reply)

namespace Move

def found (addresses : List String) : Move := .answer 0 (.lookedUp (.found addresses))

def printed (text : String) : Move := .answer 0 (.answered (.ok ⟨text, 0⟩))

end Move

namespace Desk

/-- Counts an install of the policy, if the session is neither canceled nor finished. -/
def countAttempt (c : Component) (d : Desk) : Desk :=
  match d.session.checkActive with
  | .error _ => d
  | .ok () =>
    let s := d.session
    { d with session := { s with attempts := s.attempts.set c (s.attempts.get c + 1) } }

/-- Lets the remote side reply to one of the running actions. -/
def answer (place : Nat) (reply : Reply) (d : Desk) : Desk :=
  match d.session.advance? place reply with
  | none => d
  | some s => { d with session := s }

def readNext (d : Desk) : Desk :=
  match d.read? with
  | none => d
  | some (_, d) => d

end Desk

/-- What a move makes of a session and of the guards. -/
def Move.perform : Move → Desk → Desk
  | enter, d => d.enter.2
  | retry, d => d.retry.2
  | next, d => d.next.2
  | previous, d => d.previous.2
  | chooseInstall c method, d => (Desk.chooseInstall c method d).2
  | setCredentials credentials, d => (Desk.setCredentials credentials d).2
  | join cluster, d => (Desk.join cluster d).2
  | cancel, d => d.cancel
  | read, d => d.readNext
  | turn, d => d.turn.2
  | giveUp c, d => d.countAttempt c
  | answer place reply, d => d.answer place reply

inductive Move.Hears : Move → Prop
  | read : Hears .read
  | answer (place : Nat) (reply : Reply) : Hears (.answer place reply)

/-- The moves by which an install can be chosen. -/
inductive Move.Picks (c : Component) (n : Nat) : Move → Prop
  | chooseInstall : Picks c n (.chooseInstall c n)
  | turn : Picks c n .turn

theorem Move.Picks.not_hears {c : Component} {n : Nat} {m : Move} (h : m.Picks c n) :
    ¬ m.Hears := by
  cases h <;> nofun

inductive Move.Runs : Move → Prop
  | turn : Runs .turn
  | hears {m : Move} (h : m.Hears) : Runs m

namespace Desk

def Moves (d d' : Desk) : Prop := ∃ m : Move, m.perform d = d'

def MovesBy (kind : Move → Prop) (d d' : Desk) : Prop := ∃ m : Move, kind m ∧ m.perform d = d'

def performAll (d : Desk) (moves : List Move) : Desk := moves.foldl (fun d m => m.perform d) d

/-- One desk becomes another by a move, or by waiting for a result, settling or running while a
remote side answers. -/
inductive Becomes : Desk → Desk → Prop
  | move (m : Move) (d : Desk) : Becomes d (m.perform d)
  | wait {σ : Type} (remote : Remote σ) (memory : σ) (d : Desk) :
      Becomes d (d.wait remote memory).2.2
  | settle {σ : Type} (remote : Remote σ) (memory : σ) (d : Desk) :
      Becomes d (d.settle remote memory).2.2
  | run {σ : Type} (remote : Remote σ) (memory : σ) (d : Desk) :
      Becomes d (d.run remote memory).2.2.2

end Desk

namespace Session

/-- One session becomes another at one moment, whatever guards are held at that moment. -/
def Becomes (s t : Session) : Prop := ∃ g g' : Guards, Desk.Becomes ⟨s, g⟩ ⟨t, g'⟩

/-- One session becomes another in the course of time. -/
def Later : Session → Session → Prop := Relation.ReflTransGen Becomes

/-- A session that a new one becomes in the course of time. -/
def Reachable (t : Session) : Prop :=
  ∃ (host : Host) (resources : Resources) (policy : Policy) (options : SessionOptions)
    (credentials : Option VendorCredentials),
    Later (.new host resources policy options credentials) t

theorem Becomes.of_desk {d d' : Desk} (h : Desk.Becomes d d') : Becomes d.session d'.session :=
  ⟨d.guards, d'.guards, h⟩

theorem Later.of_moves (d : Desk) (moves : List Move) :
    Later d.session (d.performAll moves).session := by
  induction moves generalizing d with
  | nil => exact .refl
  | cons m moves ih => exact .head (.of_desk (.move m d)) (ih (m.perform d))

/-- The session of a host that can be reached and has every component. -/
def sample : Session :=
  .new { Host.new ⟨1⟩ "alpha" "10.0.0.1" with connectivity := .connected }
    (.ofTable ⟨[⟨"", ResourceKey.storageProbe, "drbd"⟩, ⟨"", ResourceKey.stackProbe, "stack"⟩]⟩)

def sampleMoves : List Move :=
  [.enter, .printed "8.4", .printed "hb: 3.0", .read, .read, .next, .enter]

def samplePlayed (count : Nat) : Session :=
  (Desk.performAll ⟨sample, .empty⟩ (sampleMoves.take count)).session

theorem samplePlayed_reachable (count : Nat) : Reachable (samplePlayed count) :=
  ⟨_, _, _, _, _, Later.of_moves ⟨sample, .empty⟩ (sampleMoves.take count)⟩

/-- The session of a host that can be reached, for which there is one way to install storage. -/
def lackingSample : Session :=
  .new { Host.new ⟨1⟩ "alpha" "10.0.0.1" with connectivity := .connected }
    (.ofTable ⟨[⟨"", ResourceKey.storageProbe, "drbd"⟩, ⟨"", ResourceKey.stackProbe, "stack"⟩,
      ⟨"", ResourceKey.methodLabel .drbd 1, "packages"⟩,
      ⟨"", ResourceKey.methodCommand .drbd 1, "install drbd"⟩]⟩)

def lackingMoves : List Move :=
  [.enter, .printed "", .printed "hb: 3.0", .read, .read]

def lackingPlayed (count : Nat) : Session :=
  (Desk.performAll ⟨lackingSample, .empty⟩ (lackingMoves.take count)).session

theorem lackingPlayed_reachable (count : Nat) : Reachable (lackingPlayed count) :=
  ⟨_, _, _, _, _, Later.of_moves ⟨lackingSample, .empty⟩ (lackingMoves.take count)⟩

/-- The session of a host that lacks storage, which is only to be had with credentials. -/
def vendorSample : Session :=
  .new { Host.new ⟨1⟩ "alpha" "10.0.0.1" with connectivity := .connected }
    (.ofTable ⟨[⟨"", ResourceKey.storageProbe, "drbd"⟩, ⟨"", ResourceKey.stackProbe, "stack"⟩,
      ⟨"", ResourceKey.methodLabel .drbd 1, "packages"⟩,
      ⟨"", ResourceKey.methodTag .drbd 1, "vendor-repository"⟩,
      ⟨"", ResourceKey.methodCommand .drbd 1, "install drbd"⟩]⟩)

theorem Reachable.later {s t : Session} (hs : Reachable s) (h : Later s t) : Reachable t := by
  obtain ⟨host, resources, policy, options, credentials, hnew⟩ := hs
  exact ⟨host, resources, policy, options, credentials, hnew.trans h⟩

end Session

namespace Desk

open Relation (ReflTransGen)

theorem MovesBy.moves {kind : Move → Prop} {d d' : Desk} (h : MovesBy kind d d') : Moves d d' := by
  obtain ⟨m, -, hm⟩ := h
  exact ⟨m, hm⟩

theorem MovesBy.mono {kind wider : Move → Prop} (hkind : ∀ {m}, kind m → wider m) {d d' : Desk}
    (h : MovesBy kind d d') : MovesBy wider d d' := by
  obtain ⟨m, hm, hperform⟩ := h
  exact ⟨m, hkind hm, hperform⟩

theorem awaitResultFor_hears {σ : Type} (remote : Remote σ) (fuel : Nat) (memory : σ)
    (s : Session) (g : Guards) :
    ReflTransGen (MovesBy Move.Hears) ⟨s, g⟩ ⟨(s.awaitResultFor remote fuel memory).2.2, g⟩ := by
  induction fuel generalizing memory s with
  | zero => exact .refl
  | succ fuel ih =>
      rw [Session.awaitResultFor]
      split
      · split
        · exact .refl
        · rename_i place reply memory' _
          split
          · exact .refl
          · rename_i t hadvance
            have hmove : MovesBy Move.Hears ⟨s, g⟩ ⟨t, g⟩ :=
              ⟨.answer place reply, .answer place reply, by simp [Move.perform, answer, hadvance]⟩
            exact .head hmove (ih memory' t)
      · exact .refl

theorem wait_hears {σ : Type} (remote : Remote σ) (memory : σ) (d : Desk) :
    ReflTransGen (MovesBy Move.Hears) d (d.wait remote memory).2.2 := by
  obtain ⟨s, g⟩ := d
  have hawait := awaitResultFor_hears remote s.repliesLeft memory s g
  rw [wait]
  split
  · exact .refl
  · split
    · rename_i memory' t heq
      rw [← Session.awaitResult, heq] at hawait
      exact hawait
    · rename_i memory' t heq
      rw [← Session.awaitResult, heq] at hawait
      split
      · rename_i applied d' hread
        exact hawait.tail ⟨.read, .read, by simp [Move.perform, readNext, hread]⟩
      · exact hawait

theorem settleFor_hears {σ : Type} (remote : Remote σ) (count : Nat) (memory : σ) (d : Desk) :
    ReflTransGen (MovesBy Move.Hears) d (d.settleFor remote count memory).2.2 := by
  induction count generalizing memory d with
  | zero => exact .refl
  | succ count ih =>
      have hwait := wait_hears remote memory d
      rw [settleFor]
      split
      · split
        · rename_i memory' d' heq
          rw [heq] at hwait
          exact hwait
        · rename_i applied memory' d' heq
          rw [heq] at hwait
          exact hwait.trans (ih memory' d')
      · exact .refl

theorem runFor_runs {σ : Type} (remote : Remote σ) (fuel pauses : Nat) (memory : σ) (d : Desk) :
    ReflTransGen (MovesBy Move.Runs) d (d.runFor remote fuel pauses memory).2.2.2 := by
  induction fuel generalizing pauses memory d with
  | zero => exact .refl
  | succ fuel ih =>
      have hturn : MovesBy Move.Runs d d.turn.2 := ⟨.turn, .turn, rfl⟩
      rw [runFor]
      split
      · rename_i reason paused d' heq
        rw [heq] at hturn
        exact .single hturn
      · rename_i paused d' heq
        rw [heq] at hturn
        exact .head hturn (ih _ memory d')
      · rename_i d' heq
        rw [heq] at hturn
        have hsettle : ReflTransGen (MovesBy Move.Runs) d' (d'.settle remote memory).2.2 :=
          ReflTransGen.mono (fun _ _ h => h.mono .hears) _ _
            (settleFor_hears remote d'.session.inFlight memory d')
        split
        · rename_i memory' d'' heq'
          rw [heq'] at hsettle
          exact .head hturn hsettle
        · rename_i memory' d'' heq'
          rw [heq'] at hsettle
          exact .head hturn (hsettle.trans (ih pauses memory' d''))

/-- Waiting, settling and running come down to moves. -/
theorem Becomes.moves {d d' : Desk} (h : Becomes d d') : ReflTransGen Moves d d' := by
  have hmoves : ∀ {kind : Move → Prop} {e e' : Desk}, ReflTransGen (MovesBy kind) e e' →
      ReflTransGen Moves e e' :=
    fun h => ReflTransGen.mono (fun _ _ => MovesBy.moves) _ _ h
  cases h with
  | move m => exact .single ⟨m, rfl⟩
  | wait remote memory => exact hmoves (wait_hears remote memory d)
  | settle remote memory => exact hmoves (settleFor_hears remote d.session.inFlight memory d)
  | run remote memory => exact hmoves (runFor_runs remote (turnLimit d.session) 0 memory d)

end Desk

end ClusterSetup
