import ClusterSetup.Proofs.Session.Calls
import ClusterSetup.Proofs.Session.Outstanding

namespace ClusterSetup

/-- What a remote side says to what it is asked, by the number of times it was asked with the same
key before. -/
structure Responses where
  lookUp : Nat → HostTarget → Duration → Lookup
  answer : String → Nat → RemoteCall → CallAnswer

def Responses.reply (r : Responses) (counts : String → Nat) (inquiry : Option Inquiry) : Reply :=
  .to (fun target timeout =>
      r.lookUp (counts (Inquiry.lookUp target timeout).scriptKey) target timeout)
    (fun call => r.answer call.scriptKey (counts call.scriptKey) call) inquiry

def asked (counts : String → Nat) : Option Inquiry → String → Nat
  | none => counts
  | some inquiry => Function.update counts inquiry.scriptKey (counts inquiry.scriptKey + 1)

theorem asked_of_ne {counts : String → Nat} {inquiry : Option Inquiry} {key : String}
    (h : ∀ asks, inquiry = some asks → asks.scriptKey ≠ key) :
    asked counts inquiry key = counts key := by
  cases inquiry with
  | none => rfl
  | some asks => exact Function.update_of_ne (h asks rfl).symm _ _

theorem asked_comm {counts : String → Nat} {inquiry inquiry' : Option Inquiry}
    (h : ∀ asks asks', inquiry = some asks → inquiry' = some asks' →
      asks.scriptKey ≠ asks'.scriptKey) :
    asked (asked counts inquiry) inquiry' = asked (asked counts inquiry') inquiry := by
  cases inquiry with
  | none => rfl
  | some asks =>
      cases inquiry' with
      | none => rfl
      | some asks' =>
          have hne := h asks asks' rfl rfl
          simp only [asked, Function.update_of_ne hne, Function.update_of_ne hne.symm]
          exact Function.update_comm hne _ _ _

/-- A remote side that brings one of the running actions on as long as there are any. What it says
depends on what it is asked and on the number of times it was asked with the same key before. -/
structure Remote.Replies {σ : Type} (remote : Remote σ) (responses : Responses)
    (count : σ → String → Nat) : Prop where
  answers : ∀ memory running, running ≠ [] → ∃ place action reply memory',
    running[place]? = some action ∧
    remote.answer memory running = (some (place, reply), memory') ∧
    (∀ inquiry, action.work.inquiry? = some inquiry →
      reply = responses.reply (count memory) (some inquiry)) ∧
    count memory' = asked (count memory) action.work.inquiry?

namespace RunningAction

theorem advance?_of_idle {a : RunningAction} (h : a.work.inquiry? = none) (reply reply' : Reply) :
    a.advance? reply = a.advance? reply' := by
  obtain ⟨step, generation, key, work, guards⟩ := a
  cases work with
  | settled outcome => rfl
  | _ => cases h

theorem ticket_of_advance? {a : RunningAction} {reply : Reply} {r : ActionResult}
    (h : a.advance? reply = some (.inr r)) : r.ticket = a.ticket := by
  obtain ⟨work, -, hmoved⟩ := Option.map_eq_some_iff.mp h
  cases work with
  | settled outcome =>
      cases hmoved
      rfl
  | _ => cases hmoved

def answered (a : RunningAction) (responses : Responses) (counts : String → Nat) :
    Option (RunningAction ⊕ ActionResult) :=
  a.advance? (responses.reply counts a.work.inquiry?)

theorem answered_congr {a : RunningAction} (responses : Responses) {counts counts' : String → Nat}
    (h : ∀ inquiry, a.work.inquiry? = some inquiry →
      counts' inquiry.scriptKey = counts inquiry.scriptKey) :
    a.answered responses counts' = a.answered responses counts := by
  rw [answered, answered]
  match hinquiry : a.work.inquiry? with
  | none => rfl
  | some (.lookUp target timeout) =>
      rw [Responses.reply, Responses.reply, Reply.to, Reply.to, h _ hinquiry]
  | some (.call call) =>
      have hcount : counts' call.scriptKey = counts call.scriptKey := h _ hinquiry
      rw [Responses.reply, Responses.reply, Reply.to, Reply.to, hcount]

theorem Apt.answered_probe {a : RunningAction} (h : a.Apt) {p : ProbeTarget}
    (hkey : a.key = .probe p) (responses : Responses) (counts : String → Nat) :
    ∃ r, a.answered responses counts = some (.inr r) := by
  obtain ⟨next, hnext⟩ := Work.exists_proceed? (Reply.to_isTo _ _ a.work.inquiry?)
  by_cases hsettled : ∃ outcome, next = .settled outcome
  · obtain ⟨outcome, rfl⟩ := hsettled
    refine ⟨a.result outcome, ?_⟩
    rw [answered, advance?, Responses.reply, hnext]
    rfl
  · have hconnect := (h.proceeds (.of_proceed? hnext) (not_exists.mp hsettled)).2.1
    rw [hkey] at hconnect
    cases hconnect

end RunningAction

section Replies

variable {σ : Type} {remote : Remote σ} {responses : Responses} {count : σ → String → Nat}

theorem Remote.Replies.advance (h : remote.Replies responses count) (memory : σ) {s : Session}
    (hrunning : s.running ≠ []) : ∃ place action memory', s.running[place]? = some action ∧
      count memory' = asked (count memory) action.work.inquiry? ∧
      ∃ reply, remote.answer memory s.running = (some (place, reply), memory') ∧
        action.advance? reply = action.answered responses (count memory) := by
  obtain ⟨place, action, reply, memory', haction, hanswer, hreply, hcount⟩ :=
    h.answers memory s.running hrunning
  refine ⟨place, action, memory', haction, hcount, reply, hanswer, ?_⟩
  rw [RunningAction.answered]
  cases hinquiry : action.work.inquiry? with
  | none => exact RunningAction.advance?_of_idle hinquiry _ _
  | some inquiry => rw [hreply inquiry hinquiry]

theorem Remote.Replies.advance_single (h : remote.Replies responses count) (memory : σ)
    {s : Session} {a : RunningAction} (hrunning : s.running = [a]) : ∃ reply memory',
      remote.answer memory s.running = (some (0, reply), memory') ∧
      a.advance? reply = a.answered responses (count memory) ∧
      count memory' = asked (count memory) a.work.inquiry? := by
  have hany : s.running ≠ [] := by
    rw [hrunning]
    exact List.cons_ne_nil _ _
  obtain ⟨place, action, memory', haction, hcount, reply, hanswer, hreply⟩ := h.advance memory hany
  rw [hrunning] at haction
  obtain rfl : place = 0 := Nat.lt_one_iff.mp (List.getElem?_eq_some_iff.mp haction).1
  obtain rfl : a = action := Option.some.inj haction
  exact ⟨reply, memory', hanswer, hreply, hcount⟩

theorem Remote.Replies.answers_all (h : remote.Replies responses count) : remote.Answers := by
  intro memory running hrunning
  obtain ⟨place, action, reply, memory', haction, hanswer, hreply, -⟩ :=
    h.answers memory running hrunning
  refine ⟨place, action, reply, memory', hanswer, haction, ?_⟩
  cases hinquiry : action.work.inquiry? with
  | none => exact .idle reply
  | some inquiry =>
      rw [hreply inquiry hinquiry]
      exact Reply.to_isTo _ _ _

end Replies

namespace Session

theorem advance?_congr {s : Session} {place : Nat} {a : RunningAction} {reply reply' : Reply}
    (ha : s.running[place]? = some a) (hsame : a.advance? reply = a.advance? reply') :
    s.advance? place reply = s.advance? place reply' := by
  simp only [advance?, ha, Option.bind_some, hsame]

theorem advance?_running_le {s t : Session} {place : Nat} {reply : Reply}
    (h : s.advance? place reply = some t) : t.running.length ≤ s.running.length := by
  cases Advances.of_advance? h with
  | runs => exact Nat.le_of_eq List.length_set
  | arrives => exact List.length_eraseIdx_le ..

theorem awaitResultFor_succ {σ : Type} {remote : Remote σ} {fuel place : Nat} {memory memory' : σ}
    {reply : Reply} {s t : Session} (harrived : s.arrived = [])
    (hanswer : remote.answer memory s.running = (some (place, reply), memory'))
    (hadvance : s.advance? place reply = some t) :
    s.awaitResultFor remote (fuel + 1) memory = t.awaitResultFor remote fuel memory' := by
  simp [awaitResultFor, harrived, hanswer, hadvance]

theorem awaitResultFor_of_result {σ : Type} (remote : Remote σ) (fuel : Nat) (memory : σ)
    {s : Session} (harrived : s.arrived ≠ []) :
    s.awaitResultFor remote fuel memory = (.arrived, memory, s) := by
  cases fuel <;> simp [awaitResultFor, harrived]

theorem linkNext_running (s : Session) (id : StepId) : (s.linkNext id).running = s.running := by
  rw [linkNext]
  split
  · rfl
  · split <;> rfl

theorem closeStep_running (s : Session) (id : StepId) : (s.closeStep id).running = s.running := by
  rw [closeStep]
  split <;> exact linkNext_running s id

theorem applyResult_running (s : Session) (result : ActionResult) :
    (s.applyResult result).running = s.running := by
  rw [applyResult]
  dsimp only
  split
  · rw [closeStep_running]
    rfl
  · rfl

theorem Reachable.waited {s : Session} (h : s.Reachable) {σ : Type} (remote : Remote σ) (memory : σ)
    (g : Guards) : (Desk.wait remote memory ⟨s, g⟩).2.2.session.Reachable :=
  h.later (.single ⟨g, _, .wait remote memory ⟨s, g⟩⟩)

end Session

theorem Desk.read?_running {d d' : Desk} {applied : Option StepId}
    (h : d.read? = some (applied, d')) : d'.session.running = d.session.running := by
  rw [read?] at h
  split at h
  · cases h
  · rw [Option.some.injEq, receive] at h
    dsimp only at h
    split at h
    · cases h
      exact Session.applyResult_running _ _
    · cases h
      rfl

theorem Desk.wait_of_result {σ : Type} {remote : Remote σ} {memory memory' : σ} {s : Session}
    {g : Guards} {place : Nat} {reply : Reply} {a : RunningAction} {result : ActionResult}
    (hinFlight : s.inFlight ≠ 0) (harrived : s.arrived = [])
    (ha : s.running[place]? = some a)
    (hanswer : remote.answer memory s.running = (some (place, reply), memory'))
    (hadvance : a.advance? reply = some (.inr result)) :
    wait remote memory ⟨s, g⟩ =
      (some (receive result
          ⟨{ s with running := s.running.eraseIdx place, arrived := [] }, g⟩).1, memory',
        (receive result ⟨{ s with running := s.running.eraseIdx place, arrived := [] }, g⟩).2) := by
  have hmoved : s.advance? place reply =
      some { s with running := s.running.eraseIdx place, arrived := [result] } := by
    simp only [Session.advance?, ha, Option.bind_some, hadvance, harrived, List.nil_append]
  obtain ⟨fuel, hfuel⟩ : ∃ fuel, s.repliesLeft = fuel + 1 := by
    have hany : s.running ≠ [] := List.ne_nil_of_mem (List.mem_of_getElem? ha)
    obtain ⟨first, others, hothers⟩ := List.exists_cons_of_ne_nil hany
    rw [Session.repliesLeft, hothers, List.foldr_cons]
    exact ⟨_, Nat.add_right_comm _ _ _⟩
  rw [wait, if_neg hinFlight, Session.awaitResult, hfuel,
    Session.awaitResultFor_succ harrived hanswer hmoved,
    Session.awaitResultFor_of_result remote fuel memory' (List.cons_ne_nil _ _)]
  rfl

section Alike

variable {σ₁ σ₂ : Type} {remote₁ : Remote σ₁} {remote₂ : Remote σ₂} {responses : Responses}
  {count₁ : σ₁ → String → Nat} {count₂ : σ₂ → String → Nat}
  (h₁ : remote₁.Replies responses count₁) (h₂ : remote₂.Replies responses count₂)
include h₁ h₂

theorem Session.awaitResultFor_single (fuel : Nat) {memory₁ : σ₁} {memory₂ : σ₂}
    (hcount : count₁ memory₁ = count₂ memory₂) {s : Session} (hsingle : s.running.length ≤ 1)
    (hcharges : s.charges ≠ []) :
    ∃ waited memory₁' memory₂' t,
      s.awaitResultFor remote₁ fuel memory₁ = (waited, memory₁', t) ∧
      s.awaitResultFor remote₂ fuel memory₂ = (waited, memory₂', t) ∧
      count₁ memory₁' = count₂ memory₂' ∧ t.running.length ≤ 1 := by
  induction fuel generalizing memory₁ memory₂ s with
  | zero => exact ⟨_, memory₁, memory₂, s, rfl, rfl, hcount, hsingle⟩
  | succ fuel ih =>
      by_cases harrived : s.arrived = []
      · obtain ⟨a, hrunning⟩ : ∃ a, s.running = [a] := by
          refine List.length_eq_one_iff.mp (Nat.le_antisymm hsingle (List.length_pos_iff.mpr ?_))
          intro hnone
          exact hcharges (by rw [charges, hnone, harrived]; rfl)
        have ha : s.running[0]? = some a := by
          rw [hrunning]
          rfl
        obtain ⟨reply₁, memory₁', hanswer₁, hreply₁, hcount₁⟩ := h₁.advance_single memory₁ hrunning
        obtain ⟨reply₂, memory₂', hanswer₂, hreply₂, hcount₂⟩ := h₂.advance_single memory₂ hrunning
        obtain ⟨t, hadvance₁⟩ : ∃ t, s.advance? 0 reply₁ = some t := by
          rw [advance?_congr ha hreply₁]
          exact exists_advance? ha (Reply.to_isTo _ _ _)
        have hadvance₂ : s.advance? 0 reply₂ = some t := by
          rw [← hadvance₁]
          exact advance?_congr ha (by rw [hreply₁, hreply₂, hcount])
        have hleft : t.charges ≠ [] := by
          intro hnone
          have hperm := (advance?_answered hadvance₁).charges_perm
          rw [hnone] at hperm
          exact hcharges hperm.nil_eq.symm
        rw [awaitResultFor_succ harrived hanswer₁ hadvance₁,
          awaitResultFor_succ harrived hanswer₂ hadvance₂]
        exact ih (by rw [hcount₁, hcount₂, hcount])
          (Nat.le_trans (advance?_running_le hadvance₁) hsingle) hleft
      · exact ⟨_, memory₁, memory₂, s, awaitResultFor_of_result remote₁ _ memory₁ harrived,
          awaitResultFor_of_result remote₂ _ memory₂ harrived, hcount, hsingle⟩

namespace Desk

theorem wait_single {memory₁ : σ₁} {memory₂ : σ₂} (hcount : count₁ memory₁ = count₂ memory₂)
    {s : Session} (g : Guards) (h : s.Valid) (hsingle : s.running.length ≤ 1) :
    ∃ applied memory₁' memory₂' d, wait remote₁ memory₁ ⟨s, g⟩ = (applied, memory₁', d) ∧
      wait remote₂ memory₂ ⟨s, g⟩ = (applied, memory₂', d) ∧
      count₁ memory₁' = count₂ memory₂' ∧ d.session.running.length ≤ 1 := by
  rw [wait, wait]
  dsimp only
  by_cases hnothing : s.inFlight = 0
  · rw [if_pos hnothing, if_pos hnothing]
    exact ⟨_, _, _, _, rfl, rfl, hcount, hsingle⟩
  · have hcharges : s.charges ≠ [] := by
      rw [h.accounted.inFlight_eq] at hnothing
      exact fun hnone => hnothing (congrArg List.length hnone)
    obtain ⟨waited, memory₁', memory₂', t, hwait₁, hwait₂, hcount', hsingle'⟩ :=
      Session.awaitResultFor_single h₁ h₂ s.repliesLeft hcount hsingle hcharges
    rw [if_neg hnothing, if_neg hnothing, Session.awaitResult, Session.awaitResult, hwait₁, hwait₂]
    cases waited with
    | silent => exact ⟨_, _, _, _, rfl, rfl, hcount', hsingle'⟩
    | arrived =>
        dsimp only
        rcases hread : read? ⟨t, g⟩ with _ | ⟨applied, d⟩
        · exact ⟨_, _, _, _, rfl, rfl, hcount', hsingle'⟩
        · refine ⟨_, _, _, _, rfl, rfl, hcount', ?_⟩
          rw [read?_running hread]
          exact hsingle'

theorem settleFor_single (turns : Nat) {memory₁ : σ₁} {memory₂ : σ₂}
    (hcount : count₁ memory₁ = count₂ memory₂) {s : Session} (g : Guards) (h : s.Reachable)
    (hsingle : s.running.length ≤ 1) :
    ∃ waited memory₁' memory₂' d, settleFor remote₁ turns memory₁ ⟨s, g⟩ = (waited, memory₁', d) ∧
      settleFor remote₂ turns memory₂ ⟨s, g⟩ = (waited, memory₂', d) ∧
      count₁ memory₁' = count₂ memory₂' := by
  induction turns generalizing memory₁ memory₂ s g with
  | zero => exact ⟨_, _, _, _, rfl, rfl, hcount⟩
  | succ turns ih =>
      obtain ⟨applied, memory₁', memory₂', d, hwait₁, hwait₂, hcount', hsingle'⟩ :=
        wait_single h₁ h₂ hcount g h.valid hsingle
      have hreachable := h.waited remote₁ memory₁ g
      rw [hwait₁] at hreachable
      rw [settleFor, settleFor, hwait₁, hwait₂]
      split
      · cases applied with
        | none => exact ⟨_, _, _, _, rfl, rfl, hcount'⟩
        | some applied => exact ih hcount' d.guards hreachable hsingle'
      · exact ⟨_, _, _, _, rfl, rfl, hcount⟩

end Desk

end Alike

end ClusterSetup
