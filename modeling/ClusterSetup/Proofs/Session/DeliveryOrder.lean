import ClusterSetup.Proofs.Session.Joining
import ClusterSetup.Proofs.Session.Replies
import ClusterSetup.Proofs.Session.Termination

namespace ClusterSetup

/-- Two actions of different probes are all that a session waits for. -/
structure Session.Pair (s : Session) (step : Step) (scope : ProbeScope) (p q : ProbeTarget)
    (a b : RunningAction) : Prop where
  probing : s.Probing step scope
  inFlight_eq : s.inFlight = 2
  arrived_eq : s.arrived = []
  ne : p ≠ q
  apt : a.Apt ∧ b.Apt
  tickets : a.ticket = ⟨s.current, step.generation, .probe p⟩ ∧
    b.ticket = ⟨s.current, step.generation, .probe q⟩
  pending : .probe p ∈ step.pending ∧ .probe q ∈ step.pending

namespace Session.Pair

variable {s : Session} {step : Step} {scope : ProbeScope} {p q : ProbeTarget} {a b : RunningAction}

theorem symm (h : s.Pair step scope p q a b) : s.Pair step scope q p b a :=
  { h with
    ne := h.ne.symm
    apt := h.apt.symm
    tickets := h.tickets.symm
    pending := h.pending.symm }

theorem inquiries_ne (h : s.Pair step scope p q a b) {inquiry inquiry' : Inquiry}
    (ha : a.work.inquiry? = some inquiry) (hb : b.work.inquiry? = some inquiry') :
    inquiry.scriptKey ≠ inquiry'.scriptKey := by
  rw [h.apt.1.scriptKey_of_probe (congrArg Ticket.key h.tickets.1) ha,
    h.apt.2.scriptKey_of_probe (congrArg Ticket.key h.tickets.2) hb]
  have hne := h.ne
  cases p <;> cases q <;> simp_all [Step.probeKey, ResourceKey.storageProbe, ResourceKey.stackProbe]

theorem answered_asked (h : s.Pair step scope p q a b) (responses : Responses)
    (counts : String → Nat) :
    b.answered responses (asked counts a.work.inquiry?) = b.answered responses counts := by
  refine RunningAction.answered_congr responses fun inquiry hinquiry => asked_of_ne ?_
  intro asks hasks
  exact h.inquiries_ne hasks hinquiry

/-- The session with the results of both actions applied, the one of the first action first. -/
def settled (s : Session) (g : Guards) (r₁ r₂ : ActionResult) : Desk :=
  (Desk.receive r₂ (Desk.receive r₁ ⟨{ s with running := [], arrived := [] }, g⟩).2).2

theorem settled_comm (h : s.Pair step scope p q a b) (g : Guards) {r₁ r₂ : ActionResult}
    (h₁ : r₁.ticket = a.ticket) (h₂ : r₂.ticket = b.ticket) :
    settled s g r₁ r₂ = settled s g r₂ r₁ := by
  have hidle : Session.Probing { s with running := [], arrived := [] } step scope :=
    { h.probing with }
  exact congrArg Prod.snd (Desk.receive_comm g hidle h.ne h.pending.1 h.pending.2
    (h₁.trans h.tickets.1) (h₂.trans h.tickets.2))

end Session.Pair

theorem Session.Reachable.pair {s : Session} (h : s.Reachable) (hlive : s.canceled = false)
    (htwo : 1 < s.running.length) : ∃ step scope p q a b, s.running = [a, b] ∧
      s.Pair step scope p q a b := by
  obtain ⟨step, hstep⟩ := h.valid.placed.current
  have hsound := h.valid.placed.arena.sound hstep
  have hperm := (h.valid.awaited hlive).outstanding_perm hstep
  have hkeys := hsound.pending_sublist.length_le
  have hinFlight := h.valid.inFlight_eq_pending hlive hstep
  have hcount : s.running.length + s.arrived.length = step.pending.length := by
    simpa [outstanding, charges, Step.tickets] using hperm.length_eq
  have hkeys' := step.kind.keys_length_le
  obtain ⟨a, b, hrunning⟩ : ∃ a b, s.running = [a, b] :=
    List.length_eq_two.mp (by omega)
  have harrived : s.arrived = [] := List.length_eq_zero_iff.mp (by omega)
  have houtstanding : s.outstanding = [a.ticket, b.ticket] := by
    simp [outstanding, charges, hrunning, harrived]
  have hma : a.ticket ∈ s.outstanding := by simp [houtstanding]
  have hmb : b.ticket ∈ s.outstanding := by simp [houtstanding]
  obtain ⟨hta, hpa⟩ := h.valid.expects_outstanding hlive hma hstep
  obtain ⟨htb, hpb⟩ := h.valid.expects_outstanding hlive hmb hstep
  have htwo' : 1 < step.kind.keys.length := by omega
  obtain ⟨p, hp⟩ := StepKind.exists_target htwo' (hsound.pending_sublist.subset hpa)
  obtain ⟨q, hq⟩ := StepKind.exists_target htwo' (hsound.pending_sublist.subset hpb)
  rw [hp] at hta hpa
  rw [hq] at htb hpb
  have hne : p ≠ q := by
    rintro rfl
    have hnodup : step.tickets.Nodup :=
      hsound.pending_nodup.map fun _ _ hsame => congrArg Ticket.key hsame
    rw [← hperm.nodup_iff, houtstanding, hta, htb] at hnodup
    simp at hnodup
  obtain ⟨scope', hprobing⟩ := h.valid.probing hlive hstep hpa
  refine ⟨step, scope', p, q, a, b, hrunning, hprobing, ?_, harrived, hne, ⟨?_, ?_⟩, ⟨hta, htb⟩,
    hpa, hpb⟩
  · rw [hinFlight, ← hcount, hrunning, harrived]
    rfl
  · exact h.apt a (by rw [hrunning]; exact List.mem_cons_self)
  · exact h.apt b (by rw [hrunning]; exact List.mem_cons_of_mem _ List.mem_cons_self)

open Session (Pair) in
/-- Settling a session with two probes applies both results, in the order in which the remote side
brings them. -/
theorem Desk.settle_pair {σ : Type} {remote : Remote σ} {responses : Responses}
    {count : σ → String → Nat} (h : remote.Replies responses count) {memory memory' : σ}
    {s : Session} (g : Guards) {step : Step} {scope : ProbeScope} {p q : ProbeTarget}
    {a b : RunningAction} (hpair : s.Pair step scope p q a b) {place : Nat} {reply : Reply}
    {r₁ r₂ : ActionResult}
    (ha : s.running[place]? = some a) (hb : s.running.eraseIdx place = [b])
    (hanswer : remote.answer memory s.running = (some (place, reply), memory'))
    (hcount : count memory' = asked (count memory) a.work.inquiry?)
    (hr₁ : a.advance? reply = some (.inr r₁))
    (hr₂ : b.answered responses (count memory) = some (.inr r₂)) :
    ∃ memory'', settle remote memory ⟨s, g⟩ = (.arrived, memory'', Pair.settled s g r₁ r₂) ∧
      count memory'' = asked (asked (count memory) a.work.inquiry?) b.work.inquiry? := by
  obtain ⟨hprobing, hinFlight, harrived, hne, -, ⟨hta, htb⟩, hp, hq⟩ := id hpair
  have ht₁ : r₁.ticket = ⟨s.current, step.generation, .probe p⟩ :=
    (RunningAction.ticket_of_advance? hr₁).trans hta
  have ht₂ : r₂.ticket = ⟨s.current, step.generation, .probe q⟩ :=
    (RunningAction.ticket_of_advance? hr₂).trans htb
  -- No action runs once both have been answered.
  let idle : Session := { s with running := [], arrived := [] }
  have hidle : idle.Probing step scope := { hprobing with }
  obtain ⟨first, f, hwaits, hfirst, hboth⟩ := receive_both g hidle hne hp hq ht₁ ht₂
  let waiting : Session := { idle.halfway first f with running := [b] }
  have hwait₁ : wait remote memory ⟨s, g⟩ =
      (some (some s.current), memory', ⟨waiting, g.releaseAll r₁.guards⟩) := by
    rw [wait_of_result (by omega) harrived ha hanswer hr₁, hb]
    exact congrArg (fun received => (some received.1, memory', received.2)) (hfirst [b])
  obtain ⟨reply₂, memory'', hanswer₂, hreply₂, hcount₂⟩ :=
    h.advance_single memory' (s := waiting) rfl
  have hr₂' : b.advance? reply₂ = some (.inr r₂) := by
    rw [hreply₂, ← hr₂, hcount, hpair.answered_asked]
  have hwait₂ : wait remote memory' ⟨waiting, g.releaseAll r₁.guards⟩ =
      (some (some s.current), memory'', Pair.settled s g r₁ r₂) := by
    have hinFlight' : waiting.inFlight ≠ 0 := by
      change s.inFlight - 1 ≠ 0
      omega
    have hfirst' : receive r₁ ⟨idle, g⟩ =
        (some s.current, ⟨idle.halfway first f, g.releaseAll r₁.guards⟩) := hfirst []
    rw [wait_of_result hinFlight' rfl rfl hanswer₂ hr₂', Pair.settled, hfirst']
    exact Prod.ext (congrArg (fun received => some received.1) hboth) rfl
  have hid : s.current < s.steps.length := (List.getElem?_eq_some_iff.mp hprobing.current).1
  have hself : waiting.steps[waiting.current]? = some first := List.getElem?_set_self hid
  refine ⟨memory'', ?_, by rw [hcount₂, hcount]⟩
  rw [settle, hinFlight, settleFor_of_waiting remote 1 memory g hprobing.live hprobing.current
    (List.ne_nil_of_mem hp), hwait₁]
  dsimp only
  rw [settleFor_of_waiting remote 0 memory' (s := waiting) _ hprobing.live hself hwaits, hwait₂]
  rfl

theorem erase_of_pair {a b x : RunningAction} {place : Nat} (h : [a, b][place]? = some x) :
    x = a ∧ [a, b].eraseIdx place = [b] ∨ x = b ∧ [a, b].eraseIdx place = [a] := by
  match place with
  | 0 => exact .inl ⟨(Option.some.inj h).symm, rfl⟩
  | 1 => exact .inr ⟨(Option.some.inj h).symm, rfl⟩

/-- Settling a session with two probes leads to the same whichever of them is answered first. -/
theorem Desk.settle_of_pair {σ : Type} {remote : Remote σ} {responses : Responses}
    {count : σ → String → Nat} (h : remote.Replies responses count) (memory : σ) {s : Session}
    (g : Guards) {step : Step} {scope : ProbeScope} {p q : ProbeTarget} {a b : RunningAction}
    (hrunning : s.running = [a, b]) (hpair : s.Pair step scope p q a b) {r₁ r₂ : ActionResult}
    (hr₁ : a.answered responses (count memory) = some (.inr r₁))
    (hr₂ : b.answered responses (count memory) = some (.inr r₂)) :
    ∃ memory', settle remote memory ⟨s, g⟩ = (.arrived, memory', Session.Pair.settled s g r₁ r₂) ∧
      count memory' = asked (asked (count memory) a.work.inquiry?) b.work.inquiry? := by
  have hany : s.running ≠ [] := by
    rw [hrunning]
    exact List.cons_ne_nil _ _
  obtain ⟨place, action, memory', haction, hcount, reply, hanswer, hreply⟩ := h.advance memory hany
  -- The remote side brings on one of the two, and then it has only the other one left.
  have herase := haction
  rw [hrunning] at herase
  rcases erase_of_pair herase with ⟨rfl, hleft⟩ | ⟨rfl, hleft⟩
  · rw [← hrunning] at hleft
    exact settle_pair h g hpair haction hleft hanswer hcount (hreply.trans hr₁) hr₂
  · rw [← hrunning] at hleft
    obtain ⟨memory'', hsettle, hcount'⟩ :=
      settle_pair h g hpair.symm haction hleft hanswer hcount (hreply.trans hr₂) hr₁
    refine ⟨memory'', ?_, ?_⟩
    · rw [hsettle, hpair.settled_comm g (RunningAction.ticket_of_advance? hr₁)
        (RunningAction.ticket_of_advance? hr₂)]
    · rw [hcount', asked_comm fun _ _ hb ha => (hpair.inquiries_ne ha hb).symm]

section Alike

variable {σ₁ σ₂ : Type} {remote₁ : Remote σ₁} {remote₂ : Remote σ₂} {responses : Responses}
  {count₁ : σ₁ → String → Nat} {count₂ : σ₂ → String → Nat}
  (h₁ : remote₁.Replies responses count₁) (h₂ : remote₂.Replies responses count₂)
include h₁ h₂

namespace Desk

theorem settle_alike {memory₁ : σ₁} {memory₂ : σ₂} (hcount : count₁ memory₁ = count₂ memory₂)
    {s : Session} (g : Guards) (h : s.Reachable) (hlive : s.canceled = false) :
    ∃ waited memory₁' memory₂' d, settle remote₁ memory₁ ⟨s, g⟩ = (waited, memory₁', d) ∧
      settle remote₂ memory₂ ⟨s, g⟩ = (waited, memory₂', d) ∧
      count₁ memory₁' = count₂ memory₂' := by
  by_cases htwo : 1 < s.running.length
  · obtain ⟨step, scope, p, q, a, b, hrunning, hpair⟩ := h.pair hlive htwo
    obtain ⟨r₁, hr₁⟩ := hpair.apt.1.answered_probe (congrArg Ticket.key hpair.tickets.1) responses
      (count₁ memory₁)
    obtain ⟨r₂, hr₂⟩ := hpair.apt.2.answered_probe (congrArg Ticket.key hpair.tickets.2) responses
      (count₁ memory₁)
    obtain ⟨memory₁', hsettle₁, hcount₁⟩ := settle_of_pair h₁ memory₁ g hrunning hpair hr₁ hr₂
    rw [hcount] at hr₁ hr₂
    obtain ⟨memory₂', hsettle₂, hcount₂⟩ := settle_of_pair h₂ memory₂ g hrunning hpair hr₁ hr₂
    exact ⟨_, _, _, _, hsettle₁, hsettle₂, by rw [hcount₁, hcount₂, hcount]⟩
  · exact settleFor_single h₁ h₂ s.inFlight hcount g h (Nat.le_of_not_lt htwo)

theorem runFor_alike (fuel pauses : Nat) {memory₁ : σ₁} {memory₂ : σ₂}
    (hcount : count₁ memory₁ = count₂ memory₂) {s : Session} (g : Guards) (h : s.Reachable) :
    ∃ ending pauses' memory₁' memory₂' d,
      runFor remote₁ fuel pauses memory₁ ⟨s, g⟩ = (ending, pauses', memory₁', d) ∧
      runFor remote₂ fuel pauses memory₂ ⟨s, g⟩ = (ending, pauses', memory₂', d) := by
  induction fuel generalizing pauses memory₁ memory₂ s g with
  | zero => exact ⟨_, _, _, _, _, rfl, rfl⟩
  | succ fuel ih =>
      obtain ⟨step, hstep⟩ := h.valid.placed.current
      rcases hturn : turn ⟨s, g⟩ with ⟨result, d⟩
      cases result with
      | stop reason paused =>
          exact ⟨_, _, _, _, _, runFor_of_stop hturn, runFor_of_stop hturn⟩
      | goOn paused =>
          have hround : Session.Round s d.session := .goesOn hturn
          rw [runFor_of_goOn hturn, runFor_of_goOn hturn]
          exact ih _ hcount d.guards (hround.reachable h)
      | wait =>
          obtain ⟨rfl, active, -, -⟩ := waits_of_turn hstep hturn
          obtain ⟨waited, memory₁', memory₂', d, hsettle₁, hsettle₂, hcount'⟩ :=
            settle_alike h₁ h₂ hcount g h active.live
          cases waited with
          | silent =>
              exact ⟨_, _, _, _, _, runFor_of_silent hturn hsettle₁,
                runFor_of_silent hturn hsettle₂⟩
          | arrived =>
              have hround : Session.Round s d.session :=
                .settles (g := g) (congrArg Prod.fst hturn) hsettle₁
              rw [runFor_of_settled hturn hsettle₁, runFor_of_settled hturn hsettle₂]
              exact ih _ hcount' d.guards (hround.reachable h)

end Desk

end Alike

theorem Session.Reachable.receive_comm {s : Session} (h : s.Reachable) {r₁ r₂ : ActionResult}
    (hr₁ : r₁.ticket ∈ s.outstanding) (hr₂ : r₂.ticket ∈ s.outstanding)
    (hkey₁ : r₁.key = .probe .storage) (hkey₂ : r₂.key = .probe .clusterStack) (g : Guards) :
    Desk.receive r₂ (Desk.receive r₁ ⟨s, g⟩).2 = Desk.receive r₁ (Desk.receive r₂ ⟨s, g⟩).2 ∧
    (s.canceled = false → (Desk.receive r₁ ⟨s, g⟩).1 = some s.current ∧
      (Desk.receive r₂ (Desk.receive r₁ ⟨s, g⟩).2).1 = some s.current) := by
  cases hcanceled : s.canceled with
  | true =>
      -- Results are discarded, and all that they change is which guards are held.
      refine ⟨?_, fun hlive => nomatch hlive⟩
      rw [Desk.receive_of_canceled g hcanceled, Desk.receive_of_canceled g hcanceled,
        Desk.receive_of_canceled (s := { s with inFlight := s.inFlight - 1 }) _ hcanceled,
        Desk.receive_of_canceled (s := { s with inFlight := s.inFlight - 1 }) _ hcanceled,
        Guards.releaseAll_comm]
  | false =>
      obtain ⟨step, hstep⟩ := h.valid.placed.current
      obtain ⟨ht₁, hp⟩ := h.valid.expects_outstanding hcanceled hr₁ hstep
      obtain ⟨ht₂, hq⟩ := h.valid.expects_outstanding hcanceled hr₂ hstep
      rw [show r₁.ticket.key = .probe .storage from hkey₁] at ht₁ hp
      rw [show r₂.ticket.key = .probe .clusterStack from hkey₂] at ht₂ hq
      obtain ⟨scope, hprobing⟩ := h.valid.probing hcanceled hstep hp
      have hne : ProbeTarget.storage ≠ .clusterStack := by decide
      refine ⟨Desk.receive_comm g hprobing hne hp hq ht₁ ht₂, fun _ => ?_⟩
      obtain ⟨first, f, -, hfirst, hboth⟩ := Desk.receive_both g hprobing hne hp hq ht₁ ht₂
      have hfirst' : Desk.receive r₁ ⟨s, g⟩ =
          (some s.current, ⟨s.halfway first f, g.releaseAll r₁.guards⟩) := hfirst s.running
      rw [hfirst', hboth]
      exact ⟨rfl, rfl⟩

/-- It does not matter which of two concurrent probes answers first. Where the current step waits
for both, applying their results in either order makes the same of the session and of the guards.
So a run that has the guards for itself stops for the same reason and leaves the same session, and
thereby the same report, with any two remote sides that give the same replies for each key. -/
theorem Session.delivery_order_irrelevant {s : Session} (h : s.Reachable) :
    (∀ r₁ r₂ : ActionResult, r₁.ticket ∈ s.outstanding → r₂.ticket ∈ s.outstanding →
      r₁.key = .probe .storage → r₂.key = .probe .clusterStack → ∀ g : Guards,
        Desk.receive r₂ (Desk.receive r₁ ⟨s, g⟩).2 =
          Desk.receive r₁ (Desk.receive r₂ ⟨s, g⟩).2 ∧
        (s.canceled = false → (Desk.receive r₁ ⟨s, g⟩).1 = some s.current ∧
          (Desk.receive r₂ (Desk.receive r₁ ⟨s, g⟩).2).1 = some s.current)) ∧
    ∀ (responses : Responses) (σ₁ σ₂ : Type) (remote₁ : Remote σ₁)
      (remote₂ : Remote σ₂) (count₁ : σ₁ → String → Nat) (count₂ : σ₂ → String → Nat),
      remote₁.Replies responses count₁ → remote₂.Replies responses count₂ →
      ∀ memory₁ memory₂, count₁ memory₁ = count₂ memory₂ → ∀ g : Guards,
        ∃ reason pauses memory₁' memory₂' d,
          Desk.run remote₁ memory₁ ⟨s, g⟩ = (.stopped reason, pauses, memory₁', d) ∧
          Desk.run remote₂ memory₂ ⟨s, g⟩ = (.stopped reason, pauses, memory₂', d) := by
  constructor
  · intro r₁ r₂ hr₁ hr₂ hkey₁ hkey₂ g
    exact h.receive_comm hr₁ hr₂ hkey₁ hkey₂ g
  · intro responses σ₁ σ₂ remote₁ remote₂ count₁ count₂ h₁ h₂ memory₁ memory₂ hcount g
    obtain ⟨ending, pauses, memory₁', memory₂', d, hrun₁, hrun₂⟩ :=
      Desk.runFor_alike h₁ h₂ (Desk.turnLimit s) 0 hcount g h
    have hends : s.EndsIn (Desk.turnLimit s) := .of_roundsLeft h s.roundsLeft_lt_turnLimit
    obtain ⟨reason, hreason⟩ := (Desk.runFor_ends remote₁ 0 memory₁ g h hends).2.2 h₁.answers_all
    obtain rfl : ending = .stopped reason := by
      rw [hrun₁] at hreason
      exact hreason
    exact ⟨reason, pauses, memory₁', memory₂', d, hrun₁, hrun₂⟩

/-- A remote side that picks the action to bring on by its place. -/
def Remote.picking (pick : List RunningAction → Nat) (responses : Responses) :
    Remote (String → Nat) where
  answer counts running :=
    match running[pick running]? with
    | none => (none, counts)
    | some action =>
      (some (pick running, responses.reply counts action.work.inquiry?),
        asked counts action.work.inquiry?)

theorem Remote.picking_replies {pick : List RunningAction → Nat}
    (hpick : ∀ running, running ≠ [] → pick running < running.length)
    (responses : Responses) : (picking pick responses).Replies responses id where
  answers counts running hrunning := by
    let action := running.get ⟨pick running, hpick running hrunning⟩
    have haction : running[pick running]? = some action := List.getElem?_eq_getElem _
    refine ⟨pick running, action, responses.reply counts action.work.inquiry?,
      asked counts action.work.inquiry?, haction, ?_, ?_, rfl⟩
    · simp only [picking, haction]
    · intro inquiry hinquiry
      rw [hinquiry]
      rfl

def Session.sampleResult (target : ProbeTarget) (text : String) : ActionResult :=
  ⟨0, 1, .probe target, .exited ⟨text, 0⟩, []⟩

def Session.sampleResponses : Responses where
  lookUp _ target _ := .found [target.address]
  answer key _ _ := .ok ⟨if key = ResourceKey.storageProbe then "8.4" else "hb: 3.0", 0⟩

theorem Session.delivery_order_irrelevant_sample :
    Desk.receive (sampleResult .clusterStack "hb: 3.0")
        (Desk.receive (sampleResult .storage "8.4") ⟨samplePlayed 1, .empty⟩).2 =
      Desk.receive (sampleResult .storage "8.4")
        (Desk.receive (sampleResult .clusterStack "hb: 3.0") ⟨samplePlayed 1, .empty⟩).2 ∧
    ∃ reason pauses counts₁ counts₂ d,
      Desk.run (.picking (fun _ => 0) sampleResponses) (fun _ => 0) ⟨samplePlayed 1, .empty⟩ =
        (.stopped reason, pauses, counts₁, d) ∧
      Desk.run (.picking (·.length - 1) sampleResponses) (fun _ => 0) ⟨samplePlayed 1, .empty⟩ =
        (.stopped reason, pauses, counts₂, d) := by
  obtain ⟨hreceive, hrun⟩ := delivery_order_irrelevant (samplePlayed_reachable 1)
  have hstorage :
      (sampleResult .storage "8.4").ticket ∈ (samplePlayed 1).outstanding := by decide +kernel
  have hstack :
      (sampleResult .clusterStack "hb: 3.0").ticket ∈ (samplePlayed 1).outstanding := by
    decide +kernel
  have hfirst : (Remote.picking (fun _ => 0) sampleResponses).Replies sampleResponses id :=
    Remote.picking_replies (fun _ hrunning => List.length_pos_iff.mpr hrunning) sampleResponses
  have hlast : (Remote.picking (·.length - 1) sampleResponses).Replies sampleResponses id := by
    refine Remote.picking_replies (fun running hrunning => ?_) sampleResponses
    have hlength := List.length_pos_iff.mpr hrunning
    omega
  exact ⟨(hreceive _ _ hstorage hstack rfl rfl .empty).1,
    hrun sampleResponses _ _ _ _ id id hfirst hlast _ _ rfl .empty⟩

end ClusterSetup