import ClusterSetup.Proofs.Session.Accounting
import ClusterSetup.Proofs.Session.Turns

namespace ClusterSetup

open Relation (ReflTransGen)

namespace Session.Awaited

variable {s s' : Session} {step t : Step}

theorem keep (h : s.Awaited) (steps_eq : s'.steps = s.steps) (current_eq : s'.current = s.current)
    (charges_perm : s'.charges.Perm s.charges) : s'.Awaited := by
  constructor
  · rw [steps_eq, current_eq]
    exact h.waits
  · intro step hstep
    rw [steps_eq, current_eq] at hstep
    exact (charges_perm.map Prod.fst).trans (h.outstanding_perm hstep)

theorem perm_of_idle (h : s.Awaited) (hstep : s.steps[s.current]? = some step)
    (hidle : step.pending = []) (charges_eq : s'.charges = s.charges) (hidle' : t.pending = []) :
    s'.outstanding.Perm t.tickets := by
  rw [outstanding, charges_eq, h.charges_eq_nil hstep hidle, Step.tickets_eq_nil hidle']
  exact .refl _

theorem move (h : s.Awaited) (hstep : s.steps[s.current]? = some step)
    (hidle : step.pending = []) (charges_eq : s'.charges = s.charges)
    (hwaits : WaitsOnlyAt s'.steps s.current) (ht : s'.steps[s.current]? = some t)
    (hidle' : t.pending = []) : s'.Awaited := by
  refine ⟨⟨hwaits.live, ?_⟩, ?_⟩
  · intro j u hu _
    exact hwaits.all_idle ht hidle' hu
  · intro u hu
    exact h.perm_of_idle hstep hidle charges_eq (hwaits.all_idle ht hidle' hu)

theorem replace (h : s.Awaited) (hid : s.current < s.steps.length) (hlive : t.canceled = false)
    (steps_eq : s'.steps = s.steps.set s.current t) (current_eq : s'.current = s.current)
    (hperm : s'.outstanding.Perm t.tickets) : s'.Awaited := by
  constructor
  · rw [steps_eq, current_eq]
    exact h.waits.set hlive
  · intro u hu
    rw [steps_eq, current_eq, List.getElem?_set_self hid, Option.some.injEq] at hu
    subst hu
    exact hperm

theorem extend (h : s.Awaited) (hid : s.current < s.steps.length) (hlive : t.canceled = false)
    (steps_eq : s'.steps = attach s.steps s.current t) (current_eq : s'.current = s.current)
    (hperm : s'.outstanding.Perm t.tickets) : s'.Awaited := by
  obtain ⟨next, hself, -⟩ := getElem?_attach_self hid t
  constructor
  · rw [steps_eq, current_eq]
    exact h.waits.attach hlive
  · intro u hu
    rw [steps_eq, current_eq, hself, Option.some.injEq] at hu
    subst hu
    exact hperm

theorem read {f f' : Findings} {key : ActionKey} {ticket : Ticket} {guards : List Guard}
    (h : s.Awaited) (hid : step.id = s.current) (hstep : s.steps[s.current]? = some step)
    (hticket : ticket = ⟨s.current, step.generation, key⟩) (hpending : key ∈ step.pending)
    (hreads : Reads step f key t f')
    (charges_perm : s.charges.Perm ((ticket, guards) :: s'.charges)) :
    s'.outstanding.Perm t.tickets := by
  have hbefore : (ticket :: s'.outstanding).Perm step.tickets :=
    (charges_perm.map Prod.fst).symm.trans (h.outstanding_perm hstep)
  have hkey : step.tickets.Perm (ticket :: t.tickets) := by
    have herase := (List.perm_cons_erase hpending).map
      (⟨step.id, step.generation, ·⟩ : ActionKey → Ticket)
    rw [List.map_cons] at herase
    rw [Step.tickets, Step.tickets, hreads.pending_eq, hreads.same.id_eq, hreads.generation_eq,
      hticket, ← hid]
    exact herase
  exact (hbefore.trans hkey).cons_inv

end Session.Awaited

namespace Desk

theorem Change.awaited {d d' : Desk} (h : d.session.Valid) (hchange : Change d d')
    (hlive : d'.session.canceled = false) : d'.session.Awaited := by
  cases hchange with
  | credentials _ => exact (h.awaited hlive).keep rfl rfl (.refl _)
  | attempt _ _ => exact (h.awaited hlive).keep rfl rfl (.refl _)
  | join _ _ _ => exact (h.awaited hlive).keep rfl rfl (.refl _)
  | cancel active =>
      obtain ⟨cluster, membership, heq⟩ := cancel_eq active
      rw [heq] at hlive
      cases hlive
  | @start s g g' step active current live idle entry =>
      have hid := (List.getElem?_eq_some_iff.mp current).1
      have hawaited := h.awaited active.live
      have hnothing : s.running = [] ∧ s.arrived = [] := by
        simpa [Session.charges] using hawaited.charges_eq_nil current idle
      refine hawaited.replace (t := step.working) hid live rfl rfl ?_
      refine .of_eq ?_
      simp [Session.outstanding, Session.charges, hnothing.1, hnothing.2, Step.tickets,
        Step.working, Step.actionFor, RunningAction.ticket, Step.reset]
  | @ask s g step c n active current live idle kind_eq lacks =>
      have hid := (List.getElem?_eq_some_iff.mp current).1
      have hawaited := h.awaited active.live
      exact hawaited.replace (t := { step.reset with state := .installMethodChosen }) hid live
        rfl rfl (hawaited.perm_of_idle current idle rfl rfl)
  | @fail s g step c n active current live idle kind_eq lacks none =>
      have hid := (List.getElem?_eq_some_iff.mp current).1
      have hawaited := h.awaited active.live
      exact hawaited.replace (t := step.reset.fail (Step.unsupported c n)) hid live rfl rfl
        (hawaited.perm_of_idle current idle rfl rfl)
  | @finish s g step active current live idle kind_eq =>
      have hid := (List.getElem?_eq_some_iff.mp current).1
      have hawaited := h.awaited active.live
      exact hawaited.replace (t := { step.reset with state := .finished, completed := true }) hid
        live rfl rfl (hawaited.perm_of_idle current idle rfl rfl)
  | @choose s g step c method active current live offers listed =>
      have hid := (List.getElem?_eq_some_iff.mp current).1
      have hawaited := h.awaited active.live
      have hperm := hawaited.outstanding_perm current
      exact hawaited.extend (t := step.chosen c method) hid live rfl rfl hperm
  | @go s g step n active current completed next =>
      have hid := (List.getElem?_eq_some_iff.mp current).1
      have hawaited := h.awaited active.live
      have hidle := (h.placed.arena.sound current).idle completed
      have hlive' : step.proceed.canceled = false :=
        (Step.proceed_canceled step).trans (hawaited.waits.live current)
      exact hawaited.move current hidle rfl (hawaited.waits.set hlive')
        (List.getElem?_set_self hid) ((Step.proceed_sameLinks step).pending_eq.trans hidle)
  | @back s g step p active current idle previous =>
      have hawaited := h.awaited active.live
      exact hawaited.move current idle rfl hawaited.waits current idle
  | answer advance =>
      obtain ⟨hsame, hperm⟩ := Session.advance?_answered advance
      rw [hsame] at hlive
      refine (h.awaited hlive).keep ?_ ?_ hperm
      · rw [hsame]
      · rw [hsame]
  | discard canceled arrived =>
      rw [canceled] at hlive
      cases hlive
  | @absorb s g result rest step step' f active arrived current ticket pending applied =>
      have hid := (List.getElem?_eq_some_iff.mp current).1
      have hawaited := h.awaited active.live
      obtain ⟨hreads, -⟩ := h.placed.reads current pending applied
      refine hawaited.replace hid (hreads.same.canceled_eq.trans (hawaited.waits.live current))
        rfl rfl ?_
      exact hawaited.read (h.placed.arena.id_eq current) current ticket pending hreads
        (Session.charges_of_arrived arrived rfl rfl)
  | @complete s g result rest step step' f active arrived current ticket pending applied =>
      have hid := (List.getElem?_eq_some_iff.mp current).1
      have hawaited := h.awaited active.live
      obtain ⟨hreads, -⟩ := h.placed.reads current pending applied
      refine hawaited.extend hid (hreads.same.canceled_eq.trans (hawaited.waits.live current))
        rfl rfl ?_
      exact hawaited.read (h.placed.arena.id_eq current) current ticket pending hreads
        (Session.charges_of_arrived arrived rfl rfl)

theorem Change.valid {d d' : Desk} (h : d.session.Valid) (hchange : Change d d') :
    d'.session.Valid where
  placed := hchange.placed h.placed
  accounted := hchange.deals.accounted h.accounted (hchange.hostId_eq h.placed)
  awaited := hchange.awaited h

theorem Moves.changes {d d' : Desk} (h : d.session.Valid) (hmove : Moves d d') :
    ReflTransGen Change d d' := by
  obtain ⟨s, g⟩ := d
  obtain ⟨step, hstep⟩ := h.placed.current
  obtain ⟨m, rfl⟩ := hmove
  cases m with
  | enter => exact (enter_atomic hstep).changes
  | retry => exact (retry_atomic hstep).changes
  | next => exact (next_atomic hstep).changes
  | previous => exact (previous_atomic hstep).changes
  | chooseInstall c method => exact (chooseInstall_atomic c method hstep).changes
  | setCredentials credentials => exact setCredentials_changes credentials hstep
  | join cluster => exact (join_atomic s g cluster).changes
  | cancel => exact cancel_changes ⟨s, g⟩
  | read => exact readNext_changes g h
  | turn => exact turn_changes hstep
  | giveUp c => exact countAttempt_changes c ⟨s, g⟩
  | answer place reply => exact answer_changes place reply ⟨s, g⟩

section Induction

variable {P : Desk → Prop}
  (keeps : ∀ {d d' : Desk}, d.session.Valid → P d → Change d d' → P d')
include keeps

theorem changes_induct {d d' : Desk} (hchanges : ReflTransGen Change d d')
    (hvalid : d.session.Valid) (hP : P d) : P d' ∧ d'.session.Valid := by
  induction hchanges with
  | refl => exact ⟨hP, hvalid⟩
  | tail _ hchange ih => exact ⟨keeps ih.2 ih.1 hchange, hchange.valid ih.2⟩

/-- What every change of a valid session keeps is kept whatever becomes of the session, and
whatever the remote side does. -/
theorem Becomes.induct {d d' : Desk} (hbecomes : Becomes d d') (hvalid : d.session.Valid)
    (hP : P d) : P d' ∧ d'.session.Valid := by
  have hmoves := hbecomes.moves
  clear hbecomes
  induction hmoves with
  | refl => exact ⟨hP, hvalid⟩
  | tail _ hmove ih => exact changes_induct keeps (hmove.changes ih.2) ih.2 ih.1

end Induction

theorem changes_valid {d d' : Desk} (hchanges : ReflTransGen Change d d')
    (hvalid : d.session.Valid) : d'.session.Valid :=
  (changes_induct (P := fun _ => True) (fun _ _ _ => trivial) hchanges hvalid trivial).2

end Desk

namespace Session

theorem Later.induct {P : Session → Prop}
    (keeps : ∀ {d d' : Desk}, d.session.Valid → P d.session → Desk.Change d d' → P d'.session)
    {s t : Session} (h : Later s t) (hvalid : s.Valid) (hP : P s) : P t ∧ t.Valid := by
  induction h with
  | refl => exact ⟨hP, hvalid⟩
  | tail _ hbecomes ih =>
      obtain ⟨g, g', hdesk⟩ := hbecomes
      exact hdesk.induct (P := fun d => P d.session) keeps ih.2 ih.1

theorem Later.valid {s t : Session} (h : Later s t) (hvalid : s.Valid) : t.Valid :=
  (h.induct (P := fun _ => True) (fun _ _ _ => trivial) hvalid trivial).2

theorem Later.hostId_eq {s t : Session} (h : Later s t) (hvalid : s.Valid) :
    t.host.id = s.host.id :=
  (h.induct (P := fun u => u.host.id = s.host.id)
    (fun hvalid heq hchange => (hchange.hostId_eq hvalid.placed).trans heq) hvalid rfl).1

theorem Reachable.valid {s : Session} (h : Reachable s) : s.Valid := by
  obtain ⟨host, resources, policy, options, credentials, hlater⟩ := h
  exact hlater.valid (new_valid host resources policy options credentials)

end Session

end ClusterSetup
