import Mathlib.Data.Set.List
import ClusterSetup.Proofs.Detection
import ClusterSetup.Proofs.Session.HostData

namespace ClusterSetup

def Outcome.ReadOff (outcome : Outcome) : Prop :=
  ∀ addresses detected, outcome = .connected addresses detected →
    ∃ output, DistInfo.ofReport output = detected

namespace Work

def ReadOff (work : Work) : Prop := ∀ outcome, work = .settled outcome → outcome.ReadOff

theorem exists_output_detected (answer : CallAnswer) :
    ∃ output, DistInfo.ofReport output = detected answer := by
  cases answer with
  | error e => exact ⟨"", DistInfo.ofReport_empty⟩
  | ok output =>
      rw [detected]
      split
      · exact ⟨_, rfl⟩
      · exact ⟨"", DistInfo.ofReport_empty⟩

theorem readOff_startCommand (target : HostTarget) (command : Option RemoteCommand)
    (timeout : Duration) : (startCommand target command timeout).ReadOff := by
  rintro outcome hsettled addresses detected rfl
  cases command <;> cases hsettled

theorem ReadOff.proceeds {work next : Work} {reply : Reply} (h : work.ReadOff)
    (hnext : work.Proceeds reply next) : next.ReadOff := by
  rintro outcome hsettled addresses found rfl
  cases hnext with
  | reached =>
      cases hsettled
      exact ⟨"", DistInfo.ofReport_empty⟩
  | told =>
      cases hsettled
      exact exists_output_detected _
  | idle => exact h _ hsettled addresses found rfl
  | _ => cases hsettled

end Work

theorem RunningAction.readOff_actionFor (ctx : EnterContext) (s : Step) (key : ActionKey) :
    (s.actionFor ctx key).work.ReadOff := by
  cases key with
  | connect => exact fun _ hsettled => nomatch hsettled
  | probe p => exact Work.readOff_startCommand _ _ _
  | install c => exact Work.readOff_startCommand _ _ _

theorem mem_arrived_of_receipt? {d : Desk} {m : Move} {r : Receipt}
    (h : receipt? (d, m) = some r) : r.result ∈ d.session.arrived := by
  rw [receipt?] at h
  split at h
  · rename_i harrived
    split at h
    · cases h
      dsimp only at harrived ⊢
      rw [harrived]
      exact List.mem_cons_self
    · cases h
  · cases h

namespace Session

open DistInfo (Unanswered Hollow)

/-- All that a session has been told of distributions, and will be told of them by actions that are
settled, was read off outputs. -/
structure ToldByOutputs (s : Session) : Prop where
  running : ∀ a ∈ s.running, a.work.ReadOff
  arrived : ∀ r ∈ s.arrived, r.outcome.ReadOff

theorem ToldByOutputs.advance {s t : Session} (h : s.ToldByOutputs) {place : Nat} {reply : Reply}
    (hadvance : s.advance? place reply = some t) : t.ToldByOutputs := by
  cases Advances.of_advance? hadvance with
  | @runs a work at_place proceeds unsettled =>
      refine ⟨fun b hb => ?_, h.arrived⟩
      rcases List.mem_or_eq_of_mem_set hb with hold | rfl
      · exact h.running b hold
      · exact (h.running a (List.mem_of_getElem? at_place)).proceeds proceeds
  | @arrives a outcome at_place proceeds =>
      refine ⟨fun b hb => h.running b (List.mem_of_mem_eraseIdx hb), fun r hr => ?_⟩
      rcases List.mem_append.mp hr with hold | hnew
      · exact h.arrived r hold
      · rw [List.mem_singleton.mp hnew]
        exact (h.running a (List.mem_of_getElem? at_place)).proceeds proceeds outcome rfl

theorem ToldByOutputs.read {s t : Session} (h : s.ToldByOutputs) {result : ActionResult}
    {rest : List ActionResult} (harrived : s.arrived = result :: rest)
    (running_eq : t.running = s.running) (arrived_eq : t.arrived = rest) : t.ToldByOutputs := by
  constructor
  · rw [running_eq]
    exact h.running
  · rw [arrived_eq]
    intro r hr
    refine h.arrived r ?_
    rw [harrived]
    exact List.mem_cons_of_mem _ hr

theorem Reachable.toldByOutputs {s : Session} (h : s.Reachable) : s.ToldByOutputs := by
  obtain ⟨host, resources, policy, options, credentials, hlater⟩ := h
  -- Only answers bring in what is detected; other steps drop results or begin work without any.
  refine (hlater.induct (P := ToldByOutputs) ?_
    (new_valid host resources policy options credentials)
    ⟨fun _ ha => (nomatch ha), fun _ hr => (nomatch hr)⟩).1
  intro d d' _ htold hchange
  cases hchange with
  | cancel active =>
      obtain ⟨cluster, membership, heq⟩ := Desk.cancel_eq active
      rw [heq]
      exact ⟨htold.running, htold.arrived⟩
  | @start s g g' step active current live idle entry =>
      refine ⟨fun a ha => ?_, htold.arrived⟩
      rcases List.mem_append.mp ha with hold | hnew
      · exact htold.running a hold
      · obtain ⟨key, -, rfl⟩ := List.mem_map.mp hnew
        exact RunningAction.readOff_actionFor s.enterContext step.reset key
  | answer advance => exact htold.advance advance
  | discard _ arrived => exact htold.read arrived rfl rfl
  | absorb _ arrived => exact htold.read arrived rfl rfl
  | complete _ arrived => exact htold.read arrived rfl rfl
  | _ => exact ⟨htold.running, htold.arrived⟩

theorem Recorded.exists_outputs {log : List (Desk × Move)} {s : Session} (h : Recorded log s) :
    ∃ outputs : List String, detections log = outputs.map DistInfo.ofReport := by
  have hread : ∀ found ∈ detections log, found ∈ Set.range DistInfo.ofReport := by
    intro found hfound
    obtain ⟨r, hr, hdetected⟩ := List.mem_filterMap.mp hfound
    obtain ⟨⟨d, m⟩, hentry, hreceipt⟩ := List.mem_filterMap.mp hr
    obtain ⟨-, addresses, houtcome⟩ := r.connected_of_detected? hdetected
    exact (h.of_mem hentry).toldByOutputs.arrived _ (mem_arrived_of_receipt? hreceipt) addresses
      found houtcome
  have hrange : detections log ∈ Set.range (List.map DistInfo.ofReport) := by
    rw [Set.range_list_map]
    exact hread
  obtain ⟨outputs, heq⟩ := hrange
  exact ⟨outputs, heq.symm⟩

/-- A detection leaves a field unknown if no line of its output answers it, and makes it empty if
the last answer is nothing but quotes. A session fills in a field that was not known by the first
detection that answers it, and keeps it from then on, whether it is empty or not. -/
theorem fields_filled_by_first_answer {host : Host} {resources : Resources} {policy : Policy}
    {options : SessionOptions} {credentials : Option VendorCredentials} {log : List (Desk × Move)}
    {s : Session} (hlog : Logged (.new host resources policy options credentials) log s) :
    (∀ output field,
      ((DistInfo.ofReport output).get field = none ↔ Unanswered field output) ∧
      ((DistInfo.ofReport output).get field = some "" ↔ Hollow field output)) ∧
    ∃ outputs, detections log = outputs.map DistInfo.ofReport ∧ ∀ field,
      (s.host.dist.get field = none ↔
        host.dist.get field = none ∧ ∀ o ∈ outputs, Unanswered field o) ∧
      ∀ value, s.host.dist.get field = some value ↔
        host.dist.get field = some value ∨ host.dist.get field = none ∧
          ∃ earlier output later, outputs = earlier ++ output :: later ∧
            (∀ o ∈ earlier, Unanswered field o) ∧
            (DistInfo.ofReport output).get field = some value := by
  refine ⟨fun output field => ⟨DistInfo.ofReport_get_eq_none_iff,
    DistInfo.ofReport_get_eq_empty_iff⟩, ?_⟩
  obtain ⟨outputs, houtputs⟩ :=
    Recorded.exists_outputs ⟨host, resources, policy, options, credentials, hlog⟩
  refine ⟨outputs, houtputs, fun field => ?_⟩
  rw [hlog.dist (new_valid host resources policy options credentials), houtputs]
  exact ⟨DistInfo.get_foldl_ofReport_eq_none_iff,
    fun value => DistInfo.get_foldl_ofReport_eq_some_iff⟩

/-- An attempt to connect that detects a distribution by this output, and another one. -/
def reconnectingMoves (output output' : String) : List Move :=
  [.enter, .found ["10.0.0.1"], .printed "", .printed output, .read,
    .retry, .found ["10.0.0.1"], .printed "", .printed output', .read]

theorem fields_filled_by_first_answer_sample :
    let moves := reconnectingMoves "dist:fedora\nversion: \n" "version:13\n"
    let log := Desk.logAll ⟨unknownSample "10.0.0.1", .empty⟩ moves
    let s := (Desk.performAll ⟨unknownSample "10.0.0.1", .empty⟩ moves).session
    detections log = [{ dist := some "fedora" }, { version := some "13" }] ∧
      s.host.dist.version = some "13" := by
  intro moves log s
  have hlog : Logged (unknownSample "10.0.0.1") log s :=
    Logged.performAll (d := ⟨unknownSample "10.0.0.1", .empty⟩) .nil moves
  have hdetections : detections log = [{ dist := some "fedora" }, { version := some "13" }] := by
    decide +kernel
  obtain ⟨houtput, outputs, houtputs, hfields⟩ := fields_filled_by_first_answer hlog
  rw [hdetections] at houtputs
  obtain ⟨first, _, rfl, hfirst, hrest⟩ := List.map_eq_cons_iff.mp houtputs.symm
  obtain ⟨second, rfl, hsecond⟩ := List.map_eq_singleton_iff.mp hrest
  have hunanswered : Unanswered .version first :=
    (houtput first .version).1.mp (by rw [hfirst]; rfl)
  refine ⟨hdetections, ((hfields .version).2 "13").mpr ?_⟩
  refine .inr ⟨rfl, [first], second, [], rfl, fun o ho => ?_, ?_⟩
  · rw [List.mem_singleton.mp ho]
    exact hunanswered
  · rw [hsecond]
    rfl

/-- A release that is answered by a pair of quotes is empty, and stays empty although a later
detection answers it. -/
theorem quoted_nothing_recorded :
    (DistInfo.ofReport "dist:fedora\nversion:\"\"\n").version = some "" ∧
      let moves := reconnectingMoves "dist:fedora\nversion:\"\"\n" "version:13\n"
      detections (Desk.logAll ⟨unknownSample "10.0.0.1", .empty⟩ moves) =
          [{ dist := some "fedora", version := some "" }, { version := some "13" }] ∧
        (Desk.performAll ⟨unknownSample "10.0.0.1", .empty⟩ moves).session.host.dist.version =
          some "" := by
  exact ⟨by decide +kernel, by decide +kernel, by decide +kernel⟩

end Session

end ClusterSetup
