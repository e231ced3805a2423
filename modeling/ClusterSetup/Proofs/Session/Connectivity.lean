import ClusterSetup.Proofs.Session.Calls
import ClusterSetup.Proofs.Session.Offers

namespace ClusterSetup

theorem Step.exists_scope_of_offersInstall {step : Step} {c : Component}
    (h : step.offersInstall c = true) : ∃ scope, step.kind = .probe scope := by
  rw [offersInstall] at h
  split at h
  · rename_i scope hkind
    exact ⟨scope, hkind⟩
  · cases h

namespace Session

/-- The host can be reached, unless the session stands at a step that connects and leads nowhere
yet. -/
def Reaches (s : Session) : Prop :=
  ∀ step, s.steps[s.current]? = some step → (step.kind = .connect → step.next ≠ none) →
    s.host.connectivity = .connected

theorem Reaches.replace {s t : Session} (h : s.Reaches) {step step' : Step}
    (hstep : s.steps[s.current]? = some step) (hstep' : t.steps[t.current]? = some step')
    (hkind : step'.kind = step.kind)
    (hopens : step.kind = .connect → step'.next ≠ none → t.host.connectivity = .connected)
    (hkept : step.kind ≠ .connect → t.host.connectivity = s.host.connectivity) : t.Reaches := by
  intro u hu hleads
  rw [hstep', Option.some.injEq] at hu
  subst hu
  by_cases hconnect : step.kind = .connect
  · exact hopens hconnect (hleads (hkind.trans hconnect))
  · rw [hkept hconnect]
    exact h step hstep fun hconnect' => absurd hconnect' hconnect

theorem Reaches.rerun {s t : Session} (h : s.Reaches) {step step' : Step}
    (hstep : s.steps[s.current]? = some step) (hsteps : t.steps = s.steps.set s.current step')
    (hcurrent : t.current = s.current) (hkind : step'.kind = step.kind)
    (hnext : step'.next = none)
    (hkept : step.kind ≠ .connect → t.host.connectivity = s.host.connectivity) : t.Reaches := by
  have hid : s.current < s.steps.length := (List.getElem?_eq_some_iff.mp hstep).1
  refine h.replace hstep ?_ hkind (fun _ hleads => absurd hnext hleads) hkept
  rw [hsteps, hcurrent, List.getElem?_set_self hid]

theorem connectivity_of_applied {s : Session} {step step' : Step} {f : Findings} {key : ActionKey}
    {outcome : Outcome} {done : Bool} (hkind : step.kind ≠ .connect)
    (happlied : step.complete s.resources key outcome s.findings = ⟨step', f, done⟩) :
    f.host.connectivity = s.host.connectivity := by
  obtain ⟨versions, installMethods, probed, hhost⟩ :=
    Step.complete_host s.resources hkind key outcome s.findings
  rw [happlied] at hhost
  have hsame := congrArg Host.connectivity hhost
  exact hsame

theorem Reaches.keeps {d d' : Desk} (hvalid : d.session.Valid) (hoffering : d.session.Offering)
    (h : d.session.Reaches) (hchange : Desk.Change d d') : d'.session.Reaches := by
  cases hchange with
  | credentials _ => exact h
  | attempt _ _ => exact h
  | @join s g cluster joined added host active held add =>
      intro step hstep hleads
      rw [addHost_host add]
      exact h step hstep hleads
  | cancel active =>
      obtain ⟨cluster, membership, heq⟩ := Desk.cancel_eq active
      obtain ⟨step, hstep⟩ := hvalid.placed.current
      have hlinks := Step.stopped_sameLinks d.session.current step
      rw [heq]
      refine h.replace hstep ?_ hlinks.kind_eq ?_ fun _ => rfl
      · rw [List.getElem?_map, hstep, Option.map_some]
      · intro _ hnext
        rw [hlinks.next_eq] at hnext
        exact h step hstep fun _ => hnext
  | start active current live idle entry => exact h.rerun current rfl rfl rfl rfl fun _ => rfl
  | ask active current live idle kind_eq lacks => exact h.rerun current rfl rfl rfl rfl fun _ => rfl
  | fail active current live idle kind_eq lacks none =>
      exact h.rerun current rfl rfl rfl rfl fun _ => rfl
  | finish active current live idle kind_eq => exact h.rerun current rfl rfl rfl rfl fun _ => rfl
  | @choose s g step c method active current live offers listed =>
      have hid : s.current < s.steps.length := (List.getElem?_eq_some_iff.mp current).1
      obtain ⟨next, hself, -⟩ := getElem?_attach_self hid (step.chosen c method)
      obtain ⟨scope, hprobe⟩ := Step.exists_scope_of_offersInstall offers
      refine h.replace current hself rfl (fun hconnect => ?_) fun _ => rfl
      rw [hprobe] at hconnect
      cases hconnect
  | @go s g step n active current completed next =>
      intro _ _ _
      refine h step current fun _ => ?_
      rw [next]
      exact Option.some_ne_none n
  | @back s g step p active current idle previous =>
      intro _ _ _
      refine h step current fun hconnect => ?_
      -- Nothing comes before connecting, so that one does not go back from it.
      have hfirst := (hoffering active.live).2 s.current step current hconnect
      rw [(hvalid.placed.arena.first_iff current).mpr hfirst] at previous
      cases previous
  | answer advance =>
      rw [(advance?_answered advance).same]
      exact h
  | discard _ _ => exact h
  | absorb active arrived current ticket pending applied =>
      obtain ⟨hreads, -⟩ := hvalid.placed.reads current pending applied
      exact h.rerun current rfl rfl hreads.same.kind_eq hreads.next_eq fun hkind =>
        connectivity_of_applied hkind applied
  | @complete s g result rest step step' f active arrived current ticket pending applied =>
      have hid : s.current < s.steps.length := (List.getElem?_eq_some_iff.mp current).1
      obtain ⟨hreads, -⟩ := hvalid.placed.reads current pending applied
      obtain ⟨next, hself, hlast, -⟩ := getElem?_attach_self hid step'
      refine h.replace current hself hreads.same.kind_eq ?_ fun hkind =>
        connectivity_of_applied hkind applied
      intro hkind hnext
      have hkeys := (hvalid.placed.arena.sound current).pending_sublist
      have hreached := Step.connectivity_of_decided s.resources result.outcome s.findings hkind
        pending hkeys
      rw [applied] at hreached
      refine hreached fun hundecided => hnext ?_
      exact (hlast hundecided).trans hreads.next_eq

theorem new_reaches (host : Host) (resources : Resources) (policy : Policy)
    (options : SessionOptions) (credentials : Option VendorCredentials) :
    (new host resources policy options credentials).Reaches := by
  intro step hstep hleads
  obtain rfl := List.mem_singleton.mp (List.mem_of_getElem? hstep)
  by_cases hconnected : host.isConnected = true
  · exact beq_iff_eq.mp hconnected
  · refine absurd rfl (hleads ?_)
    simp [Step.new, firstKind, hconnected]

theorem Reachable.reaches {s : Session} (h : s.Reachable) : s.Reaches := by
  obtain ⟨host, resources, policy, options, credentials, hlater⟩ := h
  have hnew : Reachable (new host resources policy options credentials) :=
    ⟨_, _, _, _, _, .refl⟩
  refine (hlater.induct (P := fun s => s.Offering ∧ s.Reaches) ?_
    (new_valid host resources policy options credentials)
    ⟨hnew.offering, new_reaches host resources policy options credentials⟩).1.2
  intro d d' hvalid hd hchange
  exact ⟨hd.1.keeps hvalid hchange, hd.2.keeps hvalid hd.1 hchange⟩

end Session

/-- How an attempt to connect has ended, if that is what is read at an entry of a log. A result that
comes after a cancelation is discarded. -/
def connectAttempt? (entry : Desk × Move) : Option Connectivity :=
  match entry.2, entry.1.session.arrived with
  | .read, result :: _ =>
    if entry.1.session.canceled || result.key != .connect then none
    else some result.outcome.connectivity
  | _, _ => none

/-- How the latest attempt to connect of a log has ended; without one, what was known before. -/
def latestConnect (log : List (Desk × Move)) (before : Connectivity) : Connectivity :=
  (log.filterMap connectAttempt?).getLastD before

theorem latestConnect_snoc (log : List (Desk × Move)) (entry : Desk × Move)
    (before : Connectivity) : latestConnect (log ++ [entry]) before =
      (connectAttempt? entry).getD (latestConnect log before) := by
  rw [latestConnect, List.filterMap_append]
  cases hattempt : connectAttempt? entry with
  | none => simp [hattempt, latestConnect]
  | some connectivity => simp [hattempt]

namespace Desk

theorem connectAttempt?_of_other {m : Move} (h : m ≠ .read) (d : Desk) :
    connectAttempt? (d, m) = none := by
  cases m with
  | read => exact absurd rfl h
  | _ => rfl

theorem readNext_connectivity {s : Session} (h : s.Valid) (g : Guards) :
    (readNext ⟨s, g⟩).session.host.connectivity =
      (connectAttempt? (⟨s, g⟩, .read)).getD s.host.connectivity := by
  cases harrived : s.arrived with
  | nil => simp [readNext, read?, connectAttempt?, harrived]
  | cons result rest =>
      cases hcanceled : s.canceled with
      | true =>
          rw [readNext, read?_of_canceled g hcanceled harrived]
          simp [connectAttempt?, harrived, hcanceled]
      | false =>
          obtain ⟨step, hstep⟩ := h.placed.current
          obtain ⟨-, hpending⟩ := h.expects hcanceled harrived hstep
          have hkeys := (h.placed.arena.sound hstep).pending_sublist
          have hfound := Step.complete_connectivity s.resources result.outcome s.findings hpending
            hkeys
          have hattempt : (connectAttempt? (⟨s, g⟩, .read)).getD s.host.connectivity =
              if result.key = .connect then result.outcome.connectivity
              else s.host.connectivity := by
            by_cases hkey : result.key = .connect
            · simp [connectAttempt?, harrived, hcanceled, hkey]
            · simp [connectAttempt?, harrived, hcanceled, hkey]
          rw [hattempt]
          obtain ⟨step', f, -, ⟨happlied, hread⟩ | ⟨happlied, hread⟩⟩ :=
            read?_of_live g h hcanceled harrived hstep
          · rw [happlied] at hfound
            rw [readNext, hread]
            exact hfound
          · rw [happlied] at hfound
            rw [readNext, hread]
            exact hfound

theorem perform_connectivity {s : Session} (h : s.Valid) (g : Guards) (m : Move) :
    (m.perform ⟨s, g⟩).session.host.connectivity =
      (connectAttempt? (⟨s, g⟩, m)).getD s.host.connectivity := by
  by_cases hread : m = .read
  · subst hread
    exact readNext_connectivity h g
  · rw [connectAttempt?_of_other hread]
    cases perform_spec h g m with
    | quiet _ _ _ host_kept =>
        obtain ⟨membership, hhost⟩ := host_kept
        rw [hhost]
        rfl
    | reads move => exact absurd move hread
    | answers advance =>
        rw [(Session.advance?_answered advance).same]
        rfl
    | enters _ _ entering =>
        rw [entering.session_eq]
        rfl
    | chooses _ choosing =>
        obtain ⟨entered, entering⟩ := choosing.entering
        rw [entering.session_eq]
        rfl

/-- A move makes calls beyond connecting only while the host can be reached. -/
theorem perform_reaches {s : Session} (h : s.Reachable) (g : Guards) (m : Move) :
    ∃ made, (m.perform ⟨s, g⟩).session.calls = s.calls ++ made ∧
      ∀ call ∈ made, call.Connects ∨ s.host.connectivity = .connected := by
  cases perform_spec h.valid g m with
  | quiet _ calls_eq => exact ⟨[], by rw [calls_eq, List.append_nil], nofun⟩
  | reads _ _ _ calls_eq => exact ⟨[], by rw [calls_eq, List.append_nil], nofun⟩
  | answers advance =>
      obtain ⟨-, made, hmade, hconnects⟩ := Session.advance?_apt advance h.apt
      exact ⟨made, hmade, fun call hcall => .inl (hconnects call hcall)⟩
  | @enters acts credentials step entered entering =>
      refine ⟨entered.firstCalls, by rw [entering.session_eq], ?_⟩
      intro call hcall
      by_cases hkind : step.kind = .connect
      · rw [entering.entry.firstCalls_of_connect hkind] at hcall
        cases hcall
      · exact .inr (h.reaches step entering.current fun hconnect => absurd hconnect hkind)
  | @chooses attempts step c n _ choosing =>
      obtain ⟨entered, entering⟩ := choosing.entering
      obtain ⟨scope, hprobe⟩ := Step.exists_scope_of_offersInstall choosing.offers
      refine ⟨entered.firstCalls, by rw [entering.session_eq]; rfl, ?_⟩
      intro call hcall
      refine .inr (h.reaches step choosing.current fun hconnect => ?_)
      rw [hprobe] at hconnect
      cases hconnect

end Desk

namespace Session

theorem Logged.connectivity {first s : Session} {log : List (Desk × Move)} (hvalid : first.Valid)
    (h : Logged first log s) :
    s.host.connectivity = latestConnect log first.host.connectivity := by
  induction h with
  | nil => rfl
  | snoc before g m ih =>
      have hs := before.later.valid hvalid
      rw [latestConnect_snoc, Desk.perform_connectivity hs, ih]

/-- A session that stands beyond connecting has a host that can be reached: the latest attempt to
connect has reached it, or there was none and it was known before. Commands of probes and installs
are only sent while that is so. -/
theorem connected_beyond_connecting {s : Session} (h : s.Reachable) :
    (s.currentStep.kind ≠ .connect → s.host.connectivity = .connected) ∧
    ∀ host resources policy options credentials log,
      Logged (.new host resources policy options credentials) log s →
        s.host.connectivity = latestConnect log host.connectivity ∧
        ∀ g (m : Move), ∃ made, (m.perform ⟨s, g⟩).session.calls = s.calls ++ made ∧
          ∀ call ∈ made, ((∃ p, call.Probes p) ∨ ∃ c n, call.Installs c n) →
            latestConnect log host.connectivity = .connected := by
  constructor
  · intro hkind
    obtain ⟨step, hstep⟩ := h.valid.placed.current
    rw [currentStep_eq hstep] at hkind
    exact h.reaches step hstep fun hconnect => absurd hconnect hkind
  · intro host resources policy options credentials log hlog
    have hlatest : s.host.connectivity = latestConnect log host.connectivity :=
      hlog.connectivity (new_valid host resources policy options credentials)
    refine ⟨hlatest, fun g m => ?_⟩
    obtain ⟨made, hmade, hreaches⟩ := Desk.perform_reaches h g m
    refine ⟨made, hmade, ?_⟩
    intro call hcall hsends
    rw [← hlatest]
    refine (hreaches call hcall).resolve_left fun hconnects => ?_
    rcases hsends with ⟨p, hprobes⟩ | ⟨c, n, hinstalls⟩
    · exact hconnects.not_probes p hprobes
    · exact hconnects.not_installs c n hinstalls

def unreached : Session :=
  .new (Host.new ⟨1⟩ "alpha" "alpha.example")
    (.ofTable ⟨[⟨"", ResourceKey.storageProbe, "drbd"⟩, ⟨"", ResourceKey.stackProbe, "stack"⟩]⟩)

/-- The moves by which its address is first looked up in vain, then called in vain, and then
reached. -/
def reachingMoves : List Move :=
  [.enter, .answer 0 (.lookedUp .timedOut), .read,
    .retry, .found ["10.0.0.1"], .answer 0 (.answered (.error (.spawn ""))), .read,
    .retry, .found ["10.0.0.1"], .printed "", .read, .next]

theorem connected_beyond_connecting_sample :
    let log := Desk.logAll ⟨unreached, .empty⟩ reachingMoves
    let reached := Desk.performAll ⟨unreached, .empty⟩ reachingMoves
    log.filterMap connectAttempt? = [.failed, .failed, .connected] ∧
      reached.session.currentStep.kind ≠ .connect ∧
      reached.session.host.connectivity = .connected ∧
      ∃ call ∈ (Desk.enter ⟨reached.session, .empty⟩).2.session.calls, call.Probes .storage ∧
        latestConnect log .disconnected = .connected := by
  intro log reached
  have hlog : Logged unreached log reached.session :=
    Logged.performAll (d := ⟨unreached, .empty⟩) .nil reachingMoves
  have hkind : reached.session.currentStep.kind ≠ .connect := by decide +kernel
  obtain ⟨hconnected, hlogged⟩ := connected_beyond_connecting (s := reached.session)
    ⟨_, _, _, _, _, hlog.later⟩
  obtain ⟨made, hmade, hsent⟩ := (hlogged _ _ _ _ _ log hlog).2 .empty .enter
  have hcalls : (Move.enter.perform ⟨reached.session, .empty⟩).session.calls =
      reached.session.calls ++
        [.execute reached.session.host.target ⟨ResourceKey.storageProbe, "drbd"⟩ (.ofSeconds 60),
          .execute reached.session.host.target ⟨ResourceKey.stackProbe, "stack"⟩
            (.ofSeconds 60)] := by decide +kernel
  obtain rfl := List.append_cancel_left (hcalls.symm.trans hmade)
  have hprobes : RemoteCall.Probes (.execute reached.session.host.target
      ⟨ResourceKey.storageProbe, "drbd"⟩ (.ofSeconds 60)) .storage := ⟨_, _, _, rfl, rfl⟩
  refine ⟨by decide +kernel, hkind, hconnected hkind, _, ?_, hprobes, ?_⟩
  · change _ ∈ (Move.enter.perform ⟨reached.session, .empty⟩).session.calls
    rw [hcalls]
    exact List.mem_append_right _ List.mem_cons_self
  · exact hsent _ List.mem_cons_self (.inl ⟨_, hprobes⟩)

end Session

end ClusterSetup
