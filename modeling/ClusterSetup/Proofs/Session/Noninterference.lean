import ClusterSetup.Proofs.Session.Acts
import ClusterSetup.Proofs.Session.Secrets
import ClusterSetup.Summary

namespace ClusterSetup

universe u

/-- Two remote sides answer twin actions alike. Each of them may remember what it was sent; a
relation of their memories tells that they will go on to answer alike. -/
def Remote.Agrees {σ τ : Type} (remote : Remote σ) (remote' : Remote τ) (R : σ → τ → Prop) : Prop :=
  ∀ {memory memory' running running'}, R memory memory' →
    List.Forall₂ RunningAction.Twins running running' →
    (remote.answer memory running).1 = (remote'.answer memory' running').1 ∧
      R (remote.answer memory running).2 (remote'.answer memory' running').2

namespace Script

variable {call call' : RemoteCall}

theorem takeAnswer_twins (h : call.Twins call') (s : Script) :
    s.takeAnswer call = s.takeAnswer call' := by
  have hreply : ∀ r : ScriptedReply, r.answer call = r.answer call' := by
    intro r
    cases r with
    | timesOut => simp only [ScriptedReply.answer, h.timeout_eq]
    | _ => rfl
  have hunscripted : unscripted call = unscripted call' := by
    cases h with
    | refl => rfl
    | execute _ _ h => cases h <;> rfl
  rw [takeAnswer, takeAnswer, h.scriptKey_eq]
  simp only [hreply, hunscripted]

theorem answerWork_twins {work work' : Work} (h : work.Twins work') (s : Script) :
    s.answerWork work = s.answerWork work' := by
  cases h with
  | refl => rfl
  | execute target timeout hcommand =>
      have hcall := RemoteCall.Twins.execute target timeout hcommand
      rw [answerWork, answerWork, Work.inquiry?, Work.inquiry?]
      dsimp only
      rw [hcall.scriptKey_eq, takeAnswer_twins hcall]

theorem answerFrom_twins {allowed : RunningAction → Bool}
    (hallowed : ∀ {a b : RunningAction}, a.Twins b → allowed a = allowed b) (s : Script)
    (place : Nat) {running running' : List RunningAction}
    (h : List.Forall₂ RunningAction.Twins running running') :
    answerFrom allowed s place running = answerFrom allowed s place running' := by
  induction h generalizing s place with
  | nil => rfl
  | cons hab _ ih =>
      have hwork := answerWork_twins hab.work s
      rw [answerFrom, answerFrom, hallowed hab, hwork]
      simp only [ih]

theorem remote_agrees : remote.Agrees remote Eq := by
  rintro s _ running running' rfl h
  have hsame : remote.answer s running = remote.answer s running' :=
    answerFrom_twins (fun _ => rfl) s 0 h
  rw [hsame]
  exact ⟨rfl, rfl⟩

end Script

/-- The same desk but for secrets: twin sessions with the same guards. -/
inductive Desk.Twins : Desk → Desk → Prop
  | of (g : Guards) {s t : Session} (h : s.Twins t) : Twins ⟨s, g⟩ ⟨t, g⟩

/-- Two outcomes with remote sides that tell the same. -/
inductive Alongside {σ τ β : Type} {α : Type u} (R : σ → τ → Prop) (S : β → β → Prop) :
    α × σ × β → α × τ × β → Prop
  | of (a : α) {memory : σ} {memory' : τ} (hmemory : R memory memory') {b b' : β} (h : S b b') :
      Alongside R S (a, memory, b) (a, memory', b')

section Remote

variable {σ τ : Type} {remote : Remote σ} {remote' : Remote τ} {R : σ → τ → Prop}
  (hremote : remote.Agrees remote' R)

theorem Session.Twins.repliesLeft_eq {s t : Session} (h : s.Twins t) :
    t.repliesLeft = s.repliesLeft := by
  rw [repliesLeft, repliesLeft]
  have hrunning := h.running
  generalize s.running = running, t.running = running' at hrunning
  induction hrunning with
  | nil => rfl
  | cons hab _ ih => rw [List.foldr_cons, List.foldr_cons, ih, hab.work.repliesLeft_eq]

include hremote

theorem Session.awaitResultFor_alongside (fuel : Nat) {memory : σ} {memory' : τ}
    (hmemory : R memory memory') {s t : Session} (h : s.Twins t) :
    Alongside R Session.Twins (s.awaitResultFor remote fuel memory)
      (t.awaitResultFor remote' fuel memory') := by
  induction fuel generalizing memory memory' s t with
  | zero =>
      rw [awaitResultFor, awaitResultFor, h.arrived_eq]
      exact .of _ hmemory h
  | succ fuel ih =>
      rw [awaitResultFor, awaitResultFor, h.arrived_eq]
      split
      · obtain ⟨hanswer, hmemory'⟩ := hremote hmemory h.running
        generalize remote.answer memory s.running = answered,
          remote'.answer memory' t.running = answered' at hanswer hmemory'
        obtain ⟨answer, memory₁⟩ := answered
        obtain ⟨answer', memory₁'⟩ := answered'
        obtain rfl : answer = answer' := hanswer
        rcases answer with _ | ⟨place, reply⟩
        · exact .of _ hmemory' h
        · have hadvanced := h.advance? place reply
          dsimp only
          generalize s.advance? place reply = s', t.advance? place reply = t' at hadvanced
          cases hadvanced with
          | none => exact .of _ hmemory' h
          | some h' => exact ih hmemory' h'
      · exact .of _ hmemory h

namespace Desk

theorem wait_alongside {memory : σ} {memory' : τ} (hmemory : R memory memory') {s t : Session}
    (h : s.Twins t) (g : Guards) :
    Alongside R Desk.Twins (wait remote memory ⟨s, g⟩) (wait remote' memory' ⟨t, g⟩) := by
  have hawaited := Session.awaitResultFor_alongside hremote s.repliesLeft hmemory h
  rw [wait, wait, Session.awaitResult, Session.awaitResult]
  dsimp only
  rw [h.inFlight_eq, h.repliesLeft_eq]
  split
  · exact .of _ hmemory (.of g h)
  · generalize s.awaitResultFor remote s.repliesLeft memory = x,
      t.awaitResultFor remote' s.repliesLeft memory' = y at hawaited
    obtain ⟨waited, hmemory', h'⟩ := hawaited
    cases waited with
    | silent => exact .of _ hmemory' (.of g h')
    | arrived =>
        have hread := read?_oblivious h' g
        dsimp only
        revert hread
        generalize read? _ = x, read? _ = y
        intro hread
        cases hread with
        | none => exact .of _ hmemory' (.of g h')
        | some hread =>
            obtain ⟨applied, g', h''⟩ := hread
            exact .of _ hmemory' (.of g' h'')

theorem settleFor_alongside (count : Nat) {memory : σ} {memory' : τ} (hmemory : R memory memory')
    {s t : Session} (h : s.Twins t) (g : Guards) :
    Alongside R Desk.Twins (settleFor remote count memory ⟨s, g⟩)
      (settleFor remote' count memory' ⟨t, g⟩) := by
  induction count generalizing memory memory' s t g with
  | zero => exact .of _ hmemory (.of g h)
  | succ count ih =>
      have hwaited := wait_alongside hremote hmemory h g
      rw [settleFor, settleFor]
      dsimp only
      rw [h.canceled_eq, h.currentStep_eq]
      split
      · generalize wait remote memory ⟨s, g⟩ = x, wait remote' memory' ⟨t, g⟩ = y at hwaited
        obtain ⟨applied, hmemory', ⟨g', h'⟩⟩ := hwaited
        cases applied with
        | none => exact .of _ hmemory' (.of g' h')
        | some applied => exact ih hmemory' h' g'
      · exact .of _ hmemory (.of g h)

theorem settle_alongside {memory : σ} {memory' : τ} (hmemory : R memory memory') {s t : Session}
    (h : s.Twins t) (g : Guards) :
    Alongside R Desk.Twins (settle remote memory ⟨s, g⟩) (settle remote' memory' ⟨t, g⟩) := by
  rw [settle, settle]
  dsimp only
  rw [h.inFlight_eq]
  exact settleFor_alongside hremote s.inFlight hmemory h g

theorem runFor_alongside (fuel pauses : Nat) {memory : σ} {memory' : τ} (hmemory : R memory memory')
    {s t : Session} (h : s.Twins t) (g : Guards) :
    ∃ ending pauses' memory₁ memory₁' d d',
      runFor remote fuel pauses memory ⟨s, g⟩ = (ending, pauses', memory₁, d) ∧
      runFor remote' fuel pauses memory' ⟨t, g⟩ = (ending, pauses', memory₁', d') ∧
      R memory₁ memory₁' ∧ d.Twins d' := by
  induction fuel generalizing pauses memory memory' s t g with
  | zero => exact ⟨_, _, _, _, _, _, rfl, rfl, hmemory, .of g h⟩
  | succ fuel ih =>
      have hturned := turn_oblivious h g
      rw [runFor, runFor]
      generalize turn ⟨s, g⟩ = x, turn ⟨t, g⟩ = y at hturned
      obtain ⟨turned, g', h'⟩ := hturned
      cases turned with
      | stop reason paused => exact ⟨_, _, _, _, _, _, rfl, rfl, hmemory, .of g' h'⟩
      | goOn paused => exact ih _ hmemory h' g'
      | wait =>
          have hsettled := settle_alongside hremote hmemory h' g'
          dsimp only
          revert hsettled
          generalize settle remote memory _ = x, settle remote' memory' _ = y
          rintro ⟨waited, hmemory', ⟨g'', h''⟩⟩
          cases waited with
          | silent => exact ⟨_, _, _, _, _, _, rfl, rfl, hmemory', .of g'' h''⟩
          | arrived => exact ih pauses hmemory' h'' g''

end Desk

end Remote

inductive Move.Twins : Move → Move → Prop
  | refl (m : Move) : Twins m m
  | setCredentials {v w : VendorCredentials} (h : v.Twins w) :
      Twins (.setCredentials v) (.setCredentials w)
  | join {c d : Cluster} (h : c.Twins d) : Twins (.join c) (.join d)

/-- What is done with a session: a move, or waiting for a result, settling or running. -/
inductive Deed where
  | move (m : Move)
  | wait
  | settle
  | run

inductive Deed.Twins : Deed → Deed → Prop
  | move {m m' : Move} (h : m.Twins m') : Twins (.move m) (.move m')
  | wait : Twins .wait .wait
  | settle : Twins .settle .settle
  | run : Twins .run .run

abbrev Told : Type 1 := (α : Type) × α

abbrev Told.of {α : Type} (answer : α) : Told := ⟨α, answer⟩

def Move.told (m : Move) (d : Desk) : Told := .of (m.result d)

/-- What a deed leads to while a remote side answers: what the caller is told, what the remote side
remembers, and the desk. -/
def Deed.perform {σ : Type} (remote : Remote σ) : Deed → σ → Desk → Told × σ × Desk
  | move m, memory, d => (m.told d, memory, m.perform d)
  | wait, memory, d =>
    let (applied, memory, d) := d.wait remote memory
    (.of applied, memory, d)
  | settle, memory, d =>
    let (waited, memory, d) := d.settle remote memory
    (.of waited, memory, d)
  | run, memory, d =>
    let (ending, pauses, memory, d) := d.run remote memory
    (.of (ending, pauses), memory, d)

theorem Desk.Alike.told {α : Type} {x y : α × Desk} (h : Alike x y) :
    Alike (Told.of x.1, x.2) (Told.of y.1, y.2) := by
  obtain ⟨a, g, h⟩ := h
  exact .of (Told.of a) g h

section Deeds

open Desk

variable {s t : Session} (h : s.Twins t) (g : Guards)
include h

theorem Desk.readNext_alike :
    Alike (Move.told .read ⟨s, g⟩, readNext ⟨s, g⟩) (Move.told .read ⟨t, g⟩, readNext ⟨t, g⟩) := by
  have hread := read?_oblivious h g
  rw [readNext, readNext, Move.told, Move.told, Move.result, Move.result]
  generalize read? ⟨s, g⟩ = x, read? ⟨t, g⟩ = y at hread
  cases hread with
  | none => exact .of _ g h
  | some hread =>
      obtain ⟨applied, g', h'⟩ := hread
      exact .of _ g' h'

theorem Move.perform_alike {m m' : Move} (hm : m.Twins m') :
    Alike (m.told ⟨s, g⟩, m.perform ⟨s, g⟩) (m'.told ⟨t, g⟩, m'.perform ⟨t, g⟩) := by
  cases hm with
  | setCredentials hcredentials => exact (setCredentials_oblivious hcredentials h g).told
  | join hcluster => exact (join_oblivious hcluster h g).told
  | refl =>
      cases m with
      | enter => exact (enter_oblivious h g).told
      | retry => exact (retry_oblivious h g).told
      | next => exact (next_oblivious h g).told
      | previous => exact (previous_oblivious h g).told
      | chooseInstall c method => exact (chooseInstall_oblivious c method h g).told
      | setCredentials v => exact (setCredentials_oblivious (.refl v) h g).told
      | join c => exact (join_oblivious (.refl c) h g).told
      | cancel => exact cancel_alike _ h g
      | read => exact readNext_alike h g
      | turn => exact (turn_oblivious h g).told
      | giveUp c => exact countAttempt_alike _ c h g
      | answer place reply => exact answer_alike _ place reply h g

theorem Desk.turnLimit_eq : turnLimit t = turnLimit s := by
  rw [turnLimit, turnLimit, installsLeft, installsLeft, h.steps_eq, h.policy_eq, h.attempts_eq]

theorem Deed.perform_alongside {σ τ : Type} {remote : Remote σ} {remote' : Remote τ}
    {R : σ → τ → Prop} (hremote : remote.Agrees remote' R) {deed deed' : Deed}
    (hdeed : deed.Twins deed') {memory : σ} {memory' : τ} (hmemory : R memory memory') :
    Alongside R Desk.Twins (deed.perform remote memory ⟨s, g⟩)
      (deed'.perform remote' memory' ⟨t, g⟩) := by
  cases hdeed with
  | @move m m' hm =>
      have hmoved := Move.perform_alike h g hm
      rw [Deed.perform, Deed.perform]
      generalize m.told ⟨s, g⟩ = told, m.perform ⟨s, g⟩ = d, m'.told ⟨t, g⟩ = told',
        m'.perform ⟨t, g⟩ = d' at hmoved
      obtain ⟨told, g', h'⟩ := hmoved
      exact .of told hmemory (.of g' h')
  | wait =>
      have hwaited := wait_alongside hremote hmemory h g
      rw [Deed.perform, Deed.perform]
      generalize Desk.wait remote memory ⟨s, g⟩ = x, Desk.wait remote' memory' ⟨t, g⟩ = y at hwaited
      obtain ⟨applied, hmemory', h'⟩ := hwaited
      exact .of _ hmemory' h'
  | settle =>
      have hsettled := settle_alongside hremote hmemory h g
      rw [Deed.perform, Deed.perform]
      generalize Desk.settle remote memory ⟨s, g⟩ = x, Desk.settle remote' memory' ⟨t, g⟩ = y
        at hsettled
      obtain ⟨waited, hmemory', h'⟩ := hsettled
      exact .of _ hmemory' h'
  | run =>
      obtain ⟨ending, pauses, memory₁, memory₁', d, d', hran, hran', hmemory', h'⟩ :=
        runFor_alongside hremote (turnLimit s) 0 hmemory h g
      rw [Deed.perform, Deed.perform, Desk.run, Desk.run]
      dsimp only
      rw [turnLimit_eq h, hran, hran']
      exact .of _ hmemory' h'

end Deeds

/-- What the caller of a deed was told, and the desk after it. -/
structure Episode : Type 1 where
  told : Told
  desk : Desk

inductive Deed.TwinsAt : Guards × Deed → Guards × Deed → Prop
  | of (g : Guards) {deed deed' : Deed} (h : deed.Twins deed') : TwinsAt (g, deed) (g, deed')

namespace Session

/-- What happens when deeds are done with a session, one after the other. Between any two of them
other sessions may have taken guards or given them back. -/
def episodes {σ : Type} (remote : Remote σ) : σ → Session → List (Guards × Deed) → List Episode
  | _, _, [] => []
  | memory, s, (g, deed) :: script =>
    let (told, memory, d) := deed.perform remote memory ⟨s, g⟩
    ⟨told, d⟩ :: episodes remote memory d.session script

namespace Twins

variable {s t : Session}

theorem report_eq (h : s.Twins t) : t.report = { s.report with cluster := t.cluster } := by
  have houtcome : t.outcome = s.outcome := by
    rw [outcome, outcome, isSuccess, isSuccess, h.canceled_eq, h.finished_eq, h.flags_eq]
  rw [report, report, houtcome, h.flags_eq, h.host_eq, h.steps_eq]

theorem summary_eq (h : s.Twins t) : s.report.summary = t.report.summary := by
  rw [h.report_eq]
  rfl

theorem keys_eq (h : s.Twins t) : s.calls.map (·.scriptKey) = t.calls.map (·.scriptKey) := by
  have hkeys := List.rel_map (fun _ _ h => RemoteCall.Twins.scriptKey_eq h) h.calls
  rw [List.forall₂_eq_eq_eq] at hkeys
  exact hkeys

end Twins

end Session

/-- Two episodes that can only be told apart by the texts of install commands that were sent: the
callers were told the same, and nothing that is shown of the sessions differs. -/
structure Episode.Indistinct (e e' : Episode) : Prop where
  told_eq : e.told = e'.told
  guards_eq : e.desk.guards = e'.desk.guards
  /-- The hosts, flags, steps with their failures, and events are the same. -/
  sessions : e.desk.session.Twins e'.desk.session
  keys_eq : e.desk.session.calls.map (·.scriptKey) = e'.desk.session.calls.map (·.scriptKey)
  installs : ∀ (i : Nat) (call call' : RemoteCall), e.desk.session.calls[i]? = some call →
    e'.desk.session.calls[i]? = some call' → call ≠ call' →
    ∃ c n, call.Installs c n ∧ call'.Installs c n
  report_eq : e'.desk.session.report =
    { e.desk.session.report with cluster := e'.desk.session.cluster }
  summary_eq : e.desk.session.report.summary = e'.desk.session.report.summary
  credentials_eq : e.desk.session.credentials.map (·.describe) =
    e'.desk.session.credentials.map (·.describe)
  cluster_eq : e.desk.session.cluster.map (·.describe) = e'.desk.session.cluster.map (·.describe)

theorem Desk.Twins.indistinct {d d' : Desk} (h : d.Twins d') (told : Told) :
    Episode.Indistinct ⟨told, d⟩ ⟨told, d'⟩ := by
  obtain ⟨g, h⟩ := h
  refine ⟨rfl, rfl, h, h.keys_eq, ?_, h.report_eq, h.summary_eq,
    map_eq_of_rel (fun h => h.describe_eq) h.credentials,
    map_eq_of_rel (fun h => h.describe_eq) h.cluster⟩
  intro i call call' hcall hcall' hne
  have htwins := rel_getElem? h.calls i
  rw [hcall, hcall'] at htwins
  cases htwins with
  | some htwins => exact htwins.installs_of_ne hne

namespace Session

section Runs

variable {σ τ : Type} {remote : Remote σ} {remote' : Remote τ} {R : σ → τ → Prop}
  (hremote : remote.Agrees remote' R) {memory : σ} {memory' : τ} (hmemory : R memory memory')
include hremote hmemory

theorem Twins.episodes_indistinct {s t : Session} (h : s.Twins t)
    {script script' : List (Guards × Deed)} (hscript : List.Forall₂ Deed.TwinsAt script script') :
    List.Forall₂ Episode.Indistinct (episodes remote memory s script)
      (episodes remote' memory' t script') := by
  -- From deed to deed the sessions stay twins and the memories of the remote sides related.
  induction hscript generalizing memory memory' s t with
  | nil => exact .nil
  | cons hdeed _ ih =>
      obtain ⟨g, hdeed⟩ := hdeed
      have hperformed := Deed.perform_alongside h g hremote hdeed hmemory
      rw [episodes, episodes]
      revert hperformed
      generalize Deed.perform remote _ memory _ = x, Deed.perform remote' _ memory' _ = y
      rintro ⟨told, hmemory', ⟨g', h'⟩⟩
      exact .cons (Desk.Twins.indistinct (.of g' h') told) (ih hmemory' h')

/-- Secrets go into the texts of install commands and nowhere else. -/
theorem secrets_stay_in_install_commands (host : Host) (resources : Resources)
    (policy : Policy) (options : SessionOptions) {v w : Option VendorCredentials}
    (hcredentials : Option.Rel VendorCredentials.Twins v w) {script script' : List (Guards × Deed)}
    (hscript : List.Forall₂ Deed.TwinsAt script script') :
    List.Forall₂ Episode.Indistinct
      (episodes remote memory (.new host resources policy options v) script)
      (episodes remote' memory' (.new host resources policy options w) script') := by
  refine Twins.episodes_indistinct hremote hmemory ?_ hscript
  constructor
  case credentials => exact hcredentials
  case cluster => exact .none
  case running => exact .nil
  case calls => exact .nil
  all_goals rfl

end Runs

def secretsSample : Session :=
  .new { Host.new ⟨1⟩ "alpha" "10.0.0.1" with connectivity := .connected }
    (.ofTable ⟨[⟨"", ResourceKey.storageProbe, "drbd"⟩, ⟨"", ResourceKey.stackProbe, "stack"⟩,
      ⟨"", ResourceKey.methodLabel .drbd 1, "vendor packages"⟩,
      ⟨"", ResourceKey.methodTag .drbd 1, "linbit"⟩,
      ⟨"", ResourceKey.methodCommand .drbd 1, "fetch @USER@ @PASSWORD@ @HBPASSWD@"⟩]⟩)

def secretsReplies : Script where
  replies :=
    [(ResourceKey.storageProbe, [.prints ⟨"", 0⟩, .prints ⟨"8.4", 0⟩]),
      (ResourceKey.stackProbe, [.prints ⟨"hb: 3.0", 0⟩]),
      (ResourceKey.methodCommand .drbd 1, [.prints ⟨"Complete!", 0⟩])]

def secretsDeeds (password stackPassword : String) : List (Guards × Deed) :=
  [.move (.join ⟨"east", stackPassword, []⟩), .move .enter, .settle,
    .move (.chooseInstall .drbd 1), .move (.setCredentials ⟨"ann", password⟩), .settle].map
    fun deed => (.empty, deed)

def commandsSent (episodes : List Episode) : List String :=
  (episodes.getLast?.map fun e => e.desk.session.calls.map (·.command)).getD []

theorem secrets_stay_in_install_commands_sample :
    let played := fun password stackPassword =>
      secretsSample.episodes Script.remote secretsReplies (secretsDeeds password stackPassword)
    List.Forall₂ Episode.Indistinct (played "one" "red") (played "two" "blue") ∧
      commandsSent (played "one" "red") = ["drbd", "stack", "fetch ann one red"] ∧
      commandsSent (played "two" "blue") = ["drbd", "stack", "fetch ann two blue"] := by
  have hcluster : Cluster.Twins ⟨"east", "red", []⟩ ⟨"east", "blue", []⟩ := .of _ _ _ _
  have hcredentials : VendorCredentials.Twins ⟨"ann", "one"⟩ ⟨"ann", "two"⟩ := .of _ _ _
  have hdeeds : List.Forall₂ Deed.TwinsAt (secretsDeeds "one" "red") (secretsDeeds "two" "blue") :=
    .cons (.of _ (.move (.join hcluster))) <| .cons (.of _ (.move (.refl _))) <|
      .cons (.of _ .settle) <| .cons (.of _ (.move (.refl _))) <|
      .cons (.of _ (.move (.setCredentials hcredentials))) <| .cons (.of _ .settle) .nil
  exact ⟨secrets_stay_in_install_commands Script.remote_agrees rfl _ _ _ _ .none hdeeds,
    by decide +kernel, by decide +kernel⟩

end Session

end ClusterSetup
