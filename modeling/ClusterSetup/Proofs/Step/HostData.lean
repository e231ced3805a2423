import ClusterSetup.Proofs.Addresses
import ClusterSetup.Proofs.Step.Completing

namespace ClusterSetup

inductive DistField where
  | dist
  | version
  | arch
  | kernel
  deriving Repr, DecidableEq

namespace DistInfo

def get (info : DistInfo) : DistField → Option String
  | .dist => info.dist
  | .version => info.version
  | .arch => info.arch
  | .kernel => info.kernel

theorem ext_get {info info' : DistInfo} (h : ∀ field, info.get field = info'.get field) :
    info = info' := by
  cases info
  cases info'
  congr
  · exact h .dist
  · exact h .version
  · exact h .arch
  · exact h .kernel

theorem get_mergeMissing (known detected : DistInfo) (field : DistField) :
    (known.mergeMissing detected).get field = (known.get field).or (detected.get field) := by
  cases field <;> exact Option.orElse_eq_or

/-- What is known of a distribution stays known of it, with the same value. -/
def Keeps (info info' : DistInfo) : Prop :=
  ∀ field value, info.get field = some value → info'.get field = some value

theorem Keeps.refl (info : DistInfo) : info.Keeps info := fun _ _ h => h

theorem Keeps.trans {a b c : DistInfo} (h : a.Keeps b) (h' : b.Keeps c) : a.Keeps c :=
  fun field value hvalue => h' field value (h field value hvalue)

theorem keeps_mergeMissing (known detected : DistInfo) :
    known.Keeps (known.mergeMissing detected) := by
  intro field value hvalue
  rw [get_mergeMissing, hvalue, Option.some_or]

theorem mergeMissing_eq_self {known detected : DistInfo}
    (h : ∀ field, known.get field = none → detected.get field = none) :
    known.mergeMissing detected = known := by
  apply ext_get
  intro field
  rw [get_mergeMissing]
  cases hknown : known.get field with
  | none => rw [h field hknown, Option.or_none]
  | some value => rw [Option.some_or]

end DistInfo

namespace Host

/-- It is the same host with the same account, its first address is the same if it had one, and
what was known of its distribution is known of it. -/
structure Keeps (h h' : Host) : Prop where
  id_eq : h'.id = h.id
  name_eq : h'.name = h.name
  user_eq : h'.user = h.user
  port_eq : h'.port = h.port
  primaryAddress : ∀ a, h.primaryAddress = some a → h'.primaryAddress = some a
  dist : h.dist.Keeps h'.dist

theorem Keeps.refl (h : Host) : h.Keeps h := ⟨rfl, rfl, rfl, rfl, fun _ ha => ha, .refl _⟩

theorem Keeps.trans {a b c : Host} (h : a.Keeps b) (h' : b.Keeps c) : a.Keeps c where
  id_eq := h'.id_eq.trans h.id_eq
  name_eq := h'.name_eq.trans h.name_eq
  user_eq := h'.user_eq.trans h.user_eq
  port_eq := h'.port_eq.trans h.port_eq
  primaryAddress a ha := h'.primaryAddress a (h.primaryAddress a ha)
  dist := h.dist.trans h'.dist

end Host

/-- What is detected of a distribution by an attempt to connect that has reached the host. -/
def Outcome.detected? (key : ActionKey) (outcome : Outcome) : Option DistInfo :=
  match key, outcome with
  | .connect, .connected _ dist => some dist
  | _, _ => none

/-- The host with what a result tells of its addresses and its distribution. -/
def Outcome.describes (key : ActionKey) (outcome : Outcome) (h : Host) : Host :=
  match key, outcome with
  | .connect, .connected addresses dist =>
    { h.recordResolved addresses with dist := h.dist.mergeMissing dist }
  | _, _ => h

namespace Outcome

theorem describes_of_ne {key : ActionKey} (h : key ≠ .connect) (outcome : Outcome) (host : Host) :
    outcome.describes key host = host := by
  cases key with
  | connect => exact absurd rfl h
  | _ => rfl

theorem describes_keeps (key : ActionKey) (outcome : Outcome) (h : Host) :
    h.Keeps (outcome.describes key h) := by
  unfold describes
  split
  · exact ⟨rfl, rfl, rfl, rfl, fun _ ha => Host.primaryAddress_recordResolved ha _,
      DistInfo.keeps_mergeMissing _ _⟩
  · exact .refl h

theorem describes_dist (key : ActionKey) (outcome : Outcome) (h : Host) :
    (outcome.describes key h).dist =
      ((outcome.detected? key).map h.dist.mergeMissing).getD h.dist := by
  unfold describes detected?
  split <;> rfl

theorem describes_cluster (key : ActionKey) (outcome : Outcome) (h : Host) :
    (outcome.describes key h).cluster = h.cluster := by
  unfold describes
  split <;> rfl

end Outcome

namespace Step

theorem applyConnect_host (s : Step) (outcome : Outcome) (f : Findings) :
    ∃ connectivity, (s.applyConnect outcome f).2.host =
      { outcome.describes .connect f.host with connectivity := connectivity } := by
  cases outcome <;> exact ⟨_, rfl⟩

theorem complete_describes (t : Resources) {s : Step} {key : ActionKey} (outcome : Outcome)
    (f : Findings) (hkey : key ∈ s.pending) (hkeys : s.pending.Sublist s.kind.keys) :
    ∃ versions installMethods connectivity probed,
      (s.complete t key outcome f).findings.host =
        { outcome.describes key f.host with
          versions := versions
          installMethods := installMethods
          connectivity := connectivity
          probed := probed } := by
  have hmem : key ∈ s.kind.keys := hkeys.subset hkey
  by_cases hkind : s.kind = .connect
  · rw [hkind] at hmem
    obtain rfl := List.mem_singleton.mp hmem
    obtain ⟨connectivity, hhost⟩ := applyConnect_host (s.without .connect) outcome f
    rw [complete_connect t hkind hkey, hhost]
    exact ⟨_, _, connectivity, _, rfl⟩
  · have hother : key ≠ .connect := by
      rintro rfl
      exact hkind (StepKind.eq_connect hmem)
    obtain ⟨versions, installMethods, probed, hhost⟩ := complete_host t hkind key outcome f
    rw [hhost, Outcome.describes_of_ne hother]
    exact ⟨versions, installMethods, _, probed, rfl⟩

theorem complete_cluster (t : Resources) {s : Step} {key : ActionKey} (outcome : Outcome)
    (f : Findings) (hkey : key ∈ s.pending) (hkeys : s.pending.Sublist s.kind.keys) :
    (s.complete t key outcome f).findings.host.cluster = f.host.cluster := by
  obtain ⟨versions, installMethods, connectivity, probed, hhost⟩ :=
    complete_describes t outcome f hkey hkeys
  rw [hhost]
  exact outcome.describes_cluster key f.host

end Step

end ClusterSetup
