import Mathlib.Data.List.Nodup
import ClusterSetup.Host

namespace ClusterSetup.Host

/-- The addresses of a result that are not known yet, in the order of their first occurrences. -/
structure NewIn (known result addresses : List String) : Prop where
  mem_iff : ∀ a, a ∈ addresses ↔ a ∈ result ∧ a ∉ known
  ordered : addresses.Pairwise fun a b => result.idxOf a < result.idxOf b

namespace NewIn

theorem nil (known : List String) : NewIn known [] [] where
  mem_iff a := by simp
  ordered := List.Pairwise.nil

theorem ordered_cons {known result addresses : List String} (h : NewIn known result addresses)
    {a : String} (hknown : a ∈ known) :
    addresses.Pairwise fun b c => (a :: result).idxOf b < (a :: result).idxOf c := by
  refine h.ordered.imp_of_mem fun {b c} hb hc hlt => ?_
  have hne : ∀ d ∈ addresses, d ≠ a := by
    rintro d hd rfl
    exact ((h.mem_iff d).mp hd).2 hknown
  rw [List.idxOf_cons_ne result (hne b hb).symm, List.idxOf_cons_ne result (hne c hc).symm]
  exact Nat.succ_lt_succ hlt

theorem cons_known {known result addresses : List String} (h : NewIn known result addresses)
    {a : String} (hknown : a ∈ known) : NewIn known (a :: result) addresses where
  mem_iff b := by
    rw [h.mem_iff, List.mem_cons]
    constructor
    · rintro ⟨hb, hnew⟩
      exact ⟨.inr hb, hnew⟩
    · rintro ⟨rfl | hb, hnew⟩
      · exact absurd hknown hnew
      · exact ⟨hb, hnew⟩
  ordered := h.ordered_cons hknown

theorem cons_new {known result addresses : List String} {a : String}
    (h : NewIn (known ++ [a]) result addresses) (hnew : a ∉ known) :
    NewIn known (a :: result) (a :: addresses) where
  mem_iff b := by
    rw [List.mem_cons, List.mem_cons, h.mem_iff, List.mem_append, List.mem_singleton]
    by_cases hb : b = a
    · simp [hb, hnew]
    · simp [hb]
  ordered := by
    refine List.pairwise_cons.mpr ⟨fun b hb => ?_, h.ordered_cons (by simp)⟩
    have hne : a ≠ b := by
      rintro rfl
      exact ((h.mem_iff a).mp hb).2 (by simp)
    rw [List.idxOf_cons_self, List.idxOf_cons_ne result hne]
    exact Nat.succ_pos _

theorem nodup_append {known result addresses : List String} (h : NewIn known result addresses)
    (hknown : known.Nodup) : (known ++ addresses).Nodup := by
  refine List.nodup_append.mpr ⟨hknown, h.ordered.imp fun hlt => ?_, ?_⟩
  · rintro rfl
    exact Nat.lt_irrefl _ hlt
  · rintro a ha _ hnew rfl
    exact ((h.mem_iff a).mp hnew).2 ha

end NewIn

theorem exists_newIn (known result : List String) :
    ∃ addresses, NewIn known result addresses ∧ appendNew known result = known ++ addresses := by
  induction result generalizing known with
  | nil => exact ⟨[], .nil known, (List.append_nil known).symm⟩
  | cons a result ih =>
      rw [appendNew]
      split
      · rename_i hknown
        obtain ⟨addresses, hnew, heq⟩ := ih known
        exact ⟨addresses, hnew.cons_known (List.contains_iff_mem.mp hknown), heq⟩
      · rename_i hunknown
        rw [List.contains_iff_mem] at hunknown
        obtain ⟨addresses, hnew, heq⟩ := ih (known ++ [a])
        refine ⟨a :: addresses, hnew.cons_new hunknown, ?_⟩
        rw [heq, List.append_assoc, List.singleton_append]

theorem head?_appendNew {known : List String} {a : String} (h : known.head? = some a)
    (resolved : List String) : (appendNew known resolved).head? = some a := by
  obtain ⟨addresses, -, heq⟩ := exists_newIn known resolved
  rw [heq, List.head?_append, h, Option.some_or]

theorem primaryAddress_recordResolved {h : Host} {a : String} (hfirst : h.primaryAddress = some a)
    (resolved : List String) : (h.recordResolved resolved).primaryAddress = some a := by
  rw [primaryAddress] at hfirst
  rw [recordResolved, primaryAddress, hfirst]
  exact head?_appendNew rfl resolved

/-- A result leaves nothing of the ones before it, since all but the entered address is dropped. -/
theorem recordResolved_recordResolved {h : Host} {entered : String}
    (hentered : h.primaryAddress = some entered) (earlier last : List String) :
    (h.recordResolved earlier).recordResolved last = h.recordResolved last := by
  have hkept : (h.recordResolved earlier).addresses.head? = h.addresses.head? :=
    (primaryAddress_recordResolved hentered earlier).trans hentered.symm
  rw [recordResolved, hkept]
  rfl

theorem foldl_recordResolved {h : Host} {entered : String}
    (hentered : h.primaryAddress = some entered) (earlier : List (List String))
    (last : List String) :
    (earlier ++ [last]).foldl recordResolved h = h.recordResolved last := by
  induction earlier generalizing h with
  | nil => rfl
  | cons result earlier ih =>
      rw [List.cons_append, List.foldl_cons,
        ih (primaryAddress_recordResolved hentered result), recordResolved_recordResolved hentered]

/-- However often an entered address is resolved, the host is what the last result alone makes of
it: the entered address stands in front of the others of that result, each of which is listed once,
where the result first has it. Recording that result again changes nothing. -/
theorem addresses_follow_last_result {h : Host} {entered : String}
    (hentered : h.primaryAddress = some entered) (earlier : List (List String))
    (last : List String) :
    let resolved := (earlier ++ [last]).foldl recordResolved h
    resolved.addresses.Nodup ∧
      (∃ others, resolved.addresses = entered :: others ∧
        (∀ a, a ∈ others ↔ a ∈ last ∧ a ≠ entered) ∧
        others.Pairwise fun a b => last.idxOf a < last.idxOf b) ∧
      resolved = { h with addresses := resolved.addresses } ∧
      resolved = h.recordResolved last ∧ resolved.recordResolved last = resolved := by
  intro resolved
  have hlast : resolved = h.recordResolved last := foldl_recordResolved hentered earlier last
  obtain ⟨others, hnew, heq⟩ := exists_newIn [entered] last
  have haddresses : resolved.addresses = entered :: others := by
    rw [primaryAddress] at hentered
    rw [hlast, recordResolved, hentered]
    exact heq
  refine ⟨?_, ⟨others, haddresses, fun a => ?_, hnew.ordered⟩, ?_, hlast, ?_⟩
  · rw [haddresses]
    exact hnew.nodup_append (List.nodup_singleton entered)
  · rw [hnew.mem_iff, List.mem_singleton]
  · rw [hlast]
    rfl
  · rw [hlast, recordResolved_recordResolved hentered]

theorem addresses_follow_last_result_sample :
    let h := Host.new ⟨1⟩ "alpha" "alpha.local"
    let last := ["10.0.0.2", "alpha.local", "fd00::1", "10.0.0.2"]
    h.primaryAddress = some "alpha.local" ∧
      ([["10.0.0.1"], last].foldl recordResolved h).addresses.Nodup ∧
      ([["10.0.0.1"], last].foldl recordResolved h).addresses =
        ["alpha.local", "10.0.0.2", "fd00::1"] := by
  intro h last
  have hentered : h.primaryAddress = some "alpha.local" := rfl
  obtain ⟨hnodup, -, -, heq, -⟩ := addresses_follow_last_result hentered [["10.0.0.1"]] last
  refine ⟨hentered, hnodup, ?_⟩
  rw [List.singleton_append] at heq
  rw [heq]
  decide +kernel

end ClusterSetup.Host
