import ClusterSetup.Method

namespace ClusterSetup

theorem MethodChoice.mem_of_find? {choice : MethodChoice} {n : Nat} {m : InstallMethod}
    (h : choice.find? n = some m) : m ∈ choice.methods ∧ m.index = n := by
  refine ⟨List.mem_of_find?_eq_some h, ?_⟩
  simpa using List.find?_some h

theorem MethodChoice.lists_default {choice : MethodChoice} {m : InstallMethod}
    (h : choice.default? = some m) :
    choice.isEmpty = false ∧ (choice.find? m.index).isSome = true := by
  obtain ⟨place, -, hplace⟩ := Option.bind_eq_some_iff.mp h
  have hm : m ∈ choice.methods := List.mem_of_getElem? hplace
  constructor
  · simpa [MethodChoice.isEmpty] using List.ne_nil_of_mem hm
  · rw [MethodChoice.find?, List.find?_isSome]
    exact ⟨m, hm, beq_self_eq_true m.index⟩

namespace Resources

/-- What the resources say about the method with its number. -/
structure Describes (t : Resources) (info : DistInfo) (c : Component) (m : InstallMethod) :
    Prop where
  label : t.resolveFor info (ResourceKey.methodLabel c m.index) = some m.label
  kind : m.kind = .ofTag (t.resolveFor info (ResourceKey.methodTag c m.index))
  staging : m.staging = t.isStaging info c m.index

/-- A number under which a method is offered. -/
structure Offers (t : Resources) (info : DistInfo) (c : Component) (staging : Bool) (n : Nat) :
    Prop where
  pos : 1 ≤ n
  le_max : n ≤ maxMethods
  labelled : ∀ k, 1 ≤ k → k ≤ n → (t.resolveFor info (ResourceKey.methodLabel c k)).isSome = true
  shown : t.isStaging info c n = false ∨ staging = true

variable {t : Resources} {info : DistInfo} {c : Component}

section Listing

variable {n count : Nat} {m : InstallMethod}

theorem method?_isSome (t : Resources) (info : DistInfo) (c : Component) (n : Nat) :
    (t.method? info c n).isSome = (t.resolveFor info (ResourceKey.methodLabel c n)).isSome :=
  Option.isSome_map

theorem method?_eq_some_iff :
    t.method? info c n = some m ↔ m.index = n ∧ t.Describes info c m := by
  constructor
  · intro h
    obtain ⟨label, hlabel, rfl⟩ := Option.map_eq_some_iff.mp h
    exact ⟨rfl, hlabel, rfl, rfl⟩
  · rintro ⟨rfl, label, kind, staging⟩
    rw [method?, label, Option.map_some, ← kind, ← staging]

theorem mem_methodsFrom_iff :
    m ∈ t.methodsFrom info c n count ↔
      t.Describes info c m ∧ n ≤ m.index ∧ m.index < n + count ∧
        ∀ k, n ≤ k → k < m.index → (t.method? info c k).isSome = true := by
  induction count generalizing n with
  | zero =>
      rw [methodsFrom]
      constructor
      · exact fun h => nomatch h
      · rintro ⟨-, hlow, hhigh, -⟩
        omega
  | succ count ih =>
      rw [methodsFrom]
      cases hfirst : t.method? info c n with
      | none =>
          constructor
          · exact fun h => nomatch h
          · rintro ⟨hm, hlow, -, hbefore⟩
            -- The method itself or one before it would have the number that has no label.
            rcases Nat.lt_or_eq_of_le hlow with hless | rfl
            · have hsome := hbefore n (Nat.le_refl n) hless
              rw [hfirst] at hsome
              cases hsome
            · rw [method?_eq_some_iff.mpr ⟨rfl, hm⟩] at hfirst
              cases hfirst
      | some first =>
          obtain ⟨hindex, hdescribes⟩ := method?_eq_some_iff.mp hfirst
          rw [List.mem_cons, ih]
          constructor
          · rintro (rfl | ⟨hm, hlow, hhigh, hbefore⟩)
            · exact ⟨hdescribes, by omega, by omega, fun k _ _ => by omega⟩
            · refine ⟨hm, by omega, by omega, fun k hk hless => ?_⟩
              rcases Nat.lt_or_eq_of_le hk with hk | rfl
              · exact hbefore k hk hless
              · rw [hfirst]
                rfl
          · rintro ⟨hm, hlow, hhigh, hbefore⟩
            rcases Nat.lt_or_eq_of_le hlow with hless | heq
            · exact .inr ⟨hm, hless, by omega, fun k hk => hbefore k (Nat.le_of_succ_le hk)⟩
            · left
              have hsame := method?_eq_some_iff.mpr ⟨heq.symm, hm⟩
              rw [hfirst, Option.some.injEq] at hsame
              exact hsame.symm

theorem methodsFrom_pairwise (t : Resources) (info : DistInfo) (c : Component)
    (n count : Nat) : (t.methodsFrom info c n count).Pairwise (·.index < ·.index) := by
  induction count generalizing n with
  | zero => exact .nil
  | succ count ih =>
      rw [methodsFrom]
      cases hfirst : t.method? info c n with
      | none => exact .nil
      | some first =>
          refine .cons (fun m hm => ?_) (ih (n + 1))
          rw [(method?_eq_some_iff.mp hfirst).1]
          exact (mem_methodsFrom_iff.mp hm).2.1

end Listing

section Choice

variable {staging : Bool} {remembered : Option Nat} {n : Nat} {m : InstallMethod}

theorem mem_methods_iff :
    m ∈ (t.methods info c staging remembered).methods ↔
      t.Describes info c m ∧ t.Offers info c staging m.index := by
  rw [methods, List.mem_filter, mem_methodsFrom_iff, Bool.or_eq_true, Bool.not_eq_true']
  constructor
  · rintro ⟨⟨hm, hlow, hhigh, hbefore⟩, hshown⟩
    refine ⟨hm, hlow, Nat.le_of_lt_succ (by omega), fun k hk hle => ?_, ?_⟩
    · rcases Nat.lt_or_eq_of_le hle with hless | rfl
      · rw [← method?_isSome]
        exact hbefore k hk hless
      · rw [hm.label]
        rfl
    · rw [← hm.staging]
      exact hshown.symm
  · rintro ⟨hm, hpos, hmax, hlabelled, hshown⟩
    refine ⟨⟨hm, hpos, by omega, fun k hk hless => ?_⟩, ?_⟩
    · rw [method?_isSome]
      exact hlabelled k hk (Nat.le_of_lt hless)
    · rw [hm.staging]
      exact hshown.symm

theorem find?_methods_eq_some_iff :
    (t.methods info c staging remembered).find? n = some m ↔
      m.index = n ∧ t.Describes info c m ∧ t.Offers info c staging n := by
  constructor
  · intro h
    obtain ⟨hmem, rfl⟩ := MethodChoice.mem_of_find? h
    exact ⟨rfl, mem_methods_iff.mp hmem⟩
  · rintro ⟨rfl, hm, hoffers⟩
    have hsome : ((t.methods info c staging remembered).find? m.index).isSome = true := by
      rw [MethodChoice.find?, List.find?_isSome]
      exact ⟨m, mem_methods_iff.mpr ⟨hm, hoffers⟩, beq_self_eq_true m.index⟩
    obtain ⟨found, hfound⟩ := Option.isSome_iff_exists.mp hsome
    obtain ⟨hmem, hindex⟩ := MethodChoice.mem_of_find? hfound
    -- A number has one method.
    have hsame := method?_eq_some_iff.mpr ⟨hindex, (mem_methods_iff.mp hmem).1⟩
    rw [method?_eq_some_iff.mpr ⟨rfl, hm⟩, Option.some.injEq] at hsame
    rw [hfound, hsame]

theorem Offers.exists_method (h : t.Offers info c staging n) :
    ∃ m, m.index = n ∧ t.Describes info c m := by
  have hsome := h.labelled n h.pos (Nat.le_refl n)
  rw [← method?_isSome] at hsome
  obtain ⟨m, hm⟩ := Option.isSome_iff_exists.mp hsome
  exact ⟨m, method?_eq_some_iff.mp hm⟩

theorem find?_methods_isSome_iff :
    ((t.methods info c staging remembered).find? n).isSome = true ↔
      t.Offers info c staging n := by
  rw [Option.isSome_iff_exists]
  constructor
  · rintro ⟨m, hm⟩
    exact (find?_methods_eq_some_iff.mp hm).2.2
  · intro h
    obtain ⟨m, hindex, hm⟩ := h.exists_method
    exact ⟨m, find?_methods_eq_some_iff.mpr ⟨hindex, hm, h⟩⟩

theorem default?_methods (t : Resources) (info : DistInfo) (c : Component) (staging : Bool)
    (remembered : Option Nat) :
    (t.methods info c staging remembered).default? =
      (remembered.bind (t.methods info c staging remembered).find?).or
        (t.methods info c staging remembered).methods.head? := by
  simp only [methods, MethodChoice.default?]
  generalize (t.methodsFrom info c 1 maxMethods).filter (fun m => staging || !m.staging) = offered
  have hfirst : (if offered.isEmpty then none else some 0 : Option Nat).bind (offered[·]?) =
      offered.head? := by
    cases offered <;> rfl
  cases remembered with
  | none => exact hfirst
  | some n =>
      rw [Option.bind_some, Option.bind_some, MethodChoice.find?,
        List.find?_eq_bind_findIdx?_getElem?]
      cases hplace : offered.findIdx? fun m => m.index == n with
      | none => exact hfirst
      | some place =>
          have hless := (List.findIdx?_eq_some_iff_findIdx_eq.mp hplace).1
          simp [List.getElem?_eq_getElem hless]

theorem default?_eq_none_iff (t : Resources) (info : DistInfo) (c : Component)
    (staging : Bool) (remembered : Option Nat) :
    (t.methods info c staging remembered).default? = none ↔
      (t.methods info c staging remembered).isEmpty = true := by
  rw [default?_methods, Option.or_eq_none_iff, List.head?_eq_none_iff, MethodChoice.isEmpty,
    List.isEmpty_iff]
  constructor
  · exact And.right
  · intro hempty
    refine ⟨?_, hempty⟩
    cases remembered with
    | none => rfl
    | some n => rw [Option.bind_some, MethodChoice.find?, hempty, List.find?_nil]

theorem find?_methods_iff :
    (t.methods info c staging remembered).find? n = some m ↔
      (t.methods info c true none).find? n = some m ∧ (m.staging = false ∨ staging = true) := by
  rw [find?_methods_eq_some_iff, find?_methods_eq_some_iff]
  constructor
  · rintro ⟨rfl, hm, hoffers⟩
    exact ⟨⟨rfl, hm, { hoffers with shown := .inr rfl }⟩, hm.staging ▸ hoffers.shown⟩
  · rintro ⟨⟨rfl, hm, hoffers⟩, hshown⟩
    exact ⟨rfl, hm, { hoffers with shown := hm.staging ▸ hshown }⟩

theorem staging_of_listed (h : (t.methods info c staging remembered).find? n = some m)
    (hstaging : m.staging = true) : staging = true := by
  rcases (find?_methods_iff.mp h).2 with hplain | hon
  · rw [hstaging] at hplain
    cases hplain
  · exact hon

theorem methods_eq_filter (t : Resources) (info : DistInfo) (c : Component) (staging : Bool)
    (remembered : Option Nat) :
    (t.methods info c staging remembered).methods =
      (t.methods info c true none).methods.filter fun m => !m.staging || staging := by
  rw [methods, methods, List.filter_filter]
  refine List.filter_congr fun m _ => ?_
  rw [Bool.true_or, Bool.and_true, Bool.or_comm]

theorem methods_congr {info' : DistInfo} (hdist : info.dist = info'.dist)
    (hversion : info.version = info'.version) :
    t.methods info c staging remembered = t.methods info' c staging remembered := by
  have hresolve : t.resolveFor info = t.resolveFor info' := by
    funext key
    rw [resolveFor, resolveFor, hdist, hversion]
  have hmethod : t.method? info c = t.method? info' c := by
    funext n
    rw [method?, method?, isStaging, isStaging, hresolve]
  have hfrom (n count : Nat) : t.methodsFrom info c n count = t.methodsFrom info' c n count := by
    induction count generalizing n with
    | zero => rfl
    | succ count ih => rw [methodsFrom, methodsFrom, hmethod, ih]
  rw [methods, methods, hfrom]

/-- The methods that are offered have the numbers from one on up to the first one without a label,
and up to 32, without those that are staging where staging is off. They are listed in the order of
their numbers, each with what the resources say about its own number, and each is found under its
number. The default is the remembered method if it is listed, else the first one that is, if
there is one. -/
theorem methods_listed_up_to_first_gap (t : Resources) (info : DistInfo) (c : Component)
    (staging : Bool) (remembered : Option Nat) :
    let choice := t.methods info c staging remembered
    (∀ n, (∃ m ∈ choice.methods, m.index = n) ↔ t.Offers info c staging n) ∧
    choice.methods.Pairwise (·.index < ·.index) ∧
    (∀ m ∈ choice.methods, t.Describes info c m) ∧
    (∀ n, (choice.find? n).isSome = true ↔ t.Offers info c staging n) ∧
    (∀ n m, choice.find? n = some m ↔ m ∈ choice.methods ∧ m.index = n) ∧
    (∀ n, remembered = some n → t.Offers info c staging n →
      choice.default? = choice.find? n) ∧
    ((∀ n, remembered = some n → ¬ t.Offers info c staging n) →
      choice.default? = choice.methods.head?) ∧
    (choice.default? = none ↔ choice.methods = []) := by
  intro choice
  have hfind : ∀ n m, choice.find? n = some m ↔ m ∈ choice.methods ∧ m.index = n := by
    intro n m
    rw [find?_methods_eq_some_iff, mem_methods_iff]
    constructor
    · rintro ⟨rfl, hm, hoffers⟩
      exact ⟨⟨hm, hoffers⟩, rfl⟩
    · rintro ⟨⟨hm, hoffers⟩, rfl⟩
      exact ⟨rfl, hm, hoffers⟩
  refine ⟨fun n => ?_, ?_, fun m hm => (mem_methods_iff.mp hm).1, fun n => find?_methods_isSome_iff,
    hfind, fun n hremembered hoffers => ?_, fun hunlisted => ?_, ?_⟩
  · rw [← find?_methods_isSome_iff, Option.isSome_iff_exists]
    exact exists_congr fun m => (hfind n m).symm
  · exact (methodsFrom_pairwise t info c 1 maxMethods).filter _
  · subst hremembered
    obtain ⟨m, hm⟩ := Option.isSome_iff_exists.mp (find?_methods_isSome_iff.mpr hoffers)
    rw [default?_methods, Option.bind_some, hm]
    rfl
  · have hnone : remembered.bind choice.find? = none := by
      refine Option.bind_eq_none_iff.mpr fun n hremembered => ?_
      exact Option.not_isSome_iff_eq_none.mp fun hsome =>
        hunlisted n hremembered (find?_methods_isSome_iff.mp hsome)
    rw [default?_methods, hnone, Option.none_or]
  · rw [default?_eq_none_iff, MethodChoice.isEmpty, List.isEmpty_iff]

end Choice

def sampleMethods : Resources :=
  .ofTable ⟨[
    ⟨"debian", ResourceKey.methodLabel .corosync 1, "apt-get"⟩,
    ⟨"", ResourceKey.methodLabel .corosync 1, "zypper"⟩,
    ⟨"", ResourceKey.methodLabel .corosync 2, "staging repository"⟩,
    ⟨"", ResourceKey.methodStaging .corosync 2, "true"⟩,
    ⟨"", ResourceKey.methodLabel .corosync 3, "source build"⟩,
    ⟨"", ResourceKey.methodTag .corosync 3, "source"⟩,
    ⟨"", ResourceKey.methodLabel .corosync 5, "after a gap"⟩]⟩

theorem methods_listed_up_to_first_gap_sample :
    (sampleMethods.methods { dist := some "debian" } .corosync false (some 3)).default? =
        some ⟨3, "source build", .source, false⟩ ∧
      (sampleMethods.methods { dist := some "debian" } .corosync false (some 2)).default? =
        some ⟨1, "apt-get", .packageManager, false⟩ := by
  obtain ⟨-, -, -, hlisted, -, hdefault, -⟩ := methods_listed_up_to_first_gap sampleMethods
    { dist := some "debian" } .corosync false (some 3)
  obtain ⟨-, -, -, hlisted', -, -, hfirst, -⟩ := methods_listed_up_to_first_gap sampleMethods
    { dist := some "debian" } .corosync false (some 2)
  constructor
  · rw [hdefault 3 rfl ((hlisted 3).mp (by decide +kernel))]
    decide +kernel
  · rw [hfirst ?_]
    · decide +kernel
    · rintro n ⟨⟩
      rw [← hlisted' 2]
      decide +kernel

end Resources

end ClusterSetup
