import Mathlib.Data.Finset.Lattice.Fold
import Mathlib.Data.Finset.Max
import Mathlib.Data.Finset.Sort
import Mathlib.Data.Fintype.Card
import Mathlib.Logic.Relation
import Mathlib.Order.Lattice.Nat
import Mathlib.Order.WellFounded

/-!
Greedy layering of a finite set of nodes under a dependency map.

A round takes every node none of whose dependencies is left. Where a cycle keeps
every node waiting, it takes the least node alone, so each round makes progress
and the layers exhaust the set whatever the dependencies are.
-/

namespace AifHandoff.Layering

universe u

variable {ι : Type u} [LinearOrder ι]

/-- The nodes of `P` none of whose dependencies is in `P`. -/
def ready (deps : ι → Finset ι) (P : Finset ι) : Finset ι := P.filter fun n => Disjoint (deps n) P

/-- The least node of `P`, as a set. -/
def least (P : Finset ι) : Finset ι := P.filter fun n => ∀ m ∈ P, n ≤ m

/-- One round. -/
def front (deps : ι → Finset ι) (P : Finset ι) : Finset ι :=
  if (ready deps P).Nonempty then ready deps P else least P

section Rounds

variable {deps : ι → Finset ι} {P : Finset ι} {n : ι}

theorem mem_ready : n ∈ ready deps P ↔ n ∈ P ∧ Disjoint (deps n) P := Finset.mem_filter

theorem ready_subset : ready deps P ⊆ P := Finset.filter_subset _ _

theorem mem_least : n ∈ least P ↔ n ∈ P ∧ ∀ m ∈ P, n ≤ m := Finset.mem_filter

theorem least_subset : least P ⊆ P := Finset.filter_subset _ _

theorem least_eq_of_mem {m : ι} (left : n ∈ least P) (right : m ∈ least P) : n = m := by
  obtain ⟨inLeft, leLeft⟩ := mem_least.mp left
  obtain ⟨inRight, leRight⟩ := mem_least.mp right
  exact le_antisymm (leLeft m inRight) (leRight n inLeft)

theorem min'_mem_least (some_ : P.Nonempty) : P.min' some_ ∈ least P :=
  mem_least.mpr ⟨P.min'_mem some_, fun m inside => P.min'_le m inside⟩

theorem front_of_ready (some_ : (ready deps P).Nonempty) : front deps P = ready deps P :=
  if_pos some_

theorem front_of_stuck (stuck : ready deps P = ∅) : front deps P = least P :=
  if_neg (by simp [stuck])

theorem front_subset : front deps P ⊆ P := by
  unfold front
  split
  · exact ready_subset
  · exact least_subset

theorem front_nonempty (some_ : P.Nonempty) : (front deps P).Nonempty := by
  unfold front
  split
  next found => exact found
  next => exact ⟨_, min'_mem_least some_⟩

theorem card_sdiff_front_lt (some_ : P.Nonempty) : (P \ front deps P).card < P.card := by
  obtain ⟨n, inFront⟩ : (front deps P).Nonempty := front_nonempty some_
  apply Finset.card_lt_card
  refine ⟨Finset.sdiff_subset, fun all => ?_⟩
  exact (Finset.mem_sdiff.mp (all (front_subset inFront))).2 inFront

end Rounds

/-- Round after round until nothing is left. -/
def layers (deps : ι → Finset ι) (P : Finset ι) : List (Finset ι) :=
  if P.Nonempty then front deps P :: layers deps (P \ front deps P) else []
termination_by P.card
decreasing_by exact card_sdiff_front_lt ‹_›

section Layers

variable {deps deps' : ι → Finset ι} {P : Finset ι}

@[simp] theorem layers_empty : layers deps ∅ = [] := by
  rw [layers]
  simp

theorem layers_of_nonempty (some_ : P.Nonempty) :
    layers deps P = front deps P :: layers deps (P \ front deps P) := by
  rw [layers, if_pos some_]

/-- Dependency maps with the same dependencies among the nodes left have the same
free nodes. -/
theorem ready_congr (same : ∀ n ∈ P, deps n ∩ P = deps' n ∩ P) : ready deps P = ready deps' P := by
  apply Finset.filter_congr
  intro n inside
  rw [Finset.disjoint_iff_inter_eq_empty, Finset.disjoint_iff_inter_eq_empty, same n inside]

theorem front_congr (same : ∀ n ∈ P, deps n ∩ P = deps' n ∩ P) : front deps P = front deps' P := by
  rw [front, front, ready_congr same]

theorem inter_eq_of_subset {a b Q : Finset ι} (same : a ∩ P = b ∩ P) (sub : Q ⊆ P) :
    a ∩ Q = b ∩ Q := by
  calc a ∩ Q = a ∩ P ∩ Q := by rw [Finset.inter_assoc, Finset.inter_eq_right.mpr sub]
    _ = b ∩ P ∩ Q := by rw [same]
    _ = b ∩ Q := by rw [Finset.inter_assoc, Finset.inter_eq_right.mpr sub]

theorem layers_congr (same : ∀ n ∈ P, deps n ∩ P = deps' n ∩ P) :
    layers deps P = layers deps' P := by
  induction P using Finset.strongInduction with
  | H P ih =>
    rcases P.eq_empty_or_nonempty with rfl | some_
    · rw [layers_empty, layers_empty]
    · have rest : P \ front deps' P ⊂ P :=
        Finset.sdiff_ssubset front_subset (front_nonempty some_)
      rw [layers_of_nonempty some_, layers_of_nonempty some_, front_congr same]
      congr 1
      apply ih _ rest
      intro n inside
      exact inter_eq_of_subset (same n (rest.1 inside)) rest.1

/-- `deps'` differs from `deps` on `D` only, where it makes free nodes wait. The
layers are the same exactly if `D` is empty or the round that `deps` fills with a
single free node, the least one, is the round that `deps'` fills by its fallback. -/
theorem layers_eq_iff {D : Finset ι} (within : D ⊆ P)
    (agree : ∀ n ∈ P, n ∉ D → deps' n ∩ P = deps n ∩ P)
    (free : ∀ n ∈ D, Disjoint (deps n) P) (waits : ∀ n ∈ D, ¬ Disjoint (deps' n) P) :
    layers deps' P = layers deps P ↔ D = ∅ ∨ ready deps P = least P := by
  have inReady : D ⊆ ready deps P := fun n inside => mem_ready.mpr ⟨within inside, free n inside⟩
  have ready' : ready deps' P = ready deps P \ D := by
    ext n
    rw [Finset.mem_sdiff, mem_ready, mem_ready]
    by_cases inD : n ∈ D
    · simp [inD, waits n inD]
    · constructor
      · rintro ⟨inside, apart⟩
        rw [Finset.disjoint_iff_inter_eq_empty, agree n inside inD] at apart
        exact ⟨⟨inside, Finset.disjoint_iff_inter_eq_empty.mpr apart⟩, inD⟩
      · rintro ⟨⟨inside, apart⟩, -⟩
        rw [Finset.disjoint_iff_inter_eq_empty, ← agree n inside inD] at apart
        exact ⟨inside, Finset.disjoint_iff_inter_eq_empty.mpr apart⟩
  rcases D.eq_empty_or_nonempty with rfl | ⟨d, inD⟩
  · have same : layers deps' P = layers deps P :=
      layers_congr fun n inside => agree n inside (Finset.notMem_empty n)
    simp [same]
  have some_ : P.Nonempty := ⟨d, within inD⟩
  have front_ : front deps P = ready deps P := front_of_ready ⟨d, inReady inD⟩
  have notEmpty : D ≠ ∅ := Finset.ne_empty_of_mem inD
  constructor
  · intro same
    right
    rw [layers_of_nonempty some_, layers_of_nonempty some_, front_] at same
    have first : front deps' P = ready deps P := (List.cons.inj same).1
    by_cases found : (ready deps' P).Nonempty
    · -- The round of `deps'` misses `d`, which is free in `deps`.
      rw [front_of_ready found, ready'] at first
      have kept : d ∈ ready deps P \ D := by rw [first]; exact inReady inD
      exact absurd inD (Finset.mem_sdiff.mp kept).2
    · rw [front_of_stuck (Finset.not_nonempty_iff_eq_empty.mp found)] at first
      exact first.symm
  · rintro (empty | single)
    · exact absurd empty notEmpty
    · have all : ∀ n ∈ ready deps P, n ∈ D := by
        intro n inside
        rw [single] at inside inReady
        rwa [least_eq_of_mem inside (inReady inD)]
      have stuck : ready deps' P = ∅ := by
        rw [ready', Finset.sdiff_eq_empty_iff_subset]
        exact all
      rw [layers_of_nonempty some_, layers_of_nonempty some_, front_, front_of_stuck stuck, single]
      congr 1
      apply layers_congr
      intro n inside
      obtain ⟨inP, notLeast⟩ := Finset.mem_sdiff.mp inside
      have notD : n ∉ D := fun inD' => notLeast (single ▸ inReady inD')
      exact inter_eq_of_subset (agree n inP notD) Finset.sdiff_subset

theorem nonempty_of_mem_layers {layer : Finset ι} (inside : layer ∈ layers deps P) :
    layer.Nonempty := by
  induction P using Finset.strongInduction with
  | H P ih =>
    rcases P.eq_empty_or_nonempty with rfl | some_
    · simp at inside
    · rw [layers_of_nonempty some_] at inside
      rcases List.mem_cons.mp inside with rfl | inRest
      · exact front_nonempty some_
      · exact ih _ (Finset.sdiff_ssubset front_subset (front_nonempty some_)) inRest

theorem flatten_sort_perm :
    ((layers deps P).map (·.sort (· ≤ ·))).flatten.Perm (P.sort (· ≤ ·)) := by
  induction P using Finset.strongInduction with
  | H P ih =>
    rcases P.eq_empty_or_nonempty with rfl | some_
    · simp
    · have rest := ih _ (Finset.sdiff_ssubset front_subset (@front_nonempty _ _ deps _ some_))
      rw [layers_of_nonempty some_, List.map_cons, List.flatten_cons]
      refine (rest.append_left _).trans ?_
      refine (List.perm_ext_iff_of_nodup ?_ (P.sort_nodup _)).mpr fun n => ?_
      · refine List.nodup_append.mpr ⟨Finset.sort_nodup _ _, Finset.sort_nodup _ _, ?_⟩
        rintro n inFront m inRest rfl
        rw [Finset.mem_sort] at inFront inRest
        exact (Finset.mem_sdiff.mp inRest).2 inFront
      · rw [List.mem_append, Finset.mem_sort, Finset.mem_sort, Finset.mem_sort,
          Finset.mem_sdiff]
        have within : n ∈ front deps P → n ∈ P := fun inFront => front_subset inFront
        tauto

end Layers

/-- The position of the layer that holds `n`. -/
def indexIn (rounds : List (Finset ι)) (n : ι) : ℕ := rounds.findIdx fun layer => decide (n ∈ layer)

section Index

variable {layer : Finset ι} {rounds : List (Finset ι)} {n : ι}

theorem indexIn_cons_of_mem (inside : n ∈ layer) : indexIn (layer :: rounds) n = 0 := by
  simp [indexIn, List.findIdx_cons, inside]

theorem indexIn_cons_of_notMem (outside : n ∉ layer) :
    indexIn (layer :: rounds) n = indexIn rounds n + 1 := by
  simp [indexIn, List.findIdx_cons, outside]

end Index

/-- Every node of `S` waits for another one of `S`. -/
def Waits (deps : ι → Finset ι) (S : Finset ι) : Prop := ∀ n ∈ S, ∃ m ∈ deps n, m ∈ S

/-- `m` is a dependency of `n`, and both are in `S`. -/
def Along (deps : ι → Finset ι) (S : Finset ι) (n m : ι) : Prop := m ∈ deps n ∧ n ∈ S ∧ m ∈ S

/-- Dependencies lead from `n` into a cycle without leaving `S`. -/
def LoopsIn (deps : ι → Finset ι) (S : Finset ι) (n : ι) : Prop :=
  ∃ c, Relation.ReflTransGen (Along deps S) n c ∧ Relation.TransGen (Along deps S) c c

section Cycles

variable {deps : ι → Finset ι} {P S : Finset ι} {n : ι}

theorem ready_eq_empty_iff : ready deps P = ∅ ↔ Waits deps P := by
  rw [ready, Finset.filter_eq_empty_iff]
  simp only [Waits, Finset.not_disjoint_iff]

theorem Waits.notMem_ready (waits : Waits deps S) (within : S ⊆ P) (inside : n ∈ S) :
    n ∉ ready deps P := by
  intro free
  obtain ⟨m, among, inS⟩ := waits n inside
  exact Finset.disjoint_left.mp (mem_ready.mp free).2 among (within inS)

omit [LinearOrder ι] in
theorem Along.mono (within : S ⊆ P) {m : ι} (edge : Along deps S n m) : Along deps P n m :=
  ⟨edge.1, within edge.2.1, within edge.2.2⟩

omit [LinearOrder ι] in
theorem LoopsIn.mono (within : S ⊆ P) (loops : LoopsIn deps S n) : LoopsIn deps P n := by
  obtain ⟨c, reach, cycle⟩ := loops
  exact ⟨c, Relation.ReflTransGen.mono (fun _ _ => Along.mono within) n c reach,
    Relation.TransGen.mono (fun _ _ => Along.mono within) c c cycle⟩

omit [LinearOrder ι] in
theorem LoopsIn.exists_step (loops : LoopsIn deps S n) :
    ∃ m, Along deps S n m ∧ LoopsIn deps S m := by
  obtain ⟨c, reach, cycle⟩ := loops
  rcases Relation.ReflTransGen.cases_head reach with rfl | ⟨m, edge, rest⟩
  · obtain ⟨m, edge, back⟩ := Relation.TransGen.head'_iff.mp cycle
    exact ⟨m, edge, n, back, cycle⟩
  · exact ⟨m, edge, c, rest, cycle⟩

omit [LinearOrder ι] in
/-- In a waiting set every node leads into a cycle: otherwise the nodes that it
reaches would have a last one. -/
theorem Waits.loopsIn (waits : Waits deps S) (inside : n ∈ S) : LoopsIn deps S n := by
  classical
  by_contra free
  let Reached := { m : ι // m ∈ S ∧ Relation.ReflTransGen (Along deps S) n m }
  let Later : Reached → Reached → Prop := fun later earlier =>
    Relation.TransGen (Along deps S) earlier.1 later.1
  have irrefl : Std.Irrefl Later :=
    ⟨fun m cycle => free ⟨m.1, m.2.2, cycle⟩⟩
  have trans : IsTrans Reached Later := ⟨fun _ _ _ first second => second.trans first⟩
  have : Finite Reached := Finite.of_injective
    (fun m : Reached => (⟨m.1, m.2.1⟩ : S)) fun _ _ same => Subtype.ext (Subtype.mk.inj same)
  have wf : WellFounded Later := Finite.wellFounded_of_trans_of_irrefl Later
  obtain ⟨last, -, none_⟩ := wf.has_min Set.univ ⟨⟨n, inside, .refl⟩, trivial⟩
  obtain ⟨m, among, inS⟩ := waits last.1 last.2.1
  have edge : Along deps S last.1 m := ⟨among, last.2.1, inS⟩
  exact none_ ⟨m, inS, last.2.2.tail edge⟩ trivial (.single edge)

omit [LinearOrder ι] in
theorem loopsIn_iff : LoopsIn deps P n ↔ ∃ S ⊆ P, n ∈ S ∧ Waits deps S := by
  classical
  constructor
  · intro loops
    have inP : ∀ m, LoopsIn deps P m → m ∈ P := fun m loops => by
      obtain ⟨_, edge, -⟩ := loops.exists_step
      exact edge.2.1
    refine ⟨P.filter (LoopsIn deps P), Finset.filter_subset _ _,
      Finset.mem_filter.mpr ⟨inP n loops, loops⟩, fun m inside => ?_⟩
    obtain ⟨next, edge, loops'⟩ := (Finset.mem_filter.mp inside).2.exists_step
    exact ⟨next, edge.1, Finset.mem_filter.mpr ⟨inP next loops', loops'⟩⟩
  · rintro ⟨S, within, inside, waits⟩
    exact (waits.loopsIn inside).mono within

/-- Without cycles each node stands one layer after the last of its dependencies. -/
theorem indexIn_eq_sup (acyclic : ∀ m, ¬ LoopsIn deps P m) (inside : n ∈ P) :
    indexIn (layers deps P) n =
      (deps n ∩ P).sup fun m => indexIn (layers deps P) m + 1 := by
  induction P using Finset.strongInduction generalizing n with
  | H P ih =>
    have some_ : P.Nonempty := ⟨n, inside⟩
    have found : (ready deps P).Nonempty := by
      rw [Finset.nonempty_iff_ne_empty, Ne, ready_eq_empty_iff]
      exact fun waits => acyclic n (waits.loopsIn inside)
    have front_ := front_of_ready found
    have rest : P \ ready deps P ⊂ P := Finset.sdiff_ssubset ready_subset found
    rw [layers_of_nonempty some_, front_]
    by_cases free : n ∈ ready deps P
    · have alone : deps n ∩ P = ∅ :=
        Finset.disjoint_iff_inter_eq_empty.mp (mem_ready.mp free).2
      rw [indexIn_cons_of_mem free, alone, Finset.sup_empty]
      rfl
    · have later := ih _ rest (fun m loops => acyclic m (loops.mono rest.1))
        (Finset.mem_sdiff.mpr ⟨inside, free⟩)
      rw [indexIn_cons_of_notMem free]
      apply le_antisymm
      · rcases (deps n ∩ (P \ ready deps P)).eq_empty_or_nonempty with none_ | some'
        · -- All dependencies left are free, so `n` goes into the second layer.
          obtain ⟨m, among, inP⟩ : ∃ m ∈ deps n, m ∈ P := by
            by_contra apart
            refine free (mem_ready.mpr ⟨inside, Finset.disjoint_left.mpr fun m among inP => ?_⟩)
            exact apart ⟨m, among, inP⟩
          rw [none_, Finset.sup_empty] at later
          have one : 1 ≤ indexIn (ready deps P :: layers deps (P \ ready deps P)) m + 1 :=
            Nat.le_add_left 1 _
          rw [later]
          exact one.trans (Finset.le_sup (f := fun m =>
            indexIn (ready deps P :: layers deps (P \ ready deps P)) m + 1)
            (Finset.mem_inter.mpr ⟨among, inP⟩))
        · obtain ⟨m, among, last⟩ := Finset.exists_mem_eq_sup _ some'
            fun m => indexIn (layers deps (P \ ready deps P)) m + 1
          obtain ⟨inDeps, inRest⟩ := Finset.mem_inter.mp among
          obtain ⟨inP, notFree⟩ := Finset.mem_sdiff.mp inRest
          rw [later, last, ← indexIn_cons_of_notMem notFree]
          exact Finset.le_sup (f := fun m =>
            indexIn (ready deps P :: layers deps (P \ ready deps P)) m + 1)
            (Finset.mem_inter.mpr ⟨inDeps, inP⟩)
      · refine Finset.sup_le fun m among => ?_
        obtain ⟨inDeps, inP⟩ := Finset.mem_inter.mp among
        by_cases freeM : m ∈ ready deps P
        · rw [indexIn_cons_of_mem freeM]
          omega
        · have inRest := Finset.mem_inter.mpr ⟨inDeps, Finset.mem_sdiff.mpr ⟨inP, freeM⟩⟩
          rw [indexIn_cons_of_notMem freeM, later]
          exact Nat.succ_le_succ (Finset.le_sup
            (f := fun m => indexIn (layers deps (P \ ready deps P)) m + 1) inRest)

/-- A dependency stands in an earlier layer exactly if it leads into no cycle among
the nodes from the dependent one upwards. The fallback takes the least node left, so
those are the nodes it leaves behind. -/
theorem indexIn_lt_iff {a b : ι} (inside : b ∈ P) (inside' : a ∈ P) (among : a ∈ deps b) :
    indexIn (layers deps P) a < indexIn (layers deps P) b ↔
      ¬ LoopsIn deps (P.filter (b ≤ ·)) a := by
  rw [loopsIn_iff]
  induction P using Finset.strongInduction with
  | H P ih =>
    have some_ : P.Nonempty := ⟨b, inside⟩
    have rest : P \ front deps P ⊂ P := Finset.sdiff_ssubset front_subset (front_nonempty some_)
    -- A waiting set above `b` keeps its nodes as long as `b` is left.
    have kept : ∀ S ⊆ P.filter (b ≤ ·), Waits deps S → b ∉ front deps P →
        S ⊆ (P \ front deps P).filter (b ≤ ·) := by
      intro S within waits notTaken m inS
      obtain ⟨inP, above⟩ := Finset.mem_filter.mp (within inS)
      refine Finset.mem_filter.mpr ⟨Finset.mem_sdiff.mpr ⟨inP, fun taken => ?_⟩, above⟩
      by_cases found : (ready deps P).Nonempty
      · rw [front_of_ready found] at taken
        exact waits.notMem_ready (within.trans (Finset.filter_subset _ _)) inS taken
      · rw [front_of_stuck (Finset.not_nonempty_iff_eq_empty.mp found)] at taken notTaken
        have same : m = b := le_antisymm ((mem_least.mp taken).2 b inside) above
        exact notTaken (same ▸ taken)
    rw [layers_of_nonempty some_]
    by_cases takenB : b ∈ front deps P
    · -- `b` is taken before its dependency `a`: only the fallback does that.
      rw [indexIn_cons_of_mem takenB]
      have stuck : ready deps P = ∅ := by
        by_contra found
        rw [front_of_ready (Finset.nonempty_iff_ne_empty.mpr found)] at takenB
        exact Finset.disjoint_left.mp (mem_ready.mp takenB).2 among inside'
      rw [front_of_stuck stuck] at takenB
      have all : P.filter (b ≤ ·) = P :=
        Finset.filter_true_of_mem fun m inP => (mem_least.mp takenB).2 m inP
      rw [all]
      simp only [Nat.not_lt_zero, false_iff, not_not]
      exact ⟨P, Finset.Subset.refl P, inside', ready_eq_empty_iff.mp stuck⟩
    rw [indexIn_cons_of_notMem takenB]
    by_cases takenA : a ∈ front deps P
    · rw [indexIn_cons_of_mem takenA]
      simp only [Nat.zero_lt_succ, true_iff]
      rintro ⟨S, within, inS, waits⟩
      have left := Finset.mem_filter.mp (kept S within waits takenB inS)
      exact (Finset.mem_sdiff.mp left.1).2 takenA
    · rw [indexIn_cons_of_notMem takenA, Nat.add_lt_add_iff_right,
        ih _ rest (Finset.mem_sdiff.mpr ⟨inside, takenB⟩)
          (Finset.mem_sdiff.mpr ⟨inside', takenA⟩), not_iff_not]
      constructor
      · rintro ⟨S, within, inS, waits⟩
        exact ⟨S, within.trans (Finset.filter_subset_filter _ rest.1), inS, waits⟩
      · rintro ⟨S, within, inS, waits⟩
        exact ⟨S, kept S within waits takenB, inS, waits⟩

end Cycles

end AifHandoff.Layering
