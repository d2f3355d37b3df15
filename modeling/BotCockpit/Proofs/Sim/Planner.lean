import BotCockpit.Proofs.Sim.Nav
import BotCockpit.Spec.Planner

/-!
# `BotCockpit.Proofs.Sim.Planner`: the planner finds a shortest path

The search of `astar` is the best-first search of `Lib.BestFirst` on the graph of the free cells
(`tables_relax`, `popTop_pops`), so its invariant holds of the loop (`searchLoop_spec`). With exact
costs the octile distance is a consistent estimate, and the library's three results about the end
of a search become the three about the planner: the path it returns is a path of free cells
(`astar_sound`), it returns none only when there is none (`astar_complete`), and no other path is
shorter (`astar_optimal`).
-/

set_option autoImplicit false

namespace BotCockpit.Sim.Nav

open BotCockpit.Lib
open BestFirst (Problem Tables Inv Pops Trail Spread pathCost)

variable {F : Type} [CDouble F]

/-! ### Cells and their indices -/

/-- The index of a cell leads back to the cell. -/
theorem GridMap.cellOf_of_index? {map : GridMap F} {x y : Int} {i : Fin map.cells}
    (h : map.index? x y = some i) : map.cellOf i = (x, y) := by
  unfold GridMap.index? at h
  split at h
  · rename_i hin
    have hx : 0 ≤ x := hin.1
    have hxw : x < map.width := hin.2.2.1
    have hpos : 0 ≤ y * map.width := Int.mul_nonneg hin.2.1 (by omega)
    have hi : ((i : Nat) : Int) = x + y * map.width := by
      rw [← Option.some.inj h]
      show (((y * map.width + x).toNat : Nat) : Int) = x + y * map.width
      omega
    unfold GridMap.cellOf
    rw [hi, Int.add_mul_emod_self_right, Int.emod_eq_of_lt hx hxw,
      Int.add_mul_ediv_right _ _ (by omega), Int.ediv_eq_zero_of_lt hx hxw, Int.zero_add]
  · cases h

/-- A free cell lies on the map. -/
theorem Free.inside {map : GridMap F} {c : Int × Int} (h : Free map c) : map.Inside c.1 c.2 :=
  GridMap.inside_of_cellAt h

/-- A free cell has an index. -/
theorem Free.index? {map : GridMap F} {c : Int × Int} (h : Free map c) :
    ∃ i, map.index? c.1 c.2 = some i := index?_of_free h

/-- The directions are the eight steps to a neighbour. -/
theorem mem_dirs {d : Int × Int} :
    d ∈ dirs ↔ d.1.natAbs ≤ 1 ∧ d.2.natAbs ≤ 1 ∧ d ≠ (0, 0) := by
  obtain ⟨a, b⟩ := d
  simp only [dirs, List.mem_cons, Prod.mk.injEq, List.not_mem_nil, or_false, ne_eq]
  omega

/-! ### The graph of the free cells -/

/-- The neighbour of a cell in a direction, when a step goes there. -/
def neighbour? (map : GridMap F) (cur : Fin map.cells) (d : Int × Int) : Option (Fin map.cells) :=
  let c := map.cellOf cur
  match map.index? (c.1 + d.1) (c.2 + d.2) with
  | none => none
  | some ni =>
      if map.cellAt (c.1 + d.1) (c.2 + d.2) then none
      else if diagonal d && (map.cellAt (c.1 + d.1) c.2 || map.cellAt c.1 (c.2 + d.2)) then none
      else some ni

/-- The direction from one cell to another one. -/
def direction (map : GridMap F) (u v : Fin map.cells) : Int × Int :=
  ((map.cellOf v).1 - (map.cellOf u).1, (map.cellOf v).2 - (map.cellOf u).2)

/-- The search as a problem of the library. -/
def problem (C : Type) [CFloat C] (map : GridMap F) (goal : Int × Int)
    (startIdx goalIdx : Fin map.cells) : Problem (Fin map.cells) C where
  edges := fun u => dirs.filterMap (neighbour? map u)
  weight := fun u v => stepCost (direction map u v)
  estimate := fun v => heuristic goal (map.cellOf v).1 (map.cellOf v).2
  start := startIdx
  goal := goalIdx

/-- A neighbour is the cell one direction away. -/
theorem cellOf_of_neighbour? {map : GridMap F} {cur ni : Fin map.cells} {d : Int × Int}
    (h : neighbour? map cur d = some ni) :
    map.cellOf ni = ((map.cellOf cur).1 + d.1, (map.cellOf cur).2 + d.2) := by
  unfold neighbour? at h
  dsimp only at h
  split at h
  · cases h
  · rename_i i hi
    repeat' split at h
    all_goals cases h
    exact GridMap.cellOf_of_index? hi

/-- The direction that is read off two neighbours is the one between them. -/
theorem direction_of_neighbour? {map : GridMap F} {cur ni : Fin map.cells} {d : Int × Int}
    (h : neighbour? map cur d = some ni) : direction map cur ni = d := by
  rw [direction, cellOf_of_neighbour? h]
  ext
  · show (map.cellOf cur).1 + d.1 - (map.cellOf cur).1 = d.1
    omega
  · show (map.cellOf cur).2 + d.2 - (map.cellOf cur).2 = d.2
    omega

/-- A step goes from a cell to its neighbour. -/
theorem mem_edges {C : Type} [CFloat C] {map : GridMap F} {goal : Int × Int}
    {s g u v : Fin map.cells} (h : v ∈ (problem C map goal s g).edges u) :
    Steps map (map.cellOf u) (map.cellOf v) := by
  obtain ⟨d, hd, hv⟩ := List.mem_filterMap.mp h
  have hcell := cellOf_of_neighbour? hv
  obtain ⟨hx, hy, hne⟩ := mem_dirs.mp hd
  -- The tests of the code: on the map, free, and no corner is cut.
  unfold neighbour? at hv
  dsimp only at hv
  split at hv
  · cases hv
  split at hv
  · cases hv
  rename_i hocc
  split at hv
  · cases hv
  rename_i hcorner
  rw [hcell]
  refine ⟨⟨?_, ?_, ?_⟩, ?_, ?_⟩
  · show ((map.cellOf u).1 + d.1 - (map.cellOf u).1).natAbs ≤ 1
    omega
  · show ((map.cellOf u).2 + d.2 - (map.cellOf u).2).natAbs ≤ 1
    omega
  · intro heq
    refine hne (Prod.ext ?_ ?_)
    · have := congrArg Prod.fst heq
      show d.1 = 0
      simp only at this
      omega
    · have := congrArg Prod.snd heq
      show d.2 = 0
      simp only at this
      omega
  · exact Bool.eq_false_of_not_eq_true hocc
  · intro h₁ h₂
    -- The corner is tested for a diagonal step only.
    have hdiag : diagonal d = true := by
      simp only [diagonal, Bool.and_eq_true, bne_iff_ne, ne_eq]
      simp only at h₁ h₂
      omega
    simpa [hdiag, Free] using hcorner

/-- Every step goes along an edge. -/
theorem exists_edge {C : Type} [CFloat C] {map : GridMap F} {goal : Int × Int}
    {s g u : Fin map.cells} {c : Int × Int} (h : Steps map (map.cellOf u) c) {v : Fin map.cells}
    (hv : map.index? c.1 c.2 = some v) : v ∈ (problem C map goal s g).edges u := by
  refine List.mem_filterMap.mpr ⟨(c.1 - (map.cellOf u).1, c.2 - (map.cellOf u).2), ?_, ?_⟩
  · obtain ⟨hx, hy, hne⟩ := h.near
    refine mem_dirs.mpr ⟨hx, hy, fun heq => hne (Prod.ext ?_ ?_)⟩
    · have := congrArg Prod.fst heq
      simp only at this
      omega
    · have := congrArg Prod.snd heq
      simp only at this
      omega
  · have h₁ : (map.cellOf u).1 + (c.1 - (map.cellOf u).1) = c.1 := by omega
    have h₂ : (map.cellOf u).2 + (c.2 - (map.cellOf u).2) = c.2 := by omega
    have hfree : map.cellAt c.1 c.2 = false := h.free
    unfold neighbour?
    simp only [h₁, h₂, hv, hfree, Bool.false_eq_true, if_false]
    rw [if_neg]
    intro hcorner
    simp only [diagonal, Bool.and_eq_true, bne_iff_ne, ne_eq, Bool.or_eq_true] at hcorner
    obtain ⟨hdiag, hocc⟩ := hcorner
    obtain ⟨hc₁, hc₂⟩ := h.corner (by omega) (by omega)
    unfold Free at hc₁ hc₂
    simp only [hc₁, hc₂, Bool.false_eq_true, or_self] at hocc

/-! ### The search refines the library's -/

/-- The tables of the source, as those of the library. -/
def Search.tables {C : Type} {n : Nat} (s : Search C n) : Tables (Fin n) C where
  came := s.came
  score := s.gscore
  queue := s.openSet

section Refinement

variable {C : Type} [CFloat C] {map : GridMap F} {goal : Int × Int}
    {startIdx goalIdx : Fin map.cells}

/-- A direction without a neighbour is skipped, and another one is an edge that is relaxed. -/
theorem tables_relax (cur : Fin map.cells) (s : Search C map.cells) (d : Int × Int) :
    (relax map goal cur s d).tables =
      match neighbour? map cur d with
      | none => s.tables
      | some ni => (problem C map goal startIdx goalIdx).relax cur s.tables ni := by
  unfold relax neighbour?
  dsimp only
  cases hidx : map.index? ((map.cellOf cur).1 + d.1) ((map.cellOf cur).2 + d.2) with
  | none => rfl
  | some ni =>
      dsimp only
      by_cases hocc : map.cellAt ((map.cellOf cur).1 + d.1) ((map.cellOf cur).2 + d.2) = true
      · rw [if_pos hocc, if_pos hocc]
      rw [if_neg hocc, if_neg hocc]
      by_cases hcorner : (diagonal d &&
          (map.cellAt ((map.cellOf cur).1 + d.1) (map.cellOf cur).2 ||
            map.cellAt (map.cellOf cur).1 ((map.cellOf cur).2 + d.2))) = true
      · rw [if_pos hcorner, if_pos hcorner]
      rw [if_neg hcorner, if_neg hcorner]
      -- The cell is a neighbour, so the two searches enter the same step.
      have hn : neighbour? map cur d = some ni := by
        unfold neighbour?
        dsimp only
        rw [hidx]
        dsimp only
        rw [if_neg hocc, if_neg hcorner]
      have hdir := direction_of_neighbour? hn
      have hcell := cellOf_of_neighbour? hn
      simp only [Problem.relax, problem, hdir, hcell, Search.tables]
      split <;> rfl

/-- The expansion of the code is that of the search problem. -/
theorem tables_expand (cur : Fin map.cells) (s : Search C map.cells) :
    (expand map goal cur s).tables =
      (problem C map goal startIdx goalIdx).expand cur s.tables := by
  unfold expand Problem.expand
  rw [show (problem C map goal startIdx goalIdx).edges cur = dirs.filterMap (neighbour? map cur)
    from rfl, List.foldl_filterMap]
  generalize dirs = ds
  induction ds generalizing s with
  | nil => rfl
  | cons d ds ih =>
      rw [List.foldl_cons, List.foldl_cons, ih, tables_relax]
      cases neighbour? map cur d <;> rfl

end Refinement

/-- Nothing is popped exactly from the empty queue. -/
theorem popTop_eq_none {C : Type} [CFloat C] {n : Nat} {q : List (C × Fin n)} :
    popTop q = none ↔ q = [] := by
  cases q with
  | nil => simp [popTop]
  | cons a as =>
      rw [popTop]
      split
      · simp
      · split <;> simp

/-- The order of the queue compares the keys first. -/
theorem le_of_entryLt {C : Type} [CFloat C] {n : Nat} {a b : C × Fin n} :
    (entryLt a b = true → a.1 ≤ b.1) ∧ (entryLt a b = false → b.1 ≤ a.1) := by
  unfold entryLt
  constructor
  · intro h
    rw [Bool.or_eq_true, decide_eq_true_eq] at h
    rcases h with h | h
    · exact le_of_lt h
    · simp only [Bool.and_eq_true, Bool.not_eq_true', decide_eq_false_iff_not] at h
      exact not_lt.mp h.1
  · intro h
    rw [Bool.or_eq_false_iff, decide_eq_false_iff_not] at h
    exact not_lt.mp h.1

/-- The top of the queue has a smallest key. -/
theorem popTop_pops {C : Type} [CFloat C] {n : Nat} :
    ∀ {q : List (C × Fin n)} {a : C × Fin n} {rest : List (C × Fin n)},
      popTop q = some (a, rest) → Pops q a rest := by
  intro q
  induction q with
  | nil =>
      intro a rest h
      cases h
  | cons b bs ih =>
      intro a rest h
      rw [popTop] at h
      split at h
      · rename_i hnone
        obtain ⟨rfl, rfl⟩ := Prod.mk.inj (Option.some.inj h)
        rw [popTop_eq_none.mp hnone]
        exact ⟨List.Perm.refl _, fun e he => by rw [List.mem_singleton.mp he]⟩
      · rename_i c cs hsome
        obtain ⟨hperm, hle⟩ := ih hsome
        split at h
        · -- The top of the other entries comes before `b`.
          rename_i hlt
          obtain ⟨rfl, rfl⟩ := Prod.mk.inj (Option.some.inj h)
          refine ⟨(hperm.cons b).trans (List.Perm.swap c b cs), fun e he => ?_⟩
          rcases List.mem_cons.mp he with rfl | he
          · exact le_of_entryLt.1 hlt
          · exact hle e he
        · -- `b` is the top, by its place where the costs are equal.
          rename_i hlt
          obtain ⟨rfl, rfl⟩ := Prod.mk.inj (Option.some.inj h)
          have hbc := le_of_entryLt.2 (Bool.eq_false_of_not_eq_true hlt)
          refine ⟨List.Perm.refl _, fun e he => ?_⟩
          rcases List.mem_cons.mp he with rfl | he
          · exact le_refl _
          · exact hbc.trans (hle e he)

/-- **The loop ends.** A pass lowers the costs or shortens the queue. -/
theorem loopEnds {C : Type} [CFloat C] {map : GridMap F} {goal : Int × Int}
    {goalIdx : Fin map.cells} (s : Search C map.cells) : ∃ n, LoopEnds map goal goalIdx n s := by
  fun_induction searchLoop map goal goalIdx s with
  | case1 s hnone => exact ⟨0, LoopEnds.empty hnone⟩
  | case2 s f rest hpop => exact ⟨0, LoopEnds.found hpop⟩
  | case3 s f cur rest hpop hne ih =>
      obtain ⟨n, hn⟩ := ih
      exact ⟨n + 1, LoopEnds.pass hpop hne hn⟩

/-! ### Rounded costs -/

/-- A path of free cells is a path of the search. -/
theorem exists_isPath {C : Type} [CFloat C] {map : GridMap F} {goal g : Int × Int}
    {startIdx goalIdx : Fin map.cells} (hg : map.index? g.1 g.2 = some goalIdx) :
    ∀ {c : Int × Int} {cells : List (Int × Int)} {i : Fin map.cells}, map.index? c.1 c.2 = some i →
      (c :: cells).IsChain (Steps map) → (c :: cells).getLast? = some g →
      ∃ l, (i :: l).map map.cellOf = c :: cells ∧
        (problem C map goal startIdx goalIdx).IsPath (i :: l) ∧
        (i :: l).getLast? = some goalIdx := by
  intro c cells
  induction cells generalizing c with
  | nil =>
      intro i hi _ hlast
      rw [List.getLast?_singleton, Option.some.injEq] at hlast
      rw [hlast] at hi ⊢
      obtain rfl := Option.some.inj (hi.symm.trans hg)
      exact ⟨[], by rw [List.map_singleton, GridMap.cellOf_of_index? hi], List.isChain_singleton _,
        rfl⟩
  | cons d cells ih =>
      intro i hi hsteps hlast
      obtain ⟨hstep, htail⟩ := List.isChain_cons_cons.mp hsteps
      rw [List.getLast?_cons_cons] at hlast
      obtain ⟨j, hj⟩ := hstep.free.index?
      obtain ⟨l, hcells, hpath, hend⟩ := ih hj htail hlast
      have hedge : Steps map (map.cellOf i) d := by rwa [GridMap.cellOf_of_index? hi]
      refine ⟨j :: l, ?_, List.isChain_cons_cons.mpr ⟨exists_edge hedge hj, hpath⟩, ?_⟩
      · rw [List.map_cons, hcells, GridMap.cellOf_of_index? hi]
      · rw [List.getLast?_cons_cons, hend]

/-- The loop does not give up while there is a path. -/
theorem searchLoop_ne_none {C : Type} [CFloat C] (hfin : FiniteSteps C) {map : GridMap F}
    {goal : Int × Int} {startIdx goalIdx : Fin map.cells} (s : Search C map.cells)
    (hspread : Spread (problem C map goal startIdx goalIdx) CFloat.infinity (fun _ => []) s.tables)
    {l : List (Fin map.cells)}
    (hpath : (problem C map goal startIdx goalIdx).IsPath (startIdx :: l))
    (hlast : (startIdx :: l).getLast? = some goalIdx) : searchLoop map goal goalIdx s ≠ none := by
  have hbounded : BestFirst.Bounded (problem C map goal startIdx goalIdx) CFloat.infinity :=
    fun {u v} _ {a} ha => hfin.step (direction map u v) a ha
  fun_induction searchLoop map goal goalIdx s with
  | case1 s hnone =>
      exact absurd hlast (hspread.no_path (popTop_eq_none.mp hnone) hspread.start hpath)
  | case2 s f rest hpop => exact Option.some_ne_none _
  | case3 s f cur rest hpop hcur ih =>
      have hpops : Pops s.tables.queue (f, cur) rest := popTop_pops hpop
      have htables : (expand map goal cur { s with openSet := rest }).tables =
          (problem C map goal startIdx goalIdx).expand cur { s.tables with queue := rest } :=
        tables_expand cur _
      exact ih (htables ▸ hspread.pass hbounded hpops hcur)

/-! ### Exact costs -/

section Exact

open Exact (Cost)

/-- The cost of a step in ten-thousandths of a cell: straight or diagonal. -/
theorem stepCost_exact (d : Int × Int) :
    (stepCost d : Cost) = ((if diagonal d then 14142 else 10000 : ℕ) : Cost) := by
  unfold stepCost
  split <;> rfl

/-- The heuristic in the same unit: the octile distance. -/
theorem heuristic_exact (goal : Int × Int) (x y : Int) :
    (heuristic goal x y : Cost) =
      ((max (x - goal.1).natAbs (y - goal.2).natAbs * 10000 +
        4142 * min (x - goal.1).natAbs (y - goal.2).natAbs : ℕ) : Cost) := by
  unfold heuristic
  dsimp only
  generalize (x - goal.1).natAbs = dx
  generalize (y - goal.2).natAbs = dy
  show ((Nat.max dx dy * 10 ^ 4 : ℕ) : Cost) +
      ((4142 * 10 ^ 4 / 10 ^ 4 * (Nat.min dx dy * 10 ^ 4) / 10 ^ 4 : ℕ) : Cost) = _
  have hdiv : 4142 * 10 ^ 4 / 10 ^ 4 * (Nat.min dx dy * 10 ^ 4) / 10 ^ 4 = 4142 * min dx dy := by
    show 4142 * 10 ^ 4 / 10 ^ 4 * (min dx dy * 10 ^ 4) / 10 ^ 4 = 4142 * min dx dy
    omega
  rw [hdiv]
  norm_cast

/-- The octile distance falls along a step by no more than the step costs. -/
theorem octile_le {a b a' b' : Nat} {diag : Bool}
    (h : diag = true ∧ a ≤ a' + 1 ∧ b ≤ b' + 1 ∨
      diag = false ∧ (a ≤ a' + 1 ∧ b = b' ∨ a = a' ∧ b ≤ b' + 1)) :
    max a b * 10000 + 4142 * min a b ≤
      (if diag then 14142 else 10000) + (max a' b' * 10000 + 4142 * min a' b') := by
  rcases h with ⟨rfl, h₁, h₂⟩ | ⟨rfl, ⟨h₁, rfl⟩ | ⟨rfl, h₁⟩⟩
  · rw [if_pos rfl]
    omega
  · rw [if_neg Bool.false_ne_true]
    omega
  · rw [if_neg Bool.false_ne_true]
    omega

variable {map : GridMap F} {goal : Int × Int} {startIdx goalIdx : Fin map.cells}

/-- Every step costs something. -/
theorem problem_positive :
    BestFirst.Positive (problem Cost map goal startIdx goalIdx) := by
  refine ⟨fun {u v} _ {a} ha => ?_, fun {u v} _ {a} ha => ?_⟩
  · show a < a + stepCost (direction map u v)
    rw [stepCost_exact]
    lift a to ℕ using ha
    have hpos : 0 < (if diagonal (direction map u v) then 14142 else 10000 : ℕ) := by
      split <;> omega
    exact WithTop.coe_lt_coe.mpr (Nat.lt_add_of_pos_right hpos)
  · show a + stepCost (direction map u v) ≠ ⊤
    rw [stepCost_exact]
    lift a to ℕ using ha
    norm_cast
    exact WithTop.coe_ne_top

/-- The octile distance is a consistent estimate. -/
theorem problem_consistent (hgoal : map.cellOf goalIdx = goal) :
    BestFirst.Consistent (problem Cost map goal startIdx goalIdx) := by
  refine ⟨?_, fun {u v} huv => ?_⟩
  · show heuristic goal (map.cellOf goalIdx).1 (map.cellOf goalIdx).2 = (0 : Cost)
    rw [heuristic_exact, hgoal]
    simp
  · show heuristic goal (map.cellOf u).1 (map.cellOf u).2 ≤
      (stepCost (direction map u v) : Cost) + heuristic goal (map.cellOf v).1 (map.cellOf v).2
    obtain ⟨hx, hy, -⟩ := (mem_edges huv).near
    rw [heuristic_exact, heuristic_exact, stepCost_exact]
    norm_cast
    refine octile_le ?_
    unfold diagonal direction
    simp only [Bool.and_eq_true, Bool.and_eq_false_iff, bne_iff_ne, bne_eq_false_iff_eq, ne_eq]
    omega

/-! ### The loop -/

/-- The way back over a table that has one. -/
theorem walkBack_of_trail {n : Nat} {came : Fin n → Option (Fin n)} {v : Fin n} {l : List (Fin n)}
    (h : Trail came v l) : ∀ {fuel : Nat}, l.length ≤ fuel → walkBack came fuel v = l.reverse := by
  induction h with
  | root hnone =>
      intro fuel hfuel
      obtain ⟨fuel, rfl⟩ : ∃ k, fuel = k + 1 := ⟨fuel - 1, by simp at hfuel; omega⟩
      simp [walkBack, hnone]
  | step hsome _ ih =>
      intro fuel hfuel
      rw [List.length_append, List.length_singleton] at hfuel
      obtain ⟨fuel, rfl⟩ : ∃ k, fuel = k + 1 := ⟨fuel - 1, by omega⟩
      simp [walkBack, hsome, ih (by omega : _ ≤ fuel)]

/-- What the loop returns: a shortest path in its table, or nothing when there is no path. -/
def LoopResult (p : Problem (Fin map.cells) Cost) :
    Option (Fin map.cells → Option (Fin map.cells)) → Prop
  | none => ∀ l, p.IsPath (p.start :: l) → (p.start :: l).getLast? ≠ some p.goal
  | some came => ∃ l, Trail came p.goal l ∧ p.IsPath l ∧ l.head? = some p.start ∧ l.Nodup ∧
      ∀ l', p.IsPath (p.start :: l') → (p.start :: l').getLast? = some p.goal →
        pathCost p.weight l ≤ pathCost p.weight (p.start :: l')

/-- **The search loop.** The invariant of the library holds through it, so its result is right. -/
theorem searchLoop_spec (hgoal : map.cellOf goalIdx = goal) (s : Search Cost map.cells)
    (hinv : Inv (problem Cost map goal startIdx goalIdx) (fun _ => []) s.tables) :
    LoopResult (problem Cost map goal startIdx goalIdx) (searchLoop map goal goalIdx s) := by
  have hpos : BestFirst.Positive (problem Cost map goal startIdx goalIdx) := problem_positive
  have hcons : BestFirst.Consistent (problem Cost map goal startIdx goalIdx) :=
    problem_consistent hgoal
  have hne : (0 : Cost) ≠ ⊤ := WithTop.zero_ne_top
  fun_induction searchLoop map goal goalIdx s with
  | case1 s hnone =>
      exact fun l hpath => hinv.no_path hpos hcons hne (popTop_eq_none.mp hnone) hpath
  | case2 s f rest hpop =>
      have hpops : Pops s.tables.queue (f, goalIdx) rest := popTop_pops hpop
      obtain ⟨-, hfin⟩ := hinv.queued (hpops.perm.mem_iff.mpr List.mem_cons_self)
      obtain ⟨l, htrail, hpath, hhead, -, hnodup, hcost⟩ := hinv.exists_trail hpos hfin
      refine ⟨l, htrail, hpath, hhead, hnodup, fun l' hpath' hlast' => ?_⟩
      exact hcost.trans (hinv.score_goal_le hpos hcons hne hpops hpath' hlast')
  | case3 s f cur rest hpop hcur ih =>
      have hpops : Pops s.tables.queue (f, cur) rest := popTop_pops hpop
      have hpass := hinv.pass hpos hpops hcur
      have htables : (expand map goal cur { s with openSet := rest }).tables =
          (problem Cost map goal startIdx goalIdx).expand cur { s.tables with queue := rest } :=
        tables_expand cur _
      exact ih (htables ▸ hpass)

/-! ### Paths of indices and paths of cells -/

/-- Two indices of one cell are one index. -/
theorem cellOf_injective (map : GridMap F) : Function.Injective map.cellOf := by
  intro i j hij
  have hmod : (i : Int) % map.width = (j : Int) % map.width := congrArg Prod.fst hij
  have hdiv : (i : Int) / map.width = (j : Int) / map.width := congrArg Prod.snd hij
  have hi := Int.mul_ediv_add_emod (i : Int) map.width
  have hj := Int.mul_ediv_add_emod (j : Int) map.width
  rw [hmod, hdiv, hj] at hi
  exact Fin.ext (by omega)

/-- The first cell is free, and every other one was stepped to. -/
theorem free_of_steps {map : GridMap F} {c : Int × Int} {cells : List (Int × Int)}
    (hfree : Free map c) (hsteps : (c :: cells).IsChain (Steps map)) :
    ∀ x ∈ c :: cells, Free map x := by
  induction cells generalizing c with
  | nil =>
      intro x hx
      rwa [List.mem_singleton.mp hx]
  | cons d cells ih =>
      obtain ⟨hstep, htail⟩ := List.isChain_cons_cons.mp hsteps
      intro x hx
      rcases List.mem_cons.mp hx with rfl | hx
      · exact hfree
      · exact ih hstep.free htail x hx

/-- A path of the search is a path of free cells. -/
theorem joins_of_isPath {s g : Int × Int} (hs : map.cellOf startIdx = s)
    (hg : map.cellOf goalIdx = g) (hfree : Free map s) {l : List (Fin map.cells)}
    (hpath : (problem Cost map goal startIdx goalIdx).IsPath l) (hhead : l.head? = some startIdx)
    (hlast : l.getLast? = some goalIdx) : Joins map s g (l.map map.cellOf) := by
  have hsteps : (l.map map.cellOf).IsChain (Steps map) := by
    refine (List.isChain_map map.cellOf).mpr ?_
    exact List.IsChain.imp (fun _ _ h => mem_edges h) hpath
  refine ⟨by rw [List.head?_map, hhead, Option.map_some, hs],
    by rw [List.getLast?_map, hlast, Option.map_some, hg], ?_, hsteps⟩
  cases l with
  | nil => cases hhead
  | cons i l =>
      rw [List.head?_cons, Option.some.injEq] at hhead
      rw [List.map_cons] at hsteps ⊢
      exact free_of_steps (by rwa [hhead, hs]) hsteps

/-- The cost of a path counts the ten-thousandths of its length. -/
theorem pathCost_exact (l : List (Fin map.cells)) :
    ∃ k : ℕ, pathCost (problem Cost map goal startIdx goalIdx).weight l = (k : Cost) ∧
      pathLength (l.map map.cellOf) = k / 10000 := by
  induction l with
  | nil => exact ⟨0, rfl, by simp [pathLength, pathCost]⟩
  | cons u l ih =>
      cases l with
      | nil => exact ⟨0, rfl, by simp [pathLength, pathCost]⟩
      | cons v l =>
          obtain ⟨k, hcost, hlength⟩ := ih
          -- The cost of the first step, in whole units.
          let step : ℕ := if diagonal (direction map u v) then 14142 else 10000
          have hweight : (problem Cost map goal startIdx goalIdx).weight u v = (step : Cost) :=
            stepCost_exact (direction map u v)
          have hstep : stepLength (map.cellOf u) (map.cellOf v) = step / 10000 := by
            have hdiag : ((map.cellOf v).1 ≠ (map.cellOf u).1 ∧
              (map.cellOf v).2 ≠ (map.cellOf u).2) ↔
                diagonal (direction map u v) = true := by
              simp [diagonal, direction, Int.sub_eq_zero]
            show _ = ((if diagonal (direction map u v) then 14142 else 10000 : ℕ) : ℚ) / 10000
            unfold stepLength
            by_cases h : diagonal (direction map u v) = true
            · rw [if_pos (hdiag.mpr h), if_pos h]
              norm_num
            · rw [if_neg fun h' => h (hdiag.mp h'), if_neg h]
              norm_num
          refine ⟨step + k, ?_, ?_⟩
          · rw [pathCost, hcost, hweight]
            norm_cast
          · unfold pathLength at hlength ⊢
            rw [List.map_cons, List.map_cons, pathCost, hstep]
            rw [List.map_cons] at hlength
            rw [hlength]
            push_cast
            ring

end Exact

/-! ### Snapping -/

/-- The cell at an offset. -/
def shifted (c d : Int × Int) : Int × Int := (c.1 + d.1, c.2 + d.2)

/-- A cell is reached from another by what lies between them. -/
theorem shifted_apart (c s : Int × Int) : shifted c (apart c s) = s := by
  unfold shifted apart
  ext <;> simp

/-- What lies between a cell and its shift is the shift. -/
theorem apart_shifted (c d : Int × Int) : apart c (shifted c d) = d := by
  unfold shifted apart
  ext <;> simp

/-- What a scan over `ds` has found: no cell of them is free, or it has a nearest free one. -/
def Scanned (map : GridMap F) (c : Int × Int) (ds : List (Int × Int)) (acc : Snap) : Prop :=
  (acc = (10 ^ 9, none) ∧ ∀ d ∈ ds, ¬Free map (shifted c d)) ∨
    ∃ d ∈ ds, acc = (sqLength d, some (shifted c d)) ∧ Free map (shifted c d) ∧
      ∀ e ∈ ds, Free map (shifted c e) → sqLength d ≤ sqLength e

/-- One more candidate. The bound is the one that the search starts with. -/
theorem Scanned.candidate {map : GridMap F} {c : Int × Int} {ds : List (Int × Int)} {acc : Snap}
    (h : Scanned map c ds acc) {d : Int × Int} (hnear : sqLength d < 10 ^ 9) :
    Scanned map c (ds ++ [d]) (snapCandidate map c.1 c.2 acc d) := by
  -- A free cell replaces the best so far when it is strictly nearer.
  by_cases hfree : Free map (shifted c d)
  · have hin : map.Inside (c.1 + d.1) (c.2 + d.2) := hfree.inside
    have hocc : ¬map.cellAt (c.1 + d.1) (c.2 + d.2) = true := by
      rw [Bool.not_eq_true]
      exact hfree
    have hstep : snapCandidate map c.1 c.2 acc d =
        if sqLength d < acc.1 then (sqLength d, some (shifted c d)) else acc := by
      unfold snapCandidate
      dsimp only
      rw [if_pos hin, if_neg hocc]
      rfl
    rw [hstep]
    rcases h with ⟨rfl, hnone⟩ | ⟨e, he, rfl, hfe, hleast⟩
    · rw [if_pos hnear]
      refine Or.inr ⟨d, by simp, rfl, hfree, fun e he hf => ?_⟩
      rcases List.mem_append.mp he with he | he
      · exact absurd hf (hnone e he)
      · rw [List.mem_singleton.mp he]
    · dsimp only
      split
      · rename_i hlt
        refine Or.inr ⟨d, by simp, rfl, hfree, fun e' he' hf => ?_⟩
        rcases List.mem_append.mp he' with he' | he'
        · exact hlt.le.trans (hleast e' he' hf)
        · rw [List.mem_singleton.mp he']
      · rename_i hle
        refine Or.inr ⟨e, List.mem_append_left _ he, rfl, hfe, fun e' he' hf => ?_⟩
        rcases List.mem_append.mp he' with he' | he'
        · exact hleast e' he' hf
        · rw [List.mem_singleton.mp he']
          exact Int.not_lt.mp hle
  · -- A cell that is not free is passed over.
    have hmiss : snapCandidate map c.1 c.2 acc d = acc := by
      unfold snapCandidate
      dsimp only
      split
      · rw [if_pos (by simpa [Free, shifted] using hfree)]
      · rfl
    rw [hmiss]
    rcases h with ⟨rfl, hnone⟩ | ⟨e, he, rfl, hfe, hleast⟩
    · refine Or.inl ⟨rfl, fun e he => ?_⟩
      rcases List.mem_append.mp he with he | he
      · exact hnone e he
      · rwa [List.mem_singleton.mp he]
    · refine Or.inr ⟨e, List.mem_append_left _ he, rfl, hfe, fun e' he' hf => ?_⟩
      rcases List.mem_append.mp he' with he' | he'
      · exact hleast e' he' hf
      · rw [List.mem_singleton.mp he'] at hf
        exact absurd hf hfree

/-- Scanning more offsets keeps the nearest free cell of those before. -/
theorem Scanned.foldl {map : GridMap F} {c : Int × Int} (ds : List (Int × Int))
    (hnear : ∀ d ∈ ds, sqLength d < 10 ^ 9) {pre : List (Int × Int)} {acc : Snap}
    (h : Scanned map c pre acc) :
    Scanned map c (pre ++ ds) (ds.foldl (snapCandidate map c.1 c.2) acc) := by
  induction ds generalizing pre acc with
  | nil => simpa using h
  | cons d ds ih =>
      have hd := h.candidate (hnear d List.mem_cons_self)
      have hds := ih (fun e he => hnear e (List.mem_cons_of_mem _ he)) hd
      rwa [List.append_assoc] at hds

/-- The square of a radius, as the scan lists it. -/
theorem mem_square {r : Nat} {d : Int × Int} : d ∈ square r ↔ radius d ≤ r := by
  unfold square radius
  simp only [List.mem_flatMap, List.mem_map, GridMap.mem_span, Prod.ext_iff]
  constructor
  · rintro ⟨dy, hdy, dx, hdx, rfl, rfl⟩
    omega
  · intro h
    exact ⟨d.2, by omega, d.1, by omega, rfl, rfl⟩

/-- The scan of one square. -/
theorem scanned_square (map : GridMap F) (c : Int × Int) {r : Nat} (hr : r ≤ 6) :
    Scanned map c (square r) ((square r).foldl (snapCandidate map c.1 c.2) (10 ^ 9, none)) := by
  have hstart : Scanned map c [] (10 ^ 9, none) := Or.inl ⟨rfl, by simp⟩
  refine hstart.foldl (square r) fun d hd => ?_
  have hd := mem_square.mp hd
  unfold radius at hd
  have hx : -6 ≤ d.1 ∧ d.1 ≤ 6 := by omega
  have hy : -6 ≤ d.2 ∧ d.2 ≤ 6 := by omega
  have h₁ : d.1 * d.1 ≤ 36 := by nlinarith
  have h₂ : d.2 * d.2 ≤ 36 := by nlinarith
  unfold sqLength
  omega

/-- The squares from `r` on are scanned until one has a free cell. -/
theorem snapSquares_first (map : GridMap F) (c : Int × Int) (n : Nat) (r : Nat) (hn : r + n ≤ 7) :
    (snapSquares map c.1 c.2 ((List.range' r n).map Int.ofNat) = none ∧
        ∀ q, r ≤ q → q < r + n → ∀ d, radius d ≤ q → ¬Free map (shifted c d)) ∨
      ∃ q d, q < r + n ∧
        snapSquares map c.1 c.2 ((List.range' r n).map Int.ofNat) = some (shifted c d) ∧
          Free map (shifted c d) ∧ radius d ≤ q ∧
          (∀ q', r ≤ q' → q' < q → ∀ e, radius e ≤ q' → ¬Free map (shifted c e)) ∧
          ∀ e, radius e ≤ q → Free map (shifted c e) → sqLength d ≤ sqLength e := by
  induction n generalizing r with
  | zero => exact Or.inl ⟨rfl, fun q hle hlt => by omega⟩
  | succ n ih =>
      rw [List.range'_succ, List.map_cons, snapSquares]
      have hscan : Scanned map c (square r)
          ((square r).foldl (snapCandidate map c.1 c.2) (10 ^ 9, none)) :=
        scanned_square map c (by omega)
      rcases hscan with ⟨hfold, hnone⟩ | ⟨d, hd, hfold, hfree, hleast⟩
      · have hsquare : ∀ d, radius d ≤ r → ¬Free map (shifted c d) :=
          fun d hd => hnone d (mem_square.mpr hd)
        simp only [Int.ofNat_eq_natCast, hfold]
        rcases ih (r + 1) (by omega) with ⟨hlost, hrest⟩ |
          ⟨q, d, hq, hd, hfree, hrad, hbefore, hleast⟩
        · refine Or.inl ⟨hlost, fun q hle hlt d hd => ?_⟩
          rcases Nat.eq_or_lt_of_le hle with rfl | hlt'
          · exact hsquare d hd
          · exact hrest q hlt' (by omega) d hd
        · refine Or.inr ⟨q, d, by omega, hd, hfree, hrad, fun q' hle hlt e he => ?_, hleast⟩
          rcases Nat.eq_or_lt_of_le hle with rfl | hlt'
          · exact hsquare e he
          · exact hbefore q' hlt' hlt e he
      · simp only [Int.ofNat_eq_natCast, hfold]
        refine Or.inr ⟨r, d, by omega, rfl, hfree, mem_square.mp hd, fun q' hle hlt => by omega,
          fun e he => hleast e (mem_square.mpr he)⟩

/-- What `snap_free` returns: a free cell on the smallest square that has one, and there the
nearest. -/
theorem snapFree_spec (map : GridMap F) (c : Int × Int) :
    (snapFree map c.1 c.2 = none ∧ ∀ s, Free map s → 6 < radius (apart c s)) ∨
      ∃ s, snapFree map c.1 c.2 = some s ∧ Free map s ∧ radius (apart c s) ≤ 6 ∧
        (∀ t, Free map t → radius (apart c s) ≤ radius (apart c t)) ∧
        ∀ t, Free map t → radius (apart c t) ≤ radius (apart c s) →
          sqLength (apart c s) ≤ sqLength (apart c t) := by
  by_cases hfree : Free map c
  · -- A free cell is its own nearest.
    have hzero : apart c c = (0, 0) := by simp [apart]
    refine Or.inr ⟨c, snapFree_of_free hfree, hfree, ?_, fun t _ => ?_, fun t _ _ => ?_⟩
    · rw [hzero]
      decide
    · rw [hzero]
      exact Nat.zero_le _
    · rw [hzero]
      exact Int.add_nonneg (mul_self_nonneg _) (mul_self_nonneg _)
  · have hocc : map.cellAt c.1 c.2 = true := by simpa [Free] using hfree
    have hspan : span 1 6 = (List.range' 1 6).map Int.ofNat := by decide
    -- The cell itself is occupied, so the free ones are at least one square away.
    have hown : ∀ s, Free map s → 1 ≤ radius (apart c s) := by
      intro s hs
      by_contra hzero
      have heq : s = c := by
        unfold radius apart at hzero
        ext <;> (dsimp only at hzero; omega)
      exact hfree (heq ▸ hs)
    rw [snapFree, if_pos hocc, hspan]
    rcases snapSquares_first map c 6 1 (by omega) with
      ⟨hnone, hall⟩ | ⟨q, d, hq, hsome, hd, hrad, hbefore, hleast⟩
    · refine Or.inl ⟨hnone, fun s hs => ?_⟩
      by_contra hnear
      have hs' := hall 6 (by omega) (by omega) (apart c s) (Nat.not_lt.mp hnear)
      rw [shifted_apart] at hs'
      exact hs' hs
    · -- Every free cell is at least as far out as the square that had the first hit.
      have hout : ∀ t, Free map t → q ≤ radius (apart c t) := by
        intro t ht
        by_contra hlt
        have ht' := hbefore _ (hown t ht) (Nat.not_le.mp hlt) (apart c t) (Nat.le_refl _)
        rw [shifted_apart] at ht'
        exact ht' ht
      refine Or.inr ⟨shifted c d, hsome, hd, ?_, fun t ht => ?_, fun t ht hle => ?_⟩
      · rw [apart_shifted]
        omega
      · rw [apart_shifted]
        exact hrad.trans (hout t ht)
      · rw [apart_shifted] at hle ⊢
        exact hleast _ (hle.trans hrad) (by rwa [shifted_apart])

/-- **Snapping finds a free cell exactly when there is one nearby.** -/
theorem snapFree_cases (map : GridMap F) (x y : Int) :
    (snapFree map x y = none ∧ ¬FreeNearby map (x, y)) ∨
      ((∃ c, snapFree map x y = some c ∧ Free map c) ∧ FreeNearby map (x, y)) := by
  have hnear : ∀ s, radius (apart (x, y) s) ≤ 6 ↔
      (s.1 - (x, y).1).natAbs ≤ 6 ∧ (s.2 - (x, y).2).natAbs ≤ 6 := fun s => max_le_iff
  rcases snapFree_spec map (x, y) with ⟨hnone, hall⟩ | ⟨s, hs, hfree, hle, -, -⟩
  · refine Or.inl ⟨hnone, ?_⟩
    rintro ⟨c, h₁, h₂, hc⟩
    exact absurd ((hnear c).mpr ⟨h₁, h₂⟩) (Nat.not_le.mpr (hall c hc))
  · obtain ⟨h₁, h₂⟩ := (hnear s).mp hle
    exact Or.inr ⟨⟨s, hs, hfree⟩, s, h₁, h₂, hfree⟩

/-- **When snapping finds the nearest cell.** No free cell beyond the first square with a hit is
nearer than the cells on it. -/
theorem snaps_nearest_iff (map : GridMap F) (c : Int × Int) :
    SnapsNearest map c ↔ NearestOnFirstSquare map c := by
  unfold SnapsNearest
  rcases snapFree_spec map c with ⟨hnone, hall⟩ | ⟨s, hs, hfree, hle, hfirst, hleast⟩
  · rw [hnone]
    exact ⟨fun _ t ht hnear => absurd hnear (Nat.not_le.mpr (hall t ht)), fun _ => hall⟩
  · rw [hs]
    constructor
    · rintro ⟨-, -, -, hnearest⟩ t ht hnear
      exact ⟨s, hfree, hfirst, hnearest t ht hnear⟩
    · intro h
      refine ⟨hfree, fun hc => ?_, hle, fun t ht hnear => ?_⟩
      · rw [snapFree_of_free hc] at hs
        exact (Option.some.inj hs).symm
      · obtain ⟨s', hs', hfirst', hless⟩ := h t ht hnear
        exact (hleast s' hs' (hfirst' s hfree)).trans hless

/-- Four cells to the right of an occupied one, and three both ways, are the only free cells. -/
def diagonalMap : GridMap ℚ :=
  { width := 5, height := 4, resolution := 1.0, originX := 0.0, originY := 0.0
    occ := (List.range 20).map fun i => i ≠ 4 ∧ i ≠ 18 }

/-- The square of radius three comes first, and its corner is farther away. -/
theorem snaps_to_diagonal :
    snapFree diagonalMap 0 0 = some (3, 3) ∧ Free diagonalMap (4, 0) ∧
      ¬SnapsNearest diagonalMap (0, 0) := by
  have hsnap : snapFree diagonalMap 0 0 = some (3, 3) := by decide +kernel
  have hfree : Free diagonalMap (4, 0) := by decide +kernel
  refine ⟨hsnap, hfree, fun h => ?_⟩
  simp only [SnapsNearest, hsnap] at h
  exact absurd (h.2.2.2 (4, 0) hfree (by decide)) (by decide)

/-- A point lies outside the map, has no free cell nearby, or is snapped to one. -/
theorem snapped_cases (map : GridMap F) (x y : F) :
    map.worldToCell x y = none ∨ (∃ c, map.worldToCell x y = some c ∧ ¬FreeNearby map c) ∨
      ∃ s, snapped map x y = some s := by
  unfold snapped
  cases hcell : map.worldToCell x y with
  | none => exact Or.inl rfl
  | some c =>
      rcases snapFree_cases map c.1 c.2 with ⟨-, hlost⟩ | ⟨⟨s, hs, -⟩, -⟩
      · exact Or.inr (Or.inl ⟨c, rfl, hlost⟩)
      · exact Or.inr (Or.inr ⟨s, hs⟩)

/-- Nothing free nearby, nothing snapped. -/
theorem snapped_eq_none {map : GridMap F} {x y : F}
    (h : ∃ c, map.worldToCell x y = some c ∧ ¬FreeNearby map c) : snapped map x y = none := by
  obtain ⟨c, hcell, hlost⟩ := h
  rcases snapFree_cases map c.1 c.2 with ⟨hnone, -⟩ | ⟨-, hnear⟩
  · rw [snapped, hcell]
    exact hnone
  · exact absurd hnear hlost

/-- A snapped cell is free. -/
theorem snapped_free {map : GridMap F} {x y : F} {c : Int × Int} (h : snapped map x y = some c) :
    Free map c := by
  obtain ⟨d, -, hc⟩ := Option.bind_eq_some_iff.mp h
  rcases snapFree_cases map d.1 d.2 with ⟨hnone, -⟩ | ⟨⟨c', hc', hfree⟩, -⟩
  · rw [hnone] at hc
    cases hc
  · rw [hc'] at hc
    rwa [← Option.some.inj hc]

/-! ### The planner between two snapped cells -/

/-- The tables before the loop. -/
def firstSearch (C : Type) [CFloat C] {n : Nat} (start goal : Int × Int) (startIdx : Fin n) :
    Search C n where
  came := fun _ => none
  gscore := Function.update (fun _ => CFloat.infinity) startIdx 0.0
  openSet := [(heuristic goal start.1 start.2, startIdx)]

/-- Between two snapped cells the planner runs the loop and walks back over its table. -/
theorem astar_eq {C : Type} [CFloat C] {map : GridMap F} {sx sy gx gy : F} {s g : Int × Int}
    {sIdx gIdx : Fin map.cells} (hs : snapped map sx sy = some s)
    (hg : snapped map gx gy = some g) (hsIdx : map.index? s.1 s.2 = some sIdx)
    (hgIdx : map.index? g.1 g.2 = some gIdx) :
    astar C map sx sy gx gy =
      match searchLoop map g gIdx (firstSearch C s g sIdx) with
      | none => []
      | some came =>
          let cells := (walkBack came map.cells gIdx).reverse
          let path := cells.map fun c => map.cellToWorld (map.cellOf c).1 (map.cellOf c).2
          if path = [] then [] else path.dropLast ++ [(gx, gy)] := by
  obtain ⟨⟨scx, scy⟩, hsc, hs'⟩ := Option.bind_eq_some_iff.mp hs
  obtain ⟨⟨gcx, gcy⟩, hgc, hg'⟩ := Option.bind_eq_some_iff.mp hg
  unfold astar
  simp only [hsc, hgc, hs', hg', hsIdx, hgIdx]
  rfl

/-- The walk back has at least the goal. -/
theorem walkBack_ne_nil {n : Nat} (came : Fin n → Option (Fin n)) {fuel : Nat} (h : 0 < fuel)
    (c : Fin n) : walkBack came fuel c ≠ [] := by
  cases fuel with
  | zero => cases h
  | succ fuel =>
      rw [walkBack]
      split <;> simp

/-- **A path between the snapped cells makes the planner find one**, also with rounded costs. -/
theorem astar_of_joins {C : Type} [CFloat C] (hfin : FiniteSteps C) {map : GridMap F}
    {sx sy gx gy : F} {s g : Int × Int} {cells : List (Int × Int)}
    (hs : snapped map sx sy = some s) (hg : snapped map gx gy = some g)
    (hjoins : Joins map s g cells) : astar C map sx sy gx gy ≠ [] := by
  obtain ⟨sIdx, hsIdx⟩ := (snapped_free hs).index?
  obtain ⟨gIdx, hgIdx⟩ := (snapped_free hg).index?
  obtain ⟨l, hpath, hlast⟩ : ∃ l, (problem C map g sIdx gIdx).IsPath (sIdx :: l) ∧
      (sIdx :: l).getLast? = some gIdx := by
    cases cells with
    | nil => cases hjoins.head
    | cons c cells =>
        obtain rfl : c = s := Option.some.inj hjoins.head
        obtain ⟨l, -, hpath, hlast⟩ :=
          exists_isPath (C := C) hgIdx hsIdx hjoins.steps hjoins.last
        exact ⟨l, hpath, hlast⟩
  -- At the start only the start has a finite score, and it is in the queue.
  have hspread : Spread (problem C map g sIdx gIdx) CFloat.infinity (fun _ => [])
      (firstSearch C s g sIdx).tables := by
    refine ⟨?_, fun {u} hu => Or.inl ?_⟩
    · show Function.update (fun _ => (CFloat.infinity : C)) sIdx 0.0 sIdx < CFloat.infinity
      rw [Function.update_self]
      exact hfin.zero
    by_cases hus : u = sIdx
    · subst hus
      exact ⟨_, List.mem_singleton_self _⟩
    · have hu : Function.update (fun _ => (CFloat.infinity : C)) sIdx 0.0 u < CFloat.infinity := hu
      rw [Function.update_of_ne hus] at hu
      exact absurd hu (lt_irrefl _)
  have hloop := searchLoop_ne_none hfin _ hspread hpath hlast
  rw [astar_eq hs hg hsIdx hgIdx]
  obtain ⟨came, hcame⟩ := Option.ne_none_iff_exists'.mp hloop
  rw [hcame]
  dsimp only
  rw [if_neg (by simpa using walkBack_ne_nil came gIdx.pos gIdx)]
  exact List.concat_ne_nil _ _

section Exact

open Exact (Cost)

variable {map : GridMap F}

/-! ### The planner -/

/-- **The planner between two snapped cells**: a shortest path of free cells, or nothing when there
is no path. -/
theorem astar_spec {sx sy gx gy : F} {s g : Int × Int} (hs : snapped map sx sy = some s)
    (hg : snapped map gx gy = some g) :
    (∃ cells, Joins map s g cells ∧ cells.Nodup ∧
        astar Cost map sx sy gx gy = waypoints map cells gx gy ∧
        ∀ cells', Joins map s g cells' → pathLength cells ≤ pathLength cells') ∨
      (astar Cost map sx sy gx gy = [] ∧ ∀ cells, ¬Joins map s g cells) := by
  obtain ⟨sIdx, hsIdx⟩ := (snapped_free hs).index?
  obtain ⟨gIdx, hgIdx⟩ := (snapped_free hg).index?
  have hscell : map.cellOf sIdx = s := GridMap.cellOf_of_index? hsIdx
  have hgcell : map.cellOf gIdx = g := GridMap.cellOf_of_index? hgIdx
  -- The first search of the code is the initial one of the problem.
  have hfirst : Inv (problem Cost map g sIdx gIdx) (fun _ => [])
    (firstSearch Cost s g sIdx).tables := by
    have hinitial := BestFirst.inv_initial (problem Cost map g sIdx gIdx) WithTop.zero_ne_top
    have hkey : (problem Cost map g sIdx gIdx).estimate sIdx = heuristic g s.1 s.2 := by
      show heuristic g (map.cellOf sIdx).1 (map.cellOf sIdx).2 = _
      rw [hscell]
    have htables : (firstSearch Cost s g sIdx).tables =
        (problem Cost map g sIdx gIdx).initial ((problem Cost map g sIdx gIdx).estimate sIdx) := by
      rw [hkey]
      rfl
    rw [htables]
    exact hinitial
  have hresult := searchLoop_spec hgcell _ hfirst
  have hastar := astar_eq (C := Cost) hs hg hsIdx hgIdx
  -- The loop ends with an empty queue, or with the links that lead to the goal.
  cases hloop : searchLoop map g gIdx (firstSearch Cost s g sIdx) with
  | none =>
      rw [hloop] at hresult hastar
      refine Or.inr ⟨hastar, fun cells hjoins => ?_⟩
      cases cells with
      | nil => cases hjoins.head
      | cons c cells =>
          have hc : c = s := Option.some.inj hjoins.head
          subst hc
          obtain ⟨l, -, hpath, hlast⟩ :=
            exists_isPath (C := Cost) hgIdx hsIdx hjoins.steps hjoins.last
          exact hresult l hpath hlast
  | some came =>
      rw [hloop] at hresult hastar
      obtain ⟨l, htrail, hpath, hhead, hnodup, hbest⟩ := hresult
      have htrail : Trail came gIdx l := htrail
      have hlast : l.getLast? = some gIdx := htrail.getLast?
      have hlength : l.length ≤ map.cells := by
        have hcard := hnodup.length_le_card
        rwa [Fintype.card_fin] at hcard
      have hjoins := joins_of_isPath hscell hgcell (snapped_free hs) hpath hhead hlast
      refine Or.inl ⟨l.map map.cellOf, hjoins, hnodup.map (cellOf_injective map), ?_, ?_⟩
      · -- The walk back is the path in reverse.
        have hwalk : (walkBack came map.cells gIdx).reverse = l := by
          rw [walkBack_of_trail htrail hlength, List.reverse_reverse]
        rw [hastar]
        dsimp only
        rw [hwalk, if_neg (by simpa using htrail.ne_nil), waypoints, List.map_map]
        rfl
      · intro cells' hjoins'
        cases cells' with
        | nil => cases hjoins'.head
        | cons c cells' =>
            have hc : c = s := Option.some.inj hjoins'.head
            subst hc
            obtain ⟨l', hcells', hpath', hlast'⟩ :=
              exists_isPath (C := Cost) hgIdx hsIdx hjoins'.steps hjoins'.last
            -- Costs are whole multiples of one unit, so that of the path is its length.
            obtain ⟨k, hcost, hlen⟩ := @pathCost_exact F _ map g sIdx gIdx l
            obtain ⟨k', hcost', hlen'⟩ := @pathCost_exact F _ map g sIdx gIdx (sIdx :: l')
            have hle : (k : Cost) ≤ (k' : Cost) := by
              rw [← hcost, ← hcost']
              exact hbest l' hpath' hlast'
            have hle' : (k : ℚ) ≤ (k' : ℚ) := by exact_mod_cast WithTop.coe_le_coe.mp hle
            rw [← hcells', hlen, hlen']
            exact div_le_div_of_nonneg_right hle' (by norm_num)

/-- A path between the snapped cells makes the planner find one. -/
theorem astar_ne_nil {sx sy gx gy : F} {s g : Int × Int} {cells : List (Int × Int)}
    (hs : snapped map sx sy = some s) (hg : snapped map gx gy = some g)
    (hjoins : Joins map s g cells) : astar Cost map sx sy gx gy ≠ [] := by
  rcases astar_spec hs hg with ⟨cells', -, -, hpath, -⟩ | ⟨-, hnone⟩
  · rw [hpath, waypoints]
    exact List.concat_ne_nil _ _
  · exact absurd hjoins (hnone cells)

/-- A path begins and ends at points that can be snapped. -/
theorem astar_snapped {C : Type} [CFloat C] {sx sy gx gy : F} (h : astar C map sx sy gx gy ≠ []) :
    ∃ s g, snapped map sx sy = some s ∧ snapped map gx gy = some g := by
  unfold astar at h
  unfold snapped
  cases hsc : map.worldToCell sx sy with
  | none =>
      rw [hsc] at h
      exact absurd rfl h
  | some sc =>
      cases hgc : map.worldToCell gx gy with
      | none =>
          rw [hsc, hgc] at h
          exact absurd rfl h
      | some gc =>
          simp only [hsc, hgc] at h
          simp only [Option.bind_some]
          cases hs : snapFree map sc.1 sc.2 with
          | none =>
              simp only [hs] at h
              exact absurd rfl h
          | some s =>
              cases hg : snapFree map gc.1 gc.2 with
              | none =>
                  simp only [hs, hg] at h
                  exact absurd rfl h
              | some g => exact ⟨s, g, rfl, rfl⟩

/-- A path that is not empty joins the snapped cells, and no other is shorter. -/
theorem astar_joins {sx sy gx gy : F} (h : astar Cost map sx sy gx gy ≠ []) :
    ∃ s g cells, snapped map sx sy = some s ∧ snapped map gx gy = some g ∧
      Joins map s g cells ∧ cells.Nodup ∧ astar Cost map sx sy gx gy = waypoints map cells gx gy ∧
      ∀ cells', Joins map s g cells' → pathLength cells ≤ pathLength cells' := by
  obtain ⟨s, g, hs, hg⟩ := astar_snapped h
  rcases astar_spec hs hg with ⟨cells, hjoins, hnodup, hpath, hbest⟩ | ⟨hempty, -⟩
  · exact ⟨s, g, cells, hs, hg, hjoins, hnodup, hpath, hbest⟩
  · exact absurd hempty h

end Exact

/-! ### Exact coordinates -/

section Rational

open Exact (Cost)

variable {map : GridMap ℚ}

/-- The centre of a cell lies in the cell. -/
theorem floor_centre {origin resolution : ℚ} (h : resolution ≠ 0) (c : Int) :
    CDouble.floorInt ((origin + (CDouble.ofInt c + 0.5) * resolution - origin) / resolution) =
    c := by
  show Rat.floor ((origin + ((c : ℚ) + 0.5) * resolution - origin) / resolution) = c
  have hquot : (origin + ((c : ℚ) + 0.5) * resolution - origin) / resolution = (c : ℚ) + 0.5 := by
    rw [add_sub_cancel_left, mul_div_assoc, div_self h, mul_one]
  have hhalf : (0.5 : ℚ).floor = 0 := by decide +kernel
  rw [hquot, add_comm, Rat.floor_add_intCast, hhalf, Int.zero_add]

/-- The centre of a free cell is a free point. -/
theorem isFree_cellToWorld (hres : map.resolution ≠ 0) {c : Int × Int} (hfree : Free map c) :
    isFree map (map.cellToWorld c.1 c.2).1 (map.cellToWorld c.1 c.2).2 = true := by
  have hcell : map.worldToCell (map.cellToWorld c.1 c.2).1 (map.cellToWorld c.1 c.2).2 =
    some c := by
    unfold GridMap.worldToCell GridMap.cellToWorld
    simp only [floor_centre hres]
    rw [if_pos hfree.inside]
  have hocc : map.cellAt c.1 c.2 = false := hfree
  rw [isFree, hcell]
  simp [hocc]

/-- With a resolution of zero all points of the world lie in one cell. -/
theorem snapped_of_resolution_eq_zero (hres : map.resolution = 0) (x y x' y' : ℚ) :
    snapped map x y = snapped map x' y' := by
  simp only [snapped, GridMap.worldToCell, hres, div_zero]

/-- Distinct cells that begin and end at the same cell are one cell. -/
theorem eq_singleton_of_nodup {s : Int × Int} {cells : List (Int × Int)} (hnodup : cells.Nodup)
    (hhead : cells.head? = some s) (hlast : cells.getLast? = some s) : cells = [s] := by
  cases cells with
  | nil => cases hhead
  | cons c cells =>
      have hc : c = s := Option.some.inj hhead
      subst hc
      cases cells with
      | nil => rfl
      | cons d cells =>
          rw [List.getLast?_cons_cons] at hlast
          exact absurd (List.mem_of_getLast? hlast) (List.nodup_cons.mp hnodup).1

/-- **The planner is sound.** The points of a path stand for distinct free cells, from the snapped
start to the snapped goal, each one step from the one before, without a cut corner. Every point but
the last is free, and the last one is the commanded goal. -/
theorem astar_sound (map : GridMap ℚ) (sx sy gx gy : ℚ) (h : astar Cost map sx sy gx gy ≠ []) :
    (astar Cost map sx sy gx gy).getLast? = some (gx, gy) ∧
      (∀ p ∈ (astar Cost map sx sy gx gy).dropLast, isFree map p.1 p.2 = true) ∧
      ∃ s g cells, snapped map sx sy = some s ∧ snapped map gx gy = some g ∧
        Joins map s g cells ∧ cells.Nodup ∧
        astar Cost map sx sy gx gy = waypoints map cells gx gy := by
  obtain ⟨s, g, cells, hs, hg, hjoins, hnodup, hpath, -⟩ := astar_joins h
  refine ⟨astar_getLast? h, fun p hp => ?_, s, g, cells, hs, hg, hjoins, hnodup, hpath⟩
  rw [hpath, waypoints, List.dropLast_concat] at hp
  by_cases hres : map.resolution = 0
  · -- Both ends lie in one cell, so there is no point but the last.
    have hsg : s = g := by
      rw [snapped_of_resolution_eq_zero hres sx sy gx gy, hg] at hs
      exact (Option.some.inj hs).symm
    subst hsg
    rw [eq_singleton_of_nodup hnodup hjoins.head hjoins.last] at hp
    exact absurd hp List.not_mem_nil
  · obtain ⟨c, hc, rfl⟩ := List.mem_map.mp (List.dropLast_subset _ hp)
    exact isFree_cellToWorld hres (hjoins.free c hc)

/-- Two columns and two rows. The cell above the start is occupied, so the diagonal is cut. -/
def cornerMap : GridMap ℚ :=
  { width := 2, height := 2, resolution := 1.0, originX := 0.0, originY := 0.0,
    occ := [false, false, true, false] }

/-- The way round the corner of the small map. -/
theorem cornerMap_joins : Joins cornerMap (0, 0) (1, 1) [(0, 0), (1, 0), (1, 1)] where
  head := rfl
  last := rfl
  free := by decide +kernel
  steps := by
    refine .cons_cons ⟨by decide, by decide +kernel, fun _ h => absurd rfl h⟩
      (.cons_cons ⟨by decide, by decide +kernel, fun h => absurd rfl h⟩ (.singleton _))

/-- Around the corner of an occupied cell. -/
theorem cornerMap_path : astar Cost cornerMap 0.5 0.5 1.5 1.5 ≠ [] :=
  astar_ne_nil (s := (0, 0)) (g := (1, 1)) (by decide +kernel) (by decide +kernel) cornerMap_joins

/-- The path on the small map ends at the goal. -/
theorem astar_sound_corner :
    (astar Cost cornerMap 0.5 0.5 1.5 1.5).getLast? = some (1.5, 1.5) :=
  (astar_sound cornerMap 0.5 0.5 1.5 1.5 cornerMap_path).1

/-- **The planner ends, and it is complete.** The search loop ends, whatever the tables. The path is
empty exactly when an end lies outside the map or has no free cell nearby, or when no path of free
cells joins the snapped cells. -/
theorem astar_complete (map : GridMap ℚ) (sx sy gx gy : ℚ) :
    (∀ (goal : Int × Int) (goalIdx : Fin map.cells) (s : Search Cost map.cells),
        ∃ passes, LoopEnds map goal goalIdx passes s) ∧
      (astar Cost map sx sy gx gy = [] ↔
        map.worldToCell sx sy = none ∨ map.worldToCell gx gy = none ∨
          (∃ c, map.worldToCell sx sy = some c ∧ ¬FreeNearby map c) ∨
          (∃ c, map.worldToCell gx gy = some c ∧ ¬FreeNearby map c) ∨
          ∃ s g, snapped map sx sy = some s ∧ snapped map gx gy = some g ∧
            ∀ cells, ¬Joins map s g cells) := by
  refine ⟨fun goal goalIdx s => loopEnds s, ?_⟩
  constructor
  · intro hempty
    rcases snapped_cases map sx sy with hout | hlost | ⟨s, hs⟩
    · exact Or.inl hout
    · exact Or.inr (Or.inr (Or.inl hlost))
    · rcases snapped_cases map gx gy with hout | hlost | ⟨g, hg⟩
      · exact Or.inr (Or.inl hout)
      · exact Or.inr (Or.inr (Or.inr (Or.inl hlost)))
      · refine Or.inr (Or.inr (Or.inr (Or.inr ⟨s, g, hs, hg, fun cells hjoins => ?_⟩)))
        exact astar_ne_nil hs hg hjoins hempty
  · intro hwhy
    by_contra hpath
    obtain ⟨s, g, cells, hs, hg, hjoins, -⟩ := astar_joins hpath
    rcases hwhy with hout | hout | hlost | hlost | ⟨s', g', hs', hg', hnone⟩
    · rw [snapped, hout] at hs
      cases hs
    · rw [snapped, hout] at hg
      cases hg
    · rw [snapped_eq_none hlost] at hs
      cases hs
    · rw [snapped_eq_none hlost] at hg
      cases hg
    · rw [hs] at hs'
      rw [hg] at hg'
      have hss : s = s' := Option.some.inj hs'
      have hgg : g = g' := Option.some.inj hg'
      subst hss hgg
      exact hnone cells hjoins

/-- **The planner is optimal.** No path of free cells between the snapped cells is shorter than the
one that it returns. -/
theorem astar_optimal (map : GridMap ℚ) (sx sy gx gy : ℚ) (h : astar Cost map sx sy gx gy ≠ []) :
    ∃ s g cells, snapped map sx sy = some s ∧ snapped map gx gy = some g ∧
      Joins map s g cells ∧ astar Cost map sx sy gx gy = waypoints map cells gx gy ∧
      ∀ cells', Joins map s g cells' → pathLength cells ≤ pathLength cells' := by
  obtain ⟨s, g, cells, hs, hg, hjoins, -, hpath, hbest⟩ := astar_joins h
  exact ⟨s, g, cells, hs, hg, hjoins, hpath, hbest⟩

/-- The path on the small map is a shortest one. -/
theorem astar_optimal_corner :
    ∃ s g cells, snapped cornerMap 0.5 0.5 = some s ∧ snapped cornerMap 1.5 1.5 = some g ∧
      Joins cornerMap s g cells ∧
      astar Cost cornerMap 0.5 0.5 1.5 1.5 = waypoints cornerMap cells 1.5 1.5 ∧
      ∀ cells', Joins cornerMap s g cells' → pathLength cells ≤ pathLength cells' :=
  astar_optimal cornerMap 0.5 0.5 1.5 1.5 cornerMap_path

end Rational

end BotCockpit.Sim.Nav
