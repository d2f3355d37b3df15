import BotCockpit.Spec.Navigation
import Mathlib.Data.Fintype.Card

/-!
# `BotCockpit.Proofs.Sim.Nav`: paths of the search

`inflate_marks` and `makeCorridorDemo_marks` bound the occupied cells of the maps the robot
plans on.

The walk back over the `came` table ends by itself (`searchLoop_walkBack`): the search never
closes a cycle, because a cell only gets a new predecessor when its cost becomes smaller
(`SearchInv.relax`). So the fuel that `astar` gives the walk is no restriction.

`Drawn.inRange` bounds the indices of every map on the way to one of these, and
`advanceIdx_bounds` those of a path.

`astar_sameCell` is the shortest case: a goal in the free cell of the start is reached by one
waypoint, the goal itself.
-/

set_option autoImplicit false

namespace BotCockpit.Sim.Nav

open BotCockpit.Lib

variable {F : Type} [CDouble F] {C : Type} [CFloat C]

/-! ### The grid -/

namespace GridMap

/-- The two maps have the same cells in the same place. -/
structure SameGrid (m n : GridMap F) : Prop where
  width : n.width = m.width
  height : n.height = m.height
  resolution : n.resolution = m.resolution
  originX : n.originX = m.originX
  originY : n.originY = m.originY

/-- A map has its own grid. -/
theorem SameGrid.refl (m : GridMap F) : SameGrid m m := ⟨rfl, rfl, rfl, rfl, rfl⟩

/-- The grid is kept over two steps. -/
theorem SameGrid.trans {m n k : GridMap F} (h₁ : SameGrid m n) (h₂ : SameGrid n k) :
    SameGrid m k :=
  ⟨h₂.width.trans h₁.width, h₂.height.trans h₁.height, h₂.resolution.trans h₁.resolution,
    h₂.originX.trans h₁.originX, h₂.originY.trans h₁.originY⟩

/-- Maps of one grid have the same cells. -/
theorem SameGrid.inside {m n : GridMap F} (h : SameGrid m n) (x y : Int) :
    n.Inside x y ↔ m.Inside x y := by
  unfold Inside
  rw [h.width, h.height]

/-- Maps of one grid put a point into the same cell. -/
theorem SameGrid.worldToCell {m n : GridMap F} (h : SameGrid m n) (wx wy : F) :
    n.worldToCell wx wy = m.worldToCell wx wy := by
  unfold GridMap.worldToCell
  simp only [h.inside, h.resolution, h.originX, h.originY]

/-- Outside of the map no cell is free. -/
theorem inside_of_cellAt {m : GridMap F} {x y : Int} (h : m.cellAt x y = false) :
    m.Inside x y := by
  by_contra hout
  simp [cellAt, hout] at h

/-- Setting a cell keeps the grid. -/
theorem set_sameGrid (m : GridMap F) (x y : Int) (v : Bool) : SameGrid m (m.set x y v) := by
  unfold set
  split <;> exact ⟨rfl, rfl, rfl, rfl, rfl⟩

/-- Two cells of the map with one index are one cell. -/
theorem index_inj {w x y x' y' : Int} (hx : 0 ≤ x) (hxw : x < w) (hy : 0 ≤ y) (hx' : 0 ≤ x')
    (hxw' : x' < w) (hy' : 0 ≤ y') (h : (y * w + x).toNat = (y' * w + x').toNat) :
    x' = x ∧ y' = y := by
  have hpos : 0 ≤ y * w := Int.mul_nonneg hy (by omega)
  have hpos' : 0 ≤ y' * w := Int.mul_nonneg hy' (by omega)
  have heq : y * w + x = y' * w + x' := by omega
  rcases Int.lt_trichotomy y y' with hlt | rfl | hlt
  · have := Int.mul_le_mul_of_nonneg_right (show y + 1 ≤ y' by omega) (show 0 ≤ w by omega)
    rw [Int.add_mul, Int.one_mul] at this
    omega
  · exact ⟨by omega, rfl⟩
  · have := Int.mul_le_mul_of_nonneg_right (show y' + 1 ≤ y by omega) (show 0 ≤ w by omega)
    rw [Int.add_mul, Int.one_mul] at this
    omega

/-- Marking a cell occupies no other cell. -/
theorem cellAt_set {m : GridMap F} {x y x' y' : Int} (h : (m.set x y true).cellAt x' y' = true) :
    m.cellAt x' y' = true ∨ x' = x ∧ y' = y := by
  by_cases hin : m.Inside x y
  · by_cases hin' : m.Inside x' y'
    · by_cases hidx : (y * m.width + x).toNat = (y' * m.width + x').toNat
      · obtain ⟨hx, hy, hxw, -⟩ := hin
        obtain ⟨hx', hy', hxw', -⟩ := hin'
        exact Or.inr (index_inj hx hxw hy hx' hxw' hy' hidx)
      · refine Or.inl ?_
        have hset : m.set x y true =
            { m with occ := m.occ.set (y * m.width + x).toNat true } := if_pos hin
        have hin'' : (m.set x y true).Inside x' y' :=
          ((set_sameGrid m x y true).inside _ _).mpr hin'
        unfold cellAt at h ⊢
        rw [if_pos hin''] at h
        rw [if_pos hin']
        rw [hset] at h
        simpa [List.getD_eq_getElem?_getD, List.getElem?_set_ne hidx] using h
    · exact Or.inl (by simp [cellAt, hin'])
  · refine Or.inl ?_
    have hset : m.set x y true = m := if_neg hin
    rw [hset] at h
    exact h

/-- What marking cells keeps: the grid, and that every occupied cell of the map meets `P`. -/
structure Marks (m : GridMap F) (P : Int → Int → Prop) (n : GridMap F) : Prop where
  grid : SameGrid m n
  occupied : ∀ x y, n.cellAt x y = true → m.Inside x y → P x y

/-- Marking one more cell of the set. -/
theorem Marks.set {m n : GridMap F} {P : Int → Int → Prop} (h : Marks m P n) {x y : Int}
    (hP : P x y) : Marks m P (n.set x y true) := by
  refine ⟨h.grid.trans (set_sameGrid n x y true), fun x' y' hocc hin => ?_⟩
  rcases cellAt_set hocc with hold | ⟨rfl, rfl⟩
  · exact h.occupied x' y' hold hin
  · exact hP

/-- A loop whose rounds mark cells of the set marks cells of the set. -/
theorem Marks.foldl {α : Type} {m : GridMap F} {P : Int → Int → Prop}
    {f : GridMap F → α → GridMap F} {l : List α}
    (hstep : ∀ n, Marks m P n → ∀ a ∈ l, Marks m P (f n a)) {n : GridMap F}
    (h : Marks m P n) : Marks m P (l.foldl f n) :=
  List.foldlRecOn l f h fun n hn a ha => hstep n hn a ha

/-- The values of a loop from `lo` to `hi`. -/
theorem mem_span {lo hi k : Int} : k ∈ span lo hi ↔ lo ≤ k ∧ k ≤ hi := by
  unfold span
  simp only [List.mem_map, List.mem_range]
  constructor
  · rintro ⟨i, hi', rfl⟩
    omega
  · rintro ⟨hlo, hhi⟩
    exact ⟨(k - lo).toNat, by omega, by omega⟩

/-- After inflation an occupied cell was occupied before, or lies within the radius of a cell
that was. -/
theorem inflate_marks (m : GridMap F) (r : Int) :
    Marks m (fun x y => m.cellAt x y = true ∨ ∃ dx dy, -r ≤ dx ∧ dx ≤ r ∧ -r ≤ dy ∧ dy ≤ r ∧
      dx * dx + dy * dy ≤ r * r ∧ m.Inside (x - dx) (y - dy) ∧
        m.cellAt (x - dx) (y - dy) = true) (m.inflate r) := by
  unfold inflate
  split
  · exact ⟨SameGrid.refl m, fun x y h _ => Or.inl h⟩
  · refine Marks.foldl (fun n₁ hn₁ y hy => ?_) ⟨SameGrid.refl m, fun x y h _ => Or.inl h⟩
    refine Marks.foldl (fun n₂ hn₂ x hx => ?_) hn₁
    split
    · rename_i hocc
      refine Marks.foldl (fun n₃ hn₃ dy hdy => ?_) hn₂
      refine Marks.foldl (fun n₄ hn₄ dx hdx => ?_) hn₃
      split
      · rename_i hdist
        -- The marked cell is the offset of an occupied cell of the map as it was.
        rw [mem_span] at hx hy hdx hdy
        rw [hn₁.grid.width] at hx
        rw [hn₂.grid.width, List.getD_eq_getElem?_getD] at hocc
        have hin : m.Inside x y := ⟨hx.1, hy.1, by omega, by omega⟩
        refine hn₄.set (Or.inr ⟨dx, dy, hdx.1, hdx.2, hdy.1, hdy.2, hdist, ?_⟩)
        rw [Int.add_sub_cancel, Int.add_sub_cancel]
        refine ⟨hin, ?_⟩
        unfold cellAt
        rw [if_pos hin, List.getD_eq_getElem?_getD]
        cases hget : m.occ[(y * m.width + x).toNat]? with
        | none => rfl
        | some b => simpa [hget] using hocc
      · exact hn₄
    · exact hn₂

/-- The corridor map has the default grid, and its occupied cells lie on the border, in the wall
or in the block. -/
theorem makeCorridorDemo_marks :
    Marks ({} : GridMap F) (fun x y => x = 0 ∨ y = 0 ∨ x = 39 ∨ y = 19 ∨ x = 20 ∨
      y = 4 ∧ (x = 5 ∨ x = 6)) makeCorridorDemo := by
  -- Before the loops no cell is occupied.
  have hempty : Marks ({} : GridMap F) (fun x y => x = 0 ∨ y = 0 ∨ x = 39 ∨ y = 19 ∨ x = 20 ∨
      y = 4 ∧ (x = 5 ∨ x = 6)) { occ := List.replicate (40 * 20) false } := by
    refine ⟨⟨rfl, rfl, rfl, rfl, rfl⟩, fun x y hocc hin => ?_⟩
    obtain ⟨hx, hy, hxw, hyh⟩ := hin
    have hfree : (List.replicate (40 * 20) false).getD (y * 40 + x).toNat true = false := by
      have hlt : (y * 40 + x).toNat < 40 * 20 := by
        have hxw' : x < 40 := hxw
        have hyh' : y < 20 := hyh
        omega
      rw [List.getD_eq_getElem?_getD, List.getElem?_replicate, if_pos hlt]
      rfl
    unfold cellAt at hocc
    rw [if_pos ⟨hx, hy, hxw, hyh⟩] at hocc
    exact Bool.noConfusion (hfree.symm.trans hocc)
  -- The last drawing first: the two cells, the wall, the columns, the rows.
  unfold makeCorridorDemo
  dsimp only
  refine Marks.set (Marks.set ?_ (by omega)) (by omega)
  refine Marks.foldl (fun n hn y hy => ?_) ?_
  · split
    · exact hn
    · exact hn.set (by omega)
  refine Marks.foldl (fun n hn y hy => ?_) ?_
  · refine (hn.set (by omega)).set ?_
    have hwidth : n.width = 40 := hn.grid.width
    omega
  refine Marks.foldl (fun n hn x hx => ?_) hempty
  refine (hn.set (by omega)).set ?_
  have hheight : n.height = 20 := hn.grid.height
  omega

/-! ### The maps the robot draws -/

/-- Setting cells leaves the size alone. -/
theorem Drawn.shape {m : GridMap F} (h : Drawn m) :
    m.width = 40 ∧ m.height = 20 ∧ m.occ.length = 800 := by
  induction h with
  | blank => exact ⟨rfl, rfl, List.length_replicate⟩
  | @set m x y v _ ih =>
      obtain ⟨hwidth, hheight, hocc⟩ := ih
      unfold GridMap.set
      split
      · exact ⟨hwidth, hheight, by rw [List.length_set, hocc]⟩
      · exact ⟨hwidth, hheight, hocc⟩

/-- On a drawn map every stored cell can be asked for. -/
theorem Drawn.inRange {m : GridMap F} (h : Drawn m) : m.InRange := by
  obtain ⟨hwidth, hheight, hocc⟩ := h.shape
  have hcells : m.cells = m.occ.length := by
    rw [cells, hwidth, hheight, hocc]
    rfl
  refine ⟨by rw [hwidth, hheight, hocc]; rfl, fun x y hin => ?_, fun x y i hi => ?_⟩
  · obtain ⟨hx, hy, hxw, hyh⟩ := hin
    rw [hwidth] at hxw ⊢
    rw [hheight] at hyh
    omega
  · unfold index? at hi
    split at hi
    · obtain rfl := Option.some.inj hi
      refine ⟨rfl, ?_⟩
      rw [← hcells]
      exact Fin.is_lt _
    · cases hi

/-- A loop whose rounds draw leaves a drawn map. -/
theorem Drawn.foldl {α : Type} {f : GridMap F → α → GridMap F} {l : List α} {m : GridMap F}
    (h : Drawn m) (hstep : ∀ n, Drawn n → ∀ a, Drawn (f n a)) : Drawn (l.foldl f m) :=
  List.foldlRecOn l f h fun n hn a _ => hstep n hn a

/-- The demo map is drawn. -/
theorem makeCorridorDemo_drawn : Drawn (makeCorridorDemo : GridMap F) := by
  unfold makeCorridorDemo
  dsimp only
  refine Drawn.set _ _ _ (Drawn.set _ _ _ ?_)
  refine Drawn.foldl ?_ fun n hn y => ?_
  · refine Drawn.foldl ?_ fun n hn y => Drawn.set _ _ _ (Drawn.set _ _ _ hn)
    exact Drawn.foldl Drawn.blank fun n hn x => Drawn.set _ _ _ (Drawn.set _ _ _ hn)
  · split
    · exact hn
    · exact Drawn.set _ _ _ hn

/-- So is what inflation makes of it. -/
theorem Drawn.inflate {m : GridMap F} (h : Drawn m) (r : Int) : Drawn (m.inflate r) := by
  unfold GridMap.inflate
  split
  · exact h
  · refine Drawn.foldl h fun n₁ hn₁ y => Drawn.foldl hn₁ fun n₂ hn₂ x => ?_
    split
    · refine Drawn.foldl hn₂ fun n₃ hn₃ dy => Drawn.foldl hn₃ fun n₄ hn₄ dx => ?_
      split
      · exact Drawn.set _ _ _ hn₄
      · exact hn₄
    · exact hn₂

end GridMap

/-! ### The predecessors form a forest -/

/-- Following the predecessors from a cell takes `k` steps and ends. -/
inductive Depth {n : Nat} (came : Fin n → Option (Fin n)) : Nat → Fin n → Prop
  | root {c : Fin n} : came c = none → Depth came 0 c
  | step {k : Nat} {c p : Fin n} : came c = some p → Depth came k p → Depth came (k + 1) c

section Depth

variable {n : Nat} {came : Fin n → Option (Fin n)}

/-- A cell is as many links away from the start as there are, and no other number. -/
theorem Depth.unique {k : Nat} {c : Fin n} (h : Depth came k c) :
    ∀ {j : Nat}, Depth came j c → j = k := by
  induction h with
  | root hnone =>
      intro j hj
      cases hj with
      | root => rfl
      | step hsome _ => rw [hnone] at hsome; cases hsome
  | step hsome _ ih =>
      intro j hj
      cases hj with
      | root hnone => rw [hsome] at hnone; cases hnone
      | step hsome' hp =>
          rw [hsome] at hsome'
          obtain rfl := Option.some.inj hsome'
          rw [ih hp]

/-- Every smaller depth occurs on the way. -/
theorem Depth.exists_of_le {k : Nat} {c : Fin n} (h : Depth came k c) :
    ∀ j, j ≤ k → ∃ x, Depth came j x := by
  induction h with
  | root hnone =>
      intro j hj
      obtain rfl : j = 0 := by omega
      exact ⟨_, Depth.root hnone⟩
  | step hsome hp ih =>
      intro j hj
      rcases Nat.lt_or_eq_of_le hj with hlt | rfl
      · exact ih j (by omega)
      · exact ⟨_, Depth.step hsome hp⟩

/-- A walk visits no cell twice, so it is shorter than the number of cells. -/
theorem Depth.lt_cells {k : Nat} {c : Fin n} (h : Depth came k c) : k < n := by
  have hall : ∀ j : Fin (k + 1), ∃ x, Depth came j x := fun j => h.exists_of_le j (by omega)
  choose f hf using hall
  have hinj : Function.Injective f := by
    intro i j hij
    have hi := hf i
    rw [hij] at hi
    exact Fin.ext ((hf j).unique hi)
  have hcard := Fintype.card_le_of_injective f hinj
  rw [Fintype.card_fin, Fintype.card_fin] at hcard
  exact hcard

/-- Fuel beyond the depth makes no difference. -/
theorem Depth.walkBack_eq {k : Nat} {c : Fin n} (h : Depth came k c) :
    ∀ {f g : Nat}, k < f → k < g → walkBack came f c = walkBack came g c := by
  induction h with
  | root hnone =>
      intro f g hf hg
      obtain ⟨f, rfl⟩ : ∃ f', f = f' + 1 := ⟨f - 1, by omega⟩
      obtain ⟨g, rfl⟩ : ∃ g', g = g' + 1 := ⟨g - 1, by omega⟩
      simp [walkBack, hnone]
  | step hsome _ ih =>
      intro f g hf hg
      obtain ⟨f, rfl⟩ : ∃ f', f = f' + 1 := ⟨f - 1, by omega⟩
      obtain ⟨g, rfl⟩ : ∃ g', g = g' + 1 := ⟨g - 1, by omega⟩
      simp [walkBack, hsome, ih (f := f) (g := g) (by omega) (by omega)]

/-- The walk has one cell for each step of its depth, and the root. -/
theorem Depth.length_walkBack {k : Nat} {c : Fin n} (h : Depth came k c) :
    ∀ {f : Nat}, k < f → (walkBack came f c).length = k + 1 := by
  induction h with
  | root hnone =>
      intro f hf
      obtain ⟨f, rfl⟩ : ∃ f', f = f' + 1 := ⟨f - 1, by omega⟩
      simp [walkBack, hnone]
  | step hsome _ ih =>
      intro f hf
      obtain ⟨f, rfl⟩ : ∃ f', f = f' + 1 := ⟨f - 1, by omega⟩
      simp [walkBack, hsome, ih (f := f) (by omega)]

end Depth

/-- A predecessor never costs more, and every walk over predecessors ends. -/
structure SearchInv {n : Nat} (s : Search C n) : Prop where
  descends : ∀ c p, s.came c = some p → s.gscore p ≤ s.gscore c
  rooted : ∀ c, ∃ k, Depth s.came k c

/-- Giving `ni` the predecessor `cur` closes no cycle when `ni` costs more than `cur`: no cell
on the way from `cur` to its root is `ni`. -/
theorem depth_update {n : Nat} {s : Search C n} (hinv : SearchInv s) {ni cur : Fin n}
    (hlt : s.gscore cur < s.gscore ni) (c : Fin n) :
    ∃ k, Depth (Function.update s.came ni (some cur)) k c := by
  -- The links below `ni` do not lead through it, since the scores fall along them.
  have hbelow : ∀ {k : Nat} {c : Fin n}, Depth s.came k c → s.gscore c < s.gscore ni →
      Depth (Function.update s.came ni (some cur)) k c := by
    intro k c h
    induction h with
    | root hnone =>
        intro hc
        have hne : _ ≠ ni := fun he => lt_irrefl _ (he ▸ hc)
        exact Depth.root (by rw [Function.update_of_ne hne, hnone])
    | step hsome _ ih =>
        intro hc
        have hne : _ ≠ ni := fun he => lt_irrefl _ (he ▸ hc)
        exact Depth.step (by rw [Function.update_of_ne hne, hsome])
          (ih (lt_of_le_of_lt (hinv.descends _ _ hsome) hc))
  obtain ⟨kc, hcur⟩ := hinv.rooted cur
  have hni : Depth (Function.update s.came ni (some cur)) (kc + 1) ni :=
    Depth.step (Function.update_self ..) (hbelow hcur hlt)
  obtain ⟨k, hk⟩ := hinv.rooted c
  -- A way that led through `ni` goes on from `cur` now.
  induction hk with
  | root hnone =>
      rename_i c
      by_cases hc : c = ni
      · rw [hc]
        exact ⟨_, hni⟩
      · exact ⟨0, Depth.root (by rw [Function.update_of_ne hc, hnone])⟩
  | step hsome _ ih =>
      rename_i c p _
      by_cases hc : c = ni
      · rw [hc]
        exact ⟨_, hni⟩
      · obtain ⟨k, hk⟩ := ih
        exact ⟨k + 1, Depth.step (by rw [Function.update_of_ne hc, hsome]) hk⟩

/-- A search starts without predecessors. -/
theorem searchInv_start {n : Nat} (gscore : Fin n → C) (openSet : List (C × Fin n)) :
    SearchInv { came := fun _ => none, gscore := gscore, openSet := openSet } :=
  ⟨nofun, fun _ => ⟨0, Depth.root rfl⟩⟩

/-- Relaxing one neighbour keeps the invariant of the search. -/
theorem SearchInv.relax {map : GridMap F} {goal : Int × Int} {cur : Fin map.cells}
    {s : Search C map.cells} (hinv : SearchInv s) (d : Int × Int) :
    SearchInv (relax map goal cur s d) := by
  unfold Nav.relax
  dsimp only
  split
  · exact hinv
  rename_i ni _
  split
  · exact hinv
  split
  · exact hinv
  split
  · rename_i hlt
    -- A step never lowers the score.
    have hle : s.gscore cur ≤ s.gscore cur + stepCost d := CFloat.le_add _ _
    have hcur : s.gscore cur < s.gscore ni := lt_of_le_of_lt hle hlt
    refine ⟨fun c p hcame => ?_, depth_update hinv hcur⟩
    dsimp only at hcame ⊢
    by_cases hc : c = ni
    · subst hc
      rw [Function.update_self] at hcame
      obtain rfl := Option.some.inj hcame
      rw [Function.update_self, Function.update_of_ne (fun he => lt_irrefl _ (he ▸ hcur))]
      exact hle
    · rw [Function.update_of_ne hc] at hcame
      have hbefore := hinv.descends c p hcame
      rw [Function.update_of_ne hc]
      by_cases hp : p = ni
      · subst hp
        rw [Function.update_self]
        exact le_trans (le_of_lt hlt) hbefore
      · rw [Function.update_of_ne hp]
        exact hbefore
  · exact hinv

/-- So does the expansion of a cell, by its directions. -/
theorem SearchInv.expand {map : GridMap F} {goal : Int × Int} {cur : Fin map.cells}
    {s : Search C map.cells} (hinv : SearchInv s) : SearchInv (expand map goal cur s) := by
  unfold Nav.expand
  generalize dirs = ds
  induction ds generalizing s with
  | nil => exact hinv
  | cons d ds ih =>
      rw [List.foldl_cons]
      exact ih (hinv.relax d)

/-- **The walk back ends by itself.** From a search without cycles, the walk over the table that
the search returns is the same for every fuel of at least the number of cells, and it is not longer
than that. -/
theorem searchLoop_walkBack {map : GridMap F} {goal : Int × Int} {goalIdx : Fin map.cells}
    {s : Search C map.cells} (hinv : SearchInv s)
    {came : Fin map.cells → Option (Fin map.cells)}
    (h : searchLoop map goal goalIdx s = some came) (c : Fin map.cells) {fuel : Nat}
    (hfuel : map.cells ≤ fuel) :
    walkBack came fuel c = walkBack came map.cells c ∧
      (walkBack came fuel c).length ≤ map.cells := by
  have hrooted : ∀ c, ∃ k, Depth came k c := by
    fun_induction searchLoop map goal goalIdx s with
    | case1 s hnone => cases h
    | case2 =>
        obtain rfl := Option.some.inj h
        exact hinv.rooted
    | case3 _ _ _ _ _ _ ih =>
        exact ih (SearchInv.expand ⟨hinv.descends, hinv.rooted⟩) h
  obtain ⟨k, hk⟩ := hrooted c
  have hlt := hk.lt_cells
  refine ⟨hk.walkBack_eq (by omega) hlt, ?_⟩
  rw [hk.length_walkBack (by omega)]
  omega

/-! ### Indices of a path -/

/-- `advance_idx` goes forward, and stops at a waypoint. -/
theorem advanceIdx_bounds (path : List (F × F)) (idx : Nat) (x y : F) :
    idx ≤ advanceIdx path idx x y ∧
      (idx < path.length → advanceIdx path idx x y < path.length) := by
  fun_induction advanceIdx path idx x y with
  | case1 idx h p q d0 d1 hmove ih => exact ⟨by omega, fun _ => ih.2 h⟩
  | case2 idx h p q d0 d1 hstay => exact ⟨le_rfl, id⟩
  | case3 idx h => exact ⟨le_rfl, id⟩

/-- `pure_pursuit` keeps the index in range. -/
theorem purePursuit_idx {map : GridMap F} {x y yaw lookahead : F} {path : List (F × F)} {idx : Nat}
    (h : idx < path.length) :
    (purePursuit map x y yaw path idx lookahead).2.2 < path.length := by
  have hadvance := (advanceIdx_bounds path idx x y).2 h
  unfold purePursuit
  rw [if_neg (Nat.not_le.mpr h)]
  dsimp only
  repeat' split
  all_goals exact hadvance

/-- A path ends in the commanded goal. -/
theorem astar_cases (map : GridMap F) (sx sy gx gy : F) :
    astar C map sx sy gx gy = [] ∨ ∃ path, astar C map sx sy gx gy = path ++ [(gx, gy)] := by
  unfold astar
  dsimp only
  repeat' split
  all_goals first
    | exact Or.inl rfl
    | exact Or.inr ⟨_, rfl⟩

/-- A path that is found ends at the goal itself. -/
theorem astar_getLast? {map : GridMap F} {sx sy gx gy : F} (h : astar C map sx sy gx gy ≠ []) :
    (astar C map sx sy gx gy).getLast? = some (gx, gy) := by
  obtain ⟨path, hpath⟩ := (astar_cases map sx sy gx gy).resolve_left h
  rw [hpath, List.getLast?_concat]

/-! ### The shortest path -/

/-- A free cell snaps to itself. -/
theorem snapFree_of_free {map : GridMap F} {x y : Int} (h : map.cellAt x y = false) :
    snapFree map x y = some (x, y) := by
  simp [snapFree, h]

/-- A cell that is not occupied lies in the map, so it has an index. -/
theorem index?_of_free {map : GridMap F} {x y : Int} (h : map.cellAt x y = false) :
    ∃ i, map.index? x y = some i := ⟨_, dif_pos (GridMap.inside_of_cellAt h)⟩

/-- When the goal is the only entry of the queue, the search ends at once. -/
theorem searchLoop_goal (map : GridMap F) (goal : Int × Int) (goalIdx : Fin map.cells)
    (s : Search C map.cells) (cost : C) (h : s.openSet = [(cost, goalIdx)]) :
    searchLoop map goal goalIdx s = some s.came := by
  rw [searchLoop]
  split
  · rename_i hnone
    rw [h] at hnone
    cases hnone
  · rename_i c cur rest hsome
    rw [h] at hsome
    simp only [popTop, Option.some.injEq, Prod.mk.injEq] at hsome
    obtain ⟨⟨-, rfl⟩, -⟩ := hsome
    rw [if_pos rfl]

/-- A goal in the free cell of the start: the path is the goal. -/
theorem astar_sameCell {map : GridMap F} {sx sy gx gy : F} {x y : Int}
    (hstart : map.worldToCell sx sy = some (x, y)) (hgoal : map.worldToCell gx gy = some (x, y))
    (hfree : map.cellAt x y = false) : astar C map sx sy gx gy = [(gx, gy)] := by
  obtain ⟨i, hi⟩ := index?_of_free hfree
  unfold astar
  simp only [hstart, hgoal, snapFree_of_free hfree, hi]
  rw [searchLoop_goal _ _ _ _ _ rfl]
  -- The start has no predecessor, so the walk back is the one cell.
  have hroot : Depth (fun _ : Fin map.cells => none) 0 i := Depth.root rfl
  have hwalk : walkBack (fun _ : Fin map.cells => none) map.cells i = [i] :=
    hroot.walkBack_eq (g := 1) hroot.lt_cells Nat.one_pos
  simp [hwalk]

end BotCockpit.Sim.Nav
