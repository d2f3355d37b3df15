import BotCockpit.Proofs.Sim.Planner

/-!
# `BotCockpit.Proofs.Sim.Corridor`: the corridor map, cell by cell

`makeCorridorDemo_occupies` and `inflate_occupies` say exactly which cells the robot's map marks,
for every `double` type. On the inflated map every cell has a free one nearby (`plan_nearby`) and
the free cells hang together (`plan_joins`), so the planner finds a path between any two points of
the map (`plan_path`), walls included.
-/

set_option autoImplicit false

namespace BotCockpit.Sim.Nav

open BotCockpit.Lib

variable {F : Type} [CDouble F]

namespace GridMap

/-! ### What setting cells occupies -/

/-- `n` is the map `m` with the cells `P` occupied as well. -/
structure Occupies (m : GridMap F) (P : Int → Int → Prop) (n : GridMap F) : Prop where
  grid : SameGrid m n
  occupied : ∀ x y, n.cellAt x y = true ↔ m.cellAt x y = true ∨ P x y

/-- The same cells under another description. -/
theorem Occupies.congr {m n : GridMap F} {P Q : Int → Int → Prop} (h : Occupies m P n)
    (hiff : ∀ x y, P x y ↔ Q x y) : Occupies m Q n :=
  ⟨h.grid, fun x y => (h.occupied x y).trans (or_congr_right (hiff x y))⟩

/-- Two rounds of drawing occupy the cells of both. -/
theorem Occupies.trans {m n k : GridMap F} {P Q : Int → Int → Prop} (h₁ : Occupies m P n)
    (h₂ : Occupies n Q k) : Occupies m (fun x y => P x y ∨ Q x y) k := by
  refine ⟨h₁.grid.trans h₂.grid, fun x y => ?_⟩
  rw [h₂.occupied, h₁.occupied, or_assoc]

/-- Nothing is drawn. -/
theorem occupies_refl (m : GridMap F) : Occupies m (fun _ _ => False) m :=
  ⟨SameGrid.refl m, fun x y => by rw [or_false]⟩

/-- One cell is drawn. -/
theorem occupies_set (m : GridMap F) (x y : Int) :
    Occupies m (fun x' y' => x' = x ∧ y' = y) (m.set x y true) := by
  refine ⟨set_sameGrid m x y true, fun x' y' => ⟨cellAt_set, fun h => ?_⟩⟩
  by_cases hin : m.Inside x y
  · have hset : m.set x y true =
        { m with occ := m.occ.set (y * m.width + x).toNat true } := if_pos hin
    unfold cellAt at h ⊢
    by_cases hin' : m.Inside x' y'
    · have hin'' : (m.set x y true).Inside x' y' := ((set_sameGrid m x y true).inside _ _).mpr hin'
      rw [if_pos hin'] at h
      rw [if_pos hin'', hset]
      dsimp only
      rw [List.getD_eq_getElem?_getD, List.getElem?_set]
      split
      · split <;> rfl
      · rename_i hidx
        rcases h with h | ⟨rfl, rfl⟩
        · rwa [List.getD_eq_getElem?_getD] at h
        · exact absurd rfl hidx
    · have hin'' : ¬(m.set x y true).Inside x' y' := fun hi =>
        hin' (((set_sameGrid m x y true).inside _ _).mp hi)
      rw [if_neg hin'']
  · rw [set, if_neg hin]
    rcases h with h | ⟨rfl, rfl⟩
    · exact h
    · rw [cellAt, if_neg hin]

/-- A loop occupies what its passes occupy. -/
theorem Occupies.foldl {α : Type} {f : GridMap F → α → GridMap F} {P : α → Int → Int → Prop}
    {l : List α} {m : GridMap F}
    (hstep : ∀ n, SameGrid m n → ∀ a ∈ l, Occupies n (P a) (f n a)) :
    Occupies m (fun x y => ∃ a ∈ l, P a x y) (l.foldl f m) := by
  induction l generalizing m with
  | nil => exact (occupies_refl m).congr (by simp)
  | cons a l ih =>
      have hfirst := hstep m (SameGrid.refl m) a List.mem_cons_self
      have hrest := ih fun n hn b hb => hstep n (hfirst.grid.trans hn) b (List.mem_cons_of_mem _ hb)
      exact (hfirst.trans hrest).congr (by simp)

/-- A guarded pass. -/
theorem Occupies.ite {m n : GridMap F} {P : Int → Int → Prop} {c : Prop} [Decidable c]
    (h : Occupies m P n) : Occupies m (fun x y => c ∧ P x y) (if c then n else m) := by
  split
  · rename_i hc
    exact h.congr (by simp [hc])
  · rename_i hc
    exact (occupies_refl m).congr (by simp [hc])

/-! ### The corridor map -/

/-- The walls of the corridor map: the border, the wall with its gap, and the block. -/
def Wall (x y : Int) : Prop :=
  x = 0 ∨ y = 0 ∨ x = 39 ∨ y = 19 ∨ x = 20 ∧ 2 ≤ y ∧ y ≤ 17 ∧ ¬(7 ≤ y ∧ y ≤ 11) ∨
    y = 4 ∧ (x = 5 ∨ x = 6)

instance (x y : Int) : Decidable (Wall x y) := by
  unfold Wall
  infer_instance

/-- The map without walls. -/
def blank : GridMap F := { occ := List.replicate (40 * 20) false }

/-- Before anything is drawn every cell is free. -/
theorem blank_free {x y : Int} (h : (blank : GridMap F).Inside x y) :
    (blank : GridMap F).cellAt x y = false := by
  have hlt : (y * 40 + x).toNat < 40 * 20 := by
    obtain ⟨hx, hy, hxw, hyh⟩ := h
    have hxw' : x < 40 := hxw
    have hyh' : y < 20 := hyh
    omega
  rw [cellAt, if_pos h]
  show (List.replicate (40 * 20) false).getD (y * 40 + x).toNat true = false
  rw [List.getD_eq_getElem?_getD, List.getElem?_replicate, if_pos hlt]
  rfl

section Loops

variable {m : GridMap F} (hm : SameGrid (blank : GridMap F) m)

include hm

/-- Drawing keeps the 20 rows. -/
theorem height_of_blank {n : GridMap F} (hn : SameGrid m n) : n.height = 20 :=
  hn.height.trans hm.height

/-- Drawing keeps the 40 columns. -/
theorem width_of_blank {n : GridMap F} (hn : SameGrid m n) : n.width = 40 :=
  hn.width.trans hm.width

/-- The first loop draws the lower and the upper border. -/
theorem rows_occupies :
    Occupies m (fun x y => ∃ a ∈ span 0 39, x = a ∧ y = 0 ∨ x = a ∧ y = 19)
      ((span 0 (m.width - 1)).foldl
        (fun m x => (m.set x 0 true).set x (m.height - 1) true) m) := by
  rw [width_of_blank hm (SameGrid.refl m)]
  refine Occupies.foldl fun n hn x _ => ?_
  rw [height_of_blank hm hn]
  exact (occupies_set n x 0).trans (occupies_set _ x 19)

/-- The second loop draws the left and the right border. -/
theorem columns_occupies :
    Occupies m (fun x y => ∃ a ∈ span 0 19, x = 0 ∧ y = a ∨ x = 39 ∧ y = a)
      ((span 0 (m.height - 1)).foldl
        (fun m y => (m.set 0 y true).set (m.width - 1) y true) m) := by
  rw [height_of_blank hm (SameGrid.refl m)]
  refine Occupies.foldl fun n hn y _ => ?_
  rw [width_of_blank hm hn]
  exact (occupies_set n 0 y).trans (occupies_set _ 39 y)

/-- The third loop draws the wall in the middle with its gap. -/
theorem wall_occupies :
    Occupies m (fun x y => ∃ a ∈ span 2 17, ¬(7 ≤ a ∧ a ≤ 11) ∧ x = 20 ∧ y = a)
      ((span 2 (m.height - 3)).foldl
        (fun m y => if 7 ≤ y ∧ y ≤ 11 then m else m.set 20 y true) m) := by
  rw [height_of_blank hm (SameGrid.refl m)]
  refine Occupies.foldl fun n _ y _ => ?_
  rw [← ite_not]
  exact (occupies_set n 20 y).ite

end Loops

/-- The map is the blank one with the walls drawn into it. -/
theorem makeCorridorDemo_occupies :
    ∃ P : Int → Int → Prop, Occupies (blank : GridMap F) P makeCorridorDemo ∧
      ∀ x y, (blank : GridMap F).Inside x y → (P x y ↔ Wall x y) := by
  have hrows := rows_occupies (SameGrid.refl (blank : GridMap F))
  have hcolumns := hrows.trans (columns_occupies hrows.grid)
  have hwall := hcolumns.trans (wall_occupies hcolumns.grid)
  refine ⟨_, (hwall.trans (occupies_set _ 5 4)).trans (occupies_set _ 6 4), ?_⟩
  intro x y ⟨hx, hy, hxw, hyh⟩
  have hxw : x < 40 := hxw
  have hyh : y < 20 := hyh
  simp only [mem_span, Wall]
  constructor
  · rintro ((((⟨a, ha, h⟩ | ⟨a, ha, h⟩) | ⟨a, ha, h⟩) | h) | h) <;> omega
  · rintro (h | h | h | h | h | h)
    · exact Or.inl (Or.inl (Or.inl (Or.inr ⟨y, by omega⟩)))
    · exact Or.inl (Or.inl (Or.inl (Or.inl ⟨x, by omega⟩)))
    · exact Or.inl (Or.inl (Or.inl (Or.inr ⟨y, by omega⟩)))
    · exact Or.inl (Or.inl (Or.inl (Or.inl ⟨x, by omega⟩)))
    · exact Or.inl (Or.inl (Or.inr ⟨y, by omega⟩))
    · omega

/-- A cell of the corridor map is occupied exactly when it belongs to a wall. -/
theorem makeCorridorDemo_cellAt {x y : Int} (h : (makeCorridorDemo : GridMap F).Inside x y) :
    (makeCorridorDemo : GridMap F).cellAt x y = true ↔ Wall x y := by
  obtain ⟨P, hocc, hP⟩ := makeCorridorDemo_occupies (F := F)
  have hin : (blank : GridMap F).Inside x y := (hocc.grid.inside x y).mp h
  rw [hocc.occupied, blank_free hin, hP x y hin]
  simp

/-- The scanned copy of the cells. An index of a scanned cell is in range, so the default of the
access is unused. -/
theorem source_iff {m : GridMap F} (hrange : m.InRange) {x y : Int} (hin : m.Inside x y) :
    m.occ.getD (y * m.width + x).toNat false = true ↔ m.cellAt x y = true := by
  obtain ⟨-, hlt⟩ := hrange.cell x y hin
  simp only [cellAt, if_pos hin, List.getD_eq_getElem?_getD, List.getElem?_eq_getElem hlt,
    Option.getD_some]

/-- Inflation occupies the cells within the radius of an occupied one. -/
theorem inflate_occupies {m : GridMap F} (hrange : m.InRange) {r : Int} (hr : 0 < r) :
    Occupies m (fun x y => ∃ dx dy, -r ≤ dx ∧ dx ≤ r ∧ -r ≤ dy ∧ dy ≤ r ∧
      dx * dx + dy * dy ≤ r * r ∧ m.Inside (x - dx) (y - dy) ∧
        m.cellAt (x - dx) (y - dy) = true) (m.inflate r) := by
  have hloops : Occupies m (fun x' y' => ∃ y ∈ span 0 (m.height - 1), ∃ x ∈ span 0 (m.width - 1),
      m.occ.getD (y * m.width + x).toNat false = true ∧ ∃ dy ∈ span (-r) r, ∃ dx ∈ span (-r) r,
        dx * dx + dy * dy ≤ r * r ∧ x' = x + dx ∧ y' = y + dy) (m.inflate r) := by
    unfold inflate
    rw [if_neg (by omega)]
    refine Occupies.foldl fun n₁ hn₁ y _ => ?_
    rw [hn₁.width]
    refine Occupies.foldl fun n₂ hn₂ x _ => ?_
    rw [(hn₁.trans hn₂).width]
    refine Occupies.ite (Occupies.foldl fun n₃ _ dy _ => Occupies.foldl fun n₄ _ dx _ => ?_)
    exact (occupies_set n₄ (x + dx) (y + dy)).ite
  refine hloops.congr fun x' y' => ?_
  simp only [mem_span]
  constructor
  · rintro ⟨y, hy, x, hx, hocc, dy, hdy, dx, hdx, hdist, rfl, rfl⟩
    have hin : m.Inside x y := ⟨hx.1, hy.1, by omega, by omega⟩
    refine ⟨dx, dy, hdx.1, hdx.2, hdy.1, hdy.2, hdist, ?_⟩
    rw [Int.add_sub_cancel, Int.add_sub_cancel]
    exact ⟨hin, (source_iff hrange hin).mp hocc⟩
  · rintro ⟨dx, dy, hx, hx', hy, hy', hdist, hin, hocc⟩
    have hocc' := (source_iff hrange hin).mpr hocc
    obtain ⟨h₁, h₂, h₃, h₄⟩ := hin
    exact ⟨y' - dy, by omega, x' - dx, by omega, hocc', dy, by omega, dx, by omega, hdist, by omega,
      by omega⟩

end GridMap

/-! ### The map the robot plans on -/

open GridMap (Wall)

/-- The map of a goto. -/
abbrev plan (F : Type) [CDouble F] : GridMap F := GridMap.makeCorridorDemo.inflate 1

/-- The cells of the corridor that are at least one cell away from every wall. -/
def Clear (x y : Int) : Prop :=
  2 ≤ x ∧ x ≤ 37 ∧ 2 ≤ y ∧ y ≤ 17 ∧ ¬(19 ≤ x ∧ x ≤ 21 ∧ (y ≤ 6 ∨ 12 ≤ y)) ∧
    ¬(x = 20 ∧ (y = 7 ∨ y = 11)) ∧ ¬(y = 4 ∧ 4 ≤ x ∧ x ≤ 7) ∧
    ¬((y = 3 ∨ y = 5) ∧ 5 ≤ x ∧ x ≤ 6)

instance (x y : Int) : Decidable (Clear x y) := by
  unfold Clear
  infer_instance

/-- A cell is clear when neither it nor one of its four neighbours is wall. -/
theorem clear_iff {x y : Int} (hx : 0 ≤ x ∧ x ≤ 39) (hy : 0 ≤ y ∧ y ≤ 19) :
    Clear x y ↔
      ¬(Wall x y ∨ Wall (x - 1) y ∨ Wall (x + 1) y ∨ Wall x (y - 1) ∨ Wall x (y + 1)) := by
  have hall : ∀ y ∈ span 0 19, ∀ x ∈ span 0 39, Clear x y ↔
      ¬(Wall x y ∨ Wall (x - 1) y ∨ Wall (x + 1) y ∨ Wall x (y - 1) ∨ Wall x (y + 1)) := by
    decide +kernel
  exact hall y (GridMap.mem_span.mpr hy) x (GridMap.mem_span.mpr hx)

/-- The cells of the map: 40 columns and 20 rows. -/
theorem inside_makeCorridorDemo {x y : Int} :
    (GridMap.makeCorridorDemo : GridMap F).Inside x y ↔ (0 ≤ x ∧ x ≤ 39) ∧ 0 ≤ y ∧ y ≤ 19 := by
  have hgrid := (GridMap.makeCorridorDemo_marks (F := F)).grid
  rw [hgrid.inside]
  show (0 ≤ x ∧ 0 ≤ y ∧ x < 40 ∧ y < 20) ↔ _
  omega

/-- Inflation by one cell goes one step in each of the four directions. -/
theorem plan_cellAt {x y : Int} (hx : 0 ≤ x ∧ x ≤ 39) (hy : 0 ≤ y ∧ y ≤ 19) :
    (plan F).cellAt x y = true ↔
      Wall x y ∨ Wall (x - 1) y ∨ Wall (x + 1) y ∨ Wall x (y - 1) ∨ Wall x (y + 1) := by
  have hocc := GridMap.inflate_occupies (GridMap.makeCorridorDemo_drawn (F := F)).inRange
    (show (0 : Int) < 1 by omega)
  rw [hocc.occupied, GridMap.makeCorridorDemo_cellAt (inside_makeCorridorDemo.mpr ⟨hx, hy⟩)]
  constructor
  · rintro (h | ⟨dx, dy, hdx, hdx', hdy, hdy', hdist, hin, hwall⟩)
    · exact Or.inl h
    · rw [GridMap.makeCorridorDemo_cellAt hin] at hwall
      -- The nine offsets; the four diagonal ones are further away than one.
      obtain rfl | rfl | rfl : dx = -1 ∨ dx = 0 ∨ dx = 1 := by omega
      all_goals obtain rfl | rfl | rfl : dy = -1 ∨ dy = 0 ∨ dy = 1 := by omega
      all_goals first
        | exact absurd hdist (by decide)
        | simp only [Int.sub_neg, Int.sub_zero] at hwall
          simp only [hwall, true_or, or_true]
  · intro h
    by_cases hwall : Wall x y
    · exact Or.inl hwall
    · -- A cell that is no wall lies off the border, so its neighbours are in the map.
      obtain ⟨hx', hy'⟩ : (1 ≤ x ∧ x ≤ 38) ∧ 1 ≤ y ∧ y ≤ 18 := by
        unfold Wall at hwall
        omega
      refine Or.inr ?_
      have hstep : ∀ dx dy : Int, -1 ≤ dx → dx ≤ 1 → -1 ≤ dy → dy ≤ 1 →
          dx * dx + dy * dy ≤ 1 * 1 → Wall (x - dx) (y - dy) →
          ∃ dx dy : Int, -1 ≤ dx ∧ dx ≤ 1 ∧ -1 ≤ dy ∧ dy ≤ 1 ∧ dx * dx + dy * dy ≤ 1 * 1 ∧
            (GridMap.makeCorridorDemo : GridMap F).Inside (x - dx) (y - dy) ∧
              (GridMap.makeCorridorDemo : GridMap F).cellAt (x - dx) (y - dy) = true := by
        intro dx dy h₁ h₂ h₃ h₄ hdist hw
        have hin : (GridMap.makeCorridorDemo : GridMap F).Inside (x - dx) (y - dy) :=
          inside_makeCorridorDemo.mpr (by omega)
        exact ⟨dx, dy, h₁, h₂, h₃, h₄, hdist, hin, (GridMap.makeCorridorDemo_cellAt hin).mpr hw⟩
      -- The offset of each neighbour.
      rcases h with h | h | h | h | h
      · exact absurd h hwall
      · exact hstep 1 0 (by decide) (by decide) (by decide) (by decide) (by decide)
          (by simpa using h)
      · exact hstep (-1) 0 (by decide) (by decide) (by decide) (by decide) (by decide)
          (by simpa using h)
      · exact hstep 0 1 (by decide) (by decide) (by decide) (by decide) (by decide)
          (by simpa using h)
      · exact hstep 0 (-1) (by decide) (by decide) (by decide) (by decide) (by decide)
          (by simpa using h)

/-- Walls and inflation leave the grid as it is. -/
theorem plan_grid : GridMap.SameGrid ({} : GridMap F) (plan F) :=
  GridMap.makeCorridorDemo_marks.grid.trans (GridMap.inflate_marks GridMap.makeCorridorDemo 1).grid

/-- The inflated map has the same cells. -/
theorem inside_plan {x y : Int} :
    (plan F).Inside x y ↔ (0 ≤ x ∧ x ≤ 39) ∧ 0 ≤ y ∧ y ≤ 19 := by
  rw [plan_grid.inside]
  show (0 ≤ x ∧ 0 ≤ y ∧ x < 40 ∧ y < 20) ↔ _
  omega

/-- The free cells of the inflated map. -/
theorem free_plan {c : Int × Int} : Free (plan F) c ↔ Clear c.1 c.2 := by
  by_cases hin : (plan F).Inside c.1 c.2
  · obtain ⟨hx, hy⟩ := inside_plan.mp hin
    rw [clear_iff hx hy, ← plan_cellAt (F := F) hx hy, Bool.not_eq_true]
    rfl
  · refine iff_of_false (fun hfree => hin hfree.inside) fun hclear => hin (inside_plan.mpr ?_)
    unfold Clear at hclear
    omega

/-! ### The free cells hang together -/

/-- A step up, down, left or right. -/
def Beside (c c' : Int × Int) : Prop :=
  c'.1 = c.1 ∧ (c'.2 - c.2).natAbs = 1 ∨ c'.2 = c.2 ∧ (c'.1 - c.1).natAbs = 1

instance (c c' : Int × Int) : Decidable (Beside c c') := by
  unfold Beside
  infer_instance

/-- Being beside each other is symmetric. -/
theorem Beside.symm {c c' : Int × Int} (h : Beside c c') : Beside c' c := by
  unfold Beside at *
  omega

/-- A free cell beside another is one step away. -/
theorem Beside.steps {map : GridMap F} {c c' : Int × Int} (h : Beside c c') (hfree : Free map c') :
    Steps map c c' := by
  unfold Beside at h
  refine ⟨⟨by omega, by omega, ?_⟩, hfree, fun h₁ h₂ => by omega⟩
  rintro rfl
  omega

/-- The cell in the gap's row where all ways meet. -/
def hub : Int × Int := (2, 9)

/-- The way to the hub: to the row of the gap, around the block, and along the row. -/
def toHub (c : Int × Int) : Int × Int :=
  if c.2 = 9 ∨ c = (5, 2) ∨ c = (6, 2) ∨ c = (4, 3) then (c.1 - 1, c.2)
  else if c = (7, 3) then (8, 3)
  else if 9 < c.2 then (c.1, c.2 - 1)
  else (c.1, c.2 + 1)

/-- A bound on the length of that way. -/
def farFromHub (c : Int × Int) : Nat :=
  100 * (c.2 - 9).natAbs +
    if c.2 = 9 then c.1.natAbs else if c.2 ≤ 3 ∧ c.1 ≤ 7 then (8 - (c.1 - 7).natAbs) else 0

/-- From a clear cell the way to the hub goes over a clear cell that is nearer. -/
theorem toHub_nearer {c : Int × Int} (hclear : Clear c.1 c.2) (hne : c ≠ hub) :
    Clear (toHub c).1 (toHub c).2 ∧ Beside c (toHub c) ∧ farFromHub (toHub c) < farFromHub c := by
  have hall : ∀ y ∈ span 0 19, ∀ x ∈ span 0 39, Clear x y → (x, y) ≠ hub →
      Clear (toHub (x, y)).1 (toHub (x, y)).2 ∧ Beside (x, y) (toHub (x, y)) ∧
        farFromHub (toHub (x, y)) < farFromHub (x, y) := by
    decide +kernel
  obtain ⟨x, y⟩ := c
  have hin : (0 ≤ x ∧ x ≤ 39) ∧ 0 ≤ y ∧ y ≤ 19 := by
    unfold Clear at hclear
    omega
  exact hall y (GridMap.mem_span.mpr hin.2) x (GridMap.mem_span.mpr hin.1) hclear hne

/-- There is a way to the hub and back. -/
theorem reaches_hub {c : Int × Int} (hfree : Free (plan F) c) :
    Relation.ReflTransGen (Steps (plan F)) c hub ∧
    Relation.ReflTransGen (Steps (plan F)) hub c := by
  -- By induction on the distance.
  induction hn : farFromHub c using Nat.strong_induction_on generalizing c with
  | _ n ih =>
      by_cases hhub : c = hub
      · rw [hhub]
        exact ⟨Relation.ReflTransGen.refl, Relation.ReflTransGen.refl⟩
      · obtain ⟨hclear, hbeside, hlt⟩ := toHub_nearer (free_plan.mp hfree) hhub
        have hnext : Free (plan F) (toHub c) := free_plan.mpr hclear
        obtain ⟨hto, hback⟩ := ih _ (hn ▸ hlt) hnext rfl
        exact ⟨Relation.ReflTransGen.head (hbeside.steps hnext) hto,
          hback.tail (hbeside.symm.steps hfree)⟩

/-- **Any two free cells are joined.** -/
theorem plan_joins {c d : Int × Int} (hc : Free (plan F) c) (hd : Free (plan F) d) :
    ∃ cells, Joins (plan F) c d cells := by
  obtain ⟨l, hchain, hlast⟩ := List.exists_isChain_cons_of_relationReflTransGen
    ((reaches_hub hc).1.trans (reaches_hub hd).2)
  exact ⟨c :: l, rfl, by rw [List.getLast?_eq_some_getLast (List.cons_ne_nil c l), hlast],
    free_of_steps hc hchain, hchain⟩

/-- Every cell of the map has a free one nearby. -/
theorem plan_nearby {c : Int × Int} (h : (plan F).Inside c.1 c.2) : FreeNearby (plan F) c := by
  obtain ⟨hx, hy⟩ := inside_plan.mp h
  -- A column beside the wall, and a row above the block.
  obtain ⟨x, hx'⟩ : ∃ x : Int, (x - c.1).natAbs ≤ 6 ∧ 2 ≤ x ∧ x ≤ 37 ∧ ¬(19 ≤ x ∧ x ≤ 21) := by
    by_cases hwall : 19 ≤ c.1 ∧ c.1 ≤ 21
    · exact ⟨18, by omega⟩
    · exact ⟨max 2 (min c.1 37), by omega⟩
  obtain ⟨y, hy'⟩ : ∃ y : Int, (y - c.2).natAbs ≤ 6 ∧ 2 ≤ y ∧ y ≤ 17 ∧ ¬(3 ≤ y ∧ y ≤ 5) := by
    by_cases hblock : 3 ≤ c.2 ∧ c.2 ≤ 5
    · exact ⟨6, by omega⟩
    · exact ⟨max 2 (min c.2 17), by omega⟩
  refine ⟨(x, y), hx'.1, hy'.1, free_plan.mpr ?_⟩
  show Clear x y
  unfold Clear
  omega

/-- Every point of the map has a free cell to snap to. -/
theorem snapped_plan {x y : F} (h : (plan F).worldToCell x y ≠ none) :
    ∃ c, snapped (plan F) x y = some c := by
  rcases snapped_cases (plan F) x y with hnone | ⟨c, hcell, hlost⟩ | hsnap
  · exact absurd hnone h
  · refine absurd (plan_nearby ?_) hlost
    unfold GridMap.worldToCell at hcell
    dsimp only at hcell
    split at hcell
    · rename_i hin
      obtain rfl := Option.some.inj hcell
      exact hin
    · cases hcell
  · exact hsnap

/-- **The planner finds a path between two points exactly when both lie in the map.** -/
theorem plan_path {C : Type} [CFloat C] (hfin : FiniteSteps C) (sx sy gx gy : F) :
    astar C (plan F) sx sy gx gy ≠ [] ↔
      (plan F).worldToCell sx sy ≠ none ∧ (plan F).worldToCell gx gy ≠ none := by
  constructor
  · intro h
    obtain ⟨s, g, hs, hg⟩ := astar_snapped h
    unfold snapped at hs hg
    constructor
    · intro hnone
      rw [hnone] at hs
      cases hs
    · intro hnone
      rw [hnone] at hg
      cases hg
  · rintro ⟨hs, hg⟩
    obtain ⟨s, hs⟩ := snapped_plan hs
    obtain ⟨g, hg⟩ := snapped_plan hg
    obtain ⟨cells, hjoins⟩ := plan_joins (snapped_free hs) (snapped_free hg)
    exact astar_of_joins hfin hs hg hjoins

end BotCockpit.Sim.Nav
