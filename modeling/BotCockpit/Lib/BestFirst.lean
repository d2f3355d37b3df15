import Mathlib.Algebra.Order.Monoid.Canonical.Defs
import Mathlib.Data.Fintype.Card
import Mathlib.Data.List.Chain
import Mathlib.Order.BoundedOrder.Basic

/-!
# `BotCockpit.Lib.BestFirst`: best-first search that opens vertices again

A search over a weighted graph keeps for every vertex the score of the best path found so far and
the vertex it came from, and a queue of vertices under their score plus an estimate of the rest. A
pass takes an entry with the smallest key and relaxes its edges; a vertex whose score falls is
queued again, and the old entries stay behind. There is no set of closed vertices.

`Inv` is the loop invariant. Every reached vertex is either queued under its own key or has its
edges relaxed, and the goal, which is never expanded, is queued once it is reached. From it follow

* `Inv.exists_trail`: the `came` table leads from a reached vertex back to the start, along a path
  without repetitions that costs no more than the score;
* `Inv.score_goal_le`: when the goal is at the top of the queue, no path to it is cheaper, if the
  estimates are `Consistent`;
* `Inv.no_path`: when the queue is empty, there is no path to the goal.

Scores are in an ordered monoid with a least element `0` and a greatest element `⊤` that stands
for a vertex not reached.

`Spread` is the part of the invariant that is about which vertices are reached, and needs of the
scores only that a finite one stays finite along an edge. That holds of rounded scores too, and it
is enough for `Spread.no_path`.
-/

set_option autoImplicit false

namespace BotCockpit.Lib.BestFirst

/-- The tables of a search: where a vertex was reached from, its score, and the queue. -/
structure Tables (V K : Type) where
  came : V → Option V
  score : V → K
  queue : List (K × V)

/-- A weighted graph with a start, a goal and an estimate of the distance to the goal. -/
structure Problem (V K : Type) where
  edges : V → List V
  weight : V → V → K
  estimate : V → K
  start : V
  goal : V

section Search

variable {V K : Type} [DecidableEq V] [Add K] [LT K] [DecidableLT K]

/-- One edge of the expanded vertex `u`: the end of the edge is improved, or left alone. -/
def Problem.relax (p : Problem V K) (u : V) (t : Tables V K) (v : V) : Tables V K :=
  if t.score u + p.weight u v < t.score v then
    { came := Function.update t.came v (some u)
      score := Function.update t.score v (t.score u + p.weight u v)
      queue := (t.score u + p.weight u v + p.estimate v, v) :: t.queue }
  else t

/-- All edges of the expanded vertex. -/
def Problem.expand (p : Problem V K) (u : V) (t : Tables V K) : Tables V K :=
  (p.edges u).foldl (p.relax u) t

/-- The tables before the first pass. -/
def Problem.initial [Zero K] [Top K] (p : Problem V K) (key : K) : Tables V K where
  came := fun _ => none
  score := Function.update (fun _ => ⊤) p.start 0
  queue := [(key, p.start)]

end Search

/-- The cost of a path, from its first vertex on. -/
def pathCost {V K : Type} [Zero K] [Add K] (weight : V → V → K) : List V → K
  | [] => 0
  | [_] => 0
  | u :: v :: l => weight u v + pathCost weight (v :: l)

/-- Every vertex of the list is joined to the next one by an edge. -/
def Problem.IsPath {V K : Type} (p : Problem V K) (l : List V) : Prop :=
  l.IsChain fun u v => v ∈ p.edges u

/-- An entry with a smallest key is taken out of the queue. -/
structure Pops {V K : Type} [LE K] (queue : List (K × V)) (top : K × V) (rest : List (K × V)) :
    Prop where
  perm : queue.Perm (top :: rest)
  le : ∀ e ∈ queue, top.1 ≤ e.1

/-- The vertices from the start to a vertex, as the `came` table has them. -/
inductive Trail {V : Type} (came : V → Option V) : V → List V → Prop
  | root {v : V} : came v = none → Trail came v [v]
  | step {u v : V} {l : List V} : came v = some u → Trail came u l → Trail came v (l ++ [v])

/-- A trail has its end in it. -/
theorem Trail.ne_nil {V : Type} {came : V → Option V} {v : V} {l : List V} (h : Trail came v l) :
    l ≠ [] := by
  cases h <;> simp

/-- It ends where it leads to. -/
theorem Trail.getLast? {V : Type} {came : V → Option V} {v : V} {l : List V}
    (h : Trail came v l) : l.getLast? = some v := by
  cases h <;> simp

/-- One step more costs the weight of that step. -/
theorem pathCost_append_singleton {V K : Type} [AddMonoid K] (weight : V → V → K) {l : List V}
    {u : V} (hu : l.getLast? = some u) (v : V) :
    pathCost weight (l ++ [v]) = pathCost weight l + weight u v := by
  induction l with
  | nil => cases hu
  | cons a l ih =>
      cases l with
      | nil =>
          rw [List.getLast?_singleton, Option.some.injEq] at hu
          simp [pathCost, hu]
      | cons b l =>
          rw [List.getLast?_cons_cons] at hu
          have hstep := ih hu
          rw [List.cons_append] at hstep
          rw [List.cons_append, List.cons_append, pathCost, pathCost, hstep, add_assoc]

/-- What an improvement does to the scores. -/
theorem score_update_le {V K : Type} [DecidableEq V] [LinearOrder K] {t : Tables V K} {v : V}
    {k : K} (hlt : k < t.score v) (x : V) : Function.update t.score v k x ≤ t.score x := by
  by_cases hx : x = v
  · rw [hx, Function.update_self]
    exact hlt.le
  · rw [Function.update_of_ne hx]

section Theory

variable {V K : Type} [DecidableEq V] [AddCommMonoid K] [LinearOrder K] [IsOrderedAddMonoid K]
  [CanonicallyOrderedAdd K] [OrderTop K] {p : Problem V K}

/-- Every edge costs something, and a finite path stays finite along it. -/
structure Positive (p : Problem V K) : Prop where
  lt_add : ∀ {u v}, v ∈ p.edges u → ∀ {a : K}, a ≠ ⊤ → a < a + p.weight u v
  add_ne_top : ∀ {u v}, v ∈ p.edges u → ∀ {a : K}, a ≠ ⊤ → a + p.weight u v ≠ ⊤

/-- The estimate of the goal is zero, and along an edge an estimate falls by at most the weight. -/
structure Consistent (p : Problem V K) : Prop where
  goal : p.estimate p.goal = 0
  le_add : ∀ {u v}, v ∈ p.edges u → p.estimate u ≤ p.weight u v + p.estimate v

/-- **The loop invariant**, while the edges in `due u` of a vertex `u` are still to be relaxed. -/
structure Inv (p : Problem V K) (due : V → List V) (t : Tables V K) : Prop where
  start : t.score p.start = 0 ∧ t.came p.start = none
  came : ∀ {u v}, t.came v = some u →
    v ∈ p.edges u ∧ t.score u + p.weight u v ≤ t.score v ∧ t.score v ≠ ⊤
  reached : ∀ {v}, t.score v ≠ ⊤ → v = p.start ∨ ∃ u, t.came v = some u
  queued : ∀ {f v}, (f, v) ∈ t.queue → t.score v + p.estimate v ≤ f ∧ t.score v ≠ ⊤
  settled : ∀ {u}, t.score u ≠ ⊤ →
    (t.score u + p.estimate u, u) ∈ t.queue ∨
      u ≠ p.goal ∧ ∀ v ∈ p.edges u, v ∈ due u ∨ t.score v ≤ t.score u + p.weight u v

/-! ### The invariant holds at the start -/

omit [IsOrderedAddMonoid K] [CanonicallyOrderedAdd K] in
/-- The invariant holds with the start in the queue. -/
theorem inv_initial (p : Problem V K) (hne : (0 : K) ≠ ⊤) :
    Inv p (fun _ => []) (p.initial (p.estimate p.start)) := by
  have hzero : (p.initial (p.estimate p.start)).score p.start = 0 := by
    simp [Problem.initial]
  have hreached : ∀ v, (p.initial (p.estimate p.start)).score v ≠ ⊤ → v = p.start := by
    intro v hv
    by_contra hne
    refine hv ?_
    simp [Problem.initial, hne]
  refine ⟨⟨hzero, rfl⟩, (fun h => by cases h), fun h => Or.inl (hreached _ h), ?_, ?_⟩
  · intro f v hmem
    obtain ⟨rfl, rfl⟩ := Prod.mk.inj (List.mem_singleton.mp hmem)
    rw [hzero, zero_add]
    exact ⟨le_refl _, hne⟩
  · intro u hu
    obtain rfl := hreached u hu
    rw [hzero, zero_add]
    exact Or.inl List.mem_cons_self

/-! ### A pass keeps the invariant -/

omit [DecidableEq V] [IsOrderedAddMonoid K] in
/-- A vertex is improved only along an edge from a reached vertex, never back to that vertex and
never back to the start. -/
theorem Inv.improved {due : V → List V} {t : Tables V K} (hinv : Inv p due t)
    (hpos : Positive p) {u v : V} (hv : v ∈ p.edges u)
    (hlt : t.score u + p.weight u v < t.score v) :
    t.score u ≠ ⊤ ∧ t.score u + p.weight u v ≠ ⊤ ∧ v ≠ u ∧ v ≠ p.start := by
  have hsum : t.score u + p.weight u v ≠ ⊤ := (hlt.trans_le le_top).ne
  have hu : t.score u ≠ ⊤ := by
    intro htop
    have hle : t.score u ≤ t.score u + p.weight u v := le_self_add
    rw [htop] at hle hsum
    exact hsum (top_le_iff.mp hle)
  refine ⟨hu, hsum, ?_, ?_⟩
  · rintro rfl
    exact lt_irrefl _ (hlt.trans (hpos.lt_add hv hu))
  · rintro rfl
    rw [hinv.start.1] at hlt
    exact not_lt_zero hlt

/-- Relaxing an edge that is due. -/
theorem Inv.relax {due : V → List V} {t : Tables V K} (hpos : Positive p) {u v : V}
    {es : List V} (hinv : Inv p (Function.update due u (v :: es)) t) (hv : v ∈ p.edges u) :
    Inv p (Function.update due u es) (p.relax u t v) := by
  unfold Problem.relax
  split
  · -- Nothing is improved: the edge to `v` is settled as it is.
    rename_i hlt
    obtain ⟨hu, hsum, hvu, hvs⟩ := hinv.improved hpos hv hlt
    -- Only the entry of `v` changes.
    have hscore : ∀ x, x ≠ v →
        Function.update t.score v (t.score u + p.weight u v) x = t.score x :=
      fun x hx => Function.update_of_ne hx _ _
    have hself : Function.update t.score v (t.score u + p.weight u v) v =
        t.score u + p.weight u v := Function.update_self _ _ _
    have hle := score_update_le hlt
    refine ⟨⟨?_, ?_⟩, ?_, ?_, ?_, ?_⟩
    · exact (hscore _ hvs.symm).trans hinv.start.1
    · exact (Function.update_of_ne hvs.symm _ _).trans hinv.start.2
    · intro y x hcame
      dsimp only at hcame ⊢
      by_cases hx : x = v
      · -- The new entry of the table.
        subst hx
        rw [Function.update_self, Option.some.injEq] at hcame
        subst hcame
        rw [hself, hscore _ (Ne.symm hvu)]
        exact ⟨hv, le_refl _, hsum⟩
      · rw [Function.update_of_ne hx] at hcame
        obtain ⟨hedge, hstep, hfin⟩ := hinv.came hcame
        rw [hscore x hx]
        exact ⟨hedge, (add_le_add_left (hle y) _).trans hstep, hfin⟩
    · -- A vertex with a score has been reached.
      intro x hx
      by_cases hxv : x = v
      · subst hxv
        exact Or.inr ⟨u, Function.update_self _ _ _⟩
      · dsimp only at hx ⊢
        rw [hscore x hxv] at hx
        rw [Function.update_of_ne hxv]
        exact hinv.reached hx
    · -- The new key is the new score with the estimate; older keys have only grown too large.
      intro f x hmem
      rcases List.mem_cons.mp hmem with hnew | hold
      · obtain ⟨rfl, rfl⟩ := Prod.mk.inj hnew
        dsimp only
        rw [hself]
        exact ⟨le_refl _, hsum⟩
      · obtain ⟨hkey, hfin⟩ := hinv.queued hold
        exact ⟨(add_le_add_left (hle x) _).trans hkey, ne_top_of_le_ne_top hfin (hle x)⟩
    · intro x hx
      dsimp only at hx ⊢
      by_cases hxv : x = v
      · subst hxv
        rw [hself]
        exact Or.inl List.mem_cons_self
      · rw [hscore x hxv] at hx ⊢
        rcases hinv.settled hx with hmem | ⟨hgoal, hedges⟩
        · exact Or.inl (List.mem_cons_of_mem _ hmem)
        · refine Or.inr ⟨hgoal, fun y hy => ?_⟩
          by_cases hyv : y = v
          · -- The edge to `v` of another vertex: the score of `v` has only fallen.
            subst hyv
            by_cases hxu : x = u
            · subst hxu
              exact Or.inr hself.le
            · rcases hedges y hy with hdue | hle'
              · refine Or.inl ?_
                rwa [Function.update_of_ne hxu] at hdue ⊢
              · exact Or.inr ((hle y).trans hle')
          · rcases hedges y hy with hdue | hle'
            · refine Or.inl ?_
              by_cases hxu : x = u
              · subst hxu
                rw [Function.update_self] at hdue ⊢
                exact (List.mem_cons.mp hdue).resolve_left hyv
              · rwa [Function.update_of_ne hxu] at hdue ⊢
            · exact Or.inr ((hle y).trans hle')
  · rename_i hlt
    refine ⟨hinv.start, hinv.came, hinv.reached, hinv.queued, fun {x} hx => ?_⟩
    rcases hinv.settled hx with hmem | ⟨hgoal, hedges⟩
    · exact Or.inl hmem
    · refine Or.inr ⟨hgoal, fun y hy => ?_⟩
      rcases hedges y hy with hdue | hle'
      · by_cases hxu : x = u
        · subst hxu
          rw [Function.update_self] at hdue ⊢
          rcases List.mem_cons.mp hdue with rfl | hdue
          · exact Or.inr (not_lt.mp hlt)
          · exact Or.inl hdue
        · refine Or.inl ?_
          rwa [Function.update_of_ne hxu] at hdue ⊢
      · exact Or.inr hle'

/-- Relaxing edges that are due, one after the other. -/
theorem Inv.relaxAll {due : V → List V} (hpos : Positive p) {u : V} {es : List V} :
    ∀ {t : Tables V K}, Inv p (Function.update due u es) t → (∀ v ∈ es, v ∈ p.edges u) →
      Inv p (Function.update due u []) (es.foldl (p.relax u) t) := by
  induction es with
  | nil =>
      intro t hinv _
      exact hinv
  | cons v es ih =>
      intro t hinv hes
      exact ih (hinv.relax hpos (hes v List.mem_cons_self)) fun w hw =>
        hes w (List.mem_cons_of_mem _ hw)

/-- **A pass keeps the invariant.** The expanded vertex may be queued under a smaller key, or its
edges may be relaxed already. -/
theorem Inv.pass {t : Tables V K} (hpos : Positive p) (hinv : Inv p (fun _ => []) t)
    {f : K} {u : V} {rest : List (K × V)} (hpop : Pops t.queue (f, u) rest) (hu : u ≠ p.goal) :
    Inv p (fun _ => []) (p.expand u { t with queue := rest }) := by
  have hopen : Inv p (Function.update (fun _ => []) u (p.edges u)) { t with queue := rest } := by
    refine ⟨hinv.start, hinv.came, hinv.reached, fun hmem => ?_, fun {x} hx => ?_⟩
    · exact hinv.queued (hpop.perm.mem_iff.mpr (List.mem_cons_of_mem _ hmem))
    · by_cases hxu : x = u
      · subst hxu
        refine Or.inr ⟨hu, fun v hv => Or.inl ?_⟩
        rwa [Function.update_self]
      · rcases hinv.settled hx with hmem | ⟨hgoal, hedges⟩
        · refine Or.inl ?_
          rcases List.mem_cons.mp (hpop.perm.mem_iff.mp hmem) with htop | hmem
          · exact absurd (Prod.mk.inj htop).2 hxu
          · exact hmem
        · refine Or.inr ⟨hgoal, fun v hv => Or.inr ?_⟩
          exact (hedges v hv).resolve_left List.not_mem_nil
  have hdone := hopen.relaxAll hpos fun _ h => h
  have hnil : Function.update (fun _ => []) u ([] : List V) = fun _ => [] :=
    Function.update_eq_self u fun _ => []
  rwa [hnil] at hdone

/-! ### What the tables say at the end -/

omit [DecidableEq V] in
/-- **The way back.** From a reached vertex the `came` table leads to the start: the scores fall
along it, so no vertex occurs twice. -/
theorem Inv.exists_trail [Fintype V] {due : V → List V} {t : Tables V K} (hpos : Positive p)
    (hinv : Inv p due t) {v : V} (hv : t.score v ≠ ⊤) :
    ∃ l, Trail t.came v l ∧ p.IsPath l ∧ l.head? = some p.start ∧
      (∀ x ∈ l, t.score x ≤ t.score v) ∧ l.Nodup ∧ pathCost p.weight l ≤ t.score v := by
  -- By induction on the number of vertices with a smaller score.
  obtain ⟨n, hn⟩ : ∃ n, (Finset.univ.filter fun x => t.score x < t.score v).card = n := ⟨_, rfl⟩
  induction n using Nat.strong_induction_on generalizing v with
  | _ n ih =>
      rcases hinv.reached hv with rfl | ⟨u, hcame⟩
      · refine ⟨[p.start], Trail.root hinv.start.2, List.isChain_singleton _, rfl, ?_,
          List.nodup_singleton _, zero_le⟩
        intro x hx
        rw [List.mem_singleton.mp hx]
      · obtain ⟨hedge, hstep, -⟩ := hinv.came hcame
        have hu : t.score u ≠ ⊤ :=
          ne_top_of_le_ne_top hv ((le_self_add : t.score u ≤ _).trans hstep)
        have hlt : t.score u < t.score v := (hpos.lt_add hedge hu).trans_le hstep
        have hfewer : (Finset.univ.filter fun x => t.score x < t.score u).card < n := by
          rw [← hn]
          refine Finset.card_lt_card (Finset.ssubset_iff_of_subset ?_ |>.mpr ⟨u, ?_, ?_⟩)
          · intro x hx
            rw [Finset.mem_filter] at hx ⊢
            exact ⟨hx.1, hx.2.trans hlt⟩
          · simp [hlt]
          · simp
        obtain ⟨l, htrail, hpath, hhead, hle, hnodup, hcost⟩ := ih _ hfewer hu rfl
        refine ⟨l ++ [v], Trail.step hcame htrail, ?_, ?_, ?_, ?_, ?_⟩
        · refine List.isChain_append.mpr ⟨hpath, List.isChain_singleton _, ?_⟩
          intro x hx y hy
          rw [htrail.getLast?, Option.mem_some] at hx
          rw [List.head?_cons, Option.mem_some] at hy
          rwa [← hx, ← hy]
        · rw [List.head?_append, hhead, Option.some_or]
        · intro x hx
          rcases List.mem_append.mp hx with hx | hx
          · exact (hle x hx).trans hlt.le
          · rw [List.mem_singleton.mp hx]
        · refine List.nodup_append.mpr ⟨hnodup, List.nodup_singleton _, ?_⟩
          intro x hx y hy hxy
          rw [hxy, List.mem_singleton.mp hy] at hx
          exact absurd (hle v hx) (not_le.mpr hlt)
        · rw [pathCost_append_singleton _ htrail.getLast?]
          exact (add_le_add_left hcost _).trans hstep

omit [DecidableEq V] [OrderTop K] in
/-- A consistent estimate is at most the cost of a path to the goal. -/
theorem Consistent.le_pathCost (hcons : Consistent p) :
    ∀ {u : V} {l : List V}, p.IsPath (u :: l) → (u :: l).getLast? = some p.goal →
      p.estimate u ≤ pathCost p.weight (u :: l) := by
  intro u l
  induction l generalizing u with
  | nil =>
      intro _ hlast
      rw [List.getLast?_singleton, Option.some.injEq] at hlast
      rw [hlast, hcons.goal]
      exact zero_le
  | cons v l ih =>
      intro hpath hlast
      obtain ⟨hedge, hpath⟩ := List.isChain_cons_cons.mp hpath
      rw [List.getLast?_cons_cons] at hlast
      exact (hcons.le_add hedge).trans (add_le_add_right (ih hpath hlast) _)

omit [DecidableEq V] in
/-- Along a path to the goal there is a queued vertex with a key of at most the cost of the path,
unless the score of the goal is no more than that. `c` is what it costs to get to the path. -/
theorem Inv.exists_queued {t : Tables V K} (hpos : Positive p) (hcons : Consistent p)
    (hinv : Inv p (fun _ => []) t) :
    ∀ {u : V} {l : List V} {c : K}, p.IsPath (u :: l) → (u :: l).getLast? = some p.goal →
      t.score u ≠ ⊤ → t.score u ≤ c →
      ∃ e ∈ t.queue, e.1 ≤ c + pathCost p.weight (u :: l) := by
  intro u l
  induction l generalizing u with
  | nil =>
      intro c hpath hlast hu hc
      rcases hinv.settled hu with hmem | ⟨hgoal, -⟩
      · exact ⟨_, hmem, add_le_add hc (hcons.le_pathCost hpath hlast)⟩
      · rw [List.getLast?_singleton, Option.some.injEq] at hlast
        exact absurd hlast hgoal
  | cons v l ih =>
      intro c hpath hlast hu hc
      rcases hinv.settled hu with hmem | ⟨-, hedges⟩
      · exact ⟨_, hmem, add_le_add hc (hcons.le_pathCost hpath hlast)⟩
      · obtain ⟨hedge, hpath⟩ := List.isChain_cons_cons.mp hpath
        rw [List.getLast?_cons_cons] at hlast
        have hv := (hedges v hedge).resolve_left List.not_mem_nil
        obtain ⟨e, he, hle⟩ := ih hpath hlast
          (ne_top_of_le_ne_top (hpos.add_ne_top hedge hu) hv)
          (hv.trans (add_le_add_left hc _))
        rw [add_assoc] at hle
        exact ⟨e, he, hle⟩

omit [DecidableEq V] in
/-- **When the goal is at the top of the queue, no path to it is cheaper than its score.** -/
theorem Inv.score_goal_le {t : Tables V K} (hpos : Positive p) (hcons : Consistent p)
    (hinv : Inv p (fun _ => []) t) (hne : (0 : K) ≠ ⊤) {f : K} {rest : List (K × V)}
    (hpop : Pops t.queue (f, p.goal) rest) {l : List V} (hpath : p.IsPath (p.start :: l))
    (hlast : (p.start :: l).getLast? = some p.goal) :
    t.score p.goal ≤ pathCost p.weight (p.start :: l) := by
  have hstart : t.score p.start ≠ ⊤ := by rwa [hinv.start.1]
  obtain ⟨e, he, hle⟩ := hinv.exists_queued hpos hcons hpath hlast hstart hinv.start.1.le
  rw [zero_add] at hle
  have hkey := (hinv.queued (hpop.perm.mem_iff.mpr List.mem_cons_self)).1
  calc t.score p.goal
      ≤ t.score p.goal + p.estimate p.goal := le_self_add
    _ ≤ f := hkey
    _ ≤ e.1 := hpop.le e he
    _ ≤ pathCost p.weight (p.start :: l) := hle

omit [DecidableEq V] in
/-- **When the queue is empty, there is no path to the goal.** -/
theorem Inv.no_path {t : Tables V K} (hpos : Positive p) (hcons : Consistent p)
    (hinv : Inv p (fun _ => []) t) (hne : (0 : K) ≠ ⊤) (hempty : t.queue = []) {l : List V}
    (hpath : p.IsPath (p.start :: l)) : (p.start :: l).getLast? ≠ some p.goal := by
  intro hlast
  have hstart : t.score p.start ≠ ⊤ := by rwa [hinv.start.1]
  obtain ⟨e, he, -⟩ := hinv.exists_queued hpos hcons hpath hlast hstart (le_refl _)
  rw [hempty] at he
  cases he

end Theory

/-! ### Reachability with rounded scores -/

section Spread

variable {V K : Type} [DecidableEq V] [Add K] [LinearOrder K] {p : Problem V K} {bound : K}

/-- The score of the vertex is finite. -/
def Tables.Reached (t : Tables V K) (bound : K) (v : V) : Prop := t.score v < bound

/-- A finite score stays finite along an edge. -/
def Bounded (p : Problem V K) (bound : K) : Prop :=
  ∀ {u v}, v ∈ p.edges u → ∀ {a : K}, a < bound → a + p.weight u v < bound

/-- The start is reached, and a reached vertex is queued, or all its edges lead to reached
vertices, apart from those in `due`. -/
structure Spread (p : Problem V K) (bound : K) (due : V → List V) (t : Tables V K) : Prop where
  start : t.Reached bound p.start
  settled : ∀ {u}, t.Reached bound u →
    (∃ f, (f, u) ∈ t.queue) ∨ u ≠ p.goal ∧ ∀ v ∈ p.edges u, v ∈ due u ∨ t.Reached bound v

/-- The scores fall. -/
theorem reached_relax {u v x : V} {t : Tables V K} (h : t.Reached bound x) :
    (p.relax u t v).Reached bound x := by
  unfold Problem.relax
  split
  · rename_i hlt
    exact (score_update_le hlt x).trans_lt h
  · exact h

/-- The end of a relaxed edge is reached when its begin is. -/
theorem Bounded.reached_relax (hb : Bounded p bound) {u v : V} (hv : v ∈ p.edges u)
    {t : Tables V K} (hu : t.Reached bound u) : (p.relax u t v).Reached bound v := by
  have hsum := hb hv hu
  unfold Problem.relax
  split
  · show Function.update t.score v (t.score u + p.weight u v) v < bound
    rwa [Function.update_self]
  · rename_i hnot
    exact (not_lt.mp hnot).trans_lt hsum

/-- A vertex that a relaxed edge reaches is queued. -/
theorem queued_of_relax {u v x : V} {t : Tables V K} (h : (p.relax u t v).Reached bound x) :
    t.Reached bound x ∨ ∃ f, (f, x) ∈ (p.relax u t v).queue := by
  unfold Problem.relax at h ⊢
  split at h
  · rename_i hlt
    rw [if_pos hlt]
    by_cases hx : x = v
    · subst hx
      exact Or.inr ⟨_, List.mem_cons_self⟩
    · refine Or.inl ?_
      have h : Function.update t.score v (t.score u + p.weight u v) x < bound := h
      rwa [Function.update_of_ne hx] at h
  · exact Or.inl h

/-- Relaxing a neighbour takes nothing out of the queue. -/
theorem mem_queue_relax {u v : V} {t : Tables V K} {e : K × V} (h : e ∈ t.queue) :
    e ∈ (p.relax u t v).queue := by
  unfold Problem.relax
  split
  · exact List.mem_cons_of_mem _ h
  · exact h

/-- Relaxing edges that are due, one after the other. -/
theorem Spread.relaxAll (hb : Bounded p bound) {u : V} {es : List V} :
    ∀ {t : Tables V K}, Spread p bound (Function.update (fun _ => []) u es) t →
      (∀ v ∈ es, v ∈ p.edges u) →
      Spread p bound (fun _ => []) (es.foldl (p.relax u) t) := by
  induction es with
  | nil =>
      intro t h _
      rwa [Function.update_eq_self u fun _ => ([] : List V)] at h
  | cons v es ih =>
      intro t h hes
      refine ih ⟨reached_relax h.start, fun {x} hx => ?_⟩ fun w hw =>
        hes w (List.mem_cons_of_mem _ hw)
      rcases queued_of_relax hx with hold | hnew
      · rcases h.settled hold with ⟨f, hf⟩ | ⟨hgoal, hedges⟩
        · exact Or.inl ⟨f, mem_queue_relax hf⟩
        · refine Or.inr ⟨hgoal, fun y hy => ?_⟩
          rcases hedges y hy with hdue | hreached
          · by_cases hxu : x = u
            · subst hxu
              rw [Function.update_self] at hdue ⊢
              rcases List.mem_cons.mp hdue with rfl | hdue
              · exact Or.inr (hb.reached_relax hy hold)
              · exact Or.inl hdue
            · rw [Function.update_of_ne hxu] at hdue
              exact absurd hdue List.not_mem_nil
          · exact Or.inr (reached_relax hreached)
      · exact Or.inl hnew

/-- **A pass keeps it.** -/
theorem Spread.pass {t : Tables V K} (hb : Bounded p bound)
    (h : Spread p bound (fun _ => []) t) {f : K} {u : V} {rest : List (K × V)}
    (hpop : Pops t.queue (f, u) rest) (hu : u ≠ p.goal) :
    Spread p bound (fun _ => []) (p.expand u { t with queue := rest }) := by
  refine Spread.relaxAll hb ⟨h.start, fun {x} hx => ?_⟩ fun _ hv => hv
  by_cases hxu : x = u
  · subst hxu
    refine Or.inr ⟨hu, fun v hv => Or.inl ?_⟩
    rwa [Function.update_self]
  · rcases h.settled hx with ⟨g, hg⟩ | ⟨hgoal, hedges⟩
    · rcases List.mem_cons.mp (hpop.perm.mem_iff.mp hg) with htop | hg
      · exact absurd (Prod.mk.inj htop).2 hxu
      · exact Or.inl ⟨g, hg⟩
    · exact Or.inr ⟨hgoal, fun v hv => Or.inr ((hedges v hv).resolve_left List.not_mem_nil)⟩

omit [DecidableEq V] [Add K] in
/-- **When the queue is empty, no path leads from a reached vertex to the goal.** -/
theorem Spread.no_path {t : Tables V K} (h : Spread p bound (fun _ => []) t)
    (hempty : t.queue = []) {u : V} {l : List V} (hu : t.Reached bound u)
    (hpath : p.IsPath (u :: l)) : (u :: l).getLast? ≠ some p.goal := by
  have hsettled : ∀ {x}, t.Reached bound x → x ≠ p.goal ∧ ∀ v ∈ p.edges x, t.Reached bound v := by
    intro x hx
    rcases h.settled hx with ⟨f, hf⟩ | ⟨hgoal, hedges⟩
    · rw [hempty] at hf
      cases hf
    · exact ⟨hgoal, fun v hv => (hedges v hv).resolve_left List.not_mem_nil⟩
  induction l generalizing u with
  | nil =>
      rw [List.getLast?_singleton]
      exact fun heq => (hsettled hu).1 (Option.some.inj heq)
  | cons v l ih =>
      obtain ⟨hedge, hpath⟩ := List.isChain_cons_cons.mp hpath
      rw [List.getLast?_cons_cons]
      exact ih ((hsettled hu).2 v hedge) hpath

end Spread

end BotCockpit.Lib.BestFirst
