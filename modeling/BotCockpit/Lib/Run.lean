import Mathlib.Data.List.Induction

/-!
# `BotCockpit.Lib.Run`: runs of a partial step function

A system is a partial step function `step : σ → ε → Option (σ × ο)`. The event `ε` carries
every choice the environment or the scheduler makes (a clock reading, a chunk of bytes, the
thread that moves), so a step is a function of the state and the event. `none` means that the
event is not enabled. `ο` is what an observer sees of the step.

`Run step allow s h t` says that the history `h` leads from `s` to `t`, and that every step of
it met the guard `allow`, read in the state before the step. The guard is how a statement of
the form "in every run whose steps all meet the condition" is written. `Run.invariant` and
`Run.invariant_history` are the two induction rules. `Run.project` is the rule for two systems of
which one contains the other. `exec` computes a run, and `Run.of_exec` turns the computed history
into a `Run`.

`trace` replays a history: each event with the state in which it came. `Since P Q h` is the
temporal operator on histories: some entry of `h` meets `P`, and every
entry after it meets `Q`.
-/

set_option autoImplicit false

namespace BotCockpit.Lib

variable {σ ε ο : Type}

/-- The history `h` leads from `s` to the last index, and each of its steps met `allow`. -/
inductive Run (step : σ → ε → Option (σ × ο)) (allow : σ → ε → Prop) (s : σ) :
    List (ε × ο) → σ → Prop
  | nil : Run step allow s [] s
  | snoc {h : List (ε × ο)} {t t' : σ} {e : ε} {o : ο} :
      Run step allow s h t → allow t e → step t e = some (t', o) →
        Run step allow s (h ++ [(e, o)]) t'

/-- The guard that allows every step. -/
abbrev anyStep : σ → ε → Prop := fun _ _ => True

instance (s : σ) (e : ε) : Decidable (anyStep s e) := instDecidableTrue

namespace Run

variable {step : σ → ε → Option (σ × ο)} {allow : σ → ε → Prop} {s t u : σ}
  {h h' : List (ε × ο)}

/-- One more step at the front of a run. -/
theorem cons {e : ε} {o : ο} (hallow : allow s e) (hstep : step s e = some (t, o))
    (hrun : Run step allow t h u) : Run step allow s ((e, o) :: h) u := by
  induction hrun with
  | nil => exact Run.snoc (h := []) Run.nil hallow hstep
  | snoc _ hallow' hstep' ih => exact Run.snoc ih hallow' hstep'

/-- Two runs one after the other. -/
theorem trans (h₁ : Run step allow s h t) (h₂ : Run step allow t h' u) :
    Run step allow s (h ++ h') u := by
  induction h₂ with
  | nil => simpa using h₁
  | snoc _ hallow hstep ih =>
      rw [← List.append_assoc]
      exact Run.snoc ih hallow hstep

/-- A run under a guard is a run under every weaker guard. -/
theorem mono {allow' : σ → ε → Prop} (hle : ∀ s e, allow s e → allow' s e)
    (hrun : Run step allow s h t) : Run step allow' s h t := by
  induction hrun with
  | nil => exact Run.nil
  | snoc _ hallow hstep ih => exact Run.snoc ih (hle _ _ hallow) hstep

/-- A run whose steps all meet another guard is a run under that guard. -/
theorem guard {allow' : σ → ε → Prop} (hrun : Run step allow s h t)
    (hall : ∀ pre x u, pre ++ [x] <+: h → Run step allow s pre u → allow' u x.1) :
    Run step allow' s h t := by
  induction hrun with
  | nil => exact Run.nil
  | snoc hpre _ hstep ih =>
      refine Run.snoc (ih fun pre x u hx => ?_) (hall _ _ _ (List.prefix_refl _) hpre) hstep
      exact hall pre x u (hx.trans (List.prefix_append _ _))

/-- What holds at the start and is preserved by every allowed step holds at the end. -/
theorem invariant {P : σ → Prop} (hrun : Run step allow s h t) (h0 : P s)
    (hstep : ∀ t e t' o, P t → allow t e → step t e = some (t', o) → P t') : P t := by
  induction hrun with
  | nil => exact h0
  | snoc _ hallow he ih => exact hstep _ _ _ _ ih hallow he

/-- The same rule for a property of the history and the state it leads to. -/
theorem invariant_history {P : List (ε × ο) → σ → Prop} (hrun : Run step allow s h t)
    (h0 : P [] s)
    (hstep : ∀ h t e t' o, P h t → allow t e → step t e = some (t', o) →
      P (h ++ [(e, o)]) t') : P h t := by
  induction hrun with
  | nil => exact h0
  | snoc _ hallow he ih => exact hstep _ _ _ _ _ ih hallow he

/-- The state before the last step, when the history ends with the event `e`. -/
theorem snoc_inv {e : ε} {o : ο} (hrun : Run step allow s (h ++ [(e, o)]) u) :
    ∃ t, Run step allow s h t ∧ allow t e ∧ step t e = some (u, o) := by
  generalize hg : h ++ [(e, o)] = g at hrun
  cases hrun with
  | nil => simp at hg
  | snoc hpre hallow hstep =>
      obtain ⟨rfl, heq⟩ := List.append_inj' hg rfl
      simp only [List.cons.injEq, Prod.mk.injEq, and_true] at heq
      obtain ⟨rfl, rfl⟩ := heq
      exact ⟨_, hpre, hallow, hstep⟩

/-- A prefix of the history of a run is the history of a run. -/
theorem of_prefix {pre : List (ε × ο)} (hrun : Run step allow s h t) (hpre : pre <+: h) :
    ∃ u, Run step allow s pre u := by
  induction hrun with
  | nil =>
      rw [List.prefix_nil.mp hpre]
      exact ⟨_, Run.nil⟩
  | snoc hrun hallow hstep ih =>
      rcases List.prefix_concat_iff.mp hpre with rfl | hpre
      · exact ⟨_, Run.snoc hrun hallow hstep⟩
      · exact ih hpre

/-- A run of one system seen as a run of another. `f` reads the state of the other system, and `g`
the entries of its history. Every step is a step of the other system, or it leaves it alone. -/
theorem project {σ' ε' ο' : Type} {step' : σ' → ε' → Option (σ' × ο')} {allow' : σ' → ε' → Prop}
    (f : σ → σ') (g : ε × ο → Option (ε' × ο')) (hrun : Run step allow s h t)
    (hstep : ∀ t e t' o, allow t e → step t e = some (t', o) →
      g (e, o) = none ∧ f t' = f t ∨
        ∃ e' o', g (e, o) = some (e', o') ∧ allow' (f t) e' ∧ step' (f t) e' = some (f t', o')) :
    Run step' allow' (f s) (h.filterMap g) (f t) := by
  induction hrun with
  | nil => exact Run.nil
  | @snoc h t t' e o _ hallow he ih =>
      rw [List.filterMap_append]
      rcases hstep t e t' o hallow he with ⟨hg, hsame⟩ | ⟨e', o', hg, hallow', he'⟩
      · rw [List.filterMap_cons_none hg, List.filterMap_nil, List.append_nil, hsame]
        exact ih
      · rw [List.filterMap_cons_some hg, List.filterMap_nil]
        exact Run.snoc ih hallow' he'

/-- A history leads to one state only. -/
theorem det (h₁ : Run step allow s h t) (h₂ : Run step allow s h u) : t = u := by
  induction h₁ generalizing u with
  | nil =>
      generalize hg : ([] : List (ε × ο)) = g at h₂
      cases h₂ with
      | nil => rfl
      | snoc => simp at hg
  | snoc _ _ hstep ih =>
      obtain ⟨v, hrun, -, hstep'⟩ := snoc_inv h₂
      obtain rfl := ih hrun
      rw [hstep] at hstep'
      exact (Prod.mk.inj (Option.some.inj hstep')).1

/-- What holds after `h` and is preserved by every step after it holds at the end. -/
theorem onward {P : σ → Prop} (hrun : Run step allow s (h ++ h') t)
    (h0 : ∀ u, Run step allow s h u → P u)
    (hstep : ∀ mid x u v, mid ++ [x] <+: h' → Run step allow s (h ++ mid) u →
      step u x.1 = some (v, x.2) → P u → P v) : P t := by
  induction h' using List.reverseRecOn generalizing t with
  | nil => exact h0 t (by simpa using hrun)
  | append_singleton mid x ih =>
      rw [← List.append_assoc] at hrun
      obtain ⟨u, hpre, -, hx⟩ := hrun.snoc_inv
      refine hstep mid x u t (List.prefix_refl _) hpre hx (ih hpre ?_)
      exact fun mid' y u v hy => hstep mid' y u v (hy.trans (List.prefix_append _ _))

end Run

/-- Run the events in order, each under the guard. `none` when one of them is not enabled or
does not meet the guard. -/
def exec (step : σ → ε → Option (σ × ο)) (allow : σ → ε → Prop)
    [∀ s e, Decidable (allow s e)] (s : σ) : List ε → Option (List (ε × ο) × σ)
  | [] => some ([], s)
  | e :: es =>
      if allow s e then
        match step s e with
        | none => none
        | some (t, o) =>
            match exec step allow t es with
            | none => none
            | some (h, u) => some ((e, o) :: h, u)
      else none

/-- A computed run is a run. -/
theorem Run.of_exec {step : σ → ε → Option (σ × ο)} {allow : σ → ε → Prop}
    [∀ s e, Decidable (allow s e)] {s : σ} {es : List ε} {r : List (ε × ο) × σ}
    (hexec : exec step allow s es = some r) : Run step allow s r.1 r.2 := by
  induction es generalizing s r with
  | nil =>
      simp only [exec, Option.some.injEq] at hexec
      subst hexec
      exact Run.nil
  | cons e es ih =>
      simp only [exec] at hexec
      split at hexec
      · rename_i hallow
        split at hexec
        · cases hexec
        · rename_i t o hstep
          split at hexec
          · cases hexec
          · rename_i h u hrest
            simp only [Option.some.injEq] at hexec
            subst hexec
            exact Run.cons hallow hstep (ih hrest)
      · cases hexec

/-- Whether each of the events, run one after the other from `s`, meets `P`, which also reads
the history before it. -/
def checkAll (step : σ → ε → Option (σ × ο)) (P : List (ε × ο) → σ → ε → Prop)
    [∀ h s e, Decidable (P h s e)] (h : List (ε × ο)) (s : σ) : List ε → Bool
  | [] => true
  | e :: es =>
      decide (P h s e) &&
        match step s e with
        | none => true
        | some (t, o) => checkAll step P (h ++ [(e, o)]) t es

section

variable {step : σ → ε → Option (σ × ο)} {allow : σ → ε → Prop} {s t u : σ}
  {P : List (ε × ο) → σ → ε → Prop} [∀ h s e, Decidable (P h s e)]

/-- A check over a run and then over what comes next. -/
theorem Run.checkAll_append {h h' : List (ε × ο)} {es : List ε} (hrun : Run step allow s h' t)
    (hcheck : checkAll step P h s (h'.map Prod.fst ++ es) = true) :
    checkAll step P (h ++ h') t es = true := by
  induction hrun generalizing es with
  | nil => simpa using hcheck
  | snoc _ _ hstep ih =>
      rw [List.map_append, List.append_assoc] at hcheck
      have hnext := ih hcheck
      simp only [List.map_cons, List.map_nil, List.singleton_append, checkAll, hstep,
        Bool.and_eq_true] at hnext
      rw [← List.append_assoc]
      exact hnext.2

/-- A condition that was checked along the events holds at every step of the run. -/
theorem Run.of_checkAll {h : List (ε × ο)} (hcheck : checkAll step P [] s (h.map Prod.fst) = true)
    {pre : List (ε × ο)} {x : ε × ο} (hpre : pre ++ [x] <+: h) (hrun : Run step allow s pre u) :
    P pre u x.1 := by
  obtain ⟨rest, rfl⟩ := hpre
  rw [List.map_append, List.map_append, List.append_assoc] at hcheck
  have hnext := hrun.checkAll_append hcheck
  simp only [List.map_cons, List.map_nil, List.singleton_append, checkAll, Bool.and_eq_true,
    decide_eq_true_eq, List.nil_append] at hnext
  exact hnext.1

end

/-! ### Traces -/

/-- Every event of a history, with the state in which it came. -/
def trace (step : σ → ε → Option (σ × ο)) (s : σ) : List (ε × ο) → List (σ × ε)
  | [] => []
  | x :: h =>
      (s, x.1) ::
        match step s x.1 with
        | none => []
        | some r => trace step r.1 h

/-- The trace of a run and of what comes next. -/
theorem Run.trace_append {step : σ → ε → Option (σ × ο)} {allow : σ → ε → Prop} {s t : σ}
    {h : List (ε × ο)} (hrun : Run step allow s h t) (h' : List (ε × ο)) :
    trace step s (h ++ h') = trace step s h ++ trace step t h' := by
  induction hrun generalizing h' with
  | nil => rfl
  | snoc _ _ hstep ih =>
      rw [List.append_assoc, List.singleton_append, ih, ih, List.append_assoc]
      simp only [trace, hstep, List.singleton_append]

/-- The trace of a run, one step longer. -/
theorem Run.trace_snoc {step : σ → ε → Option (σ × ο)} {allow : σ → ε → Prop} {s t : σ}
    {h : List (ε × ο)} (hrun : Run step allow s h t) (e : ε) (o : ο) :
    trace step s (h ++ [(e, o)]) = trace step s h ++ [(t, e)] := by
  rw [hrun.trace_append]
  simp only [trace]
  split <;> rfl

/-! ### Since -/

/-- Some entry meets `P`, and every entry after it meets `Q`. -/
def Since {α : Type} (P Q : α → Prop) (h : List α) : Prop :=
  ∃ pre x post, h = pre ++ x :: post ∧ P x ∧ ∀ y ∈ post, Q y

/-- An entry that meets `P` is the start. -/
theorem Since.start {α : Type} {P Q : α → Prop} (h : List α) {x : α} (hx : P x) :
    Since P Q (h ++ [x]) :=
  ⟨h, x, [], rfl, hx, fun _ hy => absurd hy List.not_mem_nil⟩

/-- An entry that meets `Q` goes on. -/
theorem Since.extend {α : Type} {P Q : α → Prop} {h : List α} {y : α} (hs : Since P Q h)
    (hy : Q y) : Since P Q (h ++ [y]) := by
  obtain ⟨pre, x, post, rfl, hx, hpost⟩ := hs
  refine ⟨pre, x, post ++ [y], by simp, hx, fun z hz => ?_⟩
  rcases List.mem_append.mp hz with hz | hz
  · exact hpost z hz
  · rw [List.mem_singleton.mp hz]
    exact hy

/-- The start of a history is one of its entries. -/
theorem Since.exists_mem {α : Type} {P Q : α → Prop} {h : List α} (hs : Since P Q h) :
    ∃ x ∈ h, P x := by
  obtain ⟨pre, x, post, rfl, hx, -⟩ := hs
  exact ⟨x, by simp, hx⟩

/-- Two entries of a history: one is before the other, or they are the same. -/
theorem split_cases {α : Type} {a b c d : List α} {x y : α} (h : a ++ x :: b = c ++ y :: d) :
    (∃ m, d = m ++ x :: b) ∨ (a = c ∧ x = y ∧ b = d) ∨ ∃ m, b = m ++ y :: d := by
  rcases List.append_eq_append_iff.mp h with ⟨m, rfl, hm⟩ | ⟨m, rfl, hm⟩
  · cases m with
    | nil =>
        obtain ⟨rfl, rfl⟩ := List.cons.inj hm
        exact Or.inr (Or.inl ⟨by simp, rfl, rfl⟩)
    | cons z m =>
        obtain ⟨-, rfl⟩ := List.cons.inj hm
        exact Or.inr (Or.inr ⟨m, rfl⟩)
  · cases m with
    | nil =>
        obtain ⟨rfl, rfl⟩ := List.cons.inj hm
        exact Or.inr (Or.inl ⟨by simp, rfl, rfl⟩)
    | cons z m =>
        obtain ⟨-, rfl⟩ := List.cons.inj hm
        exact Or.inl ⟨m, rfl⟩

/-- Since an event, one step later: it is new, or it was before and nothing ended it. -/
theorem since_snoc {α : Type} {P Q : α → Prop} {h : List α} {x : α} :
    Since P Q (h ++ [x]) ↔ P x ∨ Since P Q h ∧ Q x := by
  constructor
  · rintro ⟨pre, z, post, heq, hz, hpost⟩
    rcases List.eq_nil_or_concat post with rfl | ⟨post, y, rfl⟩
    · obtain ⟨-, hx⟩ := List.append_inj' heq rfl
      rw [List.singleton_inj.mp hx]
      exact Or.inl hz
    · rw [List.concat_eq_append, ← List.cons_append, ← List.append_assoc] at heq
      obtain ⟨rfl, hx⟩ := List.append_inj' heq rfl
      obtain rfl := List.singleton_inj.mp hx
      simp only [List.concat_eq_append, List.mem_append, List.mem_singleton] at hpost
      exact Or.inr ⟨⟨pre, z, post, rfl, hz, fun y hy => hpost y (Or.inl hy)⟩, hpost x (Or.inr rfl)⟩
  · rintro (hx | ⟨hs, hx⟩)
    · exact Since.start h hx
    · exact hs.extend hx

/-- The same from the other end of the list. -/
theorem since_cons {α : Type} {P Q : α → Prop} {x : α} {h : List α} :
    Since P Q (x :: h) ↔ (P x ∧ ∀ y ∈ h, Q y) ∨ Since P Q h := by
  constructor
  · rintro ⟨pre, z, post, heq, hz, hpost⟩
    cases pre with
    | nil =>
        obtain ⟨rfl, rfl⟩ := List.cons.inj heq
        exact Or.inl ⟨hz, hpost⟩
    | cons w pre =>
        obtain ⟨-, rfl⟩ := List.cons.inj heq
        exact Or.inr ⟨pre, z, post, rfl, hz, hpost⟩
  · rintro (⟨hx, hall⟩ | ⟨pre, z, post, rfl, hz, hpost⟩)
    · exact ⟨[], x, h, rfl, hx, hall⟩
    · exact ⟨x :: pre, z, post, rfl, hz, hpost⟩

instance decidableSince {α : Type} {P Q : α → Prop} [DecidablePred P] [DecidablePred Q] :
    (h : List α) → Decidable (Since P Q h)
  | [] => isFalse fun hs => by
      obtain ⟨x, hx, -⟩ := hs.exists_mem
      exact absurd hx List.not_mem_nil
  | x :: h =>
      have := decidableSince (P := P) (Q := Q) h
      decidable_of_iff _ since_cons.symm

end BotCockpit.Lib
