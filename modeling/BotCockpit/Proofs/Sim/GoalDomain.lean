import BotCockpit.Lib.Libm
import BotCockpit.Proofs.Sim.Goals
import BotCockpit.Proofs.Sim.RefusedTask

/-!
# `BotCockpit.Proofs.Sim.GoalDomain`: the range check of a goal and the map

`on_cmd` takes the coordinates from 0 to 20 and from -5 to 5, the bounds included, and lets NaN
through. `world_to_cell` takes a half-open range, after a rounded sum (`column_iff`, `row_iff`). So
some goals of the range are off the map, and such a goto puts the robot into `FAULT`. So does one
to a goal on the map when the robot itself has left the map (`goal_domain`). The arithmetic is that
of `double`.
-/

set_option autoImplicit false

namespace BotCockpit.Sim

open BotCockpit.Lib
open BotCockpit.Lib.Float64

namespace FakeRobot

/-! ### The bounds as values -/

section Values

/-- The right end of the map as it is stored. -/
theorem unpack_twenty :
    (20.0 : Float).toModel.unpack = .finite .positive (5 * 2 ^ 50) (-48) (by decide) :=
  rfl

/-- The upper end of the map as it is stored. -/
theorem unpack_five :
    (5.0 : Float).toModel.unpack = .finite .positive (5 * 2 ^ 50) (-50) (by decide) :=
  rfl

/-- The lower end of the map as it is stored. -/
theorem unpack_minusFive :
    (-5.0 : Float).toModel.unpack = .finite .negative (5 * 2 ^ 50) (-50) (by decide) := rfl

/-- The last `double` below the upper end. -/
theorem unpack_beforeFive : (4.999999999999999 : Float).toModel.unpack =
    .finite .positive (5 * 2 ^ 50 - 1) (-50) (by decide) := rfl

/-- The right end over the common denominator. -/
theorem value_twenty : value 20.0 = 20 * (2 ^ 50 * 2 ^ 1024) := by
  rw [value_of_unpack (k := 1026) unpack_twenty rfl,
    show (2 : Int) ^ 1026 = 2 ^ 2 * 2 ^ 1024 from pow_add 2 2 1024]
  generalize (2 : Int) ^ 1024 = p
  show ((5 * 2 ^ 50 : Nat) : Int) * (2 ^ 2 * p) = _
  push_cast
  ring

/-- The upper end over the common denominator. -/
theorem value_five : value 5.0 = 5 * (2 ^ 50 * 2 ^ 1024) := by
  rw [value_of_unpack (k := 1024) unpack_five rfl]
  generalize (2 : Int) ^ 1024 = p
  show ((5 * 2 ^ 50 : Nat) : Int) * p = _
  push_cast
  ring

/-- The lower end over the common denominator. -/
theorem value_minusFive : value (-5.0) = -5 * (2 ^ 50 * 2 ^ 1024) := by
  rw [value_of_unpack (k := 1024) unpack_minusFive rfl]
  generalize (2 : Int) ^ 1024 = p
  show -((5 * 2 ^ 50 : Nat) : Int) * p = _
  push_cast
  ring

/-- One unit below the upper end. -/
theorem value_beforeFive : value 4.999999999999999 = 5 * (2 ^ 50 * 2 ^ 1024) - 2 ^ 1024 := by
  rw [value_of_unpack (k := 1024) unpack_beforeFive rfl]
  generalize (2 : Int) ^ 1024 = p
  show ((5 * 2 ^ 50 - 1 : Nat) : Int) * p = _
  rw [Nat.cast_sub (by decide)]
  push_cast
  ring

/-- The ends are far below where `double` ends. -/
theorem twenty_lt : (20 : Int) * (2 ^ 50 * 2 ^ 1024) < 2 ^ 1079 := by
  have hp : (0 : Int) < 2 ^ 1024 := by positivity
  rw [show (2 : Int) ^ 1079 = 2 ^ 55 * 2 ^ 1024 from pow_add 2 55 1024]
  generalize (2 : Int) ^ 1024 = p at hp ⊢
  linarith

/-- A number up to the right end has so many binary digits. -/
theorem log2_le {n : Int} (h : n ≤ 20 * (2 ^ 50 * 2 ^ 1024)) : n.toNat.log2 ≤ 2096 := by
  rcases Nat.eq_zero_or_pos n.toNat with hzero | hpos
  · rw [hzero]
    decide
  · have hlt : n.toNat < 2 ^ 1079 := by
      zify
      rw [Int.toNat_of_nonneg (by omega)]
      exact h.trans_lt twenty_lt
    have hlog := (Nat.log2_lt hpos.ne').mpr hlt
    omega

/-- A coordinate that the range check lets through is a number of the range or NaN. -/
theorem range_cases {x low high : Float} (hlow : IsNumber low) (hhigh : IsNumber high)
    (hge : ¬x < low) (hle : ¬high < x) :
    x.toModel.unpack = .notANumber ∨
      IsNumber x ∧ value low ≤ value x ∧ value x ≤ value high := by
  rcases unpack_cases x.toModel with hnan | ⟨s, hinf⟩ | hnumber
  · exact Or.inl hnan
  · -- An infinity is beyond one of the bounds.
    cases s with
    | positive =>
        refine absurd ?_ hle
        show decide (high.toModel < x.toModel) = true
        rw [decide_eq_true_iff]
        show high.toModel.unpack.lt x.toModel.unpack = true
        rw [hinf]
        unfold IsNumber at hhigh
        generalize high.toModel.unpack = u at hhigh
        cases hhigh with
        | zero s => rfl
        | finite s hm h => cases s <;> rfl
    | negative =>
        refine absurd ?_ hge
        show decide (x.toModel < low.toModel) = true
        rw [decide_eq_true_iff]
        show x.toModel.unpack.lt low.toModel.unpack = true
        rw [hinf]
        unfold IsNumber at hlow
        generalize low.toModel.unpack = u at hlow
        cases hlow with
        | zero s => rfl
        | finite s hm h => cases s <;> rfl
  · rw [lt_iff_value hnumber hlow, not_lt] at hge
    rw [lt_iff_value hhigh hnumber, not_lt] at hle
    exact Or.inr ⟨hnumber, hge, hle⟩

/-- A position of a length up to 20 from the origin lies in one of the first `2 * n` cells of half a
metre exactly when it is less than `n`. -/
theorem floor_half {x : Float} (hx : IsNumber x) (h0 : 0 ≤ value x)
    (h20 : value x ≤ 20 * (2 ^ 50 * 2 ^ 1024)) (n : Int) :
    (0 ≤ floorInt (x / 0.5) ∧ floorInt (x / 0.5) < 2 * n) ↔
      value x < n * (2 ^ 50 * 2 ^ 1024) := by
  have hone : (2 : Int) ^ 1074 = 2 ^ 50 * 2 ^ 1024 := pow_add 2 50 1024
  have hunit : (0 : Int) < 2 ^ 50 * 2 ^ 1024 := by positivity
  have hmax : (value x).natAbs < 2 ^ 1079 := by
    zify
    rw [abs_of_nonneg h0]
    exact h20.trans_lt twenty_lt
  obtain ⟨hhalf, hvalue⟩ := value_div_half hx (by decide) hmax
  have hfloor : floorInt (x / 0.5) = 2 * value x / (2 ^ 50 * 2 ^ 1024) := by
    rw [← hvalue, ← hone]
    refine floorInt_of_isNumber hhalf (by omega) ?_
    rw [hvalue, hone]
    generalize (2 : Int) ^ 50 * 2 ^ 1024 = one at hunit h20 ⊢
    linarith
  rw [hfloor]
  generalize (2 : Int) ^ 50 * 2 ^ 1024 = one at hunit h20 ⊢
  rw [Int.ediv_lt_iff_lt_mul hunit, mul_assoc]
  constructor
  · rintro ⟨-, hlt⟩
    linarith
  · intro hlt
    exact ⟨Int.ediv_nonneg (by linarith) hunit.le, by linarith⟩

/-- The column of a coordinate that passes the check. -/
theorem column_iff {x : Float} (hge : ¬x < 0.0) (hle : ¬20.0 < x) :
    (0 ≤ floorInt ((x - 0.0) / 0.5) ∧ floorInt ((x - 0.0) / 0.5) < 40) ↔ x < 20.0 := by
  have hzero : IsNumber 0.0 := .zero .positive
  have htwenty : IsNumber 20.0 := isNumber_of_unpack unpack_twenty
  rcases range_cases hzero htwenty hge hle with hnan | ⟨hx, hlow, hhigh⟩
  · refine iff_of_false ?_ (not_lt_of_nan hnan _)
    rw [floorInt_of_nan (unpack_div_of_nan (unpack_sub_of_nan hnan _) _)]
    decide
  · have hvalue : value 0.0 = 0 := rfl
    rw [hvalue] at hlow
    rw [value_twenty] at hhigh
    have hdiff := value_sub hx hzero (by rwa [hvalue]) (log2_le (by rwa [hvalue, sub_zero]))
    rw [hvalue, sub_zero, nearest_value hx hlow] at hdiff
    rw [lt_iff_value hx htwenty, value_twenty]
    have hcell := floor_half hdiff.1 (by rw [hdiff.2]; exact hlow) (by rw [hdiff.2]; exact hhigh) 20
    rwa [hdiff.2] at hcell

/-- The distance of a coordinate from the lower edge is rounded to less than 10 exactly below the
last double before 5. -/
theorem nearest_lt_ten {n : Nat} (hn : (n : Int) ≤ 10 * (2 ^ 50 * 2 ^ 1024)) :
    (nearest n : Int) < 10 * (2 ^ 50 * 2 ^ 1024) ↔
      (n : Int) < 10 * (2 ^ 50 * 2 ^ 1024) - 2 ^ 1024 := by
  have hten : (10 : Int) * (2 ^ 50 * 2 ^ 1024) = ((5 * 2 ^ 50 * 2 ^ 1025 : Nat) : Int) := by
    rw [Nat.cast_mul, Nat.cast_pow, Nat.cast_ofNat,
      show (2 : Int) ^ 1025 = 2 ^ 1 * 2 ^ 1024 from pow_add 2 1 1024]
    generalize (2 : Int) ^ 1024 = p
    push_cast
    ring
  have htie : (2 : Int) ^ 1 * 2 ^ 1024 = ((2 ^ 1025 : Nat) : Int) := by
    rw [Nat.cast_pow, Nat.cast_ofNat]
    exact (pow_add 2 1 1024).symm
  rw [hten] at hn ⊢
  have hiff := nearest_lt (k := 1025) (by decide : 5 * 2 ^ 50 % 2 = 0) (by decide) (by decide)
    (by exact_mod_cast hn)
  rw [Int.ofNat_lt, hiff]
  generalize 5 * 2 ^ 50 * 2 ^ 1025 = ten at *
  generalize (2 : Nat) ^ 1025 = q at *
  generalize (2 : Int) ^ 1024 = p at *
  omega

/-- The row of a coordinate that passes the check. -/
theorem row_iff {y : Float} (hge : ¬y < -5.0) (hle : ¬5.0 < y) :
    (0 ≤ floorInt ((y - -5.0) / 0.5) ∧ floorInt ((y - -5.0) / 0.5) < 20) ↔
      y < 4.999999999999999 := by
  have hlowest : IsNumber (-5.0) := isNumber_of_unpack unpack_minusFive
  have hfive : IsNumber 5.0 := isNumber_of_unpack unpack_five
  have hbefore : IsNumber 4.999999999999999 := isNumber_of_unpack unpack_beforeFive
  rcases range_cases hlowest hfive hge hle with hnan | ⟨hy, hlow, hhigh⟩
  · refine iff_of_false ?_ (not_lt_of_nan hnan _)
    rw [floorInt_of_nan (unpack_div_of_nan (unpack_sub_of_nan hnan _) _)]
    decide
  · -- The sum is at most ten, far from where `double` ends.
    have hsum : value y - value (-5.0) ≤ 10 * (2 ^ 50 * 2 ^ 1024) := by
      rw [value_minusFive]
      rw [value_five] at hhigh
      generalize (2 : Int) ^ 50 * 2 ^ 1024 = one at *
      linarith
    have hnonneg : 0 ≤ value y - value (-5.0) := sub_nonneg.mpr hlow
    have hunit : (0 : Int) < 2 ^ 50 * 2 ^ 1024 := by positivity
    have hdiff := value_sub hy hlowest hlow (log2_le (hsum.trans (by
      generalize (2 : Int) ^ 50 * 2 ^ 1024 = one at *
      linarith)))
    have hten := nearest_lt_ten (n := (value y - value (-5.0)).toNat)
      ((Int.toNat_of_nonneg hnonneg).trans_le hsum)
    -- Row 20 begins where the rounded sum reaches ten.
    have hcell := floor_half hdiff.1 (by rw [hdiff.2]; exact Int.natCast_nonneg _) ?_ 10
    · rw [hdiff.2, hten, Int.toNat_of_nonneg hnonneg] at hcell
      refine hcell.trans ?_
      rw [lt_iff_value hy hbefore, value_beforeFive, value_minusFive]
      generalize (2 : Int) ^ 50 * 2 ^ 1024 = one at *
      generalize (2 : Int) ^ 1024 = half at *
      constructor <;> intro hlt <;> linarith
    · rw [hdiff.2]
      have hdouble : (nearest (value y - value (-5.0)).toNat : Int) ≤
          2 * (value y - value (-5.0)).toNat := by
        exact_mod_cast nearest_le_double _
      rw [Int.toNat_of_nonneg hnonneg] at hdouble
      generalize (2 : Int) ^ 50 * 2 ^ 1024 = one at *
      linarith

end Values

/-! ### The accepted goals -/

section Domain

variable [Libm] {C : Type} [CFloat C] {r s : FakeRobot Float} {e : Event} {data : Bytes}
  {out : List (Output Float)}

/-- Which goals of the range lie on the map. -/
theorem cellOn_ne_none {p : Float × Float} (hin : ¬outside p.1 p.2) :
    cellOn p ≠ none ↔ p.1 < 20.0 ∧ p.2 < 4.999999999999999 := by
  have hin' : ¬(p.1 < (0.0 : Float) ∨ (20.0 : Float) < p.1 ∨ p.2 < (-5.0 : Float) ∨
      (5.0 : Float) < p.2) := hin
  obtain ⟨hx, hx', hy, hy'⟩ : ¬p.1 < (0.0 : Float) ∧ ¬(20.0 : Float) < p.1 ∧
      ¬p.2 < (-5.0 : Float) ∧ ¬(5.0 : Float) < p.2 := by
    simpa only [not_or] using hin'
  rw [← column_iff hx hx', ← row_iff hy hy', cellOn_grid]
  have hcell : ({} : Nav.GridMap Float).worldToCell p.1 p.2 =
      if ({} : Nav.GridMap Float).Inside (floorInt ((p.1 - 0.0) / 0.5))
          (floorInt ((p.2 - -5.0) / 0.5)) then
        some (floorInt ((p.1 - 0.0) / 0.5), floorInt ((p.2 - -5.0) / 0.5)) else none := rfl
  rw [hcell]
  generalize floorInt ((p.1 - 0.0) / 0.5) = cx
  generalize floorInt ((p.2 - -5.0) / 0.5) = cy
  have hinside : ({} : Nav.GridMap Float).Inside cx cy ↔ (0 ≤ cx ∧ cx < 40) ∧ 0 ≤ cy ∧ cy < 20 := by
    show (0 ≤ cx ∧ 0 ≤ cy ∧ cx < 40 ∧ cy < 20) ↔ _
    omega
  rw [← hinside]
  split
  · rename_i h
    exact iff_of_true (Option.some_ne_none _) h
  · rename_i h
    exact iff_of_false (fun hne => hne rfl) h

/-- What an admitted goto comes to, in range or not. A goal of the map is served exactly when the
planner has a start, or no path is asked for: the robot stands on the map, or has done the task. -/
theorem goto_serves (hfin : Nav.FiniteSteps C) (hcall : e.call = .cmd data)
    (hcmd : extractString data "cmd" = some (ascii "CMD_TASK"))
    (htype : extractString data "type" = some (ascii "goto")) (hfree : ¬r.blocked)
    (hstill : r.phase ≠ .running) (hstep : handle C r e = some (s, out)) :
    ∃ res, out.filterMap Output.result? = [res] ∧
      (outside (r.gotoGoal data).1 (r.gotoGoal data).2 → s = r ∧ ∃ taskId,
        res = .rejected (extractSeq Float data) (ascii "CMD_TASK") .invalidPayload taskId) ∧
      (¬outside (r.gotoGoal data).1 (r.gotoGoal data).2 → cellOn (r.gotoGoal data) ≠ none →
        ((s.phase ≠ .fault ∧ res.reason ≠ some .unknownTask) ↔
          cellOn (r.poseX, r.poseY) ≠ none ∨ r.RepeatsDone data)) := by
  have hphase : r.phase ≠ .fault := fun hfault => hfree (Or.inr (Or.inl hfault))
  refine handle_goto (P := fun s res => (outside (r.gotoGoal data).1 (r.gotoGoal data).2 →
      s = r ∧ ∃ taskId,
        res = .rejected (extractSeq Float data) (ascii "CMD_TASK") .invalidPayload taskId) ∧
      (¬outside (r.gotoGoal data).1 (r.gotoGoal data).2 → cellOn (r.gotoGoal data) ≠ none →
        ((s.phase ≠ .fault ∧ res.reason ≠ some .unknownTask) ↔
          cellOn (r.poseX, r.poseY) ≠ none ∨ r.RepeatsDone data))) hcall hcmd htype hstep
    ?blocked ?busy ?off ?again ?lost ?start
  case blocked => exact fun _ hblocked => absurd hblocked hfree
  case busy => exact fun _ hrun => absurd hrun hstill
  case off =>
    exact fun id _ _ hout => ⟨fun _ => ⟨rfl, id, rfl⟩, fun hin => absurd hout hin⟩
  case again =>
    intro _ hadmits hdone
    exact ⟨fun hout => absurd hout hadmits.inside, fun _ _ =>
      iff_of_true ⟨hphase, (Option.some_ne_none _).symm⟩ (Or.inr hdone)⟩
  case lost =>
    -- No path is found on this map only when one of the two ends is off it.
    intro _ hadmits hnew hpath
    refine ⟨fun hout => absurd hout hadmits.inside, fun _ hgoal => iff_of_false ?_ ?_⟩
    · exact fun hserved => hserved.2 rfl
    · rintro (hpose | hdone)
      · exact (gotoPath_ne_nil hfin data r).mpr ⟨hpose, hgoal⟩ hpath
      · exact hnew hdone
  case start =>
    intro _ hadmits _ hpath
    exact ⟨fun hout => absurd hout hadmits.inside, fun _ _ =>
      iff_of_true ⟨Phase.noConfusion, (Option.some_ne_none _).symm⟩
        (Or.inl ((gotoPath_ne_nil hfin data r).mp hpath).1)⟩

/-- **The range check takes three kinds of goal that are off the map.** For a goto that is neither
blocked nor busy, the accepted range is the map exactly when the goal is out of range, or its `x`
is less than 20 and its `y` less than the last `double` before 5, and the robot itself stands on
the map or has the named task done. The other goals of the range are the right edge, the two
largest values of `y`, and NaN. -/
theorem goal_domain (hfin : Nav.FiniteSteps C) (hcall : e.call = .cmd data)
    (hcmd : extractString data "cmd" = some (ascii "CMD_TASK"))
    (htype : extractString data "type" = some (ascii "goto")) (hfree : ¬r.blocked)
    (hstill : r.phase ≠ .running) (hstep : handle C r e = some (s, out)) :
    r.ServesMap data s out ↔
      outside (r.gotoGoal data).1 (r.gotoGoal data).2 ∨
        ((r.gotoGoal data).1 < (20.0 : Float) ∧ (r.gotoGoal data).2 < (4.999999999999999 : Float) ∧
          (cellOn (r.poseX, r.poseY) ≠ none ∨ r.RepeatsDone data)) := by
  obtain ⟨res, hres, hrefused, hserved⟩ := goto_serves hfin hcall hcmd htype hfree hstill hstep
  have hanswer : (∀ res' ∈ out.filterMap Output.result?, res'.reason ≠ some .unknownTask) ↔
      res.reason ≠ some .unknownTask := by
    rw [hres]
    exact List.forall_mem_singleton
  by_cases hout : outside (r.gotoGoal data).1 (r.gotoGoal data).2
  · refine iff_of_true ⟨fun _ => ?_, fun hin => absurd hout hin, fun hin => absurd hout hin⟩
      (Or.inl hout)
    obtain ⟨hsame, id, rfl⟩ := hrefused hout
    exact ⟨hsame, id, hres⟩
  · rw [or_iff_right hout, ← and_assoc, ← cellOn_ne_none hout]
    constructor
    · intro h
      have hgoal := h.onMap hout
      obtain ⟨hphase, hreasons⟩ := h.served hout
      exact ⟨hgoal, (hserved hout hgoal).mp ⟨hphase, hanswer.mp hreasons⟩⟩
    · rintro ⟨hgoal, hstart⟩
      obtain ⟨hphase, hreason⟩ := (hserved hout hgoal).mpr hstart
      exact ⟨fun hout' => absurd hout' hout, fun _ => hgoal,
        fun _ => ⟨hphase, hanswer.mpr hreason⟩⟩

end Domain

end FakeRobot

/-! ### The right edge -/

open FakeRobot

/-- A C library for evaluation: the root of the sum of squares, and texts with six digits after the
point. -/
instance exactLibm : Libm where
  hypot x y := Float.sqrt (x * x + y * y)
  ostreamText x := Exact.sixDigits (mkRat (value x) (2 ^ 1074))
  toStringText x := Exact.sixDigits (mkRat (value x) (2 ^ 1074))

/-- The start-up runs through over `Float`. -/
theorem exec_readyFloat :
    (exec (Node.step (F := Float) Exact.Cost) anyStep Node.init readyEvents).isSome = true := by
  decide +kernel

/-- The robot that was brought up, in `double` arithmetic. -/
def readyFloat : Node.History Float × Node Float :=
  (exec (Node.step Exact.Cost) anyStep Node.init readyEvents).get exec_readyFloat

/-- It is a run of the node. -/
theorem runs_readyFloat : Node.Runs Exact.Cost readyFloat.1 readyFloat.2 :=
  Run.of_exec (Option.some_get exec_readyFloat).symm

/-- The goto to the edge is handled. -/
theorem exists_edgeStep :
    ∃ m out, Node.step Exact.Cost readyFloat.2 ⟨5, .cmd edgeData⟩ = some (m, out) :=
  ⟨_, _, step_cmd (by decide +kernel) 5 edgeData⟩

/-- The goto to the right edge, at 20: in range, and not on the map. -/
theorem goal_domain_edge :
    ∃ (m : Node Float) (out : List (Output Float)),
      Node.step Exact.Cost readyFloat.2 ⟨5, .cmd edgeData⟩ = some (m, out) ∧
      (readyFloat.2.robot.ServesMap edgeData m.robot out ↔
        outside (readyFloat.2.robot.gotoGoal edgeData).1 (readyFloat.2.robot.gotoGoal edgeData).2 ∨
          ((readyFloat.2.robot.gotoGoal edgeData).1 < (20.0 : Float) ∧
            (readyFloat.2.robot.gotoGoal edgeData).2 < (4.999999999999999 : Float) ∧
            (cellOn (readyFloat.2.robot.poseX, readyFloat.2.robot.poseY) ≠ none ∨
              readyFloat.2.robot.RepeatsDone edgeData))) := by
  obtain ⟨m, out, hstep⟩ := exists_edgeStep
  exact ⟨m, out, hstep, goal_domain finiteSteps_exact rfl (by decide +kernel) (by decide +kernel)
    (by decide +kernel) (by decide +kernel) (Node.step_handle hstep)⟩

/-- A reachable robot that is neither blocked nor busy takes a goto to `x = 20` for one in range,
and the goal is not on the map. -/
theorem edge_not_served :
    ∃ (h : Node.History Float) (n m : Node Float) (out : List (Output Float)),
      Node.Runs Exact.Cost h n ∧ Node.step Exact.Cost n ⟨5, .cmd edgeData⟩ = some (m, out) ∧
      ¬n.robot.blocked ∧ n.robot.phase ≠ .running ∧
      ¬outside (n.robot.gotoGoal edgeData).1 (n.robot.gotoGoal edgeData).2 ∧
      ¬n.robot.ServesMap edgeData m.robot out := by
  obtain ⟨m, out, hstep⟩ := exists_edgeStep
  have hin : ¬outside (readyFloat.2.robot.gotoGoal edgeData).1
      (readyFloat.2.robot.gotoGoal edgeData).2 := by decide +kernel
  refine ⟨_, _, m, out, runs_readyFloat, hstep, by decide +kernel, by decide +kernel, hin, ?_⟩
  intro h
  refine h.onMap hin ?_
  rw [cellOn_grid]
  decide +kernel

end BotCockpit.Sim
