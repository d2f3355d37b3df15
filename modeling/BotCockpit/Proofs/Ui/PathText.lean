import BotCockpit.Lib.FixedPoint
import BotCockpit.Proofs.Sim.StateMessage
import BotCockpit.Ui.RobotState

/-!
# `BotCockpit.Proofs.Ui.PathText`: both encodings carry the same path

A path goes out twice, as `[x0,y0,x1,y1,...]` and as `[[x0,y0],[x1,y1],...]`, with six decimals for
each coordinate. The console reads the flat list by pairs and takes the nested one only when the
flat one gives no point. Both give the same list of points (`flatPoints_path`, `nestedPoints_path`),
so it does not matter which of them arrives: `path_encodings`.
-/

set_option autoImplicit false

namespace BotCockpit.Ui

open BotCockpit.Lib
open BotCockpit.Sim (pathToJson pathToFlatJson esc)

variable {F : Type} [CDouble F]

/-! ### Six decimals -/

/-- The number of millionths, with its sign, is the nearest one to a `double`. -/
def NearestMillionths (val : F → ℚ) (x : F) (neg : Bool) (n : Nat) : Prop :=
  |(signed neg n : ℚ) - val x * 10 ^ 6| ≤ 1 / 2

/-- The standard library writes a finite `double`, whose value is `val x`, with six decimals,
rounded to nearest. What it writes is in range when it is read again. -/
structure SixDecimals (val : F → ℚ) : Prop where
  text : ∀ x, CDouble.isFinite x = true →
    ∃ neg n, CDouble.toStringText x = fixedText 6 neg n ∧ NearestMillionths val x neg n
  finite : ∀ x neg n, CDouble.isFinite x = true → NearestMillionths val x neg n →
    CDouble.isFinite (CDouble.ofText (.finite neg n 10 (-6)) : F) = true

/-- `y` is the `double` for `x` rounded to six decimals. -/
def RoundedTo (val : F → ℚ) (x y : F) : Prop :=
  ∃ neg n, NearestMillionths val x neg n ∧ y = CDouble.ofText (.finite neg n 10 (-6))

/-- A coordinate as the console reads it. -/
def readCoordinate [QVariants F] (x : F) : F := toNumber (.num (CDouble.toStringText x))

/-- A finite coordinate is read as it was rounded. -/
theorem readCoordinate_spec [QVariants F] {val : F → ℚ} (h : SixDecimals val) {x : F}
    (hx : CDouble.isFinite x = true) :
    RoundedTo val x (readCoordinate x) ∧ CDouble.isFinite (readCoordinate x) = true := by
  obtain ⟨neg, n, htext, hnear⟩ := h.text x hx
  have hread : readCoordinate x = CDouble.ofText (.finite neg n 10 (-6)) := by
    rw [readCoordinate, htext]
    simp only [toNumber, strtod_fixedText (show 0 < 6 by decide) neg n, Option.map_some,
      Option.getD_some]
    rfl
  rw [hread]
  exact ⟨⟨neg, n, hnear, rfl⟩, h.finite x neg n hx hnear⟩

/-! ### The parsed arrays -/

/-- The coordinates of the points are finite. -/
def FinitePath (path : List (F × F)) : Prop :=
  ∀ p ∈ path, CDouble.isFinite p.1 = true ∧ CDouble.isFinite p.2 = true

/-- The points as the console reads them. -/
def readPath [QVariants F] (path : List (F × F)) : List (F × F) :=
  path.map fun p => (readCoordinate p.1, readCoordinate p.2)

/-- Its text is a number of JSON. -/
theorem isNumber_coordinate {val : F → ℚ} (h : SixDecimals val) {x : F}
    (hx : CDouble.isFinite x = true) : Json.IsNumber (CDouble.toStringText x) := by
  obtain ⟨neg, n, htext, -⟩ := h.text x hx
  rw [htext]
  exact isNumber_fixedText 6 neg n

/-- An array whose leaves are coordinates is read back by the grammar. -/
theorem parse_numbers {j : Json} {l : List F} {val : F → ℚ} (h : SixDecimals val)
    (hl : ∀ x ∈ l, CDouble.isFinite x = true)
    (hwf : (∀ x ∈ l, Json.wf (.num (CDouble.toStringText x)) = true) → Json.wf j = true)
    (hleaves : ∀ p, Json.allLeaves p j = l.all fun x => p (.num (CDouble.toStringText x))) :
    Json.parse (j.render esc) = some j := by
  have hnumber : ∀ x ∈ l, Json.IsNumber (CDouble.toStringText x) :=
    fun x hx => isNumber_coordinate h (hl x hx)
  have hj : Json.wf j = true := hwf fun x hx => by
    rw [Json.wf, decide_eq_true (hnumber x hx), Bool.true_or]
  have hutf8 : Json.allLeaves Json.utf8 j = true := by
    rw [hleaves, List.all_eq_true]
    exact fun x _ => rfl
  have hreadable : Json.allLeaves (Json.readable Sim.printable) j = true := by
    rw [hleaves, List.all_eq_true]
    exact fun x hx => decide_eq_true (hnumber x hx)
  rw [Json.parse_render Sim.esc_readsBack hj (Json.wellFormed_render Sim.esc_wellFormed _ hj hutf8),
    if_pos hreadable]

/-- A finite path has finite coordinates. -/
theorem finite_coordinates {path : List (F × F)} (hpath : FinitePath path) :
    ∀ x ∈ path.flatMap fun q => [q.1, q.2], CDouble.isFinite x = true := by
  intro x hx
  obtain ⟨p, hp, hmem⟩ := List.mem_flatMap.mp hx
  simp only [List.mem_cons, List.not_mem_nil, or_false] at hmem
  rcases hmem with rfl | rfl
  · exact (hpath p hp).1
  · exact (hpath p hp).2

/-- The flat text of a path parses to its tree. -/
theorem parse_flat {val : F → ℚ} (h : SixDecimals val) {path : List (F × F)}
    (hpath : FinitePath path) :
    Json.parse ((pathToFlatJson path).render esc) = some (pathToFlatJson path) := by
  refine parse_numbers h (finite_coordinates hpath) (fun hwf => ?_)
    fun p => Sim.FakeRobot.allLeaves_flatPath path
  rw [pathToFlatJson, Sim.FakeRobot.wf_arr, List.all_eq_true]
  intro v hv
  obtain ⟨q, hq, hmem⟩ := List.mem_flatMap.mp hv
  simp only [List.mem_cons, List.not_mem_nil, or_false] at hmem
  rcases hmem with rfl | rfl
  · exact hwf q.1 (List.mem_flatMap.mpr ⟨q, hq, by simp⟩)
  · exact hwf q.2 (List.mem_flatMap.mpr ⟨q, hq, by simp⟩)

/-- So does the nested one. -/
theorem parse_nested {val : F → ℚ} (h : SixDecimals val) {path : List (F × F)}
    (hpath : FinitePath path) :
    Json.parse ((pathToJson path).render esc) = some (pathToJson path) := by
  refine parse_numbers h (finite_coordinates hpath) (fun hwf => ?_)
    fun p => Sim.FakeRobot.allLeaves_path path
  rw [pathToJson, Sim.FakeRobot.wf_arr, List.all_eq_true]
  intro v hv
  obtain ⟨q, hq, rfl⟩ := List.mem_map.mp hv
  have hx := hwf q.1 (List.mem_flatMap.mpr ⟨q, hq, by simp⟩)
  have hy := hwf q.2 (List.mem_flatMap.mpr ⟨q, hq, by simp⟩)
  rw [Sim.FakeRobot.wf_arr]
  simp [hx, hy]

/-! ### The decoder -/

/-- The pairs of the flat list. -/
theorem flatPoints_path [QVariants F] {val : F → ℚ} (h : SixDecimals val) {path : List (F × F)}
    (hpath : FinitePath path) :
    RobotState.flatPoints (pathToFlatJson path).items = readPath path := by
  induction path with
  | nil => rfl
  | cons p path ih =>
      have hp := hpath p List.mem_cons_self
      have ih' := ih fun q hq => hpath q (List.mem_cons_of_mem _ hq)
      have hcons : (pathToFlatJson (p :: path)).items = .num (CDouble.toStringText p.1) ::
          .num (CDouble.toStringText p.2) :: (pathToFlatJson path).items := rfl
      have hx := (readCoordinate_spec h hp.1).2
      have hy := (readCoordinate_spec h hp.2).2
      rw [hcons, RobotState.flatPoints, ih']
      exact if_pos ⟨hx, hy⟩

/-- The items of the nested list. -/
theorem nestedPoints_path [QVariants F] {val : F → ℚ} (h : SixDecimals val) {path : List (F × F)}
    (hpath : FinitePath path) :
    (pathToJson path).items.filterMap RobotState.nestedPoint = readPath path := by
  show (path.map _).filterMap RobotState.nestedPoint = path.map _
  rw [List.filterMap_map, ← List.filterMap_eq_map]
  refine List.filterMap_congr fun p hp => ?_
  obtain ⟨hx, hy⟩ := hpath p hp
  have hx' := (readCoordinate_spec h hx).2
  have hy' := (readCoordinate_spec h hy).2
  unfold readCoordinate at hx' hy'
  simp [RobotState.nestedPoint, Json.items, readCoordinate, hx', hy']

/-- **Both encodings carry the same path.** A reader of JSON gets both arrays back, and whichever of
them reaches the console, it takes the same points: those of the path, in their order, each
coordinate rounded to six decimals. -/
theorem path_encodings [QVariants F] {val : F → ℚ} (h : SixDecimals val) {path : List (F × F)}
    (hpath : FinitePath path) :
    ∃ flat nested points,
      Json.parse ((pathToFlatJson path).render esc) = some flat ∧
      Json.parse ((pathToJson path).render esc) = some nested ∧
      RobotState.parseXYList flat nested = points ∧
      RobotState.parseXYList flat .null = points ∧
      RobotState.parseXYList .null nested = points ∧
      points.length = path.length ∧
      List.Forall₂ (fun p q : F × F => RoundedTo val p.1 q.1 ∧ RoundedTo val p.2 q.2) path
        points := by
  have hflat := flatPoints_path h hpath
  have hnested := nestedPoints_path h hpath
  have hnone : RobotState.flatPoints (F := F) Json.null.items = [] := rfl
  refine ⟨_, _, readPath path, parse_flat h hpath, parse_nested h hpath, ?_, ?_, ?_,
    List.length_map .., ?_⟩
  · unfold RobotState.parseXYList
    rw [hflat, hnested]
    exact ite_self _
  · -- The nested list is only asked for when there is no point.
    unfold RobotState.parseXYList
    rw [hflat]
    by_cases hnil : readPath path = []
    · rw [if_pos hnil, hnil]
      rfl
    · exact if_neg hnil
  · unfold RobotState.parseXYList
    rw [hnone, hnested]
    exact if_pos rfl
  · rw [readPath, List.forall₂_map_right_iff]
    refine List.forall₂_same.mpr fun p hp => ?_
    exact ⟨(readCoordinate_spec h (hpath p hp).1).1, (readCoordinate_spec h (hpath p hp).2).1⟩

/-- Exact numbers are printed with six decimals, rounded to nearest. -/
theorem sixDecimals_exact : SixDecimals (fun x : ℚ => x) := by
  refine ⟨fun x _ => ?_, fun _ _ _ _ _ => rfl⟩
  have habs : Exact.sixDigits.abs x = |x| := by
    unfold Exact.sixDigits.abs
    split
    · rename_i hneg
      rw [abs_of_neg hneg]
    · rename_i hpos
      rw [abs_of_nonneg (not_lt.mp hpos)]
  refine ⟨decide (x < 0), (Exact.sixDigits.abs x * 10 ^ 6 + 1 / 2).floor.toNat, ?_, ?_⟩
  · show Exact.sixDigits x = _
    simp [Exact.sixDigits, fixedText, padded]
  · -- Half a unit is added before the digits are cut off.
    have hnonneg : (0 : ℚ) ≤ |x| * 10 ^ 6 := by positivity
    have hle := Rat.floor_le (|x| * 10 ^ 6 + 1 / 2)
    have hlt := Rat.lt_floor_add_one (|x| * 10 ^ 6 + 1 / 2)
    have hfloor : (0 : Int) ≤ (|x| * 10 ^ 6 + 1 / 2).floor := by
      rw [Rat.le_floor_iff]
      push_cast
      linarith
    -- The digits as a rational number.
    have hcast : (((|x| * 10 ^ 6 + 1 / 2).floor.toNat : Int) : ℚ) =
        ((|x| * 10 ^ 6 + 1 / 2).floor : ℚ) := by rw [Int.toNat_of_nonneg hfloor]
    rw [NearestMillionths, habs, signed]
    by_cases hneg : x < 0
    · rw [abs_of_neg hneg] at *
      simp only [hneg, decide_true, if_true]
      push_cast at *
      rw [abs_le]
      constructor <;> linarith
    · rw [abs_of_nonneg (not_lt.mp hneg)] at *
      simp only [hneg, decide_false]
      push_cast at *
      rw [abs_le]
      constructor <;> linarith

/-- A path with coordinates that have to be rounded. -/
theorem path_encodings_thirds :
    ∃ flat nested points,
      Json.parse ((pathToFlatJson [((5 : ℚ) / 4, 0), (1 / 3, -2 / 3)]).render esc) = some flat ∧
      Json.parse ((pathToJson [((5 : ℚ) / 4, 0), (1 / 3, -2 / 3)]).render esc) = some nested ∧
      RobotState.parseXYList flat nested = points ∧
      RobotState.parseXYList flat .null = points ∧
      RobotState.parseXYList .null nested = points ∧
      points.length = 2 ∧
      List.Forall₂ (fun p q : ℚ × ℚ => RoundedTo (fun x => x) p.1 q.1 ∧
        RoundedTo (fun x => x) p.2 q.2)
        [(5 / 4, 0), (1 / 3, -2 / 3)] points :=
  path_encodings sixDecimals_exact fun _ _ => ⟨rfl, rfl⟩

end BotCockpit.Ui
