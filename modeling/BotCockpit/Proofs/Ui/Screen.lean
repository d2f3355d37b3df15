import BotCockpit.Spec.Screen

/-!
# `BotCockpit.Proofs.Ui.Screen`: no change goes unnoticed

The functions of `class RobotState` assign what the model of the console says
(`state_applyState`), and emit a signal for every property that changes. So QML shows every property
as it is, after every order of calls (`good_after`).

Two groups depend on more than their own test. `applyNav` compares the status of the message with
the one it has kept, where an empty status stands for `IDLE`, and it compares the flat lists only.
It misses nothing because the kept status is never empty and the flat list is that of the points
(`Shaped`).
-/

set_option autoImplicit false

namespace BotCockpit.Ui

open BotCockpit.Lib

/-! ### Equal values -/

section Lists

variable {α : Type} [BEq α] [PartialEquivBEq α]

/-- A comparison of lists is symmetric when that of their elements is. -/
theorem beq_list_symm : ∀ {xs ys : List α}, (xs == ys) = true → (ys == xs) = true
  | [], [], _ => rfl
  | x :: xs, y :: ys, h => by
      rw [List.cons_beq_cons, Bool.and_eq_true] at h ⊢
      exact ⟨PartialEquivBEq.symm h.1, beq_list_symm h.2⟩

/-- A comparison of lists is transitive when that of their elements is. -/
theorem beq_list_trans : ∀ {xs ys zs : List α}, (xs == ys) = true → (ys == zs) = true →
    (xs == zs) = true
  | [], [], [], _, _ => rfl
  | x :: xs, y :: ys, z :: zs, h, h' => by
      rw [List.cons_beq_cons, Bool.and_eq_true] at h h' ⊢
      exact ⟨PartialEquivBEq.trans h.1 h'.1, beq_list_trans h.2 h'.2⟩

end Lists

variable {F : Type} [CDouble F] [QVariants F] [Containers]

namespace PropValue

omit [QVariants F] in
/-- A value is the same as itself. -/
theorem Same.refl (v : PropValue F) : v.Same v := .inl rfl

variable [PartialEquivBEq F] [LawfulContainers F]

/-- Two steps of the comparison the setters make, one after the other. -/
theorem Close.trans {u v w : PropValue F} (h : u.Close v) (h' : v.Close w) : u.Close w := by
  cases u <;> cases v <;> try exact h.elim
  all_goals cases w <;> try exact h'.elim
  · exact PartialEquivBEq.trans h h'
  · exact beq_list_trans h h'
  · exact beq_list_trans (α := F) h h'
  · exact LawfulContainers.equalLists_trans F _ _ _ h h'

/-- Sameness is transitive, whether by equality or by the comparison. -/
theorem Same.trans {u v w : PropValue F} (h : u.Same v) (h' : v.Same w) : u.Same w := by
  rcases h with rfl | h
  · exact h'
  · rcases h' with rfl | h'
    · exact .inr h
    · exact .inr (h.trans h')

end PropValue

namespace Screen

/-! ### What a call assigns -/

section State

variable (map : Json) (n : Notify) (w : Screen F)

/-- A notification leaves the state alone. -/
@[simp] theorem state_emit : (w.emit n).state = w.state := rfl
/-- A notification leaves the link alone. -/
@[simp] theorem link_emit : (w.emit n).link = w.link := rfl
/-- A setter stores its record. -/
@[simp] theorem state_put (u : RobotState F) : (w.put u n).state = u := rfl
/-- A setter of the robot's state leaves the link alone. -/
@[simp] theorem link_put (u : RobotState F) : (w.put u n).link = w.link := rfl
/-- A setter of the link leaves the robot's state alone. -/
@[simp] theorem state_putLink (l : Link) : (w.putLink l n).state = w.state := rfl
/-- A setter of the link stores its record. -/
@[simp] theorem link_putLink (l : Link) : (w.putLink l n).link = l := rfl

/-- A test in front of an assignment that keeps the old value is not seen in the state. -/
theorem state_putIf {c : Prop} [Decidable c] {u : RobotState F} (hsame : ¬c → u = w.state) :
    (if c then w.put u n else w).state = u := by
  split
  · rfl
  · rename_i hc
    exact (hsame hc).symm

section Fields

/-- A field with the value of the message, where it has one. -/
def taken {α : Type} (parse : Json → α) (map : Json) (key : String) (get : RobotState F → α)
    (set : α → RobotState F → RobotState F) (u : RobotState F) : RobotState F :=
  set (if contains map key then parse (value map key) else get u) u

variable {key : String} {set : Bytes → RobotState F → RobotState F}
  {setFlag : Bool → RobotState F → RobotState F} {get : RobotState F → Bytes}
  {getFlag : RobotState F → Bool}

/-- The text setter with its test stores what the test-free one stores. -/
theorem state_applyText (hset : ∀ u, set (get u) u = u) :
    (w.applyText map key get set n).state = taken (toText F) map key get set w.state := by
  unfold applyText taken
  by_cases hkey : contains map key = true
  · by_cases hold : get w.state = toText F (value map key)
    · simp [hkey, ← hold, hset]
    · simp [hkey, hold]
  · simp [hkey, hset]

/-- The flag setter with its test stores what the test-free one stores. -/
theorem state_applyFlag (hset : ∀ u, setFlag (getFlag u) u = u) :
    (w.applyFlag map key getFlag setFlag n).state =
      taken toBool map key getFlag setFlag w.state := by
  unfold applyFlag taken
  by_cases hkey : contains map key = true
  · by_cases hold : getFlag w.state = toBool (value map key)
    · simp [hkey, ← hold, hset]
    · simp [hkey, hold]
  · simp [hkey, hset]

/-- A text of the message is no part of the link. -/
theorem link_applyText : (w.applyText map key get set n).link = w.link := by
  unfold applyText
  dsimp only
  split <;> rfl

/-- A flag of the message is no part of the link. -/
theorem link_applyFlag : (w.applyFlag map key getFlag setFlag n).link = w.link := by
  unfold applyFlag
  dsimp only
  split <;> rfl

end Fields

/-- Behind the notifications the flags are those of the plain model. -/
theorem state_applyFlags : (w.applyFlags map).state = w.state.applyFlags map := by
  unfold applyFlags
  dsimp only
  rw [state_applyFlag, state_applyFlag, state_applyText, state_applyText, state_applyText]
  · rfl
  all_goals exact fun _ => rfl

/-- Behind the notifications the pose is that of the plain model. -/
theorem state_applyPose : (w.applyPose map).state = w.state.applyPose map := by
  unfold applyPose RobotState.applyPose
  cases value map "pose" with
  | obj fields =>
      dsimp only
      split <;> rfl
  | _ => rfl

/-- Behind the notifications the battery is that of the plain model. -/
theorem state_applyBattery : (w.applyBattery map).state = w.state.applyBattery map := by
  unfold applyBattery RobotState.applyBattery
  dsimp only
  split <;> rfl

/-- Behind the notifications the liveness is that of the plain model. -/
theorem state_applyLiveness : (w.applyLiveness map).state = w.state.applyLiveness map := by
  unfold applyLiveness RobotState.applyLiveness
  dsimp only
  by_cases hkey : contains map "ts_ms" = true
  · rw [if_pos hkey, state_putIf _ _ fun h => ?_]
    · split <;> simp_all
    · simp_all
  · split <;> split <;> simp_all

/-- Behind the notifications the task is that of the plain model. -/
theorem state_applyTask : (w.applyTask map).state = w.state.applyTask map := by
  unfold applyTask RobotState.applyTask
  cases value map "task" with
  | obj fields =>
      refine state_putIf _ _ fun hsame => ?_
      simp only [not_or, not_not] at hsame
      dsimp only
      rw [hsame.1, hsame.2.1, hsame.2.2]
  | _ => rfl

/-- Behind the notifications the faults are those of the plain model. -/
theorem state_applyFaults : (w.applyFaults map).state = w.state.applyFaults map := by
  unfold applyFaults RobotState.applyFaults
  cases value map "faults" with
  | arr items =>
      dsimp only
      split <;> rfl
  | _ => rfl

/-- Behind the notifications the navigation fields are those of the plain model. -/
theorem state_applyNav : (w.applyNav map).state = w.state.applyNav map := by
  unfold applyNav RobotState.applyNav
  cases value map "nav" with
  | obj fields =>
      dsimp only [putTrackErr, putTrail]
      -- The signals of the tracking error, of the trail and of the status, sent or not.
      split <;> split <;> split <;> simp_all
  | _ => rfl

/-- A whole message leaves the record the plain model computes. -/
theorem state_applyState : (w.applyState map).state = w.state.applyState map := by
  unfold applyState RobotState.applyState
  rw [state_applyNav, state_applyFaults, state_applyTask, state_applyLiveness, state_applyBattery,
    state_applyPose, state_applyFlags]

end State

/-! ### What is shown -/

/-- The properties with such signals are shown as they are. -/
def CurrentOn (ok : Notify → Prop) (w : Screen F) : Prop :=
  ∀ p : Property, ok p.notify → (w.shown p).Same (p.read w.state w.link)

/-- The kept status is not empty, and the flat lists are those of the points. -/
structure Shaped (u : RobotState F) : Prop where
  status : u.navStatus ≠ []
  path : u.navPathFlat = RobotState.flatten u.navPath
  trail : u.navTrailFlat = RobotState.flatten u.navTrail

/-- The rows of the table are the faults of the robot, sorted. -/
structure Filled (w : Screen F) : Prop where
  all : w.table.all =
    Containers.sort FaultRow.less (w.state.faultsList.map (FaultRow.ofFault F))
  visible : w.table.visible = w.table.all.filter (FaultRow.passes w.table.levelFilter)

section Shown

variable {ok : Notify → Prop} {w : Screen F} {n : Notify}

omit [QVariants F] in
/-- A property that is current among more notifications is current among fewer. -/
theorem CurrentOn.mono {ok' : Notify → Prop} (h : CurrentOn ok w) (hle : ∀ m, ok' m → ok m) :
    CurrentOn ok' w := fun p hp => h p (hle _ hp)

/-- A signal makes up for its properties. -/
theorem CurrentOn.emit (h : CurrentOn (fun m => ok m ∧ m ≠ n) w) : CurrentOn ok (w.emit n) := by
  intro p hok
  by_cases hp : p.notify = n
  · rw [show (w.emit n).shown p = _ from if_pos hp]
    exact .refl _
  · rw [show (w.emit n).shown p = _ from if_neg hp]
    exact h p ⟨hok, hp⟩

/-- The signals of a list make up for theirs. -/
theorem CurrentOn.emitAll : ∀ (ns : List Notify) {w : Screen F},
    CurrentOn (fun m => ok m ∧ m ∉ ns) w → CurrentOn ok (ns.foldl (fun w n => w.emit n) w)
  | [], _, h => h.mono fun _ hok => ⟨hok, List.not_mem_nil⟩
  | n :: ns, w, h => by
      refine CurrentOn.emitAll ns (CurrentOn.emit (h.mono fun m hm => ⟨hm.1.1, ?_⟩))
      intro hmem
      rcases List.mem_cons.mp hmem with heq | hmem
      · exact hm.2 heq
      · exact hm.1.2 hmem

variable [PartialEquivBEq F] [LawfulContainers F]

/-- Values that nobody tells apart may be assigned without a signal. -/
theorem CurrentOn.assign (h : CurrentOn ok w) {u : RobotState F} {l : Link}
    (hsame : ∀ p : Property, ok p.notify → (p.read w.state w.link).Same (p.read u l)) :
    CurrentOn ok { w with state := u, link := l } :=
  fun p hok => (h p hok).trans (hsame p hok)

/-- A setter that notifies for what it changes keeps the rest current. -/
theorem CurrentOn.put (h : CurrentOn ok w) {u : RobotState F}
    (hread : ∀ p : Property, p.notify ≠ n → p.read u w.link = p.read w.state w.link) :
    CurrentOn ok (w.put u n) :=
  CurrentOn.emit (CurrentOn.assign (h.mono fun _ hm => hm.1)
    fun p hp => .inl (hread p hp.2).symm)

/-- The same for a setter of the link. -/
theorem CurrentOn.putLink (h : CurrentOn ok w) {l : Link}
    (hread : ∀ p : Property, p.notify ≠ n → p.read w.state l = p.read w.state w.link) :
    CurrentOn ok (w.putLink l n) :=
  CurrentOn.emit (CurrentOn.assign (h.mono fun _ hm => hm.1)
    fun p hp => .inl (hread p hp.2).symm)

omit [PartialEquivBEq F] [LawfulContainers F] in
/-- A guarded notification: both sides of the guard have to keep the screen current. -/
theorem currentOn_emitIf {c : Prop} [Decidable c]
    (hpos : c → CurrentOn (fun m => ok m ∧ m ≠ n) w) (hneg : ¬c → CurrentOn ok w) :
    CurrentOn ok (if c then w.emit n else w) := by
  split
  · rename_i hc
    exact (hpos hc).emit
  · rename_i hc
    exact hneg hc

end Shown

/-! ### One call -/

/-- The order of the table: first the rank of the level, then the code. -/
theorem less_iff (a b : FaultRow) : FaultRow.less a b = true ↔
    FaultRow.rank a.level < FaultRow.rank b.level ∨
      FaultRow.rank a.level = FaultRow.rank b.level ∧
        Containers.lessText a.code b.code = true := by
  unfold FaultRow.less
  by_cases hrank : FaultRow.rank a.level = FaultRow.rank b.level
  · simp [hrank]
  · simp [hrank]

/-- When neither row comes first they have one rank and, by the order of texts, one code. -/
theorem less_or_less (F : Type) [QVariants F] [LawfulContainers F] {a b : FaultRow}
    (h : FaultRow.less a b = false)
    (h' : FaultRow.less b a = false) :
    FaultRow.rank a.level = FaultRow.rank b.level ∧ a.code = b.code := by
  rw [← Bool.not_eq_true, less_iff] at h h'
  have hrank : FaultRow.rank a.level = FaultRow.rank b.level := by omega
  refine ⟨hrank, LawfulContainers.lessText_total F _ _ ?_ ?_⟩
  · rw [← Bool.not_eq_true]
    exact fun hless => h (.inr ⟨hrank, hless⟩)
  · rw [← Bool.not_eq_true]
    exact fun hless => h' (.inr ⟨hrank.symm, hless⟩)

/-- The comparison of `setFaults` is one that `std::sort` accepts. -/
theorem strictWeak_less (F : Type) [QVariants F] [LawfulContainers F] :
    StrictWeak FaultRow.less where
  irrefl a := by
    rw [← Bool.not_eq_true, less_iff, LawfulContainers.lessText_irrefl F]
    simp
  trans a b c h h' := by
    rw [less_iff] at h h' ⊢
    rcases h with h | ⟨h, htext⟩ <;> rcases h' with h' | ⟨h', htext'⟩
    · exact .inl (by omega)
    · exact .inl (by omega)
    · exact .inl (by omega)
    · exact .inr ⟨h.trans h', LawfulContainers.lessText_trans F _ _ _ htext htext'⟩
  incomparable a b c hab hba hbc hcb := by
    obtain ⟨hrank, hcode⟩ := less_or_less F hab hba
    obtain ⟨hrank', hcode'⟩ := less_or_less F hbc hcb
    constructor <;> rw [← Bool.not_eq_true, less_iff, hcode, hcode', hrank, hrank',
      LawfulContainers.lessText_irrefl F] <;> simp

section Calls

variable [PartialEquivBEq F] [LawfulContainers F] {w : Screen F} {n : Notify}

/-- What every call keeps. -/
structure Good (w : Screen F) : Prop where
  current : CurrentOn (fun _ => True) w
  shaped : Shaped w.state
  filled : Filled w

omit [PartialEquivBEq F] [LawfulContainers F] in
/-- Whether the table is filled depends on the table and the list of faults alone. -/
theorem Filled.of_eq {v : Screen F} (h : Filled w) (htable : v.table = w.table)
    (hfaults : v.state.faultsList = w.state.faultsList) : Filled v where
  all := by rw [htable, hfaults]; exact h.all
  visible := by rw [htable]; exact h.visible

/-- A setter of the link keeps the screen good. -/
theorem Good.putLink (h : Good w) {l : Link} (hn : n ≠ .faultsList)
    (hread : ∀ p : Property, p.notify ≠ n → p.read w.state l = p.read w.state w.link) :
    Good (w.putLink l n) :=
  ⟨h.current.putLink hread, h.shaped, h.filled.of_eq (if_neg hn) rfl⟩

/-- A signal that is about neither the fault list nor navigation. -/
theorem Good.put (h : Good w) {u : RobotState F}
    (hn : n ≠ .faultsList ∧ n ≠ .navStatus ∧ n ≠ .navTrail)
    (hread : ∀ p : Property, p.notify ≠ n → p.read u w.link = p.read w.state w.link) :
    Good (w.put u n) := by
  obtain ⟨hfaults, hnav, htrail⟩ := hn
  -- A member that is read under another signal has kept its value.
  have hstatus := PropValue.text.inj (hread .navStatus hnav.symm)
  have hpath := PropValue.points.inj (hread .navPath hnav.symm)
  have hpathFlat := PropValue.numbers.inj (hread .navPathFlat hnav.symm)
  have hpoints := PropValue.points.inj (hread .navTrail htrail.symm)
  have htrailFlat := PropValue.numbers.inj (hread .navTrailFlat htrail.symm)
  refine ⟨h.current.put hread, ⟨?_, ?_, ?_⟩, h.filled.of_eq (if_neg hfaults) ?_⟩
  · rw [state_put, hstatus]
    exact h.shaped.status
  · rw [state_put, hpathFlat, hpath]
    exact h.shaped.path
  · rw [state_put, htrailFlat, hpoints]
    exact h.shaped.trail
  · exact PropValue.variants.inj (hread .faultsList hfaults.symm)

/-- A guarded setter keeps the screen good. -/
theorem Good.putIf (h : Good w) {c : Prop} [Decidable c] {u : RobotState F}
    (hn : n ≠ .faultsList ∧ n ≠ .navStatus ∧ n ≠ .navTrail)
    (hread : ∀ p : Property, p.notify ≠ n → p.read u w.link = p.read w.state w.link) :
    Good (if c then w.put u n else w) := by
  split
  · exact h.put hn hread
  · exact h

/-- A text field of the message keeps the screen good. -/
theorem Good.applyText (h : Good w) {map : Json} {key : String} {get : RobotState F → Bytes}
    {set : Bytes → RobotState F → RobotState F}
    (hn : n ≠ .faultsList ∧ n ≠ .navStatus ∧ n ≠ .navTrail)
    (hread : ∀ v u l, ∀ p : Property, p.notify ≠ n → p.read (set v u) l = p.read u l) :
    Good (w.applyText map key get set n) :=
  h.putIf hn (hread _ _ _)

/-- A flag of the message keeps the screen good. -/
theorem Good.applyFlag (h : Good w) {map : Json} {key : String} {get : RobotState F → Bool}
    {set : Bool → RobotState F → RobotState F}
    (hn : n ≠ .faultsList ∧ n ≠ .navStatus ∧ n ≠ .navTrail)
    (hread : ∀ v u l, ∀ p : Property, p.notify ≠ n → p.read (set v u) l = p.read u l) :
    Good (w.applyFlag map key get set n) :=
  h.putIf hn (hread _ _ _)

/-- The flags are a row of flag setters. -/
theorem Good.applyFlags (h : Good w) (map : Json) : Good (w.applyFlags map) := by
  unfold Screen.applyFlags
  refine Good.applyFlag (Good.applyFlag (Good.applyText (Good.applyText (Good.applyText h
    ?_ ?_) ?_ ?_) ?_ ?_) ?_ ?_) ?_ ?_
  all_goals first
    | exact ⟨by decide, by decide, by decide⟩
    | exact fun v u l p hp => by cases p <;> first | rfl | exact absurd rfl hp

/-- The pose is stored and notified as a whole. -/
theorem Good.applyPose (h : Good w) (map : Json) : Good (w.applyPose map) := by
  unfold Screen.applyPose
  cases value map "pose" with
  | obj fields =>
      dsimp only
      split
      · exact h
      · refine h.put (by decide) fun p hp => ?_
        cases p <;> first | rfl | exact absurd rfl hp
  | _ => exact h

/-- The battery is stored and notified as a whole. -/
theorem Good.applyBattery (h : Good w) (map : Json) : Good (w.applyBattery map) := by
  refine h.putIf (by decide) fun p hp => ?_
  cases p <;> first | rfl | exact absurd rfl hp

/-- The liveness fields are stored with their own notifications. -/
theorem Good.applyLiveness (h : Good w) (map : Json) : Good (w.applyLiveness map) := by
  unfold Screen.applyLiveness
  refine Good.putIf ?_ (by decide) fun p hp => ?_
  · split
    · exact h
    · refine h.put (by decide) fun p hp => ?_
      cases p <;> first | rfl | exact absurd rfl hp
  · cases p <;> first | rfl | exact absurd rfl hp

/-- The task's texts and its progress. -/
theorem Good.applyTask (h : Good w) (map : Json) : Good (w.applyTask map) := by
  unfold Screen.applyTask
  cases value map "task" with
  | obj fields =>
      refine h.putIf (by decide) fun p hp => ?_
      cases p <;> first | rfl | exact absurd rfl hp
  | _ => exact h

/-- `applyFaults` emits `faultsChanged` in any case, and `faultsListChanged` unless the new list is
equal to the old one, and then its rows are the same. -/
theorem Good.applyFaults (h : Good w) (map : Json) : Good (w.applyFaults map) := by
  unfold Screen.applyFaults
  cases value map "faults" with
  | arr items =>
      dsimp only
      by_cases hequal : Containers.equalLists items w.state.faultsList = true
      · -- Nobody is told of an equal list, and its rows are those of the old one.
        rw [hequal, Bool.not_true, if_neg Bool.false_ne_true]
        refine ⟨CurrentOn.emit (CurrentOn.assign (h.current.mono fun _ _ => trivial) ?_),
          ⟨h.shaped.status, h.shaped.path, h.shaped.trail⟩, ⟨?_, h.filled.visible⟩⟩
        · intro p hp
          have hold := LawfulContainers.equalLists_symm F _ _ hequal
          cases p <;> first | exact .inl rfl | exact absurd rfl hp.2 | exact .inr hold
        · exact h.filled.all.trans
            (congrArg _ (LawfulContainers.equalLists_rows _ _ hequal).symm)
      · -- Of another list everybody is told, and the table is filled again.
        rw [Bool.not_eq_true] at hequal
        rw [hequal, Bool.not_false, if_pos rfl]
        refine ⟨CurrentOn.emit (CurrentOn.emit
          (CurrentOn.assign (h.current.mono fun _ _ => trivial) ?_)),
          ⟨h.shaped.status, h.shaped.path, h.shaped.trail⟩, ⟨rfl, rfl⟩⟩
        intro p hp
        cases p <;> first | exact .inl rfl | exact absurd rfl hp.2 | exact absurd rfl hp.1.2
  | _ => exact h

/-! ### Navigation -/

/-- The tracking error notifies for itself. -/
theorem CurrentOn.putTrackErr {ok : Notify → Prop} (h : CurrentOn ok w) (err : F) :
    CurrentOn ok (w.putTrackErr err) := by
  unfold Screen.putTrackErr
  split
  · exact h
  · refine h.put fun p hp => ?_
    cases p <;> first | rfl | exact absurd rfl hp

/-- The trail notifies for itself when it is dirty, and stays as it is otherwise. -/
theorem CurrentOn.putTrail {ok : Notify → Prop} (h : CurrentOn ok w) (dirty : Bool)
    (trail : List (F × F)) : CurrentOn ok (w.putTrail dirty trail) := by
  unfold Screen.putTrail
  split
  · refine h.put fun p hp => ?_
    cases p <;> first | rfl | exact absurd rfl hp
  · exact h

omit [PartialEquivBEq F] [LawfulContainers F] in
/-- The tracking error is no row of the table. -/
theorem table_putTrackErr (err : F) : (w.putTrackErr err).table = w.table := by
  unfold Screen.putTrackErr
  split <;> rfl

omit [PartialEquivBEq F] [LawfulContainers F] in
/-- The trail is no row of the table. -/
theorem table_putTrail (dirty : Bool) (trail : List (F × F)) :
    (w.putTrail dirty trail).table = w.table := by
  unfold Screen.putTrail
  split <;> rfl

omit [Containers] [PartialEquivBEq F] [LawfulContainers F] in
/-- The navigation fields keep the record shaped. -/
theorem Shaped.applyNav {u : RobotState F} (h : Shaped u) (map : Json) :
    Shaped (u.applyNav map) := by
  unfold RobotState.applyNav
  cases value map "nav" with
  | obj fields =>
      refine ⟨?_, rfl, ?_⟩
      · dsimp only
        split
        · decide
        · assumption
      · dsimp only
        split
        · rfl
        · exact h.trail
  | _ => exact h

omit [Containers] [PartialEquivBEq F] [LawfulContainers F] in
/-- The navigation fields leave the list of faults alone. -/
theorem faultsList_applyNav (map : Json) (u : RobotState F) :
    (u.applyNav map).faultsList = u.faultsList := by
  unfold RobotState.applyNav
  cases value map "nav" <;> rfl

omit [PartialEquivBEq F] [LawfulContainers F] in
/-- The navigation fields leave the table alone. -/
theorem table_applyNav (map : Json) : (w.applyNav map).table = w.table := by
  unfold Screen.applyNav
  cases value map "nav" with
  | obj fields =>
      dsimp only
      split
      · exact (table_putTrail _ _).trans (table_putTrackErr _)
      · exact (table_putTrail _ _).trans (table_putTrackErr _)
  | _ => rfl

/-- `applyNav` assigns before it knows whether to emit. Without the signal the status is the kept
one, which is not empty, and equal flat lists are those of equal points. -/
theorem current_applyNav (h : Good w) (map : Json) :
    CurrentOn (fun _ => True) (w.applyNav map) := by
  unfold Screen.applyNav
  cases value map "nav" with
  | obj fields =>
      refine currentOn_emitIf (fun _ => ?_) fun hsame => ?_
      · -- The signal at the end makes up for what is assigned before.
        refine CurrentOn.putTrail (CurrentOn.putTrackErr
          (CurrentOn.assign (h.current.mono fun _ _ => trivial) fun p hp => ?_) _) _ _
        cases p <;> first | exact .inl rfl | exact absurd rfl hp.2
      · refine CurrentOn.putTrail (CurrentOn.putTrackErr
          (CurrentOn.assign h.current fun p _ => ?_) _) _ _
        -- Nothing has changed by the code's comparison, and each field is one of those it compares.
        simp only [not_or, not_not] at hsame
        obtain ⟨hstatus, hlen, hidx, hgx, hgy, -, -, hflat⟩ := hsame
        have hflat' := beq_list_symm hflat
        cases p with
        | navStatus =>
            refine .inl (congrArg PropValue.text ?_)
            dsimp only
            rw [hstatus, if_neg h.shaped.status]
        | navPathLen => exact .inl (congrArg PropValue.integer hlen.symm)
        | navIdx => exact .inl (congrArg PropValue.integer hidx.symm)
        | navPath =>
            refine .inr ?_
            show (RobotState.flatten w.state.navPath == _) = true
            rw [← h.shaped.path]
            exact hflat'
        | navPathFlat => exact .inr hflat'
        | navGoalX => exact .inr (PartialEquivBEq.symm hgx)
        | navGoalY => exact .inr (PartialEquivBEq.symm hgy)
        | _ => exact .inl rfl
  | _ => exact h.current

/-- The navigation fields keep the screen good, the dirty trail included. -/
theorem Good.applyNav (h : Good w) (map : Json) : Good (w.applyNav map) := by
  refine ⟨current_applyNav h map, ?_, h.filled.of_eq (table_applyNav map) ?_⟩
  · rw [state_applyNav]
    exact h.shaped.applyNav map
  · rw [state_applyNav, faultsList_applyNav]

/-- A whole message keeps the screen good: one field group after the other. -/
theorem Good.applyState (h : Good w) (map : Json) : Good (w.applyState map) :=
  ((((((h.applyFlags map).applyPose map).applyBattery map).applyLiveness map).applyTask
    map).applyFaults map).applyNav map

/-! ### The other calls -/

omit [PartialEquivBEq F] [LawfulContainers F] in
/-- A row of notifications leaves the state alone. -/
theorem state_emitAll : ∀ (ns : List Notify) (w : Screen F),
    (ns.foldl (fun w n => w.emit n) w).state = w.state
  | [], _ => rfl
  | n :: ns, w => state_emitAll ns (w.emit n)

omit [PartialEquivBEq F] [LawfulContainers F] in
/-- A row of notifications leaves the link alone. -/
theorem link_emitAll : ∀ (ns : List Notify) (w : Screen F),
    (ns.foldl (fun w n => w.emit n) w).link = w.link
  | [], _ => rfl
  | n :: ns, w => link_emitAll ns (w.emit n)

omit [PartialEquivBEq F] [LawfulContainers F] in
/-- A row of notifications without the list of faults leaves the table alone. -/
theorem table_emitAll : ∀ (ns : List Notify) (w : Screen F), .faultsList ∉ ns →
    (ns.foldl (fun w n => w.emit n) w).table = w.table
  | [], _, _ => rfl
  | n :: ns, w, hns => by
      rw [List.mem_cons, not_or] at hns
      exact (table_emitAll ns (w.emit n) hns.2).trans (if_neg (Ne.symm hns.1))

/-- `resetRemote` keeps the fault list, the goal and the tracking error, and emits a signal for
everything else. -/
theorem Good.resetRemote (h : Good w) : Good w.resetRemote := by
  refine ⟨CurrentOn.emitAll _ (CurrentOn.assign (h.current.mono fun _ _ => trivial) ?_), ?_,
    h.filled.of_eq (table_emitAll _ _ (by decide)) ?_⟩
  · intro p hp
    cases p <;> first | exact .inl rfl | exact absurd (by decide) hp.2
  · rw [show w.resetRemote.state = w.state.resetRemote from state_emitAll _ _]
    exact ⟨h.shaped.status, rfl, rfl⟩
  · rw [show w.resetRemote.state = w.state.resetRemote from state_emitAll _ _]
    rfl

/-- A setter of the link that returns early when nothing changes. -/
theorem Good.putLinkUnless (h : Good w) {c : Prop} [Decidable c] {l : Link}
    (hn : n ≠ .faultsList)
    (hread : ∀ p : Property, p.notify ≠ n → p.read w.state l = p.read w.state w.link) :
    Good (if c then w else w.putLink l n) := by
  split
  · exact h
  · exact h.putLink hn hread

/-- Every call on the model keeps the screen good. -/
theorem Good.call (h : Good w) (k : StateCall) : Good (w.call k) := by
  cases k with
  | setAutoReconnect v | setReconnectAttempts v | setConnecting v | setErrorString v
  | setHeartbeatRtt v =>
      refine h.putLinkUnless (by decide) fun p hp => ?_
      cases p <;> first | rfl | exact absurd rfl hp
  | setEndpoint v v' | setHelloInfo v v' =>
      refine Good.putLinkUnless (h.putLinkUnless (by decide) fun p hp => ?_) (by decide)
        fun p hp => ?_ <;>
        cases p <;> first | rfl | exact absurd rfl hp
  | setLastCmdAck ack =>
      refine h.putLink (by decide) fun p hp => ?_
      cases p <;> first | rfl | exact absurd rfl hp
  | setConnected v =>
      -- The setter returns early when nothing changes.
      show Good (if w.state.connected = v then w else _)
      split
      · exact h
      · refine h.put (by decide) fun p hp => ?_
        cases p <;> first | rfl | exact absurd rfl hp
  | applyState map => exact h.applyState map
  | resetRemote => exact h.resetRemote
  | setLevelFilter level =>
      refine ⟨h.current, h.shaped, ?_⟩
      show Filled { w with table := w.table.setLevelFilter level }
      unfold FaultTableModel.setLevelFilter
      split
      · exact h.filled
      · exact ⟨h.filled.all, rfl⟩

omit [PartialEquivBEq F] in
/-- The screen as `main` makes it. -/
theorem good_init : Good ({} : Screen F) where
  current p _ := .refl _
  shaped := ⟨show ascii "IDLE" ≠ [] by decide, rfl, rfl⟩
  filled := ⟨(LawfulContainers.sort_perm F _ (strictWeak_less F) []).eq_nil.symm, rfl⟩

/-- So the screen is good after any calls, by induction on them. -/
theorem good_after (calls : List StateCall) : Good (after calls : Screen F) := by
  unfold after
  -- Along the calls, from any screen on.
  have hcalls : ∀ w : Screen F, Good w → Good (calls.foldl call w) := by
    induction calls with
    | nil => exact fun _ h => h
    | cons k calls ih => exact fun w h => ih _ (h.call k)
  exact hcalls _ good_init

end Calls

end Screen

end BotCockpit.Ui
