import BotCockpit.Lib.Bytes

/-!
# `BotCockpit.Lib.Utf8`: well-formed UTF-8

The syntax of RFC 3629 as a machine that takes one byte at a time. A state is the number of
continuation bytes that are owed, with the range of the next one: the range is narrower after the
lead bytes that would otherwise admit overlong forms, surrogates and values above U+10FFFF.

An ASCII byte is read between two characters only (`run_ascii`). So a well-formed text may be cut
at an ASCII byte (`wellFormed_of_append_ascii`), and ASCII bytes may be put in between.
-/

set_option autoImplicit false

namespace BotCockpit.Lib.Utf8

/-- Where the machine stands in a text. -/
structure State where
  owed : Nat := 0
  lo : UInt8 := 0x80
  hi : UInt8 := 0xBF
  deriving DecidableEq, Repr

/-- Between two characters. -/
def start : State := {}

/-- The state after the first byte of a character. -/
def lead (b : UInt8) : Option State :=
  if b < 0x80 then some start
  else if b < 0xC2 then none
  else if b < 0xE0 then some { owed := 1 }
  else if b < 0xF0 then
    some { owed := 2, lo := if b = 0xE0 then 0xA0 else 0x80, hi := if b = 0xED then 0x9F else 0xBF }
  else if b < 0xF5 then
    some { owed := 3, lo := if b = 0xF0 then 0x90 else 0x80, hi := if b = 0xF4 then 0x8F else 0xBF }
  else none

def step (s : State) (b : UInt8) : Option State :=
  if s.owed = 0 then lead b
  else if s.lo ≤ b ∧ b ≤ s.hi then some (if s.owed = 1 then start else { owed := s.owed - 1 })
  else none

/-- The state after a text. -/
def run : State → Bytes → Option State
  | s, [] => some s
  | s, b :: bs => (step s b).bind fun t => run t bs

/-- The text is well-formed UTF-8. -/
def WellFormed (bs : Bytes) : Prop := run start bs = some start

instance (bs : Bytes) : Decidable (WellFormed bs) := by
  unfold WellFormed
  infer_instance

/-- A text and then another one. -/
theorem run_append (s : State) (xs ys : Bytes) :
    run s (xs ++ ys) = (run s xs).bind fun t => run t ys := by
  induction xs generalizing s with
  | nil => rfl
  | cons b xs ih =>
      simp only [List.cons_append, run]
      cases step s b with
      | none => rfl
      | some t => exact ih t

/-- What the machine keeps: only the start owes nothing, and the range of a continuation byte has
no ASCII byte. -/
structure Inv (s : State) : Prop where
  start : s.owed = 0 → s = Utf8.start
  lo : s.owed ≠ 0 → 0x80 ≤ s.lo

/-- The invariant of the automaton holds at its start. -/
theorem inv_start : Inv start := ⟨fun _ => rfl, fun h => absurd rfl h⟩

/-- It holds after a leading byte. -/
theorem inv_lead {t : State} {b : UInt8} (h : lead b = some t) : Inv t := by
  unfold lead at h
  repeat' split at h
  all_goals cases h
  all_goals first
    | exact inv_start
    | exact ⟨fun howed => absurd howed (by decide), fun _ => by decide⟩

/-- A byte keeps it. -/
theorem inv_step {s t : State} {b : UInt8} (h : step s b = some t) : Inv t := by
  unfold step at h
  split at h
  · exact inv_lead h
  · split at h
    · split at h <;> cases h
      · exact inv_start
      · exact ⟨fun howed => by simp only at howed; omega, fun _ => UInt8.le_refl _⟩
    · cases h

/-- An ASCII byte comes between two characters. -/
theorem step_ascii {s t : State} {a : UInt8} (hs : Inv s) (ha : a < 0x80)
    (h : step s a = some t) : s = start ∧ t = start := by
  unfold step at h
  split at h
  · rename_i howed
    rw [lead, if_pos ha] at h
    exact ⟨hs.start howed, (Option.some.inj h).symm⟩
  · rename_i howed
    split at h
    · rename_i hrange
      have hle := hs.lo howed
      rw [UInt8.lt_iff_toNat_lt] at ha
      simp only [UInt8.le_iff_toNat_le] at hle hrange
      omega
    · cases h

/-- So does a text. -/
theorem inv_run {s t : State} {bs : Bytes} (hs : Inv s) (h : run s bs = some t) : Inv t := by
  induction bs generalizing s with
  | nil =>
      rw [← Option.some.inj h]
      exact hs
  | cons b bs ih =>
      rw [run, Option.bind_eq_some_iff] at h
      obtain ⟨u, hu, h⟩ := h
      exact ih (inv_step hu) h

/-- An ASCII byte is read at the start, and leads there. -/
theorem run_ascii {s t : State} {a : UInt8} {bs : Bytes} (hs : Inv s) (ha : a < 0x80)
    (h : run s (a :: bs) = some t) : s = start ∧ run start bs = some t := by
  rw [run, Option.bind_eq_some_iff] at h
  obtain ⟨u, hu, h⟩ := h
  obtain ⟨rfl, rfl⟩ := step_ascii hs ha hu
  exact ⟨rfl, h⟩

/-- An ASCII byte leads from the start to the start. -/
theorem run_start_ascii {a : UInt8} (ha : a < 0x80) (bs : Bytes) :
    run start (a :: bs) = run start bs := by
  have hstep : step start a = some start := by
    rw [step, if_pos (show start.owed = 0 from rfl), lead, if_pos ha]
  rw [run, hstep, Option.bind_some]

/-- Two well-formed texts, one after the other, are one. -/
theorem WellFormed.append {xs ys : Bytes} (hx : WellFormed xs) (hy : WellFormed ys) :
    WellFormed (xs ++ ys) := by
  rw [WellFormed, run_append, hx, Option.bind_some, hy]

/-- The two sides of an ASCII byte in a well-formed text are well-formed. -/
theorem wellFormed_of_append_ascii {xs ys : Bytes} {a : UInt8} (ha : a < 0x80)
    (h : WellFormed (xs ++ a :: ys)) : WellFormed xs ∧ WellFormed ys := by
  rw [WellFormed, run_append, Option.bind_eq_some_iff] at h
  obtain ⟨s, hxs, h⟩ := h
  obtain ⟨rfl, hys⟩ := run_ascii (inv_run inv_start hxs) ha h
  exact ⟨hxs, hys⟩

/-- An ASCII text is well-formed. -/
theorem wellFormed_of_ascii {bs : Bytes} (h : ∀ b ∈ bs, b < 0x80) : WellFormed bs := by
  induction bs with
  | nil => rfl
  | cons b bs ih =>
      rw [WellFormed, run_start_ascii (h b List.mem_cons_self)]
      exact ih fun c hc => h c (List.mem_cons_of_mem b hc)

example : WellFormed [0xE2, 0x82, 0xAC] ∧ ¬WellFormed [0xC0, 0x80] := by decide

end BotCockpit.Lib.Utf8
