import BotCockpit.Lib.Bytes
import Mathlib.Data.List.Induction

/-!
# `BotCockpit.Lib.Stream`: incremental decoding of a byte stream

A receiver keeps a buffer, appends each chunk that arrives, and calls `next` until it yields
nothing. `next buf` answers with the message at the front, if it is complete, and with the
buffer that is left. `drain` is that loop, `receive` one chunk, `receiveAll` a list of chunks.

`StreamCodec` is a message encoding together with such a `next`, with the three laws the round
trip needs: a complete message at the front is taken, a proper part of one is kept, and an
empty buffer stays empty. The decoder may do anything on other buffers.

The main lemma is `StreamCodec.drain_prefix`. Take a buffer that is the front of a
concatenation of messages. Then `drain` yields exactly the messages that are complete in it,
and keeps the front of the next one (`Incomplete`). `StreamCodec.receiveAll_of_append` is the
induction over the chunks, and `StreamCodec.taken_iff` says how many messages have been taken.
-/

set_option autoImplicit false

namespace BotCockpit.Lib

variable {α : Type}

/-- `next` until it yields no message, at most `fuel` times. -/
def drainFuel (next : Bytes → Option α × Bytes) : Nat → Bytes → List α × Bytes
  | 0, buf => ([], buf)
  | fuel + 1, buf =>
      match next buf with
      | (none, rest) => ([], rest)
      | (some a, rest) =>
          let (as, rest') := drainFuel next fuel rest
          (a :: as, rest')

/-- `next` until it yields no message. Each message takes at least one byte, so one call per
byte, and one more that yields nothing, is enough. -/
def drain (next : Bytes → Option α × Bytes) (buf : Bytes) : List α × Bytes :=
  drainFuel next (buf.length + 1) buf

/-- One chunk: append it to the buffer and drain. -/
def receive (next : Bytes → Option α × Bytes) (s : List α × Bytes) (chunk : Bytes) :
    List α × Bytes :=
  let (as, rest) := drain next (s.2 ++ chunk)
  (s.1 ++ as, rest)

/-- The messages yielded and the buffer left after a list of chunks, from an empty buffer. -/
def receiveAll (next : Bytes → Option α × Bytes) (chunks : List Bytes) : List α × Bytes :=
  chunks.foldl (receive next) ([], [])

/-- A message that is taken takes bytes away. -/
def Shrinks (next : Bytes → Option α × Bytes) : Prop :=
  ∀ {a : α} {buf rest : Bytes}, next buf = (some a, rest) → rest.length < buf.length

section Drain

variable {next : Bytes → Option α × Bytes}

/-- More fuel than bytes makes no difference. -/
theorem drainFuel_eq_drain (hshrink : Shrinks next) {fuel : Nat} {buf : Bytes}
    (h : buf.length < fuel) : drainFuel next fuel buf = drain next buf := by
  suffices hall : ∀ n (buf : Bytes) (f g : Nat), buf.length < n → buf.length < f →
      buf.length < g → drainFuel next f buf = drainFuel next g buf from
    hall _ buf fuel (buf.length + 1) h h (Nat.lt_succ_self _)
  intro n
  induction n with
  | zero => intro buf f g hn; omega
  | succ n ih =>
      intro buf f g hn hf hg
      cases f with
      | zero => omega
      | succ f =>
          cases g with
          | zero => omega
          | succ g =>
              simp only [drainFuel]
              split
              · rfl
              · rename_i a rest hnext
                have hlt := hshrink hnext
                rw [ih rest f g (by omega) (by omega) (by omega)]

/-- The loop stops where `next` yields nothing. -/
theorem drain_of_none {buf rest : Bytes} (h : next buf = (none, rest)) :
    drain next buf = ([], rest) := by
  simp [drain, drainFuel, h]

/-- The loop takes the message `next` yields and goes on with the rest. -/
theorem drain_of_some (hshrink : Shrinks next) {a : α} {buf rest : Bytes}
    (h : next buf = (some a, rest)) :
    drain next buf = (a :: (drain next rest).1, (drain next rest).2) := by
  have hlt := hshrink h
  show drainFuel next (buf.length + 1) buf = _
  rw [drainFuel, h]
  simp only [drainFuel_eq_drain hshrink hlt]

/-- The calls of `next` on this buffer, one after the other, and what they leave. -/
inductive Drains (next : Bytes → Option α × Bytes) : Bytes → List α → Bytes → Prop
  | stop {buf rest : Bytes} : next buf = (none, rest) → Drains next buf [] rest
  | take {a : α} {as : List α} {buf rest left : Bytes} : next buf = (some a, rest) →
      Drains next rest as left → Drains next buf (a :: as) left

/-- **The loop ends**, and `drain` is what it comes to. -/
theorem drains (hshrink : Shrinks next) (buf : Bytes) :
    Drains next buf (drain next buf).1 (drain next buf).2 := by
  induction hn : buf.length using Nat.strong_induction_on generalizing buf with
  | _ n ih =>
      cases hnext : next buf with
      | mk a rest =>
          cases a with
          | none =>
              rw [drain_of_none hnext]
              exact Drains.stop hnext
          | some a =>
              rw [drain_of_some hshrink hnext]
              exact Drains.take hnext (ih _ (hn ▸ hshrink hnext) rest rfl)

/-- What is left is what the last call left. -/
theorem Drains.stopped {buf rest : Bytes} {as : List α} (h : Drains next buf as rest) :
    ∃ last, next last = (none, rest) := by
  induction h with
  | stop hnone => exact ⟨_, hnone⟩
  | take _ _ ih => exact ih

/-- What holds of every message that is taken holds of all of them. -/
theorem Drains.all {P : α → Prop} (hP : ∀ {a buf rest}, next buf = (some a, rest) → P a)
    {buf rest : Bytes} {as : List α} (h : Drains next buf as rest) : ∀ a ∈ as, P a := by
  induction h with
  | stop _ => exact fun a ha => absurd ha List.not_mem_nil
  | take hsome _ ih =>
      intro a ha
      rcases List.mem_cons.mp ha with rfl | ha
      · exact hP hsome
      · exact ih a ha

end Drain

/-- A message encoding and the incremental decoder of a receiver. -/
structure StreamCodec (α : Type) where
  /-- The messages the encoding is meant for. -/
  Valid : α → Prop
  encode : α → Bytes
  next : Bytes → Option α × Bytes
  /-- A message at the front of the buffer takes bytes away. -/
  shrinks : ∀ {a buf rest}, next buf = (some a, rest) → rest.length < buf.length
  /-- A complete message at the front is taken. -/
  next_encode : ∀ {a} (rest : Bytes), Valid a → next (encode a ++ rest) = (some a, rest)
  /-- A proper part of a message is kept. -/
  next_partial : ∀ {a buf}, Valid a → buf <+: encode a → buf ≠ encode a →
    next buf = (none, buf)
  next_nil : next [] = (none, [])

namespace StreamCodec

variable (c : StreamCodec α)

/-- The concatenation of the encoded messages. -/
def encodeAll (as : List α) : Bytes := (as.map c.encode).flatten

/-- Nothing is encoded by nothing. -/
@[simp] theorem encodeAll_nil : c.encodeAll [] = [] := rfl

/-- One more at the front. -/
@[simp] theorem encodeAll_cons (a : α) (as : List α) :
    c.encodeAll (a :: as) = c.encode a ++ c.encodeAll as := rfl

/-- Two lists are encoded one after the other. -/
theorem encodeAll_append (as bs : List α) :
    c.encodeAll (as ++ bs) = c.encodeAll as ++ c.encodeAll bs := by
  simp [encodeAll]

/-- An encoded message is not empty: taking it must shrink the buffer. -/
theorem encode_length_pos {a : α} (ha : c.Valid a) : 0 < (c.encode a).length := by
  have h := c.shrinks (c.next_encode [] ha)
  simpa using h

/-- `buf` is what a receiver keeps in front of the messages `as`: nothing when there is none,
else a proper part of the first one. -/
def Incomplete (buf : Bytes) : List α → Prop
  | [] => buf = []
  | a :: _ => buf <+: c.encode a ∧ buf ≠ c.encode a

/-- **Draining the front of a message sequence.** The complete messages are yielded in order,
and the front of the next one is kept. Induction on the messages; each step compares the
buffer with the first message. -/
theorem drain_prefix {as : List α} (hvalid : ∀ a ∈ as, c.Valid a) {buf rest : Bytes}
    (hbuf : buf ++ rest = c.encodeAll as) :
    ∃ done todo p, as = done ++ todo ∧ drain c.next buf = (done, p) ∧
      buf = c.encodeAll done ++ p ∧ p ++ rest = c.encodeAll todo ∧ c.Incomplete p todo := by
  induction as generalizing buf with
  | nil =>
      obtain ⟨rfl, rfl⟩ : buf = [] ∧ rest = [] := by simpa using hbuf
      exact ⟨[], [], [], rfl, drain_of_none c.next_nil, rfl, rfl, rfl⟩
  | cons a as ih =>
      have ha : c.Valid a := hvalid a (by simp)
      rw [encodeAll_cons] at hbuf
      by_cases hlen : buf.length < (c.encode a).length
      · -- The first message is not complete, so nothing is taken.
        have hpre : buf <+: c.encode a :=
          List.prefix_of_prefix_length_le (by rw [← hbuf]; exact List.prefix_append _ _)
            (List.prefix_append _ _) (Nat.le_of_lt hlen)
        have hne : buf ≠ c.encode a := fun h => by rw [h] at hlen; omega
        exact ⟨[], a :: as, buf, rfl, drain_of_none (c.next_partial ha hpre hne), rfl,
          by simpa using hbuf, hpre, hne⟩
      · -- The first message is complete: take it and go on with what follows it.
        obtain ⟨buf', rfl⟩ : c.encode a <+: buf :=
          List.prefix_of_prefix_length_le (by rw [hbuf]; exact List.prefix_append _ _)
            (List.prefix_append _ _) (Nat.le_of_not_lt hlen)
        rw [List.append_assoc] at hbuf
        obtain ⟨done, todo, p, has, hdrain, hbuf', hrest, hinc⟩ :=
          ih (fun a' ha' => hvalid a' (by simp [ha'])) (List.append_cancel_left hbuf)
        refine ⟨a :: done, todo, p, by simp [has], ?_, ?_, hrest, hinc⟩
        · rw [drain_of_some c.shrinks (c.next_encode buf' ha), hdrain]
        · rw [hbuf', encodeAll_cons, List.append_assoc]

/-- **Receiving a message sequence in chunks.** After any chunks that are the front of a
message sequence, the receiver has yielded the complete messages in order and keeps the front
of the next one. Induction on the chunks from the left: the state after them is the invariant
that `drain_prefix` re-establishes. -/
theorem receiveAll_of_append {as : List α} (hvalid : ∀ a ∈ as, c.Valid a)
    {chunks : List Bytes} {rest : Bytes} (h : chunks.flatten ++ rest = c.encodeAll as) :
    ∃ done todo p, as = done ++ todo ∧ receiveAll c.next chunks = (done, p) ∧
      chunks.flatten = c.encodeAll done ++ p ∧ p ++ rest = c.encodeAll todo ∧
      c.Incomplete p todo := by
  induction chunks using List.reverseRecOn generalizing rest with
  | nil =>
      refine ⟨[], as, [], rfl, rfl, rfl, by simpa using h, ?_⟩
      cases as with
      | nil => rfl
      | cons a as =>
          have hpos := c.encode_length_pos (hvalid a (by simp))
          exact ⟨List.nil_prefix, fun h => by rw [← h] at hpos; simp at hpos⟩
  | append_singleton chunks chunk ih =>
      have h' : chunks.flatten ++ (chunk ++ rest) = c.encodeAll as := by
        simpa [List.append_assoc] using h
      obtain ⟨done, todo, p, has, hrecv, hflat, hrest, -⟩ := ih h'
      have htodo : ∀ a ∈ todo, c.Valid a := fun a ha => hvalid a (by simp [has, ha])
      obtain ⟨done', todo', p', htodo', hdrain, hbuf, hrest', hinc⟩ :=
        c.drain_prefix htodo
          (show (p ++ chunk) ++ rest = c.encodeAll todo by simpa using hrest)
      refine ⟨done ++ done', todo', p', by simp [has, htodo'], ?_, ?_, hrest', hinc⟩
      · rw [receiveAll, List.foldl_append]
        show receive c.next (receiveAll c.next chunks) chunk = _
        simp only [hrecv, receive, hdrain]
      · rw [List.flatten_append, hflat, encodeAll_append]
        simp only [List.flatten_cons, List.flatten_nil, List.append_nil, List.append_assoc]
        rw [hbuf]

/-- The first `n` messages have been taken exactly when all their bytes have arrived. -/
theorem taken_iff {as done todo : List α} {p : Bytes} (has : as = done ++ todo)
    (hinc : c.Incomplete p todo) {n : Nat} (hn : n ≤ as.length) :
    n ≤ done.length ↔
      (c.encodeAll (as.take n)).length ≤ (c.encodeAll done ++ p).length := by
  subst has
  constructor
  · intro hle
    rw [List.take_append_of_le_length hle]
    have hsplit : c.encodeAll done = c.encodeAll (done.take n) ++ c.encodeAll (done.drop n) := by
      rw [← encodeAll_append, List.take_append_drop]
    rw [hsplit]
    simp only [List.length_append]
    omega
  · intro hle
    by_contra hgt
    cases todo with
    | nil => simp at hn; omega
    | cons a todo =>
        obtain ⟨hpre, hne⟩ := hinc
        have hlt : p.length < (c.encode a).length := by
          refine Nat.lt_of_le_of_ne hpre.length_le fun heq => hne ?_
          exact hpre.eq_of_length heq
        obtain ⟨k, hk⟩ : ∃ k, n = done.length + (k + 1) := ⟨n - done.length - 1, by omega⟩
        rw [hk, List.take_length_add_append, List.take_succ_cons, encodeAll_append,
          encodeAll_cons] at hle
        simp only [List.length_append] at hle
        omega

end StreamCodec

end BotCockpit.Lib
