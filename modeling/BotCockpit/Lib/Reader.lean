import BotCockpit.Lib.Stream
import Mathlib.Data.List.Infix

/-!
# `BotCockpit.Lib.Reader`: decoding a stream that may hold anything

`StreamCodec` is about streams that an encoder has made. A `Reader` is a decoder that is fed
arbitrary bytes: what it takes is a message as the encoder writes it, more bytes behind a message
do not change it, and where it takes nothing it keeps its buffer or drops it. A buffer that is
dropped would have been dropped with more bytes behind it too.

Nothing is made up, then (`Reader.pieces_receiveAll`): the messages are pieces of the stream, in
order. And the way the stream is cut into chunks makes no difference up to the first drop
(`Reader.prefix_receiveAll`), nor at all when nothing is dropped (`Reader.receiveAll_eq`).
-/

set_option autoImplicit false

namespace BotCockpit.Lib

variable {α : Type}

/-- The messages are pieces of the stream, in order and apart from each other, with anything
between them. -/
inductive Pieces (encode : α → Bytes) : Bytes → List α → Prop
  | none (gap : Bytes) : Pieces encode gap []
  | snoc {s : Bytes} {as : List α} (h : Pieces encode s as) (a : α) (gap : Bytes) :
      Pieces encode (s ++ encode a ++ gap) (as ++ [a])

/-- More bytes may follow. -/
theorem Pieces.append {encode : α → Bytes} {s : Bytes} {as : List α} (h : Pieces encode s as)
    (more : Bytes) : Pieces encode (s ++ more) as := by
  cases h with
  | none gap => exact Pieces.none _
  | snoc h a gap =>
      rw [List.append_assoc]
      exact Pieces.snoc h a (gap ++ more)

/-- Messages without anything between them may follow. -/
theorem Pieces.append_all {encode : α → Bytes} {s : Bytes} {as : List α} (h : Pieces encode s as)
    (bs : List α) : Pieces encode (s ++ (bs.map encode).flatten) (as ++ bs) := by
  induction bs using List.reverseRecOn with
  | nil => simpa using h
  | append_singleton bs b ih =>
      have hnext := Pieces.snoc ih b []
      simpa [List.append_assoc] using hnext

/-- A decoder of arbitrary bytes. -/
structure Reader (α : Type) where
  encode : α → Bytes
  next : Bytes → Option α × Bytes
  encode_ne_nil : ∀ a, encode a ≠ []
  /-- What is taken is a message as it is encoded. -/
  takes : ∀ {a buf rest}, next buf = (some a, rest) → buf = encode a ++ rest
  /-- A message at the front is taken whatever follows it. -/
  takes_append : ∀ {a buf rest}, next buf = (some a, rest) → ∀ more,
    next (buf ++ more) = (some a, rest ++ more)
  /-- Where nothing is taken the buffer is kept, or dropped whatever follows it. -/
  stops : ∀ {buf rest}, next buf = (none, rest) →
    rest = buf ∨ rest = [] ∧ ∀ more, next (buf ++ more) = (none, [])

namespace Reader

variable (r : Reader α)

/-- A reader that takes something leaves a shorter buffer. -/
theorem shrinks : Shrinks r.next := by
  intro a buf rest h
  have hpos := List.length_pos_of_ne_nil (r.encode_ne_nil a)
  rw [r.takes h, List.length_append]
  omega

/-- The concatenation of the encoded messages. -/
def encodeAll (as : List α) : Bytes := (as.map r.encode).flatten

/-- The encoding of a list, one more at the front. -/
theorem encodeAll_cons (a : α) (as : List α) :
    r.encodeAll (a :: as) = r.encode a ++ r.encodeAll as := rfl

/-- From an empty buffer nothing is taken. -/
theorem drain_nil : drain r.next [] = ([], []) := by
  cases hnext : r.next [] with
  | mk a rest =>
      cases a with
      | none =>
          rw [drain_of_none hnext]
          rcases r.stops hnext with rfl | ⟨rfl, -⟩ <;> rfl
      | some a =>
          have hshrink := r.shrinks hnext
          simp at hshrink

/-- **What a buffer holds**: the messages that are taken, and then bytes that are kept until more
come, or that are dropped whatever comes. -/
theorem drain_cases (buf : Bytes) :
    (buf = r.encodeAll (drain r.next buf).1 ++ (drain r.next buf).2 ∧
        ∀ more, drain r.next (buf ++ more) =
          ((drain r.next buf).1 ++ (drain r.next ((drain r.next buf).2 ++ more)).1,
            (drain r.next ((drain r.next buf).2 ++ more)).2)) ∨
      (∃ left, left ≠ [] ∧ buf = r.encodeAll (drain r.next buf).1 ++ left ∧
        r.next left = (none, []) ∧ (drain r.next buf).2 = [] ∧
        ∀ more, drain r.next (buf ++ more) = ((drain r.next buf).1, [])) := by
  have hrun := drains r.shrinks buf
  generalize (drain r.next buf).1 = as at hrun ⊢
  generalize (drain r.next buf).2 = rest at hrun ⊢
  induction hrun with
  | @stop buf rest hnone =>
      rcases r.stops hnone with rfl | ⟨rfl, hmore⟩
      · exact Or.inl ⟨rfl, fun more => rfl⟩
      · cases buf with
        | nil => exact Or.inl ⟨rfl, fun more => rfl⟩
        | cons b bs =>
            exact Or.inr ⟨b :: bs, List.cons_ne_nil _ _, rfl, hnone, rfl,
              fun more => drain_of_none (hmore more)⟩
  | @take a as buf rest left hsome _ ih =>
      have hbuf := r.takes hsome
      have hstep : ∀ more, drain r.next (buf ++ more) =
          (a :: (drain r.next (rest ++ more)).1, (drain r.next (rest ++ more)).2) :=
        fun more => drain_of_some r.shrinks (r.takes_append hsome more)
      rcases ih with ⟨hrest, hmore⟩ | ⟨gone, hne, hrest, hgone, hnil, hmore⟩
      · refine Or.inl ⟨?_, fun more => ?_⟩
        · rw [encodeAll_cons, List.append_assoc, ← hrest, hbuf]
        · rw [hstep, hmore]
          rfl
      · refine Or.inr ⟨gone, hne, ?_, hgone, hnil, fun more => ?_⟩
        · rw [encodeAll_cons, List.append_assoc, ← hrest, hbuf]
        · rw [hstep, hmore]

/-- One chunk more. -/
theorem receiveAll_snoc (chunks : List Bytes) (chunk : Bytes) :
    receiveAll r.next (chunks ++ [chunk]) =
      ((receiveAll r.next chunks).1 ++
          (drain r.next ((receiveAll r.next chunks).2 ++ chunk)).1,
        (drain r.next ((receiveAll r.next chunks).2 ++ chunk)).2) := by
  rw [receiveAll, List.foldl_append]
  rfl

/-- **Nothing is made up.** After any chunks the messages are pieces of the stream so far, in front
of the bytes that are kept. -/
theorem pieces_receiveAll (chunks : List Bytes) :
    ∃ s, chunks.flatten = s ++ (receiveAll r.next chunks).2 ∧
      Pieces r.encode s (receiveAll r.next chunks).1 := by
  induction chunks using List.reverseRecOn with
  | nil => exact ⟨[], rfl, Pieces.none []⟩
  | append_singleton chunks chunk ih =>
      obtain ⟨s, hs, hpieces⟩ := ih
      rw [receiveAll_snoc, List.flatten_append, hs]
      generalize (receiveAll r.next chunks).2 = kept
      simp only [List.flatten_cons, List.flatten_nil, List.append_nil]
      have hmore := hpieces.append_all (drain r.next (kept ++ chunk)).1
      rcases r.drain_cases (kept ++ chunk) with ⟨hbuf, -⟩ | ⟨left, -, hbuf, -, hnil, -⟩
      · refine ⟨_, ?_, hmore⟩
        rw [List.append_assoc, List.append_assoc]
        exact congrArg (s ++ ·) hbuf
      · refine ⟨_, ?_, hmore.append left⟩
        rw [hnil, List.append_nil, List.append_assoc, List.append_assoc]
        exact congrArg (s ++ ·) hbuf

/-- Draining the stream at once drops nothing. -/
def Keeps (stream : Bytes) : Prop :=
  stream = r.encodeAll (drain r.next stream).1 ++ (drain r.next stream).2

/-- A stream of which nothing is dropped drops nothing on the way. -/
theorem Keeps.of_append {r : Reader α} {stream more : Bytes} (h : r.Keeps (stream ++ more)) :
    r.Keeps stream := by
  rcases r.drain_cases stream with ⟨hkeeps, -⟩ | ⟨left, hne, hbuf, -, -, hmore⟩
  · exact hkeeps
  · unfold Keeps at h
    rw [hmore more, List.append_nil] at h
    have h : stream ++ more = r.encodeAll (drain r.next stream).1 := h
    -- The bytes that are dropped are not in the messages.
    have hwhole := congrArg List.length h
    have hlength := congrArg List.length hbuf
    rw [List.length_append] at hwhole hlength
    exact absurd (List.length_eq_zero_iff.mp (by omega)) hne

/-- **Cutting makes no difference when nothing is dropped.** -/
theorem receiveAll_eq {chunks : List Bytes} (h : r.Keeps chunks.flatten) :
    receiveAll r.next chunks = drain r.next chunks.flatten := by
  induction chunks using List.reverseRecOn with
  | nil => exact (r.drain_nil).symm
  | append_singleton chunks chunk ih =>
      have hflat : (chunks ++ [chunk]).flatten = chunks.flatten ++ chunk := by simp
      rw [hflat] at h ⊢
      have hkeeps := h.of_append
      rw [receiveAll_snoc, ih hkeeps]
      rcases r.drain_cases chunks.flatten with ⟨-, hmore⟩ | ⟨left, hne, hbuf, -, hnil, -⟩
      · exact (hmore chunk).symm
      · unfold Keeps at hkeeps
        rw [hnil, List.append_nil] at hkeeps
        have hlength := congrArg List.length (hkeeps.symm.trans hbuf)
        rw [List.length_append] at hlength
        exact absurd (List.length_eq_zero_iff.mp (by omega)) hne

/-- **Up to the first drop cutting makes no difference.** -/
theorem prefix_receiveAll (chunks : List Bytes) :
    (drain r.next chunks.flatten).1 <+: (receiveAll r.next chunks).1 := by
  induction chunks using List.reverseRecOn with
  | nil =>
      rw [List.flatten_nil, r.drain_nil]
      exact List.nil_prefix
  | append_singleton chunks chunk ih =>
      have hflat : (chunks ++ [chunk]).flatten = chunks.flatten ++ chunk := by simp
      rw [hflat]
      rcases r.drain_cases chunks.flatten with ⟨hkeeps, hmore⟩ | ⟨left, -, -, -, -, hmore⟩
      · rw [receiveAll_snoc, r.receiveAll_eq hkeeps, hmore]
      · rw [hmore, receiveAll_snoc]
        exact ih.trans (List.prefix_append _ _)

end Reader

end BotCockpit.Lib
