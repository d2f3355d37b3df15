import BotCockpit.Proofs.Bridge.Strings

/-!
# `BotCockpit.Proofs.Bridge.Integers`: which integers the bridge reads back

`get_int` steps over one sign, and then gives `strtoll` the digits alone. So the digits come back
and the sign does not (`getInt_integer`), and no caller ever sees a negative number
(`getInt_nonneg`).
-/

set_option autoImplicit false

namespace BotCockpit.Bridge

open BotCockpit.Lib

/-- The decimal text of an integer. -/
def integer (n : Int) : Bytes := if n < 0 then 45 :: decimal n.natAbs else decimal n.natAbs

/-- A printed integer is not empty. -/
theorem integer_ne_nil (n : Int) : integer n ≠ [] := by
  unfold integer
  split
  · exact List.cons_ne_nil _ _
  · exact decimal_ne_nil _

/-- An integer starts with no blank. -/
theorem dropWhile_integer (n : Int) (post : Bytes) :
    (integer n ++ post).dropWhile isSpace = integer n ++ post := by
  unfold integer
  split
  · rfl
  · obtain ⟨d, ds, hcons, hd⟩ := decimal_eq_cons n.natAbs
    rw [hcons]
    exact List.dropWhile_cons_of_neg (by simp [isSpace_of_isDigit hd])

/-- The text has the integer `n` as the value of a key that occurs once. `rest` is what stands
behind the quoted key. -/
structure EmbedsInteger (key : String) (n : Int) (text rest : Bytes) : Prop where
  member : Member key text rest
  value : ∃ v post, rest.dropWhile isSpace = 58 :: v ∧ v.dropWhile isSpace = integer n ++ post ∧
    ∀ c ∈ post.head?, isDigit c = false

/-- The sign in front of the digits is gone. -/
theorem readSign_integer (n : Int) (post : Bytes) :
    (readSign (integer n ++ post)).2 = decimal n.natAbs ++ post := by
  unfold integer
  split
  · rfl
  · obtain ⟨d, ds, hcons, hd⟩ := decimal_eq_cons n.natAbs
    rw [hcons, List.cons_append, readSign_of_isDigit hd]

/-- What `get_int` reads of an integer: its magnitude, if the search meets the key. -/
theorem getInt_integer {key : String} {n : Int} {text rest : Bytes}
    (h : EmbedsInteger key n text rest) (hmeets : Meets (quoted key) text rest) :
    getInt text key = some (min (2 ^ 63 - 1) (n.natAbs : Int)) := by
  obtain ⟨v, post, hcolon, hvalue, hpost⟩ := h.value
  have hfind := h.member.found hcolon hvalue (by simp [integer_ne_nil]) hmeets
    (List.suffix_refl text)
  obtain ⟨d, ds, hcons, hd⟩ := decimal_eq_cons n.natAbs
  have hscan := strtoll_decimal_clamped n.natAbs hpost
  rw [getInt, hfind]
  dsimp only
  rw [readSign_integer]
  rw [hcons, List.cons_append] at hscan ⊢
  show (if isDigit d = true then strtoll (d :: (ds ++ post)) else none) = _
  rw [if_pos hd, hscan]

/-- **When an integer comes back.** It has no minus sign, and the search for the key meets it. -/
theorem integer_round_trip {key : String} {n : Int} {text rest : Bytes}
    (h : EmbedsInteger key n text rest) (hlow : -2 ^ 63 ≤ n) (hhigh : n < 2 ^ 63) :
    getInt text key = some n ↔ Meets (quoted key) text rest ∧ 0 ≤ n := by
  by_cases hmeets : Meets (quoted key) text rest
  · rw [getInt_integer h hmeets, Option.some.injEq]
    have habs : (n.natAbs : Int) = |n| := Int.natCast_natAbs n
    constructor
    · intro hsame
      exact ⟨hmeets, by omega⟩
    · rintro ⟨-, hpos⟩
      omega
  · have hget : getInt text key = none := by
      unfold getInt
      rw [h.member.lost text hmeets (List.suffix_refl text)]
    simp [hget, hmeets]

/-- A test for a negative number is never met. -/
theorem getInt_nonneg {text : Bytes} {key : String} {n : Int} (h : getInt text key = some n) :
    0 ≤ n := by
  unfold getInt at h
  split at h
  · cases h
  · split at h
    · cases h
    · rename_i d ds _
      split at h
      · rename_i hd
        -- The text starts with a digit, so `strtoll` finds neither a blank nor a sign.
        have hspace : (d :: ds).dropWhile isSpace = d :: ds :=
          List.dropWhile_cons_of_neg (by simp [isSpace_of_isDigit hd])
        simp only [strtoll, hspace, readSign_of_isDigit hd] at h
        split at h
        · cases h
        · simp only [Bool.false_eq_true, if_false, Option.some.injEq] at h
          omega
      · cases h

/-- An object text with one member. -/
def oneInteger (n : Int) : Bytes := ascii "\x7b\"seq\":" ++ integer n ++ ascii "\x7d"

/-- The object with one member holds its integer. -/
theorem embeds_oneInteger {n : Int}
    (honce : ∀ t ∈ (oneInteger n).tails, StartsWithKey "seq" t → t = (oneInteger n).tail) :
    EmbedsInteger "seq" n (oneInteger n) (ascii ":" ++ integer n ++ ascii "\x7d") where
  member :=
    { key_rest := ⟨[123], rfl⟩
      once := fun t ht => honce t (by simpa using ht) }
  value := ⟨_, ascii "\x7d", rfl, dropWhile_integer n _, fun c hc => by cases hc; rfl⟩

/-- The largest integer of 64 bits. -/
theorem integer_round_trip_largest :
    getInt (oneInteger (2 ^ 63 - 1)) "seq" = some (2 ^ 63 - 1) ↔
      Meets (quoted "seq") (oneInteger (2 ^ 63 - 1))
        (ascii ":" ++ integer (2 ^ 63 - 1) ++ ascii "\x7d") ∧ (0 : Int) ≤ 2 ^ 63 - 1 :=
  integer_round_trip (embeds_oneInteger (by decide +kernel)) (by decide) (by decide)

/-- A result with the number -1 is taken for one with the number 1. -/
theorem minus_sign_lost :
    EmbedsInteger "seq" (-1) (oneInteger (-1)) (ascii ":" ++ integer (-1) ++ ascii "\x7d") ∧
      getInt (oneInteger (-1)) "seq" = some 1 ∧ getInt (oneInteger (-1)) "seq" ≠ some (-1) :=
  ⟨embeds_oneInteger (by decide +kernel), by decide +kernel, by decide +kernel⟩

end BotCockpit.Bridge
