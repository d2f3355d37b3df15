import Mathlib.Data.List.Infix
import Mathlib.Data.List.Nodup
import Mathlib.Data.Nat.ModEq

/-!
# `BotCockpit.Lib.Counter`: a counter that goes round

Sequence numbers of a fixed width start again when they run out, and often one value of the width
is kept back for "no number". `turn p n` is the `n`-th value of the counter that runs through
`1, …, p` and then begins again. `turn_succ` is its step, and `nodup_turns` says how long a
stretch of it repeats nothing: any `p` values in a row.
-/

set_option autoImplicit false

namespace BotCockpit.Lib

variable {p : Nat}

/-- The `n`-th value of a counter of `p` values. 0 is none of them. -/
def turn (p n : Nat) : Nat := n % p + 1

/-- The counter never stands at zero. -/
theorem turn_ne_zero (n : Nat) : turn p n ≠ 0 := Nat.succ_ne_zero _

/-- The step: after `p` comes 1. -/
theorem turn_succ (hp : 0 < p) (n : Nat) :
    turn p (n + 1) = if turn p n = p then 1 else turn p n + 1 := by
  have hlt : n % p < p := Nat.mod_lt n hp
  show (n + 1) % p + 1 = if n % p + 1 = p then 1 else n % p + 1 + 1
  split
  · rename_i hlast
    rw [← Nat.mod_add_mod n p 1, hlast, Nat.mod_self]
  · rename_i hlast
    rw [← Nat.mod_add_mod n p 1, Nat.mod_eq_of_lt (by omega)]

/-- Less than `p` steps lead to another value. -/
theorem turn_ne {m n : Nat} (hlt : m < n) (hnear : n < m + p) : turn p m ≠ turn p n := by
  intro heq
  have hmod : m % p = n % p := Nat.succ.inj heq
  have hdvd : p ∣ n - m := (Nat.modEq_iff_dvd' hlt.le).mp hmod
  have hle : p ≤ n - m := Nat.le_of_dvd (by omega) hdvd
  omega

/-- Any `p` values in a row are distinct. -/
theorem nodup_turns {n : Nat} {l : List Nat} (hpart : l <:+: (List.range n).map (turn p))
    (hlen : l.length ≤ p) : l.Nodup := by
  obtain ⟨pre, post, heq⟩ := hpart
  have hget : ∀ i (hi : i < l.length), l[i] = turn p (pre.length + i) := by
    intro i hi
    have hsome : ((List.range n).map (turn p))[pre.length + i]? = some l[i] := by
      rw [← heq, List.append_assoc, List.getElem?_append_right (by omega),
        Nat.add_sub_cancel_left, List.getElem?_append_left hi, List.getElem?_eq_getElem hi]
    obtain ⟨hbound, hval⟩ := List.getElem?_eq_some_iff.mp hsome
    rw [← hval, List.getElem_map, List.getElem_range]
  refine List.pairwise_iff_getElem.mpr fun i j hi hj hij => ?_
  rw [hget i hi, hget j hj]
  exact turn_ne (by omega) (by omega)

end BotCockpit.Lib
