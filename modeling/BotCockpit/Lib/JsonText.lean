import BotCockpit.Lib.Json
import BotCockpit.Lib.Utf8
import Mathlib.Data.List.TakeWhile

/-!
# `BotCockpit.Lib.JsonText`: reading a JSON text

`Json.parse` reads a text by the grammar of RFC 8259, which is stricter than a scanner: between
its quotes a string has no byte below 0x20, a backslash starts one of the escapes of the grammar,
and the text as a whole is UTF-8. A number keeps its text (`isNumber`).

`parse_render` is the round trip with `Json.render`. An escaping reads back some strings and has
the others refused (`ReadsBack esc ok`), and then a text that `render` writes is read back as its
value when all its strings are `ok` and all its numbers are numbers, and refused when one is not.
Both directions come from one equation, `readValue_render`, by recursion on the value.
`wellFormed_render` says that the text is UTF-8.
-/

set_option autoImplicit false

namespace BotCockpit.Lib.Json

/-! ### Strings -/

/-- One item between the quotes: a byte, or the code unit of a `\u` escape. -/
inductive StringItem where
  | byte (b : UInt8)
  | unit (n : Nat)
  deriving DecidableEq

def hexDigit (b : UInt8) : Option Nat :=
  if 48 ≤ b ∧ b ≤ 57 then some (b.toNat - 48)
  else if 65 ≤ b ∧ b ≤ 70 then some (b.toNat - 55)
  else if 97 ≤ b ∧ b ≤ 102 then some (b.toNat - 87)
  else none

/-- The value of four hexadecimal digits. -/
def hexUnit (a b c d : UInt8) : Option Nat :=
  match hexDigit a, hexDigit b, hexDigit c, hexDigit d with
  | some a, some b, some c, some d => some (((a * 16 + b) * 16 + c) * 16 + d)
  | _, _, _, _ => none

/-- The byte that a one-letter escape stands for. -/
def escaped (b : UInt8) : Option UInt8 :=
  if b = 34 ∨ b = 92 ∨ b = 47 then some b
  else if b = 98 then some 8
  else if b = 102 then some 12
  else if b = 110 then some 10
  else if b = 114 then some 13
  else if b = 116 then some 9
  else none

/-- The items up to the closing quote, and the text after it. -/
def readItems : Bytes → Option (List StringItem × Bytes)
  | [] => none
  | b :: bs =>
      if b = 34 then some ([], bs)
      else if b = 92 then
        match bs with
        | [] => none
        | e :: bs =>
            if e = 117 then
              match bs with
              | u :: v :: w :: x :: bs =>
                  match hexUnit u v w x, readItems bs with
                  | some n, some r => some (.unit n :: r.1, r.2)
                  | _, _ => none
              | _ => none
            else
              match escaped e, readItems bs with
              | some c, some r => some (.byte c :: r.1, r.2)
              | _, _ => none
      else if b < 32 then none
      else
        match readItems bs with
        | some r => some (.byte b :: r.1, r.2)
        | none => none

/-- The UTF-8 form of a code point. -/
def utf8Char (n : Nat) : Bytes :=
  if n < 0x80 then [UInt8.ofNat n]
  else if n < 0x800 then [UInt8.ofNat (0xC0 + n / 0x40), UInt8.ofNat (0x80 + n % 0x40)]
  else if n < 0x10000 then
    [UInt8.ofNat (0xE0 + n / 0x1000), UInt8.ofNat (0x80 + n / 0x40 % 0x40),
      UInt8.ofNat (0x80 + n % 0x40)]
  else
    [UInt8.ofNat (0xF0 + n / 0x40000), UInt8.ofNat (0x80 + n / 0x1000 % 0x40),
      UInt8.ofNat (0x80 + n / 0x40 % 0x40), UInt8.ofNat (0x80 + n % 0x40)]

/-- A code unit that is one half of a surrogate pair. -/
def isHigh (n : Nat) : Bool := 0xD800 ≤ n && n < 0xDC00

def isLow (n : Nat) : Bool := 0xDC00 ≤ n && n < 0xE000

/-- The bytes of a string. Half of a surrogate pair alone becomes U+FFFD. -/
def stringBytes : List StringItem → Bytes
  | [] => []
  | .byte b :: items => b :: stringBytes items
  | .unit n :: .unit m :: items =>
      if isHigh n ∧ isLow m then
        utf8Char (0x10000 + (n - 0xD800) * 0x400 + (m - 0xDC00)) ++ stringBytes items
      else utf8Char (if isHigh n ∨ isLow n then 0xFFFD else n) ++ stringBytes (.unit m :: items)
  | .unit n :: items =>
      utf8Char (if isHigh n ∨ isLow n then 0xFFFD else n) ++ stringBytes items

/-- The string after an opening quote. -/
def readString (bs : Bytes) : Option (Bytes × Bytes) :=
  (readItems bs).map fun r => (stringBytes r.1, r.2)

/-! ### Numbers -/

/-- The digits at the front, and the text after them. -/
def digits (bs : Bytes) : Bytes × Bytes := (bs.takeWhile isDigit, bs.dropWhile isDigit)

/-- `int`: no zero in front of another digit. -/
def readInt (bs : Bytes) : Option (Bytes × Bytes) :=
  match digits bs with
  | ([], _) => none
  | (d :: ds, rest) => if d = 48 then some ([48], ds ++ rest) else some (d :: ds, rest)

/-- `frac`, or nothing. -/
def readFrac : Bytes → Option (Bytes × Bytes)
  | 46 :: bs => if (digits bs).1 = [] then none else some (46 :: (digits bs).1, (digits bs).2)
  | bs => some ([], bs)

/-- The sign of an exponent, or nothing. -/
def readSign : Bytes → Bytes × Bytes
  | b :: bs => if b = 43 ∨ b = 45 then ([b], bs) else ([], b :: bs)
  | [] => ([], [])

/-- `exp`, or nothing. -/
def readExp : Bytes → Option (Bytes × Bytes)
  | b :: bs =>
      if b = 69 ∨ b = 101 then
        let (sign, bs) := readSign bs
        if (digits bs).1 = [] then none else some (b :: (sign ++ (digits bs).1), (digits bs).2)
      else some ([], b :: bs)
  | [] => some ([], [])

/-- The minus sign, or nothing. -/
def readMinus : Bytes → Bytes × Bytes
  | 45 :: bs => ([45], bs)
  | bs => ([], bs)

/-- The text of the number at the front, and the text after it. -/
def readNumber (bs : Bytes) : Option (Bytes × Bytes) :=
  let (minus, bs) := readMinus bs
  match readInt bs with
  | none => none
  | some (int, bs) =>
      match readFrac bs with
      | none => none
      | some (frac, bs) =>
          match readExp bs with
          | none => none
          | some (exp, bs) => some (minus ++ (int ++ (frac ++ exp)), bs)

/-- The text is a number of the grammar. -/
def IsNumber (text : Bytes) : Prop := readNumber text = some (text, [])

instance (text : Bytes) : Decidable (IsNumber text) := by
  unfold IsNumber
  infer_instance

/-! ### Values -/

def isSpace (b : UInt8) : Bool := b = 32 || b = 9 || b = 10 || b = 13

def skipSpace (bs : Bytes) : Bytes := bs.dropWhile isSpace

/-- The text after a literal. -/
def readLiteral (word : String) (bs : Bytes) : Option Bytes :=
  if ascii word <+: bs then some (bs.drop (ascii word).length) else none

/-- The text after a colon, and the spaces around it. -/
def readColon (bs : Bytes) : Option Bytes :=
  match skipSpace bs with
  | 58 :: bs => some (skipSpace bs)
  | _ => none

mutual

/-- The value at the front, and the text after it. Every call takes one unit of `fuel`. -/
def readValue : Nat → Bytes → Option (Json × Bytes)
  | 0, _ => none
  | _, [] => none
  | fuel + 1, b :: bs =>
      if b = 34 then (readString bs).map fun r => (.str r.1, r.2)
      else if b = 123 then
        match skipSpace bs with
        | 125 :: bs => some (.obj [], bs)
        | bs => (readFields fuel bs).map fun r => (.obj r.1, r.2)
      else if b = 91 then
        match skipSpace bs with
        | 93 :: bs => some (.arr [], bs)
        | bs => (readElements fuel bs).map fun r => (.arr r.1, r.2)
      else if b = 110 then (readLiteral "null" (b :: bs)).map fun bs => (.null, bs)
      else if b = 116 then (readLiteral "true" (b :: bs)).map fun bs => (.bool true, bs)
      else if b = 102 then (readLiteral "false" (b :: bs)).map fun bs => (.bool false, bs)
      else (readNumber (b :: bs)).map fun r => (.num r.1, r.2)

/-- The items of an array up to the closing bracket. -/
def readElements : Nat → Bytes → Option (List Json × Bytes)
  | 0, _ => none
  | fuel + 1, bs =>
      match readValue fuel bs with
      | none => none
      | some (v, bs) =>
          match skipSpace bs with
          | 44 :: bs => (readElements fuel (skipSpace bs)).map fun r => (v :: r.1, r.2)
          | 93 :: bs => some ([v], bs)
          | _ => none

/-- The fields of an object up to the closing brace. -/
def readFields : Nat → Bytes → Option (List (Bytes × Json) × Bytes)
  | fuel + 1, 34 :: bs =>
      match readString bs with
      | none => none
      | some (k, bs) =>
          match (readColon bs).bind (readValue fuel) with
          | none => none
          | some (v, bs) =>
              match skipSpace bs with
              | 44 :: bs => (readFields fuel (skipSpace bs)).map fun r => ((k, v) :: r.1, r.2)
              | 125 :: bs => some ([(k, v)], bs)
              | _ => none
  | _, _ => none

end

/-- The value of a JSON text. -/
def parse (text : Bytes) : Option Json :=
  if Utf8.WellFormed text then
    match readValue (text.length + 1) (skipSpace text) with
    | some (v, bs) => if skipSpace bs = [] then some v else none
    | none => none
  else none

/-! ### Numbers are read back -/

/-- The text after a value inside a text that `render` writes. -/
def Follows (rest : Bytes) : Prop := ∀ b ∈ rest.head?, b = 44 ∨ b = 93 ∨ b = 125

/-- A value may stand at the end. -/
theorem Follows.nil : Follows [] := fun _ h => nomatch h

/-- It may stand before a comma or a closing bracket. -/
theorem Follows.cons {b : UInt8} (bs : Bytes) (h : b = 44 ∨ b = 93 ∨ b = 125) :
    Follows (b :: bs) := by
  intro c hc
  rw [List.head?_cons, Option.mem_some] at hc
  rwa [← hc]

/-- Digits are read up to what may follow a value. -/
theorem digits_append {rest : Bytes} (hrest : Follows rest) (bs : Bytes) :
    digits (bs ++ rest) = ((digits bs).1, (digits bs).2 ++ rest) := by
  induction bs with
  | nil =>
      cases rest with
      | nil => rfl
      | cons b rest =>
          have hb : isDigit b = false := by
            rcases hrest b rfl with rfl | rfl | rfl <;> rfl
          simp [digits, hb]
  | cons b bs ih =>
      simp only [digits, Prod.mk.injEq] at ih
      cases hb : isDigit b <;> simp [digits, hb, ih.1, ih.2]

/-- So is the integer part. -/
theorem readInt_append {rest : Bytes} (hrest : Follows rest) {bs int bs' : Bytes}
    (h : readInt bs = some (int, bs')) : readInt (bs ++ rest) = some (int, bs' ++ rest) := by
  unfold readInt at h ⊢
  rw [digits_append hrest]
  rcases hd : digits bs with ⟨_ | ⟨d, ds⟩, r⟩
  · rw [hd] at h
    cases h
  · rw [hd] at h
    simp only at h ⊢
    split at h
    · rw [if_pos (by assumption)]
      cases h
      rw [List.append_assoc]
    · rw [if_neg (by assumption)]
      cases h
      rfl

/-- So is the fraction. -/
theorem readFrac_append {rest : Bytes} (hrest : Follows rest) {bs frac bs' : Bytes}
    (h : readFrac bs = some (frac, bs')) : readFrac (bs ++ rest) = some (frac, bs' ++ rest) := by
  cases bs with
  | nil =>
      cases h
      cases rest with
      | nil => rfl
      | cons b rest => rcases hrest b rfl with rfl | rfl | rfl <;> rfl
  | cons b bs =>
      by_cases hb : b = 46
      · subst hb
        simp only [readFrac, List.cons_append, digits_append hrest] at h ⊢
        split at h
        · cases h
        · rw [if_neg (by assumption)]
          cases h
          rfl
      · rw [readFrac.eq_2 _ fun _ h => hb (List.cons.inj h).1] at h
        rw [List.cons_append, readFrac.eq_2 _ fun _ h => hb (List.cons.inj h).1]
        cases h
        rfl

/-- The sign of the exponent is read from the front. -/
theorem readSign_append {bs : Bytes} (hbs : bs ≠ []) (rest : Bytes) :
    readSign (bs ++ rest) = ((readSign bs).1, (readSign bs).2 ++ rest) := by
  cases bs with
  | nil => exact absurd rfl hbs
  | cons b bs =>
      simp only [readSign, List.cons_append]
      split <;> rfl

/-- The exponent is read up to what may follow a value. -/
theorem readExp_append {rest : Bytes} (hrest : Follows rest) {bs exp bs' : Bytes}
    (h : readExp bs = some (exp, bs')) : readExp (bs ++ rest) = some (exp, bs' ++ rest) := by
  cases bs with
  | nil =>
      cases h
      cases rest with
      | nil => rfl
      | cons b rest => rcases hrest b rfl with rfl | rfl | rfl <;> rfl
  | cons b bs =>
      simp only [readExp, List.cons_append] at h ⊢
      split at h
      · rename_i he
        rw [if_pos he]
        cases bs with
        | nil => simp [readSign, digits] at h
        | cons c bs =>
            rw [readSign_append (List.cons_ne_nil c bs), digits_append hrest]
            simp only at h ⊢
            split at h
            · cases h
            · rw [if_neg (by assumption)]
              cases h
              rfl
      · rename_i he
        rw [if_neg he]
        cases h
        rfl

/-- The sign is read from the front. -/
theorem readMinus_append {bs : Bytes} (hbs : bs ≠ []) (rest : Bytes) :
    readMinus (bs ++ rest) = ((readMinus bs).1, (readMinus bs).2 ++ rest) := by
  cases bs with
  | nil => exact absurd rfl hbs
  | cons b bs =>
      by_cases hb : b = 45
      · subst hb
        rfl
      · rw [readMinus.eq_2 _ fun _ h => hb (List.cons.inj h).1, List.cons_append,
          readMinus.eq_2 _ fun _ h => hb (List.cons.inj h).1]

/-- A number is read back in front of what may follow a value. -/
theorem readNumber_append {rest : Bytes} (hrest : Follows rest) {bs text bs' : Bytes}
    (h : readNumber bs = some (text, bs')) :
    readNumber (bs ++ rest) = some (text, bs' ++ rest) := by
  have hbs : bs ≠ [] := by
    rintro rfl
    cases h
  unfold readNumber at h ⊢
  rw [readMinus_append hbs]
  simp only at h ⊢
  rcases hint : readInt (readMinus bs).2 with _ | ⟨int, bs₁⟩
  · rw [hint] at h
    cases h
  rcases hfrac : readFrac bs₁ with _ | ⟨frac, bs₂⟩
  · simp only [hint, hfrac] at h
    cases h
  rcases hexp : readExp bs₂ with _ | ⟨exp, bs₃⟩
  · simp only [hint, hfrac, hexp] at h
    cases h
  simp only [hint, hfrac, hexp, Option.some.injEq, Prod.mk.injEq] at h
  simp only [readInt_append hrest hint, readFrac_append hrest hfrac, readExp_append hrest hexp, h]

/-- Only the decimal text of 0 starts with a zero. -/
theorem decimal_head (n : Nat) : ∃ d ds, decimal n = d :: ds ∧ (d = 48 → ds = []) := by
  induction n using decimal.induct with
  | case1 n h =>
      rw [decimal, if_pos h]
      exact ⟨_, [], rfl, fun _ => rfl⟩
  | case2 n h ih =>
      obtain ⟨d, ds, hds, hzero⟩ := ih
      refine ⟨d, ds ++ [UInt8.ofNat (48 + n % 10)], by rw [decimal, if_neg h, hds]; rfl, ?_⟩
      rintro rfl
      -- The text in front would be that of 0, but `n / 10` is positive.
      have hval := readNat_decimal (n / 10)
      rw [hds, hzero rfl] at hval
      have : n / 10 = 0 := hval.symm
      omega

/-- Reading the digits of a decimal text in front of another byte. -/
theorem readInt_decimal (n : Nat) {rest : Bytes} (hrest : ∀ b ∈ rest.head?, isDigit b = false) :
    readMinus (decimal n ++ rest) = ([], decimal n ++ rest) ∧
      readInt (decimal n ++ rest) = some (decimal n, rest) := by
  have htake := takeWhile_isDigit_decimal n hrest
  have hdrop := dropWhile_isDigit_decimal n hrest
  obtain ⟨d, ds, hds, hzero⟩ := decimal_head n
  have hdigit : isDigit d = true := isDigit_of_mem_decimal n d (by simp [hds])
  constructor
  · rw [hds, List.cons_append, readMinus.eq_2 _ fun _ h => ?_]
    rw [(List.cons.inj h).1] at hdigit
    cases hdigit
  · simp only [readInt, digits, htake, hdrop]
    rw [hds]
    by_cases hd : d = 48
    · simp [hd, hzero hd]
    · simp [hd]

/-- A decimal text is a number. -/
theorem isNumber_decimal (n : Nat) : IsNumber (decimal n) := by
  have hend : ∀ b ∈ ([] : Bytes).head?, isDigit b = false := fun _ h => nomatch h
  obtain ⟨hminus, hint⟩ := readInt_decimal n hend
  rw [List.append_nil] at hminus hint
  simp [IsNumber, readNumber, hminus, hint, readFrac, readExp]

/-- A decimal text with a sign and digits after the point is a number. -/
theorem isNumber_fraction (neg : Bool) (n : Nat) {ds : Bytes} (hds : ∀ b ∈ ds, isDigit b = true)
    (hne : ds ≠ []) : IsNumber ((if neg then [45] else []) ++ decimal n ++ 46 :: ds) := by
  have hpoint : ∀ b ∈ (46 :: ds).head?, isDigit b = false := by
    intro b hb
    rw [← Option.some.inj hb]
    rfl
  obtain ⟨hminus, hint⟩ := readInt_decimal n hpoint
  have hdigits : digits ds = (ds, []) := by
    rw [digits, List.takeWhile_eq_self_iff.mpr hds, List.dropWhile_eq_nil_iff.mpr hds]
  have hfrac : readFrac (46 :: ds) = some (46 :: ds, []) := by
    simp [readFrac, hdigits, hne]
  cases neg with
  | false => simp [IsNumber, readNumber, hminus, hint, hfrac, readExp]
  | true => simp [IsNumber, readNumber, readMinus, hint, hfrac, readExp]

/-! ### Strings are read back -/

/-- What the escaping `esc` is good for: between quotes, a string is read back if it is in `ok`,
and refused if it is not. -/
def ReadsBack (esc : Bytes → Bytes) (ok : Bytes → Bool) : Prop :=
  ∀ s rest : Bytes,
    readString (esc s ++ 34 :: rest) = if ok s = true then some (s, rest) else none

/-- An ASCII key that needs no escaping. -/
def plainKey (k : Bytes) : Bool := k.all fun b => 32 ≤ b && b < 128 && b ≠ 34 && b ≠ 92

/-- A quote ends the text. -/
theorem readItems_quote (bs : Bytes) : readItems (34 :: bs) = some ([], bs) := by
  rw [readItems.eq_def]
  rfl

/-- A byte that needs no escaping. -/
theorem readItems_byte {b : UInt8} (hctrl : 32 ≤ b) (hquote : b ≠ 34) (hback : b ≠ 92)
    (bs : Bytes) :
    readItems (b :: bs) = (readItems bs).map fun r => (.byte b :: r.1, r.2) := by
  have hlt : ¬b < 32 := UInt8.not_lt.mpr hctrl
  rw [readItems.eq_def]
  simp only [hquote, hback, hlt, if_false]
  cases readItems bs <;> rfl

/-- An escaped quote or backslash. -/
theorem readItems_escaped {b : UInt8} (hb : b = 34 ∨ b = 92) (bs : Bytes) :
    readItems (92 :: b :: bs) = (readItems bs).map fun r => (.byte b :: r.1, r.2) := by
  rw [readItems.eq_def]
  rcases hb with rfl | rfl <;> cases h : readItems bs <;> simp [h, escaped]

/-- A control byte is refused. -/
theorem readItems_control {b : UInt8} (hctrl : b < 32) (bs : Bytes) :
    readItems (b :: bs) = none := by
  have hquote : b ≠ 34 := by
    rintro rfl
    exact absurd hctrl (by decide)
  have hback : b ≠ 92 := by
    rintro rfl
    exact absurd hctrl (by decide)
  rw [readItems.eq_def]
  simp only [hquote, hback, hctrl, if_false, if_true]

/-- A plain key is read byte by byte. -/
theorem readItems_plainKey {k : Bytes} (hk : plainKey k = true) (rest : Bytes) :
    readItems (k ++ 34 :: rest) = some (k.map .byte, rest) := by
  induction k with
  | nil => exact readItems_quote rest
  | cons b k ih =>
      simp only [plainKey, List.all_cons, Bool.and_eq_true, decide_eq_true_eq] at hk
      obtain ⟨⟨⟨⟨hctrl, -⟩, hquote⟩, hback⟩, hk⟩ := hk
      rw [List.cons_append, readItems_byte hctrl hquote hback, ih hk]
      rfl

/-- Its bytes are the key. -/
theorem stringBytes_map_byte (s : Bytes) : stringBytes (s.map .byte) = s := by
  induction s with
  | nil => rfl
  | cons b s ih => simp only [List.map_cons, stringBytes, ih]

/-- So it is read as it was. -/
theorem readString_plainKey {k : Bytes} (hk : plainKey k = true) (rest : Bytes) :
    readString (k ++ 34 :: rest) = some (k, rest) := by
  simp [readString, readItems_plainKey hk, stringBytes_map_byte]

/-! ### Values are read back -/

/-- The texts of C for a `double` that is not finite. -/
def nonFinite : List Bytes := [ascii "nan", ascii "-nan", ascii "inf", ascii "-inf"]

mutual

/-- The keys need no escaping, and a number is one of the grammar or the text of a `double` that
is not finite. -/
def wf : Json → Bool
  | .num text => decide (IsNumber text) || decide (text ∈ nonFinite)
  | .arr items => wfItems items
  | .obj fields => wfFields fields
  | _ => true

def wfItems : List Json → Bool
  | [] => true
  | v :: vs => wf v && wfItems vs

def wfFields : List (Bytes × Json) → Bool
  | [] => true
  | (k, v) :: fs => plainKey k && wf v && wfFields fs

end

mutual

/-- The values inside that are neither arrays nor objects are all in `p`. -/
def allLeaves (p : Json → Bool) : Json → Bool
  | .arr items => allItems p items
  | .obj fields => allFields p fields
  | v => p v

def allItems (p : Json → Bool) : List Json → Bool
  | [] => true
  | v :: vs => allLeaves p v && allItems p vs

def allFields (p : Json → Bool) : List (Bytes × Json) → Bool
  | [] => true
  | (_, v) :: fs => allLeaves p v && allFields p fs

end

/-- The leaves of the elements, as one test over the list. -/
theorem allItems_eq (p : Json → Bool) (vs : List Json) : allItems p vs = vs.all (allLeaves p) := by
  induction vs with
  | nil => rfl
  | cons v vs ih => rw [allItems, List.all_cons, ih]

/-- The leaves of the members, as one test over the list. -/
theorem allFields_eq (p : Json → Bool) (fs : List (Bytes × Json)) :
    allFields p fs = fs.all fun f => allLeaves p f.2 := by
  induction fs with
  | nil => rfl
  | cons f fs ih => rw [allFields, List.all_cons, ih]

/-- What a value outside arrays and objects has to be for its text to be read back. -/
def readable (ok : Bytes → Bool) : Json → Bool
  | .str s => ok s
  | .num text => decide (IsNumber text)
  | _ => true

mutual

/-- The fuel that reading the value takes. -/
def depth : Json → Nat
  | .arr items => 1 + depthItems items
  | .obj fields => 1 + depthFields fields
  | _ => 1

def depthItems : List Json → Nat
  | [] => 0
  | v :: vs => 1 + max (depth v) (depthItems vs)

def depthFields : List (Bytes × Json) → Nat
  | [] => 0
  | (_, v) :: fs => 1 + max (depth v) (depthFields fs)

end

/-- A number starts with a digit or a minus sign. -/
theorem IsNumber.head {text : Bytes} (h : IsNumber text) :
    ∃ b bs, text = b :: bs ∧ (isDigit b = true ∨ b = 45) := by
  cases text with
  | nil => cases h
  | cons b bs =>
      refine ⟨b, bs, rfl, ?_⟩
      by_cases hb : b = 45
      · exact Or.inr hb
      · refine Or.inl ?_
        by_contra hdigit
        rw [Bool.not_eq_true] at hdigit
        rw [IsNumber, readNumber, readMinus.eq_2 _ fun _ h => hb (List.cons.inj h).1] at h
        simp [readInt, digits, hdigit] at h

/-- A text that is not a number is refused where a value is expected. -/
theorem readValue_nonFinite {text : Bytes} (htext : text ∈ nonFinite) (n : Nat) (rest : Bytes) :
    readValue n (text ++ rest) = none := by
  cases n with
  | zero => rw [readValue]
  | succ n =>
      simp only [nonFinite, List.mem_cons, List.not_mem_nil, or_false] at htext
      rcases htext with rfl | rfl | rfl | rfl <;>
        simp [ascii, readValue, readLiteral, readNumber, readMinus, readInt, digits, isDigit]

/-- The first byte of a value is neither a space nor a closing bracket. -/
theorem render_head (esc : Bytes → Bytes) {v : Json} (hv : wf v = true) :
    ∃ b bs, render esc v = b :: bs ∧ isSpace b = false ∧ b ≠ 93 := by
  cases v with
  | null => exact ⟨_, _, rfl, rfl, by decide⟩
  | bool b => cases b <;> exact ⟨_, _, rfl, rfl, by decide⟩
  | str s => exact ⟨_, _, rfl, rfl, by decide⟩
  | arr items => exact ⟨_, _, rfl, rfl, by decide⟩
  | obj fields => exact ⟨_, _, rfl, rfl, by decide⟩
  | num text =>
      rw [wf, Bool.or_eq_true, decide_eq_true_eq, decide_eq_true_eq] at hv
      rcases hv with hv | hv
      swap
      · simp only [nonFinite, List.mem_cons, List.not_mem_nil, or_false] at hv
        rcases hv with rfl | rfl | rfl | rfl <;> exact ⟨_, _, rfl, rfl, by decide⟩
      obtain ⟨b, bs, rfl, hb⟩ := IsNumber.head hv
      refine ⟨b, bs, rfl, ?_, ?_⟩
      · rcases hb with hb | rfl
        · simp only [isDigit, Bool.and_eq_true, decide_eq_true_eq, UInt8.le_iff_toNat_le] at hb
          simp only [isSpace, Bool.or_eq_false_iff, decide_eq_false_iff_not]
          refine ⟨⟨⟨?_, ?_⟩, ?_⟩, ?_⟩ <;>
            (rintro rfl; exact absurd hb (by decide))
        · rfl
      · rintro rfl
        rcases hb with hb | hb <;> cases hb

/-- Reading a number at the front of what `render` writes. -/
theorem readValue_number {text rest : Bytes} (htext : IsNumber text) (hrest : Follows rest)
    (n : Nat) : readValue (n + 1) (text ++ rest) = some (.num text, rest) := by
  obtain ⟨b, bs, rfl, hb⟩ := htext.head
  have hread := readNumber_append hrest htext
  have hne : b ≠ 34 ∧ b ≠ 123 ∧ b ≠ 91 ∧ b ≠ 110 ∧ b ≠ 116 ∧ b ≠ 102 := by
    refine ⟨?_, ?_, ?_, ?_, ?_, ?_⟩ <;>
      (rintro rfl; rcases hb with hb | hb <;> exact absurd hb (by decide))
  obtain ⟨h₁, h₂, h₃, h₄, h₅, h₆⟩ := hne
  rw [List.cons_append] at hread ⊢
  rw [readValue.eq_def]
  simp only [h₁, h₂, h₃, h₄, h₅, h₆, if_false, hread, Option.map_some, List.nil_append]

/-- What is no blank is not skipped. -/
theorem skipSpace_cons {b : UInt8} (hb : isSpace b = false) (bs : Bytes) :
    skipSpace (b :: bs) = b :: bs := by
  rw [skipSpace, List.dropWhile_cons, hb]
  rfl

section RoundTrip

variable {esc : Bytes → Bytes} {ok : Bytes → Bool}

/-- The items of an array start with their first value. -/
theorem renderItems_head (esc : Bytes → Bytes) {v : Json} (hv : wf v = true) (vs : List Json)
    (rest : Bytes) :
    ∃ b tail, renderItems esc (v :: vs) ++ rest = b :: tail ∧ isSpace b = false ∧ b ≠ 93 := by
  obtain ⟨b, bs, hrender, hspace, hb⟩ := render_head esc hv
  cases vs with
  | nil => exact ⟨b, bs ++ rest, by rw [renderItems, hrender, List.cons_append], hspace, hb⟩
  | cons w vs =>
      exact ⟨b, _, by rw [renderItems, hrender, List.cons_append, List.cons_append], hspace, hb⟩

/-- The fields of an object start with a quote. -/
theorem renderFields_head (esc : Bytes → Bytes) (f : Bytes × Json) (fs : List (Bytes × Json))
    (rest : Bytes) :
    ∃ tail, renderFields esc (f :: fs) ++ rest = 34 :: tail := by
  cases fs with
  | nil => exact ⟨_, by rw [renderFields, List.cons_append]⟩
  | cons g fs => exact ⟨_, by rw [renderFields, List.cons_append, List.cons_append]⟩

/-- An array: the elements decide. -/
theorem readValue_array {v : Json} (hv : wf v = true) (vs : List Json) (n : Nat) (rest : Bytes) :
    readValue (n + 1) (91 :: (renderItems esc (v :: vs) ++ rest)) =
      (readElements n (renderItems esc (v :: vs) ++ rest)).map fun r => (.arr r.1, r.2) := by
  obtain ⟨b, tail, htail, hspace, hb⟩ := renderItems_head esc hv vs rest
  rw [htail, readValue.eq_def]
  simp only [skipSpace_cons hspace]
  simp [hb]

/-- An object: the fields decide. -/
theorem readValue_object (f : Bytes × Json) (fs : List (Bytes × Json)) (n : Nat) (rest : Bytes) :
    readValue (n + 1) (123 :: (renderFields esc (f :: fs) ++ rest)) =
      (readFields n (renderFields esc (f :: fs) ++ rest)).map fun r => (.obj r.1, r.2) := by
  obtain ⟨tail, htail⟩ := renderFields_head esc f fs rest
  rw [htail, readValue.eq_def]
  simp only [skipSpace_cons (show isSpace 34 = false from rfl)]
  simp

/-- The key and the colon of a field. -/
theorem readFields_key {k : Bytes} (hk : plainKey k = true) {v : Json} (hv : wf v = true) (n : Nat)
    (rest : Bytes) :
    readFields (n + 1) (34 :: (k ++ 34 :: 58 :: (render esc v ++ rest))) =
      match readValue n (render esc v ++ rest) with
      | none => none
      | some (v, bs) =>
          match skipSpace bs with
          | 44 :: bs => (readFields n (skipSpace bs)).map fun r => ((k, v) :: r.1, r.2)
          | 125 :: bs => some ([(k, v)], bs)
          | _ => none := by
  obtain ⟨b, bs, hrender, hspace, -⟩ := render_head esc hv
  have hcolon : readColon (58 :: (render esc v ++ rest)) = some (render esc v ++ rest) := by
    rw [readColon, skipSpace_cons (show isSpace 58 = false from rfl)]
    simp only [hrender, List.cons_append, skipSpace_cons hspace]
  rw [readFields.eq_def]
  simp only [readString_plainKey hk, hcolon, Option.bind_some]

mutual

/-- **Reading back what `render` writes.** The value comes back when its strings and numbers are
readable and the fuel reaches, and nothing does otherwise. By recursion on the value. -/
theorem readValue_render (hesc : ReadsBack esc ok) :
    ∀ (v : Json) (n : Nat) (rest : Bytes), wf v = true → Follows rest →
      readValue n (render esc v ++ rest) =
        if allLeaves (readable ok) v = true ∧ depth v ≤ n then some (v, rest) else none
  | v, 0, rest, _, _ => by
      have : ¬depth v ≤ 0 := by cases v <;> simp [depth]
      simp [this, readValue]
  | .null, n + 1, rest, _, _ => by
      simp [allLeaves, readable, depth, render, readValue, ascii, readLiteral]
  | .bool true, n + 1, rest, _, _ => by
      simp [allLeaves, readable, depth, render, readValue, ascii, readLiteral]
  | .bool false, n + 1, rest, _, _ => by
      simp [allLeaves, readable, depth, render, readValue, ascii, readLiteral]
  | .num text, n + 1, rest, hv, hrest => by
      rw [wf, Bool.or_eq_true, decide_eq_true_eq, decide_eq_true_eq] at hv
      -- The texts `inf` and `nan` are well formed for the printer, and no numbers for the reader.
      have hleaf : allLeaves (readable ok) (.num text) = decide (IsNumber text) := by
        simp only [allLeaves, readable]
      rw [render]
      by_cases htext : IsNumber text
      · rw [readValue_number htext hrest, if_pos]
        exact ⟨hleaf.trans (decide_eq_true htext), Nat.succ_le_succ (Nat.zero_le n)⟩
      · rw [readValue_nonFinite (hv.resolve_left htext), if_neg]
        exact fun h => htext (of_decide_eq_true (hleaf.symm.trans h.1))
  | .str s, n + 1, rest, _, _ => by
      -- The escape is read back when the text may stand in a string.
      have hread := hesc s rest
      simp only [render, renderString, List.cons_append, List.append_assoc, List.nil_append,
        readValue, if_true, hread, allLeaves, readable, depth]
      split <;> simp_all
  | .arr [], n + 1, rest, _, _ => by
      simp [allLeaves, allItems, depth, depthItems, render, renderItems, readValue, skipSpace,
        isSpace]
  | .arr (v :: vs), n + 1, rest, hv, _ => by
      have hwf : wfItems (v :: vs) = true := hv
      have hhead : wf v = true := (Bool.and_eq_true_iff.mp hwf).1
      rw [render, List.cons_append, List.append_assoc, readValue_array hhead,
        List.singleton_append, readElements_render hesc v vs n rest hwf]
      by_cases h : allItems (readable ok) (v :: vs) = true ∧ depthItems (v :: vs) ≤ n
      · rw [if_pos h, if_pos ⟨h.1, by rw [depth]; omega⟩]
        rfl
      · rw [if_neg h, if_neg fun h' => h ⟨h'.1, by have := h'.2; rw [depth] at this; omega⟩]
        rfl
  | .obj [], n + 1, rest, _, _ => by
      simp [allLeaves, allFields, depth, depthFields, render, renderFields, readValue, skipSpace,
        isSpace]
  | .obj (f :: fs), n + 1, rest, hv, _ => by
      have hwf : wfFields (f :: fs) = true := hv
      rw [render, List.cons_append, List.append_assoc, readValue_object,
        List.singleton_append, readFields_render hesc f.1 f.2 fs n rest hwf]
      by_cases h : allFields (readable ok) (f :: fs) = true ∧ depthFields (f :: fs) ≤ n
      · rw [if_pos h, if_pos ⟨h.1, by rw [depth]; omega⟩]
        rfl
      · rw [if_neg h, if_neg fun h' => h ⟨h'.1, by have := h'.2; rw [depth] at this; omega⟩]
        rfl

/-- The elements are read back when the fuel reaches their depth. -/
theorem readElements_render (hesc : ReadsBack esc ok) :
    ∀ (v : Json) (vs : List Json) (n : Nat) (rest : Bytes), wfItems (v :: vs) = true →
      readElements n (renderItems esc (v :: vs) ++ 93 :: rest) =
        if allItems (readable ok) (v :: vs) = true ∧
          depthItems (v :: vs) ≤ n then some (v :: vs, rest)
        else none
  | v, vs, 0, rest, _ => by
      simp [readElements, depthItems]
  | v, [], n + 1, rest, hv => by
      have hwf : wf v = true := (Bool.and_eq_true_iff.mp hv).1
      rw [renderItems, readElements, readValue_render hesc v n _ hwf (Follows.cons _ (by simp))]
      simp only [allItems, depthItems, Bool.and_true, Nat.max_zero]
      by_cases h : allLeaves (readable ok) v = true ∧ depth v ≤ n
      · rw [if_pos h, if_pos ⟨h.1, by omega⟩]
        rfl
      · rw [if_neg h, if_neg fun h' => h ⟨h'.1, by omega⟩]
  | v, w :: vs, n + 1, rest, hv => by
      obtain ⟨hwf, htail⟩ := Bool.and_eq_true_iff.mp hv
      obtain ⟨hw, -⟩ := Bool.and_eq_true_iff.mp htail
      obtain ⟨b, tail, hbs, hspace, -⟩ := renderItems_head esc hw vs (93 :: rest)
      have hrest := readElements_render hesc w vs n rest htail
      rw [renderItems, readElements, List.append_assoc, List.cons_append,
        readValue_render hesc v n _ hwf (Follows.cons _ (by simp))]
      by_cases h : allLeaves (readable ok) v = true ∧ depth v ≤ n
      · rw [if_pos h]
        simp only [skipSpace_cons (show isSpace 44 = false from rfl)]
        rw [hbs] at hrest ⊢
        rw [skipSpace_cons hspace, hrest]
        by_cases h' : allItems (readable ok) (w :: vs) = true ∧ depthItems (w :: vs) ≤ n
        · rw [if_pos h', if_pos]
          · rfl
          · rw [allItems, depthItems, h.1, h'.1]
            exact ⟨rfl, by omega⟩
        · rw [if_neg h', if_neg]
          · rfl
          · rw [allItems, depthItems, h.1, Bool.true_and]
            rintro ⟨hall, hdepth⟩
            exact h' ⟨hall, by omega⟩
      · rw [if_neg h, if_neg]
        rw [allItems, depthItems, Bool.and_eq_true]
        rintro ⟨hall, hdepth⟩
        exact h ⟨hall.1, by omega⟩

/-- So are the members. -/
theorem readFields_render (hesc : ReadsBack esc ok) :
    ∀ (k : Bytes) (v : Json) (fs : List (Bytes × Json)) (n : Nat) (rest : Bytes),
      wfFields ((k, v) :: fs) = true →
      readFields n (renderFields esc ((k, v) :: fs) ++ 125 :: rest) =
        if allFields (readable ok) ((k, v) :: fs) = true ∧ depthFields ((k, v) :: fs) ≤ n then
          some ((k, v) :: fs, rest)
        else none
  | k, v, fs, 0, rest, _ => by
      simp [readFields, depthFields]
  | k, v, [], n + 1, rest, hv => by
      obtain ⟨hkv, -⟩ := Bool.and_eq_true_iff.mp hv
      obtain ⟨hk, hwf⟩ := Bool.and_eq_true_iff.mp hkv
      rw [renderFields, List.cons_append, List.append_assoc, List.cons_append, List.cons_append,
        readFields_key hk hwf, readValue_render hesc v n _ hwf (Follows.cons _ (by simp))]
      simp only [allFields, depthFields, Bool.and_true, Nat.max_zero]
      by_cases h : allLeaves (readable ok) v = true ∧ depth v ≤ n
      · rw [if_pos h, if_pos ⟨h.1, by omega⟩]
        rfl
      · rw [if_neg h, if_neg fun h' => h ⟨h'.1, by omega⟩]
  | k, v, g :: fs, n + 1, rest, hv => by
      obtain ⟨hkv, htail⟩ := Bool.and_eq_true_iff.mp hv
      obtain ⟨hk, hwf⟩ := Bool.and_eq_true_iff.mp hkv
      obtain ⟨tail, hbs⟩ := renderFields_head esc g fs (125 :: rest)
      have hrest := readFields_render hesc g.1 g.2 fs n rest htail
      rw [renderFields]
      simp only [List.cons_append, List.append_assoc]
      rw [readFields_key hk hwf, readValue_render hesc v n _ hwf (Follows.cons _ (by simp))]
      by_cases h : allLeaves (readable ok) v = true ∧ depth v ≤ n
      · rw [if_pos h]
        simp only [skipSpace_cons (show isSpace 44 = false from rfl)]
        rw [hbs] at hrest ⊢
        rw [skipSpace_cons (show isSpace 34 = false from rfl), hrest]
        by_cases h' : allFields (readable ok) (g :: fs) = true ∧ depthFields (g :: fs) ≤ n
        · rw [if_pos h', if_pos]
          · rfl
          · rw [allFields, depthFields, h.1, h'.1]
            exact ⟨rfl, by omega⟩
        · rw [if_neg h', if_neg]
          · rfl
          · rw [allFields, depthFields, h.1, Bool.true_and]
            rintro ⟨hall, hdepth⟩
            exact h' ⟨hall, by omega⟩
      · rw [if_neg h, if_neg]
        rw [allFields, depthFields, Bool.and_eq_true]
        rintro ⟨hall, hdepth⟩
        exact h ⟨hall.1, by omega⟩

end

/-! ### The fuel of `parse` reaches -/

mutual

/-- A value is no deeper than its text is long. -/
theorem depth_le_length (esc : Bytes → Bytes) :
    ∀ v : Json, wf v = true → depth v ≤ (render esc v).length
  | .null, _ => by simp [depth, render, ascii]
  | .bool true, _ => by simp [depth, render, ascii]
  | .bool false, _ => by simp [depth, render, ascii]
  | .num text, hv => by
      obtain ⟨b, bs, hrender, -⟩ := render_head esc hv
      simp [depth, hrender]
  | .str s, _ => by simp [depth, render, renderString]
  | .arr items, hv => by
      have := depthItems_le_length esc items hv
      simp only [depth, render, List.length_cons, List.length_append, List.length_nil]
      omega
  | .obj fields, hv => by
      have := depthFields_le_length esc fields hv
      simp only [depth, render, List.length_cons, List.length_append, List.length_nil]
      omega

/-- Nor are the elements. -/
theorem depthItems_le_length (esc : Bytes → Bytes) :
    ∀ vs : List Json, wfItems vs = true → depthItems vs ≤ (renderItems esc vs).length + 1
  | [], _ => by simp [depthItems]
  | [v], hv => by
      have := depth_le_length esc v (Bool.and_eq_true_iff.mp hv).1
      simp only [depthItems, renderItems]
      omega
  | v :: w :: vs, hv => by
      obtain ⟨hwf, htail⟩ := Bool.and_eq_true_iff.mp hv
      have hhead := depth_le_length esc v hwf
      have := depthItems_le_length esc (w :: vs) htail
      have hpos : 1 ≤ depth v := by cases v <;> simp [depth]
      rw [depthItems, renderItems, List.length_append, List.length_cons]
      omega

/-- Nor are the members. -/
theorem depthFields_le_length (esc : Bytes → Bytes) :
    ∀ fs : List (Bytes × Json), wfFields fs = true →
      depthFields fs ≤ (renderFields esc fs).length + 1
  | [], _ => by simp [depthFields]
  | [(k, v)], hv => by
      obtain ⟨hkv, -⟩ := Bool.and_eq_true_iff.mp hv
      have := depth_le_length esc v (Bool.and_eq_true_iff.mp hkv).2
      simp only [depthFields, renderFields, List.length_cons, List.length_append]
      omega
  | (k, v) :: g :: fs, hv => by
      obtain ⟨hkv, htail⟩ := Bool.and_eq_true_iff.mp hv
      have hhead := depth_le_length esc v (Bool.and_eq_true_iff.mp hkv).2
      have := depthFields_le_length esc (g :: fs) htail
      rw [depthFields, renderFields, List.length_append]
      simp only [List.length_cons, List.length_append]
      omega

end

/-- **The round trip.** A text that `render` writes is read back as its value exactly when the
strings and numbers of the value are readable. -/
theorem parse_render (hesc : ReadsBack esc ok) {v : Json} (hv : wf v = true)
    (hutf8 : Utf8.WellFormed (render esc v)) :
    parse (render esc v) = if allLeaves (readable ok) v = true then some v else none := by
  obtain ⟨b, bs, hrender, hspace, -⟩ := render_head esc hv
  have hskip : skipSpace (render esc v) = render esc v := by
    rw [hrender, skipSpace_cons hspace]
  have hread := readValue_render hesc v ((render esc v).length + 1) [] hv Follows.nil
  rw [List.append_nil] at hread
  have hdepth : depth v ≤ (render esc v).length + 1 :=
    Nat.le_succ_of_le (depth_le_length esc v hv)
  rw [parse, if_pos hutf8, hskip, hread]
  by_cases h : allLeaves (readable ok) v = true
  · rw [if_pos ⟨h, hdepth⟩, if_pos h]
    rfl
  · rw [if_neg fun h' => h h'.1, if_neg h]

end RoundTrip

/-! ### The texts are UTF-8 -/

/-- A digit is ASCII. -/
theorem ascii_of_isDigit {b : UInt8} (h : isDigit b = true) : b < 0x80 := by
  simp only [isDigit, Bool.and_eq_true, decide_eq_true_eq, UInt8.le_iff_toNat_le] at h
  rw [UInt8.lt_iff_toNat_lt]
  have h57 : (57 : UInt8).toNat = 57 := rfl
  have h128 : (0x80 : UInt8).toNat = 128 := rfl
  omega

/-- The bytes of a text are ASCII. -/
def Ascii (bs : Bytes) : Prop := ∀ b ∈ bs, b < 0x80

/-- ASCII behind ASCII. -/
theorem Ascii.append {xs ys : Bytes} (hx : Ascii xs) (hy : Ascii ys) : Ascii (xs ++ ys) := by
  intro b hb
  rcases List.mem_append.mp hb with hb | hb
  · exact hx b hb
  · exact hy b hb

/-- One ASCII byte more. -/
theorem Ascii.cons {b : UInt8} {bs : Bytes} (hb : b < 0x80) (hbs : Ascii bs) : Ascii (b :: bs) := by
  intro c hc
  rcases List.mem_cons.mp hc with rfl | hc
  · exact hb
  · exact hbs c hc

/-- The digits that are read are ASCII. -/
theorem ascii_digits (bs : Bytes) : Ascii (digits bs).1 := fun _ hb =>
  ascii_of_isDigit (List.mem_takeWhile_imp hb)

/-- So is the integer part. -/
theorem ascii_readInt {bs int bs' : Bytes} (h : readInt bs = some (int, bs')) : Ascii int := by
  have hd := ascii_digits bs
  unfold readInt at h
  split at h
  · cases h
  · rename_i heq
    rw [heq] at hd
    split at h
    · cases h
      exact Ascii.cons (by decide) (fun _ h => absurd h List.not_mem_nil)
    · cases h
      exact hd

/-- So is the fraction. -/
theorem ascii_readFrac {bs frac bs' : Bytes} (h : readFrac bs = some (frac, bs')) :
    Ascii frac := by
  unfold readFrac at h
  split at h
  · split at h
    · cases h
    · cases h
      exact Ascii.cons (by decide) (ascii_digits _)
  · cases h
    exact fun _ h => absurd h List.not_mem_nil

/-- So is the sign. -/
theorem ascii_readSign (bs : Bytes) : Ascii (readSign bs).1 := by
  unfold readSign
  split
  · split
    · rename_i h
      refine Ascii.cons ?_ (fun _ h => absurd h List.not_mem_nil)
      rcases h with rfl | rfl <;> decide
    · exact fun _ h => absurd h List.not_mem_nil
  · exact fun _ h => absurd h List.not_mem_nil

/-- So is the exponent. -/
theorem ascii_readExp {bs exp bs' : Bytes} (h : readExp bs = some (exp, bs')) : Ascii exp := by
  unfold readExp at h
  split at h
  · split at h
    · rename_i he
      simp only at h
      split at h
      · cases h
      · cases h
        refine Ascii.cons ?_ ((ascii_readSign _).append (ascii_digits _))
        rcases he with rfl | rfl <;> decide
    · cases h
      exact fun _ h => absurd h List.not_mem_nil
  · cases h
    exact fun _ h => absurd h List.not_mem_nil

/-- So is a number. -/
theorem IsNumber.ascii {text : Bytes} (h : IsNumber text) : Ascii text := by
  unfold IsNumber readNumber at h
  simp only at h
  rcases hint : readInt (readMinus text).2 with _ | ⟨int, bs₁⟩
  · simp [hint] at h
  rcases hfrac : readFrac bs₁ with _ | ⟨frac, bs₂⟩
  · simp [hint, hfrac] at h
  rcases hexp : readExp bs₂ with _ | ⟨exp, bs₃⟩
  · simp [hint, hfrac, hexp] at h
  simp only [hint, hfrac, hexp, Option.some.injEq, Prod.mk.injEq] at h
  have hminus : Ascii (readMinus text).1 := by
    unfold readMinus
    split
    · exact Ascii.cons (by decide) (fun _ h => absurd h List.not_mem_nil)
    · exact fun _ h => absurd h List.not_mem_nil
  rw [← h.1]
  exact hminus.append ((ascii_readInt hint).append
    ((ascii_readFrac hfrac).append (ascii_readExp hexp)))

/-- So is a plain key. -/
theorem ascii_plainKey {k : Bytes} (hk : plainKey k = true) : Ascii k := by
  intro b hb
  have := List.all_eq_true.mp hk b hb
  simp only [Bool.and_eq_true, decide_eq_true_eq] at this
  exact this.1.1.2

/-- Whether a string is UTF-8. -/
def utf8 : Json → Bool
  | .str s => decide (Utf8.WellFormed s)
  | _ => true

/-- A number is well-formed UTF-8. -/
theorem wellFormed_number {text : Bytes} (h : wf (.num text) = true) : Utf8.WellFormed text := by
  rw [wf, Bool.or_eq_true, decide_eq_true_eq, decide_eq_true_eq] at h
  rcases h with h | h
  · exact Utf8.wellFormed_of_ascii h.ascii
  · simp only [nonFinite, List.mem_cons, List.not_mem_nil, or_false] at h
    rcases h with rfl | rfl | rfl | rfl <;> decide

section WellFormed

variable {esc : Bytes → Bytes}

mutual

/-- The text of a value whose strings are UTF-8 is UTF-8, when the escaping keeps that. -/
theorem wellFormed_render (hesc : ∀ s, Utf8.WellFormed s → Utf8.WellFormed (esc s)) :
    ∀ v : Json, wf v = true → allLeaves utf8 v = true → Utf8.WellFormed (render esc v)
  | .null, _, _ => by rw [render]; decide
  | .bool true, _, _ => by rw [render]; decide
  | .bool false, _, _ => by rw [render]; decide
  | .num _, hv, _ => wellFormed_number hv
  | .str s, _, hs => by
      rw [render, renderString, Utf8.WellFormed, Utf8.run_start_ascii (by decide)]
      exact (hesc s (of_decide_eq_true hs)).append rfl
  | .arr items, hv, hs => by
      rw [render, Utf8.WellFormed, Utf8.run_start_ascii (by decide)]
      exact (wellFormed_renderItems hesc items hv hs).append rfl
  | .obj fields, hv, hs => by
      rw [render, Utf8.WellFormed, Utf8.run_start_ascii (by decide)]
      exact (wellFormed_renderFields hesc fields hv hs).append rfl

/-- The elements are, when their texts are. -/
theorem wellFormed_renderItems (hesc : ∀ s, Utf8.WellFormed s → Utf8.WellFormed (esc s)) :
    ∀ vs : List Json, wfItems vs = true → allItems utf8 vs = true →
      Utf8.WellFormed (renderItems esc vs)
  | [], _, _ => rfl
  | [v], hv, hs => by
      exact wellFormed_render hesc v (Bool.and_eq_true_iff.mp hv).1 (Bool.and_eq_true_iff.mp hs).1
  | v :: w :: vs, hv, hs => by
      obtain ⟨hwf, hwfs⟩ := Bool.and_eq_true_iff.mp hv
      obtain ⟨hstr, hstrs⟩ := Bool.and_eq_true_iff.mp hs
      rw [renderItems]
      refine (wellFormed_render hesc v hwf hstr).append ?_
      rw [Utf8.WellFormed, Utf8.run_start_ascii (by decide)]
      exact wellFormed_renderItems hesc (w :: vs) hwfs hstrs

/-- The members are, when their texts are. -/
theorem wellFormed_renderFields (hesc : ∀ s, Utf8.WellFormed s → Utf8.WellFormed (esc s)) :
    ∀ fs : List (Bytes × Json), wfFields fs = true → allFields utf8 fs = true →
      Utf8.WellFormed (renderFields esc fs)
  | [], _, _ => rfl
  | [(k, v)], hv, hs => by
      obtain ⟨hkv, -⟩ := Bool.and_eq_true_iff.mp hv
      obtain ⟨hk, hwf⟩ := Bool.and_eq_true_iff.mp hkv
      rw [renderFields, Utf8.WellFormed, Utf8.run_start_ascii (by decide)]
      refine (Utf8.wellFormed_of_ascii (ascii_plainKey hk)).append ?_
      rw [Utf8.WellFormed, Utf8.run_start_ascii (by decide), Utf8.run_start_ascii (by decide)]
      exact wellFormed_render hesc v hwf (Bool.and_eq_true_iff.mp hs).1
  | (k, v) :: g :: fs, hv, hs => by
      obtain ⟨hkv, hwfs⟩ := Bool.and_eq_true_iff.mp hv
      obtain ⟨hk, hwf⟩ := Bool.and_eq_true_iff.mp hkv
      obtain ⟨hstr, hstrs⟩ := Bool.and_eq_true_iff.mp hs
      have htail : Utf8.WellFormed (44 :: renderFields esc (g :: fs)) := by
        rw [Utf8.WellFormed, Utf8.run_start_ascii (by decide)]
        exact wellFormed_renderFields hesc (g :: fs) hwfs hstrs
      rw [renderFields, List.cons_append, Utf8.WellFormed, Utf8.run_start_ascii (by decide),
        List.append_assoc]
      refine (Utf8.wellFormed_of_ascii (ascii_plainKey hk)).append ?_
      rw [List.cons_append, List.cons_append, Utf8.WellFormed, Utf8.run_start_ascii (by decide),
        Utf8.run_start_ascii (by decide)]
      exact (wellFormed_render hesc v hwf hstr).append htail

end

end WellFormed

end BotCockpit.Lib.Json
