import BotCockpit.Lib.Bytes

/-!
# `BotCockpit.Lib.CText`: number scanning of the C standard library

`strtoll` and `strtod` in the "C" locale, on the bytes from the scanned position on. Both
return `none` where the C function leaves `end` at the start (no conversion). A zero byte
ends a C string; it is neither a space, a sign nor a digit, so the scanners stop there
without a rule of their own.

`strtod` returns the number as it is written (`NumText`), before rounding to a
floating-point type.
-/

set_option autoImplicit false

namespace BotCockpit.Lib

/-- `std::isspace` in the "C" locale. -/
def isSpace (b : UInt8) : Bool := b == 32 || (9 ≤ b && b ≤ 13)

/-- A hexadecimal digit. -/
def isHexDigit (b : UInt8) : Bool :=
  isDigit b || (97 ≤ b && b ≤ 102) || (65 ≤ b && b ≤ 70)

/-- The value of a hexadecimal digit. -/
def hexValue (b : UInt8) : Nat :=
  if isDigit b then b.toNat - 48
  else if 97 ≤ b then b.toNat - 87
  else b.toNat - 55

/-- The value of a hexadecimal digit string. -/
def readHex (ds : Bytes) : Nat := ds.foldl (fun acc d => 16 * acc + hexValue d) 0

/-- ASCII lower case. -/
def toLower (b : UInt8) : UInt8 := if 65 ≤ b && b ≤ 90 then b + 32 else b

/-- `true` when `s` starts with `word`, in either case. -/
def startsWithNoCase (word : String) (s : Bytes) : Bool :=
  (ascii word).isPrefixOf (s.map toLower)

/-- An optional sign: whether it is `-`, and the rest. -/
def readSign : Bytes → Bool × Bytes
  | [] => (false, [])
  | b :: bs => if b = 45 then (true, bs) else if b = 43 then (false, bs) else (false, b :: bs)

/-- A number as it is written. `finite neg mant base exp` is `± mant * base ^ exp`. -/
inductive NumText where
  | finite (neg : Bool) (mant : Nat) (base : Nat) (exp : Int)
  | inf (neg : Bool)
  | nan
  deriving DecidableEq, Repr

/-- An exponent part: `marker` (lower case), an optional sign and at least one digit. Without
a digit the marker is not part of the number. -/
def readExponent (marker : UInt8) : Bytes → Int
  | [] => 0
  | b :: bs =>
      if toLower b = marker then
        let (neg, ds) := readSign bs
        let e : Int := readNat (ds.takeWhile isDigit)
        if neg then -e else e
      else 0

/-- The digits before and after an optional point, and the rest. -/
def readMantissa (digit : UInt8 → Bool) (s : Bytes) : Bytes × Bytes × Bytes :=
  let whole := s.takeWhile digit
  match s.dropWhile digit with
  | [] => (whole, [], [])
  | b :: bs =>
      if b = 46 then (whole, bs.takeWhile digit, bs.dropWhile digit)
      else (whole, [], b :: bs)

/-- A decimal number without its sign. `none` when there is no digit. -/
def readDecimal (neg : Bool) (s : Bytes) : Option NumText :=
  let (whole, frac, rest) := readMantissa isDigit s
  if whole = [] ∧ frac = [] then none
  else some (.finite neg (readNat (whole ++ frac)) 10 (readExponent 101 rest - frac.length))

/-- A hexadecimal number without its sign and its `0x`. Without a hexadecimal digit only the
`0` in front of the `x` is read. -/
def readHexadecimal (neg : Bool) (s : Bytes) : NumText :=
  let (whole, frac, rest) := readMantissa isHexDigit s
  if whole = [] ∧ frac = [] then .finite neg 0 10 0
  else .finite neg (readHex (whole ++ frac)) 2 (readExponent 112 rest - 4 * frac.length)

/-- `std::strtod`. -/
def strtod (s : Bytes) : Option NumText :=
  let (neg, s) := readSign (s.dropWhile isSpace)
  if startsWithNoCase "inf" s then some (.inf neg)
  else if startsWithNoCase "nan" s then some .nan
  else if startsWithNoCase "0x" s then some (readHexadecimal neg (s.drop 2))
  else readDecimal neg s

/-- `std::strtoll` in base 10. A value outside the range of `long long` is clamped. -/
def strtoll (s : Bytes) : Option Int :=
  let (neg, s) := readSign (s.dropWhile isSpace)
  let ds := s.takeWhile isDigit
  if ds = [] then none
  else
    let v : Int := if neg then -(readNat ds : Int) else readNat ds
    some (max (-2 ^ 63) (min (2 ^ 63 - 1) v))

/-! ### Scanning a decimal text -/

/-- The digits are the bytes from 48 to 57. -/
theorem isDigit_bounds {b : UInt8} (h : isDigit b = true) : 48 ≤ b.toNat ∧ b.toNat ≤ 57 := by
  simpa [isDigit, UInt8.le_iff_toNat_le] using h

/-- A digit is not a space. -/
theorem isSpace_of_isDigit {b : UInt8} (h : isDigit b = true) : isSpace b = false := by
  have hb := isDigit_bounds h
  simp only [isSpace, Bool.or_eq_false_iff, beq_eq_false_iff_ne, ne_eq,
    Bool.and_eq_false_iff, decide_eq_false_iff_not, UInt8.le_iff_toNat_le]
  refine ⟨fun h32 => ?_, Or.inr ?_⟩
  · rw [h32] at hb
    simp at hb
  · simp only [UInt8.reduceToNat]
    omega

/-- A digit is not a sign. -/
theorem readSign_of_isDigit {b : UInt8} (h : isDigit b = true) (bs : Bytes) :
    readSign (b :: bs) = (false, b :: bs) := by
  have hb := isDigit_bounds h
  have h45 : b ≠ 45 := fun h' => by simp [h'] at hb
  have h43 : b ≠ 43 := fun h' => by simp [h'] at hb
  simp [readSign, h45, h43]

/-- ASCII lower case leaves a digit alone. -/
theorem toLower_of_isDigit {b : UInt8} (h : isDigit b = true) : toLower b = b := by
  have hb := isDigit_bounds h
  have h65 : ¬ (65 : UInt8) ≤ b := by
    simp only [UInt8.le_iff_toNat_le, UInt8.reduceToNat]
    omega
  simp [toLower, h65]

/-- A digit does not start a word that starts with a letter. -/
theorem startsWithNoCase_of_isDigit (w : UInt8) (ws : Bytes) {word : String}
    (hword : ascii word = w :: ws) (hw : isDigit w = false) {b : UInt8}
    (h : isDigit b = true) (bs : Bytes) : startsWithNoCase word (b :: bs) = false := by
  have hne : w ≠ b := fun h' => by simp [h', h] at hw
  simp [startsWithNoCase, hword, List.isPrefixOf, toLower_of_isDigit h, hne]

/-- A signed text that starts with digits is a decimal number, unless an `x` follows them. -/
theorem strtod_digits (neg : Bool) {ds : Bytes} (hne : ds ≠ []) (hds : ∀ b ∈ ds, isDigit b = true)
    (rest : Bytes) (hx : ∀ b ∈ rest.head?, toLower b ≠ 120) :
    strtod ((if neg then [45] else []) ++ (ds ++ rest)) = readDecimal neg (ds ++ rest) := by
  obtain ⟨d, ds, rfl⟩ := List.exists_cons_of_ne_nil hne
  have hd : isDigit d = true := hds d (by simp)
  have hsign : readSign (((if neg then [45] else []) ++ (d :: ds ++ rest)).dropWhile isSpace) =
      (neg, d :: ds ++ rest) := by
    cases neg
    · simp [isSpace_of_isDigit hd, readSign_of_isDigit hd]
    · simp [readSign, show isSpace 45 = false from rfl]
  have hinf : startsWithNoCase "inf" (d :: ds ++ rest) = false :=
    startsWithNoCase_of_isDigit 105 [110, 102] rfl rfl hd _
  have hnan : startsWithNoCase "nan" (d :: ds ++ rest) = false :=
    startsWithNoCase_of_isDigit 110 [97, 110] rfl rfl hd _
  -- The byte after the first digit is a digit or that of `rest`, so it is not an `x`.
  have hhex : startsWithNoCase "0x" (d :: ds ++ rest) = false := by
    have hx' : ∀ c, isDigit c = true → toLower c ≠ 120 := by
      intro c hc h'
      rw [toLower_of_isDigit hc] at h'
      simp [h', isDigit] at hc
    cases ds with
    | nil =>
        cases rest with
        | nil => simp [startsWithNoCase, ascii, List.isPrefixOf]
        | cons b rest => simp [startsWithNoCase, ascii, List.isPrefixOf, Ne.symm (hx b rfl)]
    | cons c ds =>
        simp [startsWithNoCase, ascii, List.isPrefixOf, Ne.symm (hx' c (hds c (by simp)))]
  simp only [strtod, hsign, hinf, hnan, hhex, Bool.false_eq_true, if_false]

/-- A signed decimal text is a decimal number, unless an `x` follows. -/
theorem strtod_eq_readDecimal (neg : Bool) (n : Nat) (rest : Bytes)
    (hx : ∀ b ∈ rest.head?, toLower b ≠ 120) :
    strtod ((if neg then [45] else []) ++ (decimal n ++ rest)) =
      readDecimal neg (decimal n ++ rest) :=
  strtod_digits neg (decimal_ne_nil n) (isDigit_of_mem_decimal n) rest hx

/-- `strtod` on the decimal text of `n`, in front of a byte that does not continue a
number. -/
theorem strtod_decimal (n : Nat) {b : UInt8} (rest : Bytes) (hdigit : isDigit b = false)
    (hdot : b ≠ 46) (he : toLower b ≠ 101) (hx : toLower b ≠ 120) :
    strtod (decimal n ++ b :: rest) = some (.finite false n 10 0) := by
  have hscan := strtod_eq_readDecimal false n (b :: rest) (by simpa using hx)
  have hhead : ∀ c ∈ (b :: rest).head?, isDigit c = false := by simpa using hdigit
  have hmant : readMantissa isDigit (decimal n ++ b :: rest) = (decimal n, [], b :: rest) := by
    simp only [readMantissa, takeWhile_isDigit_decimal n hhead,
      dropWhile_isDigit_decimal n hhead, hdot, if_false]
  have hexp : readExponent 101 (b :: rest) = 0 := by simp [readExponent, he]
  refine hscan.trans ?_
  simp [readDecimal, hmant, hexp, decimal_ne_nil, readNat_decimal]

/-- `strtoll` on a decimal text that no digit follows. -/
theorem strtoll_decimal_clamped (n : Nat) {post : Bytes}
    (hpost : ∀ c ∈ post.head?, isDigit c = false) :
    strtoll (decimal n ++ post) = some (min (2 ^ 63 - 1) (n : Int)) := by
  obtain ⟨d, ds, hcons, hd⟩ := decimal_eq_cons n
  have hspace : (decimal n ++ post).dropWhile isSpace = decimal n ++ post := by
    simp [hcons, isSpace_of_isDigit hd]
  have hsign : readSign (decimal n ++ post) = (false, decimal n ++ post) := by
    rw [hcons, List.cons_append, readSign_of_isDigit hd]
  simp only [strtoll, hspace, hsign, takeWhile_isDigit_decimal n hpost, decimal_ne_nil,
    if_false, readNat_decimal, Bool.false_eq_true, Option.some.injEq]
  omega

/-- `strtoll` on the decimal text of a number in range, in front of a byte that is not a
digit. -/
theorem strtoll_decimal (n : Nat) (hn : n < 2 ^ 63) {b : UInt8} (rest : Bytes)
    (hdigit : isDigit b = false) : strtoll (decimal n ++ b :: rest) = some (n : Int) := by
  rw [strtoll_decimal_clamped n (by simpa using hdigit), min_eq_right (by omega)]

end BotCockpit.Lib
