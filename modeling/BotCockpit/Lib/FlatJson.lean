import BotCockpit.Lib.JsonText
import BotCockpit.Lib.CText

/-!
# `BotCockpit.Lib.FlatJson`: flat JSON objects as they are written

The text of a JSON object whose values are strings, numbers and truth values. A string is the
list of the pieces it is written with, so every way to escape it is one value of `JsonString`, and
a text that is not JSON cannot be built. Blanks may stand wherever the grammar has them.

`afterFirst_string` is what a textual search for a quoted word makes of a string: it stops there
exactly when the string ends with the word, right behind its opening quote or a quote inside
(`Mentions`). `strtod_text` says that `strtod` reads a number of the grammar to its end.
-/

set_option autoImplicit false

namespace BotCockpit.Lib

/-! ### Strings -/

/-- One piece of a string: a byte as it is, an escape of one letter, or a `\u` escape. -/
inductive Piece where
  | plain (b : UInt8) (h : 32 ≤ b ∧ b ≠ 34 ∧ b ≠ 92)
  | short (e c : UInt8) (h : Json.escaped e = some c)
  | unit (u v w x : UInt8) (n : Nat) (h : Json.hexUnit u v w x = some n)

/-- The bytes of a piece between the quotes. -/
def Piece.text : Piece → Bytes
  | plain b _ => [b]
  | short e _ _ => [92, e]
  | unit u v w x _ _ => [92, 117, u, v, w, x]

def Piece.item : Piece → Json.StringItem
  | plain b _ => .byte b
  | short _ c _ => .byte c
  | unit _ _ _ _ n _ => .unit n

/-- A piece that stands for its own last byte. -/
def Piece.verbatim : Piece → Bool
  | plain _ _ => true
  | short e c _ => e == c
  | unit .. => false

/-- A string as it is written. -/
abbrev JsonString := List Piece

namespace JsonString

/-- The text between the quotes. -/
def text (s : JsonString) : Bytes := s.flatMap Piece.text

/-- The string that is meant. -/
def content (s : JsonString) : Bytes := Json.stringBytes (s.map Piece.item)

/-- A string of bytes that need no escape. -/
def ofBytes (bs : Bytes) (h : ∀ b ∈ bs, 32 ≤ b ∧ b ≠ 34 ∧ b ≠ 92) : JsonString :=
  bs.pmap Piece.plain h

/-- The text of a string, piece by piece. -/
@[simp] theorem text_cons (p : Piece) (s : JsonString) : text (p :: s) = p.text ++ text s := rfl

end JsonString

/-- Hexadecimal digits are no quote and no backslash. -/
theorem hexUnit_plain {a b c d : UInt8} {n : Nat} (h : Json.hexUnit a b c d = some n) :
    ∀ e ∈ [a, b, c, d], e ≠ 34 ∧ e ≠ 92 := by
  have hquote : Json.hexDigit 34 = none := rfl
  have hslash : Json.hexDigit 92 = none := rfl
  simp only [List.forall_mem_cons, List.not_mem_nil, IsEmpty.forall_iff, implies_true, and_true]
  refine ⟨⟨?_, ?_⟩, ⟨?_, ?_⟩, ⟨?_, ?_⟩, ⟨?_, ?_⟩⟩ <;> rintro rfl <;>
  simp [Json.hexUnit, hquote, hslash] at h

/-- A quote inside a string has a backslash in front of it. -/
theorem JsonString.escaped_quote (s : JsonString) :
    ∀ {pre post : Bytes}, text s = pre ++ 34 :: post → ∃ pre', pre = pre' ++ [92] := by
  induction s with
  | nil => intro pre post h; simp [text] at h
  | cons p s ih =>
      intro pre post h
      rw [text_cons] at h
      -- A quote behind the first piece is one of the rest of the string.
      have hskip : ∀ (front : Bytes) {tail : Bytes}, pre = front ++ tail →
        text s = tail ++ 34 :: post →
          ∃ pre', pre = pre' ++ [92] := by
        intro front tail hpre htail
        obtain ⟨tail', rfl⟩ := ih htail
        exact ⟨front ++ tail', by rw [hpre, List.append_assoc]⟩
      cases p with
      | plain b hb =>
          match pre, h with
          | [], h => simp [Piece.text, hb.2.1] at h
          | q :: pre, h =>
              simp only [Piece.text, List.cons_append, List.nil_append, List.cons.injEq] at h
              exact hskip [q] rfl h.2
      | short e c he =>
          match pre, h with
          | [], h => simp [Piece.text] at h
          | [q], h =>
              simp only [Piece.text, List.cons_append, List.nil_append, List.cons.injEq] at h
              exact ⟨[], by rw [← h.1]; rfl⟩
          | q :: r :: pre, h =>
              simp only [Piece.text, List.cons_append, List.nil_append, List.cons.injEq] at h
              exact hskip [q, r] rfl h.2.2
      | unit u v w x n hn =>
          have hplain := hexUnit_plain hn
          simp only [List.forall_mem_cons] at hplain
          obtain ⟨⟨hu, -⟩, ⟨hv, -⟩, ⟨hw, -⟩, ⟨hx, -⟩, -⟩ := hplain
          match pre, h with
          | [], h => simp [Piece.text] at h
          | [_], h => simp [Piece.text] at h
          | [_, _], h => simp [Piece.text, hu] at h
          | [_, _, _], h => simp [Piece.text, hv] at h
          | [_, _, _, _], h => simp [Piece.text, hw] at h
          | [_, _, _, _, _], h => simp [Piece.text, hx] at h
          | a :: b :: c :: d :: e :: f :: pre, h =>
              simp only [Piece.text, List.cons_append, List.nil_append, List.cons.injEq] at h
              exact hskip [a, b, c, d, e, f] rfl h.2.2.2.2.2.2

/-! ### Searching for a quoted word -/

/-- A byte of a word: a small letter or an underscore. -/
def isWordByte (b : UInt8) : Bool := b == 95 || (97 ≤ b && b ≤ 122)

/-- A key made of small letters and underscores. -/
def IsWord (key : String) : Prop := ascii key ≠ [] ∧ ∀ b ∈ ascii key, isWordByte b = true

instance (key : String) : Decidable (IsWord key) :=
  inferInstanceAs (Decidable (_ ∧ _))

/-- The string ends with the word, right behind its opening quote or an escaped quote. -/
def JsonString.Mentions (key : String) (s : JsonString) : Prop := 34 :: ascii key <:+ 34 :: s.text

instance (key : String) (s : JsonString) : Decidable (s.Mentions key) :=
  inferInstanceAs (Decidable (_ <:+ _))

/-- A text behind a closing quote. -/
def Separated (rest : Bytes) : Prop := ∀ b ∈ rest.head?, isWordByte b = false

/-- A part of the text in which no occurrence starts is passed over. -/
theorem afterFirst_append {needle u v : Bytes}
    (h : ∀ s, s ≠ [] → s <:+ u → ¬needle <+: s ++ v) :
    afterFirst needle (u ++ v) = afterFirst needle v := by
  induction u with
  | nil => rfl
  | cons b u ih =>
      have hnot := h (b :: u) (by simp) (List.suffix_refl _)
      rw [List.cons_append] at hnot ⊢
      rw [afterFirst, if_neg hnot, ih fun s hs hsu => h s hs (hsu.trans (List.suffix_cons b u))]

/-- A byte that is none of a word's does not occur in a word. -/
theorem IsWord.not_mem {key : String} (h : IsWord key) {b : UInt8} (hb : isWordByte b = false) :
    b ∉ ascii key := fun hmem => by simp [h.2 b hmem] at hb

/-- A word does not end where a quote inside a string stands. -/
theorem JsonString.no_word_quote {key : String} (hkey : IsWord key) (s : JsonString)
    (pre post : Bytes) : text s ≠ pre ++ (ascii key ++ 34 :: post) := by
  intro h
  rw [← List.append_assoc] at h
  obtain ⟨pre', hpre⟩ := s.escaped_quote h
  have hlast := congrArg List.getLast? hpre
  rw [List.getLast?_append_of_ne_nil _ hkey.1, List.getLast?_concat] at hlast
  exact hkey.not_mem (b := 92) rfl (List.mem_of_getLast? hlast)

/-- Where a quoted word starts in a string: at the quote in front of its last bytes. -/
theorem prefix_string {key : String} (hkey : IsWord key) (s : JsonString) {u : Bytes}
    (hu : u ≠ []) (hsuffix : u <:+ 34 :: s.text) (rest : Bytes) :
    quoted key <+: u ++ 34 :: rest ↔ u = 34 :: ascii key := by
  constructor
  · rintro ⟨z, hz⟩
    obtain ⟨a, u, rfl⟩ := List.exists_cons_of_ne_nil hu
    simp only [quoted, List.cons_append, List.append_assoc, List.nil_append, List.cons.injEq] at hz
    obtain ⟨rfl, hz⟩ := hz
    rcases List.append_eq_append_iff.mp hz with ⟨c, hc, hrest⟩ | ⟨c, hc, hrest⟩
    · -- The word is the front of `u`, so a quote of the string ends it or the closing one does.
      cases c with
      | nil => rw [hc, List.append_nil]
      | cons q c =>
          simp only [List.cons_append, List.cons.injEq] at hrest
          obtain ⟨rfl, -⟩ := hrest
          rw [hc] at hsuffix
          rcases List.suffix_cons_iff.mp hsuffix with heq | ⟨pre, hpre⟩
          · exact absurd (List.cons.inj heq).2.symm (s.no_word_quote hkey [] c)
          · exact absurd (by rw [← hpre, List.append_assoc]; rfl)
              (s.no_word_quote hkey (pre ++ [34]) c)
    · -- A word has no quote.
      cases c with
      | nil => rw [hc, List.append_nil]
      | cons q c =>
          simp only [List.cons_append, List.cons.injEq] at hrest
          obtain ⟨rfl, -⟩ := hrest
          exact absurd (by simp [hc]) (hkey.not_mem (b := 34) rfl)
  · rintro rfl
    exact ⟨rest, by simp [quoted]⟩

/-- A search for a quoted word stops in a string that mentions it, and passes over any other. -/
theorem afterFirst_string {key : String} (hkey : IsWord key) (s : JsonString) {rest : Bytes}
    (hrest : Separated rest) :
    afterFirst (quoted key) (34 :: (s.text ++ 34 :: rest)) =
      if s.Mentions key then some rest else afterFirst (quoted key) rest := by
  by_cases hm : s.Mentions key
  · rw [if_pos hm]
    obtain ⟨pre, hpre⟩ := hm
    have hsplit : 34 :: (s.text ++ 34 :: rest) = pre ++ (quoted key ++ rest) := by
      rw [← List.cons_append, ← hpre]
      simp [quoted]
    rw [hsplit, afterFirst_append, afterFirst_hit]
    rintro u hu ⟨pre', hpre'⟩ hprefix
    have hstart := (prefix_string hkey s (u := u ++ 34 :: ascii key) (by simp)
      ⟨pre', by rw [← List.append_assoc, hpre', hpre]⟩ rest).mp (by simpa [quoted] using hprefix)
    exact hu (List.append_left_eq_self.mp hstart)
  · rw [if_neg hm, ← List.cons_append, afterFirst_append]
    · -- The closing quote does not open the word.
      rw [afterFirst, if_neg]
      rintro ⟨z, hz⟩
      obtain ⟨b, w, hbw⟩ := List.exists_cons_of_ne_nil hkey.1
      simp only [quoted, hbw, List.cons_append, List.cons.injEq, true_and] at hz
      have hword := hkey.2 b (by simp [hbw])
      rw [hrest b (by simp [← hz])] at hword
      cases hword
    · intro u hu hsuffix hprefix
      rw [(prefix_string hkey s hu hsuffix rest).mp hprefix] at hsuffix
      exact hm hsuffix

/-! ### Numbers -/

/-- A run of digits. -/
abbrev Digits := { ds : Bytes // ds ≠ [] ∧ ∀ b ∈ ds, isDigit b = true }

/-- The exponent of a number: a small or a capital letter, a sign or none, and digits. -/
structure Exponent where
  capital : Bool
  sign : Option Bool
  digits : Digits

/-- A number as it is written. -/
structure JsonNumber where
  neg : Bool
  int : Digits
  frac : Option Digits
  exp : Option Exponent
  /-- No zero stands in front of another digit. -/
  noLead : int.1.head? = some 48 → int.1 = [48]

/-- The text of a sign. -/
def signText : Option Bool → Bytes
  | none => []
  | some neg => [if neg then 45 else 43]

def Exponent.text (e : Exponent) : Bytes :=
  (if e.capital then 69 else 101) :: (signText e.sign ++ e.digits.1)

def Exponent.value (e : Exponent) : Int :=
  if e.sign = some true then -(readNat e.digits.1 : Int) else readNat e.digits.1

namespace JsonNumber

/-- The digits behind the point. -/
def fracDigits (n : JsonNumber) : Bytes := (n.frac.map Subtype.val).getD []

def fracText (n : JsonNumber) : Bytes := (n.frac.map fun ds => 46 :: ds.1).getD []

def expText (n : JsonNumber) : Bytes := (n.exp.map Exponent.text).getD []

/-- The text without its minus sign. -/
def unsigned (n : JsonNumber) : Bytes := n.int.1 ++ (n.fracText ++ n.expText)

def text (n : JsonNumber) : Bytes := (if n.neg then [45] else []) ++ n.unsigned

/-- The number that is meant. -/
def value (n : JsonNumber) : NumText :=
  .finite n.neg (readNat (n.int.1 ++ n.fracDigits)) 10
    ((n.exp.map Exponent.value).getD 0 - n.fracDigits.length)

end JsonNumber

/-- A text that does not continue a number. -/
def EndsNumber (rest : Bytes) : Prop :=
  ∀ b ∈ rest.head?, isDigit b = false ∧ b ≠ 46 ∧ toLower b ≠ 101 ∧ toLower b ≠ 120

/-- The exponent of a number is read as it stands. -/
theorem readExponent_text (n : JsonNumber) {rest : Bytes} (hrest : EndsNumber rest) :
    readExponent 101 (n.expText ++ rest) = (n.exp.map Exponent.value).getD 0 := by
  have hdigit : ∀ b ∈ rest.head?, isDigit b = false := fun b hb => (hrest b hb).1
  unfold JsonNumber.expText
  cases n.exp with
  | none =>
      cases rest with
      | nil => rfl
      | cons b rest => simp [readExponent, (hrest b rfl).2.2.1]
  | some e =>
      obtain ⟨capital, sign, ds, hne, hds⟩ := e
      have hmark : toLower (if capital then 69 else 101) = 101 := by cases capital <;> rfl
      have hsign : readSign (signText sign ++ (ds ++ rest)) = (sign == some true, ds ++ rest) := by
        rcases sign with _ | _ | _
        · obtain ⟨d, ds, rfl⟩ := List.exists_cons_of_ne_nil hne
          exact readSign_of_isDigit (hds d (by simp)) _
        · rfl
        · rfl
      show readExponent 101 ((if capital then 69 else 101) :: (signText sign ++ ds ++ rest)) = _
      rw [readExponent, if_pos hmark, List.append_assoc, hsign]
      simp only [takeWhile_isDigit hds hdigit, Option.map_some, Option.getD_some, Exponent.value,
        beq_iff_eq]

/-- What follows the digits of a number in front of its point is not a digit. -/
theorem head_fraction (n : JsonNumber) {rest : Bytes} (hrest : EndsNumber rest) :
    ∀ b ∈ (n.expText ++ rest).head?, isDigit b = false ∧ b ≠ 46 ∧ toLower b ≠ 120 := by
  unfold JsonNumber.expText
  intro b hb
  cases he : n.exp with
  | none =>
      rw [he] at hb
      obtain ⟨hdigit, hdot, -, hx⟩ := hrest b hb
      exact ⟨hdigit, hdot, hx⟩
  | some e =>
      rw [he] at hb
      have hb' : (if e.capital then (69 : UInt8) else 101) = b := by
        simpa [Exponent.text] using hb
      subst hb'
      cases e.capital <;> decide

/-- So is its mantissa. -/
theorem readMantissa_text (n : JsonNumber) {rest : Bytes} (hrest : EndsNumber rest) :
    readMantissa isDigit (n.unsigned ++ rest) = (n.int.1, n.fracDigits, n.expText ++ rest) := by
  have hhead := head_fraction n hrest
  have hnot : ∀ b ∈ (n.expText ++ rest).head?, isDigit b = false := fun b hb => (hhead b hb).1
  unfold JsonNumber.unsigned JsonNumber.fracText JsonNumber.fracDigits readMantissa
  rw [List.append_assoc, List.append_assoc]
  cases n.frac with
  | none =>
      simp only [Option.map_none, Option.getD_none, List.nil_append,
        takeWhile_isDigit n.int.2.2 hnot, dropWhile_isDigit n.int.2.2 hnot]
      cases htail : n.expText ++ rest with
      | nil => rfl
      | cons b bs =>
          have hdot : b ≠ 46 := (hhead b (by simp [htail])).2.1
          simp only [if_neg hdot]
  | some fs =>
      have hpoint : ∀ b ∈ ((46 : UInt8) :: (fs.1 ++ (n.expText ++ rest))).head?,
          isDigit b = false := by
        intro b hb
        cases hb
        rfl
      simp only [Option.map_some, Option.getD_some, List.cons_append,
        takeWhile_isDigit n.int.2.2 hpoint, dropWhile_isDigit n.int.2.2 hpoint, if_true,
        takeWhile_isDigit fs.2.2 hnot, dropWhile_isDigit fs.2.2 hnot]

/-- `strtod` reads a number of the grammar to its end, and nothing behind it. -/
theorem strtod_text (n : JsonNumber) {rest : Bytes} (hrest : EndsNumber rest) :
    strtod (n.text ++ rest) = some n.value := by
  have hx : ∀ b ∈ (n.fracText ++ (n.expText ++ rest)).head?, toLower b ≠ 120 := by
    unfold JsonNumber.fracText
    cases n.frac with
    | none => exact fun b hb => (head_fraction n hrest b hb).2.2
    | some fs =>
        intro b hb
        cases hb
        decide
  have hscan := strtod_digits n.neg n.int.2.1 n.int.2.2 _ hx
  have hmant := readMantissa_text n hrest
  unfold JsonNumber.unsigned at hmant
  rw [List.append_assoc, List.append_assoc] at hmant
  rw [JsonNumber.text, JsonNumber.unsigned, List.append_assoc, List.append_assoc,
    List.append_assoc, hscan, readDecimal, hmant]
  simp only [n.int.2.1, false_and, if_false, readExponent_text n hrest]
  rfl

/-! ### Objects -/

/-- Blanks between two tokens. -/
abbrev Blanks := { bs : Bytes // ∀ b ∈ bs, Json.isSpace b = true }

/-- A value that is neither an object nor an array. -/
inductive Scalar where
  | str (s : JsonString)
  | num (n : JsonNumber)
  | bool (b : Bool)

/-- The text of a value, in front of `rest`. -/
def Scalar.onto : Scalar → Bytes → Bytes
  | str s, rest => 34 :: (s.text ++ 34 :: rest)
  | num n, rest => n.text ++ rest
  | bool b, rest => ascii (if b then "true" else "false") ++ rest

/-- A member of an object, with the blanks around its key and its value. -/
structure JsonMember where
  before : Blanks
  key : JsonString
  beforeColon : Blanks
  afterColon : Blanks
  value : Scalar
  after : Blanks

/-- The text of a member from its value on, in front of `rest`. -/
def JsonMember.valueOnto (m : JsonMember) (rest : Bytes) : Bytes := m.value.onto (m.after.1 ++ rest)

/-- The text of a member, in front of `rest`. -/
def JsonMember.onto (m : JsonMember) (rest : Bytes) : Bytes :=
  m.before.1 ++ 34 :: (m.key.text ++ 34 :: (m.beforeColon.1 ++
    58 :: (m.afterColon.1 ++ m.valueOnto rest)))

/-- The members behind another one, in front of `rest`. -/
def tailOnto : List JsonMember → Bytes → Bytes
  | [], rest => rest
  | m :: ms, rest => 44 :: m.onto (tailOnto ms rest)

/-- The members of an object, in front of `rest`. -/
def membersOnto : List JsonMember → Bytes → Bytes
  | [], rest => rest
  | m :: ms, rest => m.onto (tailOnto ms rest)

/-- Text behind a member can be put behind what follows it. -/
theorem JsonMember.onto_append (m : JsonMember) (rest post : Bytes) :
    m.onto rest ++ post = m.onto (rest ++ post) := by
  cases hv : m.value <;> simp [JsonMember.onto, JsonMember.valueOnto, Scalar.onto, hv]

/-- The same behind the members that are left. -/
theorem tailOnto_append (ms : List JsonMember) (rest post : Bytes) :
    tailOnto ms rest ++ post = tailOnto ms (rest ++ post) := by
  induction ms with
  | nil => rfl
  | cons m ms ih => rw [tailOnto, List.cons_append, JsonMember.onto_append, ih, tailOnto]

/-- The same behind all of them. -/
theorem membersOnto_append (ms : List JsonMember) (rest post : Bytes) :
    membersOnto ms rest ++ post = membersOnto ms (rest ++ post) := by
  cases ms with
  | nil => rfl
  | cons m ms => rw [membersOnto, JsonMember.onto_append, tailOnto_append, membersOnto]

/-- A flat JSON object, as it is written. -/
structure FlatObject where
  front : Blanks
  inner : Blanks
  members : List JsonMember
  back : Blanks
  distinct : (members.map fun m => m.key.content).Nodup

/-- A member without blanks. -/
def JsonMember.compact (key : JsonString) (value : Scalar) : JsonMember where
  before := ⟨[], by simp⟩
  key := key
  beforeColon := ⟨[], by simp⟩
  afterColon := ⟨[], by simp⟩
  value := value
  after := ⟨[], by simp⟩

namespace FlatObject

/-- An object without blanks. -/
def compact (members : List JsonMember) (distinct : (members.map fun m => m.key.content).Nodup) :
    FlatObject where
  front := ⟨[], by simp⟩
  inner := ⟨[], by simp⟩
  members := members
  back := ⟨[], by simp⟩
  distinct := distinct

/-- The text of an object, in front of `rest`. -/
def onto (o : FlatObject) (rest : Bytes) : Bytes :=
  o.front.1 ++ 123 :: (o.inner.1 ++ membersOnto o.members (125 :: (o.back.1 ++ rest)))

/-- The text of an object. -/
def text (o : FlatObject) : Bytes := o.onto []

/-- The same behind the object. -/
theorem text_append (o : FlatObject) (rest : Bytes) : o.text ++ rest = o.onto rest := by
  simp [text, onto, membersOnto_append]

/-- The value of a key. -/
def value? (o : FlatObject) (key : String) : Option Scalar :=
  (o.members.find? fun m => m.key.content == ascii key).map JsonMember.value

end FlatObject

end BotCockpit.Lib
