import BotCockpit.Proofs.Bridge.Envelope

/-!
# `BotCockpit.Proofs.Bridge.Strings`: which strings the bridge reads back

`escape` writes a control byte as `\u` and four digits, and `parse_json_string_at` has no case for
`u`, so it reads five bytes back. All other bytes come back as they were (`jsonStringBody_escape`).
The search for a key goes from one occurrence of its quoted name to the next one behind it, so it
passes over a key whose opening quote is part of the occurrence before it
(`Member.lost`).

`string_round_trip` puts both together: which strings, under which keys, come back.
-/

set_option autoImplicit false

namespace BotCockpit.Bridge

open BotCockpit.Lib

/-! ### The content of a string -/

/-- A byte that `escape` writes in a way the parser knows. -/
def ReadsBack (b : UInt8) : Prop := 0x20 ≤ b ∨ b = 9 ∨ b = 10 ∨ b = 13

instance (b : UInt8) : Decidable (ReadsBack b) := by
  unfold ReadsBack
  infer_instance

/-- What the parser makes of the escape sequence of a byte. -/
def readBack (c : UInt8) : Bytes :=
  if ReadsBack c then [c]
  else [117, 48, 48, hexDigit (c.toNat / 16), hexDigit (c.toNat % 16)]

/-- A hexadecimal digit is no backslash and no quote. -/
theorem hexDigit_ne {n : Nat} (h : n < 16) : hexDigit n ≠ 92 ∧ hexDigit n ≠ 34 := by
  have hall : ∀ n < 16, hexDigit n ≠ 92 ∧ hexDigit n ≠ 34 := by decide
  exact hall n h

/-- A byte without a meaning of its own is taken over. -/
theorem jsonStringBody_byte {b : UInt8} (hslash : b ≠ 92) (hquote : b ≠ 34) {bs : Bytes}
    (hbs : bs ≠ []) :
    jsonStringBody (b :: bs) = ((jsonStringBody bs).1, b :: (jsonStringBody bs).2) := by
  obtain ⟨e, rest, rfl⟩ := List.exists_cons_of_ne_nil hbs
  rw [jsonStringBody, if_neg hslash, if_neg hquote]

/-- The parser reads one escape sequence, and goes on behind it. -/
theorem jsonStringBody_escapeByte (c : UInt8) {bs : Bytes} (hbs : bs ≠ []) :
    jsonStringBody (escapeByte c ++ bs) =
      ((jsonStringBody bs).1, readBack c ++ (jsonStringBody bs).2) := by
  unfold escapeByte
  -- The bytes with a letter of their own come first, as in the source.
  split
  · rename_i h
    subst h
    simp [jsonStringBody, unescape, readBack, ReadsBack]
  split
  · rename_i h
    subst h
    simp [jsonStringBody, unescape, readBack, ReadsBack]
  split
  · rename_i h
    subst h
    simp [jsonStringBody, unescape, readBack, ReadsBack]
  split
  · rename_i h
    subst h
    simp [jsonStringBody, unescape, readBack, ReadsBack]
  split
  · rename_i h
    subst h
    simp [jsonStringBody, unescape, readBack, ReadsBack]
  rename_i hquote hslash hnewline hreturn htab
  split
  · -- The default case of the parser drops the backslash and keeps the `u` and the digits.
    rename_i hlow
    have hnot : ¬ReadsBack c := by
      unfold ReadsBack
      have hle : ¬(0x20 : UInt8) ≤ c := UInt8.not_le.mpr hlow
      tauto
    have hlt : c.toNat < 256 := c.toNat_lt
    obtain ⟨hs₁, hq₁⟩ := hexDigit_ne (n := c.toNat / 16) (by omega)
    obtain ⟨hs₂, hq₂⟩ := hexDigit_ne (n := c.toNat % 16) (by omega)
    rw [readBack, if_neg hnot]
    show jsonStringBody (92 :: 117 :: 48 :: 48 :: _ :: _ :: bs) = _
    rw [jsonStringBody, if_pos rfl, jsonStringBody_byte (by decide) (by decide) (by simp),
      jsonStringBody_byte (by decide) (by decide) (by simp), jsonStringBody_byte hs₁ hq₁ (by simp),
      jsonStringBody_byte hs₂ hq₂ hbs]
    rfl
  · rename_i hlow
    have hplain : ReadsBack c := Or.inl (UInt8.not_lt.mp hlow)
    rw [readBack, if_pos hplain]
    exact jsonStringBody_byte hslash hquote hbs

/-- **What the parser reads of an escaped string.** -/
theorem jsonStringBody_escape (s post : Bytes) :
    jsonStringBody (escape s ++ 34 :: post) = (true, s.flatMap readBack) := by
  induction s with
  | nil => cases post <;> simp [escape, jsonStringBody]
  | cons c s ih =>
      have hcons : escape (c :: s) ++ 34 :: post = escapeByte c ++ (escape s ++ 34 :: post) := by
        simp [escape]
      rw [hcons, jsonStringBody_escapeByte c (by simp), ih]
      rfl

/-- Each byte that the parser does not know costs four bytes more. -/
theorem length_flatMap_readBack (s : Bytes) :
    (s.flatMap readBack).length = s.length + 4 * s.countP (fun b => !decide (ReadsBack b)) := by
  induction s with
  | nil => rfl
  | cons b s ih =>
      rw [List.flatMap_cons, List.length_append, ih, List.countP_cons, List.length_cons]
      unfold readBack
      by_cases hb : ReadsBack b
      · simp [hb]
        omega
      · simp [hb]
        omega

/-- A text is read back as it was exactly when each byte is. -/
theorem flatMap_readBack_eq_self {s : Bytes} :
    s.flatMap readBack = s ↔ ∀ b ∈ s, ReadsBack b := by
  constructor
  · intro h
    have hlen := length_flatMap_readBack s
    rw [h] at hlen
    have hcount : s.countP (fun b => !decide (ReadsBack b)) = 0 := by omega
    simpa using List.countP_eq_zero.mp hcount
  · intro h
    induction s with
    | nil => rfl
    | cons b s ih =>
        rw [List.flatMap_cons, ih fun c hc => h c (by simp [hc]), readBack, if_pos (h b (by simp))]
        rfl

/-! ### The search for the key -/

/-- The text starts with the key: its quoted name, blanks, and a colon. -/
def StartsWithKey (key : String) (text : Bytes) : Prop :=
  quoted key <+: text ∧
    ((text.drop (quoted key).length).dropWhile isSpace).head? = some 58

instance (key : String) (text : Bytes) : Decidable (StartsWithKey key text) := by
  unfold StartsWithKey
  infer_instance

/-- The text has the string `s`, as `escape` writes it, in quotes as the value of a key that occurs
once. `rest` is what stands behind the quoted key. -/
structure Embeds (key : String) (s text rest : Bytes) : Prop where
  key_rest : quoted key ++ rest <:+ text
  once : ∀ t, t <:+ text → StartsWithKey key t → t = quoted key ++ rest
  value : ∃ v post, rest.dropWhile isSpace = 58 :: v ∧
    v.dropWhile isSpace = 34 :: (escape s ++ 34 :: post)

/-- A search from left to right that goes on behind each occurrence of the needle meets the one in
front of `rest`. -/
inductive Meets (needle : Bytes) : Bytes → Bytes → Prop
  | first {bs rest : Bytes} : afterFirst needle bs = some rest → Meets needle bs rest
  | next {bs mid rest : Bytes} : afterFirst needle bs = some mid → Meets needle mid rest →
      Meets needle bs rest

/-- The text has the key once, with `rest` behind its quoted name. -/
structure Member (key : String) (text rest : Bytes) : Prop where
  key_rest : quoted key ++ rest <:+ text
  once : ∀ t, t <:+ text → StartsWithKey key t → t = quoted key ++ rest

/-- A text that is embedded is that of a member. -/
theorem Embeds.member {key : String} {s text rest : Bytes} (h : Embeds key s text rest) :
    Member key text rest := ⟨h.key_rest, h.once⟩

/-- An occurrence of the quoted key with a colon behind it is the key. -/
theorem Member.eq_rest {key : String} {text rest mid v : Bytes} (h : Member key text rest)
    (hmid : quoted key ++ mid <:+ text) (hcolon : mid.dropWhile isSpace = 58 :: v) :
    mid = rest := by
  refine List.append_cancel_left (h.once _ hmid ⟨List.prefix_append _ _, ?_⟩)
  rw [List.drop_left, hcolon]
  rfl

/-- What is found is a suffix that starts with what was looked for. -/
theorem suffix_of_afterFirst {needle bs rest : Bytes} (h : afterFirst needle bs = some rest) :
    needle ++ rest <:+ bs := by
  obtain ⟨pre, rfl⟩ := afterFirst_eq_some h
  exact List.suffix_append _ _

/-- The value behind the colon and the blanks. -/
theorem findKeyValue_of_rest {key : String} {bs rest v w : Bytes}
    (h : afterFirst (quoted key) bs = some rest) (hcolon : rest.dropWhile isSpace = 58 :: v)
    (hv : v.dropWhile isSpace = w) (hw : w ≠ []) : findKeyValue key bs = some w := by
  rw [findKeyValue_eq, h, Option.bind_some, hcolon]
  show (if v.dropWhile isSpace = [] then none else some (v.dropWhile isSpace)) = some w
  rw [hv, if_neg hw]

/-- The search stops at the key, once it meets it. -/
theorem Member.found {key : String} {text rest v w : Bytes} (h : Member key text rest)
    (hcolon : rest.dropWhile isSpace = 58 :: v) (hv : v.dropWhile isSpace = w) (hw : w ≠ [])
    {bs : Bytes} (hmeets : Meets (quoted key) bs rest) (hbs : bs <:+ text) :
    findKeyValue key bs = some w := by
  induction hmeets with
  | first hrest => exact findKeyValue_of_rest hrest hcolon hv hw
  | @next bs mid rest hmid hmeets ih =>
      have hsuffix := (suffix_of_afterFirst hmid).trans hbs
      have ih' := ih h hcolon ((List.suffix_append _ _).trans hsuffix)
      rw [findKeyValue_eq, hmid, Option.bind_some]
      split
      · -- A colon behind this occurrence makes it the key.
        rename_i u hu
        rw [h.eq_rest hsuffix hu, hcolon] at hu
        cases hu
        show (if v.dropWhile isSpace = [] then none else some (v.dropWhile isSpace)) = some w
        rw [hv, if_neg hw]
      · exact ih'

/-- A search that does not meet the key finds nothing. -/
theorem Member.lost {key : String} {text rest : Bytes} (h : Member key text rest)
    (bs : Bytes) (hmeets : ¬Meets (quoted key) bs rest) (hbs : bs <:+ text) :
    findKeyValue key bs = none := by
  rw [findKeyValue_eq]
  cases hmid : afterFirst (quoted key) bs with
  | none => rfl
  | some mid =>
      have hsuffix := (suffix_of_afterFirst hmid).trans hbs
      have hlt := length_afterFirst_lt (quoted_ne_nil key) hmid
      have ih := h.lost mid (fun hm => hmeets (.next hmid hm))
        ((List.suffix_append _ _).trans hsuffix)
      rw [Option.bind_some]
      split
      · rename_i w hw
        rw [h.eq_rest hsuffix hw] at hmid
        exact absurd (Meets.first hmid) hmeets
      · exact ih
termination_by bs.length

/-! ### The round trip -/

/-- **When a string comes back.** Every byte of it is from 32 on, or one of the three blanks that
have a letter of their own, and the search for the key meets it. -/
theorem string_round_trip {key : String} {s text rest : Bytes} (h : Embeds key s text rest) :
    getString text key = (true, s) ↔
      Meets (quoted key) text rest ∧ ∀ b ∈ s, ReadsBack b := by
  by_cases hmeets : Meets (quoted key) text rest
  · obtain ⟨v, post, hcolon, hvalue⟩ := h.value
    have hfind := h.member.found hcolon hvalue (by simp) hmeets (List.suffix_refl text)
    have hget : getString text key = (true, s.flatMap readBack) := by
      unfold getString
      rw [hfind]
      show jsonStringBody (escape s ++ 34 :: post) = _
      rw [jsonStringBody_escape]
    rw [hget, Prod.mk.injEq, flatMap_readBack_eq_self]
    simp [hmeets]
  · have hget : getString text key = (false, []) := by
      unfold getString
      rw [h.member.lost text hmeets (List.suffix_refl text)]
    simp [hget, hmeets]

/-- An object text with one member. -/
def oneMember (key : String) (s : Bytes) : Bytes :=
  123 :: (quoted key ++ (58 :: 34 :: (escape s ++ [34, 125])))

/-- The object with one member holds its text. -/
theorem embeds_oneMember {key : String} {s : Bytes}
    (honce : ∀ t ∈ (oneMember key s).tails, StartsWithKey key t → t = (oneMember key s).tail) :
    Embeds key s (oneMember key s) (58 :: 34 :: (escape s ++ [34, 125])) where
  key_rest := ⟨[123], rfl⟩
  once t ht := honce t (by simpa using ht)
  value := ⟨_, [125], rfl, rfl⟩

/-- Quotes, backslashes and the end of a line come back. -/
theorem string_round_trip_quotes :
    getString (oneMember "text" (ascii "a \\ \"b\"\n")) "text" =
        (true, ascii "a \\ \"b\"\n") ↔
      Meets (quoted "text") (oneMember "text" (ascii "a \\ \"b\"\n"))
          (58 :: 34 :: (escape (ascii "a \\ \"b\"\n") ++ [34, 125])) ∧
        ∀ b ∈ ascii "a \\ \"b\"\n", ReadsBack b :=
  string_round_trip (embeds_oneMember (by decide +kernel))

/-- A control byte comes back as five bytes. -/
theorem control_byte_lost :
    Embeds "text" [1] (oneMember "text" [1]) (58 :: 34 :: (escape [1] ++ [34, 125])) ∧
      getString (oneMember "text" [1]) "text" = (true, ascii "u0001") ∧
      getString (oneMember "text" [1]) "text" ≠ (true, [1]) :=
  ⟨embeds_oneMember (by decide +kernel), by decide +kernel, by decide +kernel⟩

end BotCockpit.Bridge
