import BotCockpit.Proofs.Bridge.Envelope
import BotCockpit.Spec.Payload

/-!
# `BotCockpit.Proofs.Bridge.FieldSearch`: what the readers find in a payload

Both readers search the message for the quoted key. The robot goes on to the next colon
(`robot_finds`), the bridge to the first occurrence with a colon behind it (`bridge_finds`). With a
clear way both find the member under the key, and a robot that stands on it had a clear way
(`clear_of_stands`).
-/

set_option autoImplicit false

namespace BotCockpit.Bridge

open BotCockpit.Lib
open BotCockpit.Sim (valueOf)

/-! ### Parts of a text without quotes and colons -/

/-- The four blanks of JSON. -/
theorem blank_cases {b : UInt8} (h : Json.isSpace b = true) : b = 32 ∨ b = 9 ∨ b = 10 ∨ b = 13 := by
  simpa [Json.isSpace, or_assoc] using h

/-- What is no blank does not stand among blanks. -/
theorem not_mem_blanks (bs : Blanks) {b : UInt8} (hb : Json.isSpace b = false) : b ∉ bs.1 :=
  fun hmem => by simp [bs.2 b hmem] at hb

/-- A text that starts with blanks starts with a blank or with what follows them. -/
theorem head_blanks {p : UInt8 → Prop} (hblank : p 32 ∧ p 9 ∧ p 10 ∧ p 13) (bs : Blanks)
    {b : UInt8} (hb : p b) (rest : Bytes) : ∀ c ∈ (bs.1 ++ b :: rest).head?, p c := by
  obtain ⟨hspace, htab, hline, hreturn⟩ := hblank
  intro c hc
  obtain ⟨bs, hbs⟩ := bs
  cases bs with
  | nil =>
      cases hc
      exact hb
  | cons d bs =>
      cases hc
      rcases blank_cases (hbs c (by simp)) with rfl | rfl | rfl | rfl <;> assumption

/-- Blanks before a byte that ends a word end it as well. -/
theorem separated_blanks (bs : Blanks) {b : UInt8} (hb : isWordByte b = false) (rest : Bytes) :
    Separated (bs.1 ++ b :: rest) := head_blanks (by decide) bs hb rest

/-- A number has no quote in it. -/
theorem quote_not_mem_number (n : JsonNumber) : 34 ∉ n.text := by
  have hdigits : ∀ ds : Digits, 34 ∉ ds.1 := by
    intro ds hmem
    have h := ds.2.2 34 hmem
    simp [isDigit] at h
  have hsign : ∀ sign, 34 ∉ signText sign := by
    rintro (_ | _ | _) <;> simp [signText]
  obtain ⟨neg, int, frac, exp, hlead⟩ := n
  simp only [JsonNumber.text, JsonNumber.unsigned, JsonNumber.fracText, JsonNumber.expText,
    List.mem_append, not_or]
  refine ⟨by cases neg <;> simp, hdigits int, ?_, ?_⟩
  · cases frac with
    | none => simp
    | some fs => simpa using hdigits fs
  · cases exp with
    | none => simp
    | some e =>
        simp only [Option.map_some, Option.getD_some, Exponent.text, List.mem_cons,
          List.mem_append, not_or]
        exact ⟨by cases e.capital <;> simp, hsign e.sign, hdigits e.digits⟩

/-! ### The search goes over a member -/

variable {key : String}

/-- A search passes over a value, unless the value mentions the word. -/
theorem afterFirst_value (hkey : IsWord key) (v : Scalar) {rest : Bytes} (hrest : Separated rest) :
    afterFirst (quoted key) (v.onto rest) =
      if v.Mentions key then some rest else afterFirst (quoted key) rest := by
  cases v with
  | str s => exact afterFirst_string hkey s hrest
  | num n => exact (afterFirst_skip (quote_not_mem_number n) rest).trans (if_neg id).symm
  | bool b => cases b <;> exact (afterFirst_skip (by decide) rest).trans (if_neg id).symm

/-- A search stops behind the key of a member or passes over it. -/
theorem afterFirst_key (hkey : IsWord key) (m : JsonMember) (rest : Bytes) :
    afterFirst (quoted key) (m.onto rest) =
      if m.key.Mentions key then
        some (m.beforeColon.1 ++ 58 :: (m.afterColon.1 ++ m.valueOnto rest))
      else afterFirst (quoted key) (m.valueOnto rest) := by
  unfold JsonMember.onto
  have hblank : ∀ (bs : Blanks) (tail : Bytes),
      afterFirst (quoted key) (bs.1 ++ tail) = afterFirst (quoted key) tail :=
    fun bs tail => afterFirst_skip (not_mem_blanks bs rfl) tail
  rw [hblank, afterFirst_string hkey m.key (separated_blanks _ rfl _), hblank,
    show (58 : UInt8) :: (m.afterColon.1 ++ m.valueOnto rest) =
      [58] ++ (m.afterColon.1 ++ m.valueOnto rest) from rfl]
  congr 1
  exact (afterFirst_skip (by decide) _).trans (hblank _ _)

/-- A member under a key has the key in its text. -/
theorem Under.mentions {m : JsonMember} (h : m.Under key) : m.key.Mentions key := by
  unfold JsonString.Mentions
  rw [show m.key.text = ascii key from h]

/-! ### What both readers find -/

/-- The end of a message: a closing brace, and neither a quote nor a colon. -/
structure Closing (rest : Bytes) : Prop where
  head : ∃ t, rest = 125 :: t
  quote : 34 ∉ rest
  colon : 58 ∉ rest

/-- Behind a member stands a comma or the brace. -/
theorem tailOnto_head (ms : List JsonMember) {rest : Bytes} (hrest : Closing rest) :
    ∃ b t, tailOnto ms rest = b :: t ∧ (b = 44 ∨ b = 125) := by
  cases ms with
  | nil =>
      obtain ⟨t, ht⟩ := hrest.head
      exact ⟨125, t, ht, .inr rfl⟩
  | cons m ms => exact ⟨44, _, rfl, .inl rfl⟩

/-- So a word ends there. -/
theorem separated_tail (bs : Blanks) (ms : List JsonMember) {rest : Bytes} (hrest : Closing rest) :
    Separated (bs.1 ++ tailOnto ms rest) := by
  obtain ⟨b, t, heq, hb⟩ := tailOnto_head ms hrest
  rw [heq]
  rcases hb with rfl | rfl <;> exact separated_blanks bs rfl t

/-- And so does a number. -/
theorem endsNumber_tail (bs : Blanks) (ms : List JsonMember) {rest : Bytes} (hrest : Closing rest) :
    EndsNumber (bs.1 ++ tailOnto ms rest) := by
  obtain ⟨b, t, heq, hb⟩ := tailOnto_head ms hrest
  rw [heq]
  rcases hb with rfl | rfl <;> exact head_blanks (by decide) bs (by decide) t

/-- Between two members a search goes on with the second. -/
theorem afterFirst_tail (bs : Blanks) (ms : List JsonMember) (rest : Bytes) :
    afterFirst (quoted key) (bs.1 ++ tailOnto ms rest) =
      afterFirst (quoted key) (membersOnto ms rest) := by
  refine (afterFirst_skip (not_mem_blanks bs rfl) _).trans ?_
  cases ms with
  | nil => rfl
  | cons m ms =>
      have hcomma : (34 : UInt8) ∉ ([44] : Bytes) := by decide
      exact afterFirst_skip hcomma _

/-- A word has no colon in it. -/
theorem colon_not_mem (hkey : IsWord key) : 58 ∉ ascii key := hkey.not_mem rfl

/-- The colon of a member is the first one behind its key. -/
theorem afterFirst_colon (m : JsonMember) (rest : Bytes) :
    afterFirst [58] (m.beforeColon.1 ++ 58 :: (m.afterColon.1 ++ m.valueOnto rest)) =
      some (m.afterColon.1 ++ m.valueOnto rest) := by
  rw [afterFirst_skip (not_mem_blanks m.beforeColon rfl)]
  exact @afterFirst_hit [58] _

/-- The colon of the key's own member is the first one behind the value in front of it. -/
theorem afterFirst_colon_next (hkey : IsWord key) (bs : Blanks) {m : JsonMember} (hm : m.Under key)
    (rest : Bytes) :
    afterFirst [58] (bs.1 ++ 44 :: m.onto rest) = some (m.afterColon.1 ++ m.valueOnto rest) := by
  have hskip : ∀ {pre : Bytes}, 58 ∉ pre → ∀ tail : Bytes,
      afterFirst [58] (pre ++ tail) = afterFirst [58] tail := fun h tail => afterFirst_skip h tail
  have hsplit : bs.1 ++ 44 :: m.onto rest =
      bs.1 ++ ([44] ++ (m.before.1 ++ ([34] ++ (ascii key ++ ([34] ++ (m.beforeColon.1 ++
        58 :: (m.afterColon.1 ++ m.valueOnto rest))))))) := by
    rw [JsonMember.onto, show m.key.text = ascii key from hm]
    rfl
  rw [hsplit, hskip (not_mem_blanks bs rfl), hskip (by decide), hskip (not_mem_blanks _ rfl),
    hskip (by decide), hskip (colon_not_mem hkey), hskip (by decide), afterFirst_colon]

/-- **The robot finds the key's own member**, from the first mention and the next colon. -/
theorem robot_finds (hkey : IsWord key) {rest : Bytes} (hrest : Closing rest) (ms : List JsonMember)
    (hclear : Clear key ms) :
    (afterFirst (quoted key) (membersOnto ms rest)).bind (afterFirst [58]) =
      ownValue key ms rest := by
  have hend : afterFirst (quoted key) rest = none := afterFirst_none hrest.quote
  -- Member by member, as for the bridge, but the colon is searched and not tested.
  induction ms with
  | nil =>
      show (afterFirst (quoted key) rest).bind _ = none
      rw [hend]
      rfl
  | cons m ms ih =>
      rw [membersOnto, ownValue, afterFirst_key hkey]
      rcases hclear with hm | ⟨hnot, hclear⟩
      · rw [if_pos (Under.mentions hm), if_pos hm]
        exact afterFirst_colon m _
      · rw [if_neg hnot, if_neg fun hm => hnot (Under.mentions hm), JsonMember.valueOnto,
          afterFirst_value hkey _ (separated_tail m.after ms hrest)]
        split at hclear
        · rename_i hvalue
          rw [if_pos hvalue]
          cases ms with
          | nil =>
              show afterFirst [58] (m.after.1 ++ rest) = none
              rw [afterFirst_skip (not_mem_blanks m.after rfl)]
              exact afterFirst_none hrest.colon
          | cons n ms =>
              have hn : n.Under key := hclear n rfl
              rw [ownValue, if_pos hn]
              exact afterFirst_colon_next hkey m.after hn _
        · rename_i hvalue
          rw [if_neg hvalue, afterFirst_tail]
          exact ih hclear

/-- A value starts with a byte that is no blank. -/
theorem value_head (v : Scalar) (rest : Bytes) :
    ∃ b t, v.onto rest = b :: t ∧ isSpace b = false := by
  cases v with
  | str s => exact ⟨34, _, rfl, rfl⟩
  | num n =>
      obtain ⟨neg, ⟨int, hne, hdigits⟩, frac, exp, hlead⟩ := n
      obtain ⟨d, ds, rfl⟩ := List.exists_cons_of_ne_nil hne
      cases neg with
      | true => exact ⟨45, _, rfl, rfl⟩
      | false => exact ⟨d, _, rfl, isSpace_of_isDigit (hdigits d (by simp))⟩
  | bool b => cases b <;> exact ⟨_, _, rfl, rfl⟩

/-- The bridge passes over blanks of its own and those of the grammar alike. -/
theorem dropWhile_blanks (bs : Blanks) {b : UInt8} (hb : isSpace b = false) (t : Bytes) :
    (bs.1 ++ b :: t).dropWhile isSpace = b :: t := by
  have hall : ∀ c ∈ bs.1, isSpace c = true := by
    intro c hc
    rcases blank_cases (bs.2 c hc) with rfl | rfl | rfl | rfl <;> rfl
  rw [List.dropWhile_append_of_pos hall, List.dropWhile_cons_of_neg (by simp [hb])]

/-- The bridge's search for a key sees the text only through its first occurrence. -/
theorem findKeyValue_congr {obj obj' : Bytes}
    (h : afterFirst (quoted key) obj = afterFirst (quoted key) obj') :
    findKeyValue key obj = findKeyValue key obj' := by
  rw [findKeyValue_eq key obj, findKeyValue_eq key obj', h]

/-- **The bridge finds the key's own member**, from the first mention that a colon follows. -/
theorem bridge_finds (hkey : IsWord key) {rest : Bytes} (hrest : Closing rest)
    (ms : List JsonMember)
    (hclear : Clear key ms) :
    findKeyValue key (membersOnto ms rest) =
      (ownValue key ms rest).map (List.dropWhile isSpace) := by
  -- Member by member: the search stops at the first that mentions the key.
  induction ms with
  | nil =>
      rw [findKeyValue_eq, membersOnto, show afterFirst (quoted key) rest = none from
        afterFirst_none hrest.quote]
      rfl
  | cons m ms ih =>
      rw [membersOnto, ownValue]
      rcases hclear with hm | ⟨hnot, hclear⟩
      · obtain ⟨b, t, hvalue, hb⟩ := value_head m.value (m.after.1 ++ tailOnto ms rest)
        rw [findKeyValue_eq, afterFirst_key hkey, if_pos (Under.mentions hm), if_pos hm,
          JsonMember.valueOnto, hvalue]
        simp only [Option.bind_some, Option.map_some,
          dropWhile_blanks m.beforeColon (show isSpace 58 = false from rfl),
          dropWhile_blanks m.afterColon hb]
        rw [if_neg (by simp)]
      · rw [if_neg fun hm => hnot (Under.mentions hm)]
        split at hclear
        · -- The value mentions the key, and no colon follows it.
          -- Neither the key nor the value mentions it, so the search goes on behind the member.
          rename_i hvalue
          have hnext : Clear key ms := by
            cases ms with
            | nil => trivial
            | cons n ms => exact .inl (hclear n rfl)
          obtain ⟨b, t, htail, hb⟩ := tailOnto_head ms hrest
          have hspace : isSpace b = false := by rcases hb with rfl | rfl <;> rfl
          have hcolon : b ≠ 58 := by rcases hb with rfl | rfl <;> decide
          rw [findKeyValue_eq, afterFirst_key hkey, if_neg hnot, JsonMember.valueOnto,
            afterFirst_value hkey _ (separated_tail m.after ms hrest), if_pos hvalue,
            Option.bind_some, htail, dropWhile_blanks m.after hspace, ← htail,
            findKeyValue_congr (afterFirst_tail m.after ms rest), ih hnext]
          split
          · rename_i v heq
            exact absurd (List.cons.inj (htail.symm.trans heq)).1 hcolon
          · rfl
        · rename_i hvalue
          have hskip : afterFirst (quoted key) (m.onto (tailOnto ms rest)) =
              afterFirst (quoted key) (membersOnto ms rest) := by
            rw [afterFirst_key hkey, if_neg hnot, JsonMember.valueOnto,
              afterFirst_value hkey _ (separated_tail m.after ms hrest), if_neg hvalue,
              afterFirst_tail]
          rw [findKeyValue_congr hskip]
          exact ih hclear

/-! ### The way to the payload -/

/-- A text without special bytes is written as it is. -/
theorem ofBytes_text (bs : Bytes) (h : ∀ b ∈ bs, 32 ≤ b ∧ b ≠ 34 ∧ b ≠ 92) :
    (JsonString.ofBytes bs h).text = bs := by
  induction bs with
  | nil => rfl
  | cons b bs ih => exact congrArg (b :: ·) (ih fun c hc => h c (by simp [hc]))

/-- A search passes over another word without escapes. -/
theorem afterFirst_word (hkey : IsWord key) {word : Bytes} (hword : ∀ b ∈ word, Plain b)
    (hne : word ≠ ascii key) {rest : Bytes} (hrest : Separated rest) :
    afterFirst (quoted key) (34 :: (word ++ 34 :: rest)) = afterFirst (quoted key) rest := by
  have hplain : ∀ b ∈ word, 32 ≤ b ∧ b ≠ 34 ∧ b ≠ 92 :=
    fun b hb => ⟨(hword b hb).2.2, (hword b hb).1, (hword b hb).2.1⟩
  have h := afterFirst_string hkey (JsonString.ofBytes word hplain) hrest
  rw [ofBytes_text] at h
  rw [h, if_neg]
  rintro hsuffix
  rw [JsonString.Mentions, ofBytes_text] at hsuffix
  rcases List.suffix_cons_iff.mp hsuffix with heq | hsuffix
  · exact hne (List.cons.inj heq).2.symm
  · exact (hword 34 (hsuffix.subset (by simp))).1 rfl

/-- A search for a key of the payload reaches the payload. -/
theorem afterFirst_envelope {name : Bytes} (hname : ∀ b ∈ name, Plain b) (hkey : IsWord key)
    (hne : ∀ word ∈ [ascii "seq", ascii "cmd", name, ascii "payload"], word ≠ ascii key)
    (seq : UInt16) (o : FlatObject) :
    afterFirst (quoted key) (cmdEnvelope name seq o.text) =
      afterFirst (quoted key) (membersOnto o.members (125 :: (o.back.1 ++ [125]))) := by
  have htext : o.text ≠ [] := by simp [FlatObject.text, FlatObject.onto]
  have henv : cmdEnvelope name seq o.text = [123] ++ 34 :: (ascii "seq" ++ 34 :: ([58] ++
      (decimal seq.toNat ++ ([44] ++ 34 :: (ascii "cmd" ++ 34 :: ([58] ++ 34 :: (name ++
        34 :: ([44] ++ 34 :: (ascii "payload" ++ 34 :: ([58] ++ o.onto [125])))))))))) := by
    rw [cmdEnvelope, escape_plain hname, if_neg htext, ← o.text_append]
    simp [ascii]
  have hobject : o.onto [125] = o.front.1 ++ ([123] ++ (o.inner.1 ++
      membersOnto o.members (125 :: (o.back.1 ++ [125])))) := rfl
  have hskip : ∀ {pre : Bytes}, 34 ∉ pre → ∀ tail : Bytes,
      afterFirst (quoted key) (pre ++ tail) = afterFirst (quoted key) tail :=
    fun h tail => afterFirst_skip h tail
  have hsep : ∀ {b : UInt8} (tail : Bytes), isWordByte b = false → Separated ([b] ++ tail) := by
    intro b tail hb c hc
    cases hc
    exact hb
  simp only [List.forall_mem_cons, List.not_mem_nil, IsEmpty.forall_iff, implies_true,
    and_true] at hne
  rw [henv, hskip (by decide), afterFirst_word hkey (by decide +kernel) hne.1 (hsep _ rfl),
    hskip (by decide), hskip (quote_not_mem_decimal _), hskip (by decide),
    afterFirst_word hkey (by decide +kernel) hne.2.1 (hsep _ rfl), hskip (by decide),
    afterFirst_word hkey hname hne.2.2.1 (hsep _ rfl), hskip (by decide),
    afterFirst_word hkey (by decide +kernel) hne.2.2.2 (hsep _ rfl), hskip (by decide), hobject,
    hskip (not_mem_blanks _ rfl), hskip (by decide), hskip (not_mem_blanks _ rfl)]

/-! ### What a value starts with -/

/-- A number starts with a minus sign or a digit, as long as it has one. -/
theorem number_head (n : JsonNumber) (rest : Bytes) :
    ∃ d t, n.unsigned ++ rest = d :: t ∧ isDigit d = true := by
  obtain ⟨neg, ⟨int, hne, hdigits⟩, frac, exp, hlead⟩ := n
  obtain ⟨d, ds, rfl⟩ := List.exists_cons_of_ne_nil hne
  exact ⟨d, _, rfl, hdigits d (by simp)⟩

/-- A number starts with its sign or a digit. -/
theorem number_first (n : JsonNumber) (rest : Bytes) :
    ∃ b t, n.text ++ rest = b :: t ∧ (b = 45 ∨ isDigit b = true) := by
  obtain ⟨d, t, hcons, hd⟩ := number_head n rest
  unfold JsonNumber.text
  cases n.neg with
  | true => exact ⟨45, _, rfl, .inl rfl⟩
  | false => exact ⟨d, t, hcons, .inr hd⟩

/-- The robot passes over spaces and tabs up to the value, or stops at another blank. -/
theorem dropWhile_gap (bs : Blanks) {b : UInt8} (hb : isSpace b = false) (t : Bytes) :
    skipTabs (bs.1 ++ b :: t) = b :: t ∧ (∀ c ∈ bs.1, c = 32 ∨ c = 9) ∨
      ∃ c u, skipTabs (bs.1 ++ b :: t) = c :: u ∧
        isSpace c = true ∧ (c :: u).dropWhile isSpace = b :: t ∧ ¬∀ c ∈ bs.1, c = 32 ∨ c = 9 := by
  obtain ⟨bs, hblank⟩ := bs
  have hnot : (b == 32 || b == 9) ≠ true := by
    intro hb'
    rcases Bool.or_eq_true_iff.mp hb' with h' | h' <;> rw [beq_iff_eq.mp h'] at hb <;> cases hb
  induction bs with
  | nil => exact .inl ⟨List.dropWhile_cons_of_neg hnot, by simp⟩
  | cons c bs ih =>
      by_cases hc : (c == 32 || c == 9) = true
      · have hc' : c = 32 ∨ c = 9 := by simpa using hc
        have hstep : skipTabs ((c :: bs) ++ b :: t) = skipTabs (bs ++ b :: t) :=
          List.dropWhile_cons_of_pos hc
        rcases ih fun d hd => hblank d (by simp [hd]) with
          ⟨heq, hall⟩ | ⟨d, u, heq, hd, hdrop, hall⟩
        · exact .inl ⟨hstep.trans heq, List.forall_mem_cons.mpr ⟨hc', hall⟩⟩
        · exact .inr ⟨d, u, hstep.trans heq, hd, hdrop,
            fun h => hall fun e he => h e (List.mem_cons_of_mem c he)⟩
      · have hspace : isSpace c = true := by
          rcases blank_cases (hblank c (by simp)) with rfl | rfl | rfl | rfl <;> rfl
        refine .inr ⟨c, bs ++ b :: t, List.dropWhile_cons_of_neg hc, hspace,
          dropWhile_blanks ⟨c :: bs, hblank⟩ hb t, fun h => hc ?_⟩
        rcases h c (by simp) with rfl | rfl <;> rfl

/-- A value on the line of its key starts behind blanks and tabs. -/
theorem dropWhile_inLine {m : JsonMember} (h : m.InLine) {b : UInt8} (hb : isSpace b = false)
    (t : Bytes) : skipTabs (m.afterColon.1 ++ b :: t) = b :: t := by
  rcases dropWhile_gap m.afterColon hb t with ⟨heq, -⟩ | ⟨-, -, -, -, -, hnot⟩
  · exact heq
  · exact absurd h hnot

/-! ### Where the robot stands -/

/-- The search of the robot: the key, then the colon, then the blanks. -/
theorem valueOf_eq (obj : Bytes) : valueOf obj key =
    ((afterFirst (quoted key) obj).bind (afterFirst [58])).map skipTabs := by
  unfold valueOf
  cases h : afterFirst (quoted key) obj with
  | none => rfl
  | some rest => cases h' : afterFirst [58] rest <;> simp [h', skipTabs]

/-- Skipping in a longer text leaves no less. -/
theorem length_skipTabs_append (xs ys : Bytes) :
    (skipTabs ys).length ≤ (skipTabs (xs ++ ys)).length := by
  induction xs with
  | nil => exact le_refl _
  | cons x xs ih =>
      unfold skipTabs at ih ⊢
      by_cases hx : (x == 32 || x == 9) = true
      · rw [List.cons_append, List.dropWhile_cons_of_pos (p := fun b => b == 32 || b == 9) hx]
        exact ih
      · rw [List.cons_append, List.dropWhile_cons_of_neg (p := fun b => b == 32 || b == 9) hx]
        refine (List.length_dropWhile_le _ ys).trans ?_
        simp only [List.length_cons, List.length_append]
        omega

/-- The first colon is not behind any other. -/
theorem afterFirst_colon_le (xs ys : Bytes) :
    ∃ zs, afterFirst [58] (xs ++ 58 :: ys) = some (zs ++ ys) := by
  induction xs with
  | nil => exact ⟨[], @afterFirst_hit [58] ys⟩
  | cons x xs ih =>
      by_cases hx : x = 58
      · subst hx
        exact ⟨xs ++ [58], by simpa using @afterFirst_hit [58] (xs ++ 58 :: ys)⟩
      · rw [List.cons_append, afterFirst_cons_ne (Ne.symm hx)]
        exact ih

/-- Where the members end, the text of a value is longer than what follows it. -/
theorem length_valueOnto (m : JsonMember) (rest : Bytes) :
    rest.length < (m.valueOnto rest).length := by
  obtain ⟨bs, hbs⟩ : ∃ bs, m.valueOnto rest = bs ++ rest ∧ bs ≠ [] := by
    unfold JsonMember.valueOnto
    cases m.value with
    | str s => exact ⟨34 :: (s.text ++ 34 :: m.after.1), by simp [Scalar.onto], by simp⟩
    | num n =>
        obtain ⟨b, t, hcons, -⟩ := number_first n []
        refine ⟨n.text ++ m.after.1, by simp [Scalar.onto], ?_⟩
        rw [List.append_nil] at hcons
        simp [hcons]
    | bool b =>
        refine ⟨ascii (if b then "true" else "false") ++ m.after.1, by simp [Scalar.onto], ?_⟩
        cases b <;> simp [ascii]
  rw [hbs.1, List.length_append]
  have := List.length_pos_iff.mpr hbs.2
  omega

/-- A member's value is shorter than the text of the members. -/
theorem length_ownValue {ms : List JsonMember} {rest w : Bytes}
    (h : ownValue key ms rest = some w) :
    w.length < (tailOnto ms rest).length := by
  induction ms with
  | nil => cases h
  | cons m ms ih =>
      rw [ownValue] at h
      split at h
      · cases h
        simp only [tailOnto, JsonMember.onto, List.length_cons, List.length_append]
        omega
      · have hlt := ih h
        have hvalue := length_valueOnto m (tailOnto ms rest)
        simp only [tailOnto, JsonMember.onto, List.length_cons, List.length_append]
        omega

/-- Whoever reads from a value on, or from a place in front of it, does not read a later value. -/
theorem value_not_later (m : JsonMember) (ms : List JsonMember) (rest zs : Bytes) :
    some (skipTabs (zs ++ m.valueOnto (tailOnto ms rest))) ≠
      (ownValue key ms rest).map skipTabs := by
  intro heq
  cases hown : ownValue key ms rest with
  | none =>
      rw [hown] at heq
      cases heq
  | some w =>
      rw [hown, Option.map_some, Option.some.injEq] at heq
      obtain ⟨b, t, hhead, hb⟩ := value_head m.value (m.after.1 ++ tailOnto ms rest)
      have hkeep : skipTabs (m.valueOnto (tailOnto ms rest)) =
          m.valueOnto (tailOnto ms rest) := by
        rw [JsonMember.valueOnto, hhead]
        exact dropWhile_inLine (m := { m with afterColon := ⟨[], by simp⟩ })
          (by simp [JsonMember.InLine]) hb t
      have hlen := congrArg List.length heq
      have hle := length_skipTabs_append zs (m.valueOnto (tailOnto ms rest))
      rw [hkeep] at hle
      have hvalue := length_valueOnto m (tailOnto ms rest)
      have hlater := length_ownValue hown
      have hdrop : (skipTabs w).length ≤ w.length := List.length_dropWhile_le _ w
      omega

/-- **A robot that stands on the key's own member has a clear way to it.** -/
theorem clear_of_stands (hkey : IsWord key) {rest : Bytes} (hrest : Closing rest)
    (ms : List JsonMember)
    (h : ((afterFirst (quoted key) (membersOnto ms rest)).bind (afterFirst [58])).map skipTabs =
      (ownValue key ms rest).map skipTabs) :
    Clear key ms := by
  induction ms with
  | nil => trivial
  | cons m ms ih =>
      by_cases hm : m.Under key
      · exact .inl hm
      rw [membersOnto, ownValue, if_neg hm, afterFirst_key hkey] at h
      -- A key that mentions the key without being it: the search stops there, with another value.
      by_cases hkeyMentions : m.key.Mentions key
      · rw [if_pos hkeyMentions, Option.bind_some, afterFirst_colon, Option.map_some] at h
        exact absurd h (value_not_later m ms rest _)
      rw [if_neg hkeyMentions, JsonMember.valueOnto,
        afterFirst_value hkey _ (separated_tail m.after ms hrest)] at h
      refine .inr ⟨hkeyMentions, ?_⟩
      by_cases hvalue : m.value.Mentions key
      · rw [if_pos hvalue] at h ⊢
        -- The value mentions the key: the next colon is that of the next member.
        cases ms with
        | nil => simp
        | cons n ms =>
            intro n' hn'
            cases hn'
            by_contra hn
            rw [ownValue, if_neg hn] at h
            have hsplit : m.after.1 ++ tailOnto (n :: ms) rest =
                (m.after.1 ++ 44 :: (n.before.1 ++ 34 :: (n.key.text ++ 34 :: n.beforeColon.1))) ++
                  58 :: (n.afterColon.1 ++ n.valueOnto (tailOnto ms rest)) := by
              simp [tailOnto, JsonMember.onto]
            obtain ⟨zs, hcolon⟩ := afterFirst_colon_le
              (m.after.1 ++ 44 :: (n.before.1 ++ 34 :: (n.key.text ++ 34 :: n.beforeColon.1)))
              (n.afterColon.1 ++ n.valueOnto (tailOnto ms rest))
            rw [hsplit, Option.bind_some, hcolon, Option.map_some, ← List.append_assoc] at h
            exact value_not_later n ms rest _ h
      · rw [if_neg hvalue] at h ⊢
        rw [afterFirst_tail] at h
        exact ih h

end BotCockpit.Bridge
