import BotCockpit.Proofs.Bridge.FieldSearch
import BotCockpit.Proofs.Bridge.Strings

/-!
# `BotCockpit.Proofs.Bridge.Fields`: the field that was sent is the field that is read

A command message carries a flat JSON object. `fields_read_iff` says for which objects the robot
stands on the member of each of its fields and reads its value, and the bridge reads the same. The
way to a member must be clear, the member written under its key, and its value written directly:
the robot knows no escape other than a byte for itself, and the bridge drops the sign of a number.

The console's own task payload breaks it (`timeout_read_as_goal`): a task named `x` has its
timeout read as the coordinate.
-/

set_option autoImplicit false

namespace BotCockpit.Bridge

open BotCockpit.Lib
open BotCockpit.Sim (extractString extractNumber extractBool valueOf stringBody)

variable {key : String}

/-! ### Reading a string -/

/-- What the robot makes of a piece: the byte behind a backslash, and the other bytes as they
are. -/
def robotPiece : Piece → Bytes
  | .plain b _ => [b]
  | .short e _ _ => [e]
  | .unit u v w x _ _ => [117, u, v, w, x]

/-- A byte that is no quote and no backslash is copied. -/
theorem stringBody_byte {b : UInt8} (hquote : b ≠ 34) (hslash : b ≠ 92) {t : Bytes} (ht : t ≠ []) :
    stringBody (b :: t) = b :: stringBody t := by
  obtain ⟨c, cs, rfl⟩ := List.exists_cons_of_ne_nil ht
  rw [stringBody, if_neg hquote, if_neg hslash]

/-- The body the robot reads of a string: its pieces, one by one. -/
theorem stringBody_text (s : JsonString) (rest : Bytes) :
    stringBody (s.text ++ 34 :: rest) = s.flatMap robotPiece := by
  induction s with
  | nil => cases rest <;> rfl
  | cons p s ih =>
      have hne : JsonString.text s ++ 34 :: rest ≠ [] := by simp
      rw [JsonString.text_cons, List.append_assoc, List.flatMap_cons, ← ih]
      cases p with
      | plain b h => exact stringBody_byte h.2.1 h.2.2 hne
      | short e c h => rfl
      | unit u v w x n h =>
          have hplain := hexUnit_plain h
          simp only [List.forall_mem_cons] at hplain
          obtain ⟨⟨hu, hu'⟩, ⟨hv, hv'⟩, ⟨hw, hw'⟩, ⟨hx, hx'⟩, -⟩ := hplain
          show 117 :: stringBody (u :: v :: w :: x :: (JsonString.text s ++ 34 :: rest)) = _
          rw [stringBody_byte hu hu' (by simp), stringBody_byte hv hv' (by simp),
            stringBody_byte hw hw' (by simp), stringBody_byte hx hx' hne]
          rfl

/-- The robot reads a string as it is meant when its pieces stand for themselves. -/
theorem robot_of_verbatim (s : JsonString) (hs : ∀ p ∈ s, p.verbatim = true) :
    s.flatMap robotPiece = s.content := by
  induction s with
  | nil => rfl
  | cons p s ih =>
      have htail := ih fun q hq => hs q (List.mem_cons_of_mem p hq)
      have hp := hs p List.mem_cons_self
      rw [List.flatMap_cons, htail]
      cases p with
      | plain b h => rfl
      | short e c h =>
          obtain rfl : e = c := by simpa [Piece.verbatim] using hp
          rfl
      | unit u v w x n h => simp [Piece.verbatim] at hp

/-- The escapes of one letter that stand for the letter itself. -/
theorem escaped_self {e : UInt8} (h : Json.escaped e = some e) : e = 34 ∨ e = 92 ∨ e = 47 := by
  unfold Json.escaped at h
  split at h
  · assumption
  · -- The other letters stand for control bytes.
    repeat' split at h
    all_goals simp_all

/-- So does the bridge. -/
theorem jsonStringBody_text (s : JsonString) (hs : ∀ p ∈ s, p.verbatim = true) (rest : Bytes) :
    jsonStringBody (s.text ++ 34 :: rest) = (true, s.content) := by
  induction s with
  | nil => cases rest <;> rfl
  | cons p s ih =>
      have htail := ih fun q hq => hs q (List.mem_cons_of_mem p hq)
      have hp := hs p List.mem_cons_self
      have hne : JsonString.text s ++ 34 :: rest ≠ [] := by simp
      rw [JsonString.text_cons, List.append_assoc]
      cases p with
      | plain b h =>
          refine (jsonStringBody_byte h.2.2 h.2.1 hne).trans ?_
          rw [htail]
          rfl
      | short e c h =>
          obtain rfl : e = c := by simpa [Piece.verbatim] using hp
          have hself : unescape e = e := by
            rcases escaped_self h with rfl | rfl | rfl <;> rfl
          show jsonStringBody (92 :: e :: (JsonString.text s ++ 34 :: rest)) = _
          rw [jsonStringBody, if_pos rfl, htail, hself]
          rfl
      | unit u v w x n h => simp [Piece.verbatim] at hp

/-- A character takes up to four bytes. -/
theorem length_utf8Char_le (n : Nat) : (Json.utf8Char n).length ≤ 4 := by
  unfold Json.utf8Char
  split
  · simp
  · split
    · simp
    · split <;> simp

/-- A `\u` escape stands for four bytes at most, alone or with the one behind it. -/
theorem length_content_unit {u v w x : UInt8} {n : Nat} (h : Json.hexUnit u v w x = some n)
    (s : JsonString) :
    (JsonString.content (.unit u v w x n h :: s)).length ≤ 4 + s.content.length ∨
      ∃ p t, s = p :: t ∧
        (JsonString.content (.unit u v w x n h :: s)).length ≤
          4 + (JsonString.content t).length := by
  have halone := length_utf8Char_le (if Json.isHigh n ∨ Json.isLow n then 0xFFFD else n)
  cases s with
  | nil =>
      left
      simpa [JsonString.content, Piece.item, Json.stringBytes] using halone
  | cons p t =>
      cases p with
      | plain b hb =>
          left
          simpa [JsonString.content, Piece.item, Json.stringBytes] using halone
      | short e c hc =>
          left
          simpa [JsonString.content, Piece.item, Json.stringBytes] using halone
      | unit u' v' w' x' m hm =>
          by_cases hpair : Json.isHigh n ∧ Json.isLow m
          · have htwo := length_utf8Char_le (0x10000 + (n - 0xD800) * 0x400 + (m - 0xDC00))
            refine .inr ⟨_, t, rfl, ?_⟩
            simpa [JsonString.content, Piece.item, Json.stringBytes, hpair] using htwo
          · left
            simp only [JsonString.content, List.map_cons, Piece.item]
            rw [Json.stringBytes, if_neg hpair, List.length_append]
            omega

/-- The robot makes no fewer bytes of a string than it has. -/
theorem length_content_le : ∀ s : JsonString, s.content.length ≤ (s.flatMap robotPiece).length
  | [] => by simp [JsonString.content, Json.stringBytes]
  | .plain b h :: s => Nat.succ_le_succ (length_content_le s)
  | .short e c h :: s => Nat.succ_le_succ (length_content_le s)
  | [.unit u v w x n h] => by
      rcases length_content_unit h [] with hle | ⟨p, t, heq, -⟩
      · exact hle.trans (by simp [JsonString.content, Json.stringBytes, robotPiece])
      · cases heq
  | .unit u v w x n h :: p :: s => by
      have hnext := length_content_le (p :: s)
      have hlast := length_content_le s
      have hmono : (s.flatMap robotPiece).length ≤ (List.flatMap robotPiece (p :: s)).length := by
        simp
      have hstep : (List.flatMap robotPiece (.unit u v w x n h :: p :: s)).length =
          5 + (List.flatMap robotPiece (p :: s)).length := by
        simp only [List.flatMap_cons, robotPiece, List.length_append, List.length_cons,
          List.length_nil]
      rcases length_content_unit h (p :: s) with hle | ⟨q, t, heq, hle⟩
      · omega
      · obtain ⟨rfl, rfl⟩ := List.cons.inj heq
        omega

/-- A string that the robot reads as it is meant has only pieces that stand for themselves. -/
theorem verbatim_of_read (s : JsonString) (h : s.flatMap robotPiece = s.content) :
    ∀ p ∈ s, p.verbatim = true := by
  induction s with
  | nil => simp
  | cons p s ih =>
      cases p with
      | plain b hb => exact List.forall_mem_cons.mpr ⟨rfl, ih (List.cons.inj h).2⟩
      | short e c hc =>
          obtain ⟨rfl, htail⟩ := List.cons.inj h
          exact List.forall_mem_cons.mpr ⟨beq_self_eq_true e, ih htail⟩
      | unit u v w x n hn =>
          -- The robot makes five bytes of the escape, which stands for four at most.
          have hlen := congrArg List.length h
          have hle := length_content_le s
          have hstep : (List.flatMap robotPiece (.unit u v w x n hn :: s)).length =
              5 + (s.flatMap robotPiece).length := by
            simp only [List.flatMap_cons, robotPiece, List.length_append, List.length_cons,
              List.length_nil]
          rcases length_content_unit hn s with hle' | ⟨q, t, rfl, hle'⟩
          · omega
          · have hlast := length_content_le t
            have hmono : (t.flatMap robotPiece).length ≤
              (List.flatMap robotPiece (q :: t)).length := by
              simp
            omega

/-! ### Reading a value -/

/-- `strtod` passes over blanks by itself. -/
theorem strtod_dropWhile (s : Bytes) : strtod (s.dropWhile isSpace) = strtod s := by
  have h : (s.dropWhile isSpace).dropWhile isSpace = s.dropWhile isSpace := by
    induction s with
    | nil => rfl
    | cons b s ih => cases hb : isSpace b <;> simp [hb, ih]
  unfold strtod
  rw [h]

/-- A text that starts with neither a blank nor a part of a number is no number. -/
theorem strtod_none {b : UInt8} (hb : b = 34 ∨ b = 116 ∨ b = 102) (t : Bytes) :
    strtod (b :: t) = none := by
  rcases hb with rfl | rfl | rfl <;>
  simp [strtod, isSpace, readSign, startsWithNoCase, ascii, List.isPrefixOf, toLower, readDecimal,
    readMantissa, isDigit]

/-- Behind the sign the unsigned number is left. -/
theorem readSign_text (n : JsonNumber) (rest : Bytes) :
    (readSign (n.text ++ rest)).2 = n.unsigned ++ rest := by
  obtain ⟨d, t, hcons, hd⟩ := number_head n rest
  unfold JsonNumber.text
  cases n.neg with
  | true => rfl
  | false =>
      have hsign : (if false = true then [45] else []) ++ n.unsigned ++ rest = n.unsigned ++ rest :=
        rfl
      rw [hsign, hcons, readSign_of_isDigit hd]

/-- A byte that starts neither a string nor a truth value. -/
theorem number_byte {b : UInt8} (h : b = 45 ∨ isDigit b = true ∨ isSpace b = true) :
    b ≠ 34 ∧ b ≠ 116 ∧ b ≠ 102 := by
  refine ⟨?_, ?_, ?_⟩ <;> rintro rfl <;> simp [isDigit, isSpace] at h

section Readers

variable {F : Type} [CDouble F] {obj : Bytes} {b : UInt8} {t : Bytes}

/-- A value that starts with no quote gives the robot no string. -/
theorem extractString_none (h : valueOf obj key = some (b :: t)) (hb : b ≠ 34) :
    extractString obj key = none := by
  rw [extractString, h]
  exact if_neg hb

/-- What the robot reports as a number is what `strtod` reads. -/
theorem reported_extractNumber (h : valueOf obj key = some (b :: t)) (out : F) :
    reported (extractNumber obj key out) = (strtod (b :: t)).map CDouble.ofText := by
  rw [extractNumber, h]
  cases hscan : strtod (b :: t) <;> simp only [hscan] <;> rfl

/-- A value that starts with neither `t` nor `f` gives the robot no truth value. -/
theorem extractBool_none (h : valueOf obj key = some (b :: t)) (hb : b ≠ 116 ∧ b ≠ 102) :
    extractBool obj key = none := by
  rw [extractBool, h]
  simp [ascii, List.isPrefixOf, Ne.symm hb.1, Ne.symm hb.2]

/-- A value that starts with no quote gives the bridge no string. -/
theorem getString_none (h : findKeyValue key obj = some (b :: t)) (hb : b ≠ 34) :
    reported (getString obj key) = none := by
  rw [getString, h]
  show reported (if b = 34 then jsonStringBody t else (false, [])) = none
  rw [if_neg hb]
  rfl

/-- A string and a truth value give the bridge no number. -/
theorem getDouble_none (h : findKeyValue key obj = some (b :: t))
    (hb : b = 34 ∨ b = 116 ∨ b = 102) (out : F) : reported (getDouble obj key out) = none := by
  rw [getDouble, h]
  rcases hb with rfl | rfl | rfl <;> rfl

/-- A value that starts with neither `t` nor `f` gives the bridge no truth value. -/
theorem getBool_none (h : findKeyValue key obj = some (b :: t)) (hb : b ≠ 116 ∧ b ≠ 102) :
    getBool obj key = none := by
  rw [getBool, h]
  simp [ascii, List.isPrefixOf, Ne.symm hb.1, Ne.symm hb.2]

/-- **The robot reads a value that is written directly**, as what it is and as nothing else. -/
theorem robot_reads {m : JsonMember} {rest : Bytes}
    (hvalue : valueOf obj key = some (skipTabs (m.afterColon.1 ++ m.value.onto rest)))
    (hrest : EndsNumber rest) (hdirect : m.Direct F) :
    extractString obj key = m.value.string? ∧
      (∀ out : F, reported (extractNumber obj key out) = m.value.number?.map CDouble.ofText) ∧
      extractBool obj key = m.value.bool? := by
  unfold JsonMember.Direct at hdirect
  cases hv : m.value with
  | str s =>
      rw [hv] at hvalue hdirect
      rw [Scalar.onto, dropWhile_inLine hdirect.1 rfl] at hvalue
      refine ⟨?_, fun out => ?_, extractBool_none hvalue (by decide)⟩
      · rw [extractString, hvalue]
        exact congrArg some ((stringBody_text s rest).trans (robot_of_verbatim s hdirect.2))
      · rw [reported_extractNumber hvalue, strtod_none (.inl rfl)]
        rfl
  | num n =>
      -- Behind blanks and tabs `strtod` skips the other white space itself.
      rw [hv] at hvalue
      obtain ⟨b, t, hhead, hb⟩ := number_first n rest
      have hspace : isSpace b = false := by
        rcases hb with rfl | hb
        · rfl
        · exact isSpace_of_isDigit hb
      have hstart : ∃ c u, skipTabs (m.afterColon.1 ++ b :: t) = c :: u ∧
        (c = 45 ∨ isDigit c = true ∨ isSpace c = true) ∧
          (c :: u).dropWhile isSpace = b :: t := by
        rcases dropWhile_gap m.afterColon hspace t with ⟨heq, -⟩ | ⟨c, u, heq, hc, hdrop, -⟩
        · exact ⟨b, t, heq, hb.imp_right .inl, List.dropWhile_cons_of_neg (by simp [hspace])⟩
        · exact ⟨c, u, heq, .inr (.inr hc), hdrop⟩
      obtain ⟨c, u, hgap, hc, hdrop⟩ := hstart
      have hne := number_byte hc
      have hscan : strtod (c :: u) = some n.value := by
        rw [← strtod_dropWhile, hdrop, ← hhead]
        exact strtod_text n hrest
      rw [Scalar.onto, hhead, hgap] at hvalue
      refine ⟨extractString_none hvalue hne.1, fun out => ?_, extractBool_none hvalue hne.2⟩
      rw [reported_extractNumber hvalue, hscan]
      rfl
  | bool b =>
      -- A truth value has to stand on the line of its key, which `Direct` says.
      rw [hv] at hvalue hdirect
      have hword : ∃ c t, Scalar.onto (.bool b) rest = c :: t ∧ (c = 116 ∨ c = 102) := by
        cases b
        · exact ⟨_, _, rfl, .inr rfl⟩
        · exact ⟨_, _, rfl, .inl rfl⟩
      obtain ⟨c, t, hcons, hc⟩ := hword
      have hspace : isSpace c = false := by rcases hc with rfl | rfl <;> rfl
      have hquote : c ≠ 34 := by rcases hc with rfl | rfl <;> decide
      rw [hcons, dropWhile_inLine hdirect hspace] at hvalue
      refine ⟨extractString_none hvalue hquote, fun out => ?_, ?_⟩
      · rw [reported_extractNumber hvalue, strtod_none (.inr hc)]
        rfl
      · rw [extractBool, hvalue, ← hcons]
        cases b <;> simp [Scalar.onto, ascii, Scalar.bool?]

/-- The bridge reads a number without its minus sign. -/
theorem reported_getDouble {n : JsonNumber} {rest : Bytes}
    (hvalue : findKeyValue key obj = some (n.text ++ rest)) (hrest : EndsNumber rest) (out : F) :
    reported (getDouble obj key out) = some (CDouble.ofText n.abs.value) := by
  obtain ⟨d, t, hcons, hd⟩ := number_head n rest
  have hscan : strtod (d :: t) = some n.abs.value := by
    rw [← hcons]
    exact strtod_text n.abs hrest
  rw [getDouble, hvalue]
  dsimp only
  rw [readSign_text, hcons]
  simp only [hd, hscan, Bool.true_or, if_true]
  rfl

/-- **The bridge reads a value that is written directly**, as what it is and as nothing else. -/
theorem bridge_reads {m : JsonMember} {rest : Bytes}
    (hvalue : findKeyValue key obj = some (m.value.onto rest))
    (hrest : EndsNumber rest) (hdirect : m.Direct F) :
    reported (getString obj key) = m.value.string? ∧
      (∀ out : F, reported (getDouble obj key out) = m.value.number?.map CDouble.ofText) ∧
      getBool obj key = m.value.bool? := by
  unfold JsonMember.Direct at hdirect
  cases hv : m.value with
  | str s =>
      rw [hv] at hvalue hdirect
      refine ⟨?_, getDouble_none hvalue (.inl rfl), getBool_none hvalue (by decide)⟩
      rw [getString, hvalue]
      show reported (jsonStringBody (s.text ++ 34 :: rest)) = _
      rw [jsonStringBody_text s hdirect.2]
      rfl
  | num n =>
      -- Whether the two readers agree on a number is what `Direct` says of it.
      rw [hv] at hvalue hdirect
      obtain ⟨b, t, hhead, hb⟩ := number_first n rest
      have hne := number_byte (hb.imp_right .inl)
      have hvalue' := hvalue
      rw [Scalar.onto, hhead] at hvalue'
      refine ⟨getString_none hvalue' hne.1, fun out => ?_, getBool_none hvalue' hne.2⟩
      rw [reported_getDouble hvalue hrest]
      exact congrArg some hdirect.symm
  | bool b =>
      rw [hv] at hvalue
      have hword : ∃ c t, Scalar.onto (.bool b) rest = c :: t ∧ (c = 116 ∨ c = 102) := by
        cases b
        · exact ⟨_, _, rfl, .inr rfl⟩
        · exact ⟨_, _, rfl, .inl rfl⟩
      obtain ⟨c, t, hcons, hc⟩ := hword
      have hquote : c ≠ 34 := by rcases hc with rfl | rfl <;> decide
      have hvalue' := hvalue
      rw [hcons] at hvalue'
      refine ⟨getString_none hvalue' hquote, getDouble_none hvalue' (.inr hc), ?_⟩
      rw [getBool, hvalue]
      cases b <;> simp [Scalar.onto, ascii, Scalar.bool?]

/-- **A value that both read is written directly.** -/
theorem direct_of_reads {m : JsonMember} {rest : Bytes}
    (hvalue : valueOf obj key = some (skipTabs (m.afterColon.1 ++ m.value.onto rest)))
    (hfound : findKeyValue key obj = some (m.value.onto rest)) (hrest : EndsNumber rest)
    (hreads : ReadsField F obj key (some m.value)) : m.Direct F := by
  obtain ⟨b, t, hhead, hb⟩ := value_head m.value rest
  rw [hhead] at hvalue
  -- In front of a blank that the robot does not pass over it reads nothing.
  have hline : m.value.string? ≠ none ∨ m.value.bool? ≠ none → m.InLine := by
    intro hsome
    rcases dropWhile_gap m.afterColon hb t with ⟨-, hall⟩ | ⟨c, u, heq, hc, -, -⟩
    · exact hall
    · rw [heq] at hvalue
      have hne := number_byte (.inr (.inr hc))
      have hstring := hreads.string.symm.trans (extractString_none hvalue hne.1)
      have hbool := hreads.bool.symm.trans (extractBool_none hvalue hne.2)
      rcases hsome with h | h
      · exact absurd hstring h
      · exact absurd hbool h
  unfold JsonMember.Direct
  cases hv : m.value with
  | str s =>
      have hin : m.InLine := hline (.inl (by simp [hv, Scalar.string?]))
      refine ⟨hin, verbatim_of_read s ?_⟩
      rw [dropWhile_inLine hin hb, ← hhead, hv, Scalar.onto] at hvalue
      have hstring := hreads.string
      rw [extractString, hvalue, hv] at hstring
      have hbody : some (stringBody (s.text ++ 34 :: rest)) = some s.content := hstring
      rw [← stringBody_text s rest]
      exact Option.some.inj hbody
  | num n =>
      rw [hv] at hfound
      have hagree := hreads.agreeNumber 0.0 0.0
      rw [hreads.number, reported_getDouble hfound hrest, hv] at hagree
      exact (Option.some.inj hagree).symm
  | bool b => exact hline (.inr (by simp [hv, Scalar.bool?]))

end Readers

/-! ### Payload and message -/

/-- A string whose text has no backslash is its text. -/
theorem content_of_text : ∀ s : JsonString, 92 ∉ s.text → s.content = s.text
  | [], _ => rfl
  | .plain b h :: s, hs => by
      rw [JsonString.text_cons, List.mem_append, not_or] at hs
      exact congrArg (b :: ·) (content_of_text s hs.2)
  | .short e c h :: s, hs => absurd (by simp [Piece.text]) hs
  | .unit u v w x n h :: s, hs => absurd (by simp [Piece.text]) hs

/-- A member under a key has that key. -/
theorem Under.content (hkey : IsWord key) {m : JsonMember} (hm : m.Under key) :
    m.key.content = ascii key := by
  have htext : m.key.text = ascii key := hm
  rw [content_of_text m.key (by rw [htext]; exact hkey.not_mem rfl), htext]

/-- Without a member under the key there is no value of its own. -/
theorem ownValue_none {ms : List JsonMember} (h : ∀ m ∈ ms, ¬m.Under key) (rest : Bytes) :
    ownValue key ms rest = none := by
  induction ms with
  | nil => rfl
  | cons m ms ih =>
      rw [ownValue, if_neg (h m (by simp))]
      exact ih fun n hn => h n (by simp [hn])

/-- Of several members the text under a key is that of the one written under it. -/
theorem ownValue_some {ms : List JsonMember} (hunique : ∀ n ∈ ms, ∀ n' ∈ ms, n.Under key →
    n'.Under key → n = n') {m : JsonMember} (hm : m ∈ ms) (hunder : m.Under key) (rest : Bytes) :
    ∃ ms', ownValue key ms rest = some (m.afterColon.1 ++ m.valueOnto (tailOnto ms' rest)) := by
  induction ms with
  | nil => cases hm
  | cons n ms ih =>
      by_cases hn : n.Under key
      · rw [hunique m hm n (by simp) hunder hn]
        exact ⟨ms, if_pos hn⟩
      · rw [ownValue, if_neg hn]
        have hm' : m ∈ ms := by
          rcases List.mem_cons.mp hm with rfl | hm'
          · exact absurd hunder hn
          · exact hm'
        exact ih (fun a ha b hb => hunique a (by simp [ha]) b (by simp [hb])) hm'

/-- The members of an object differ in their keys. -/
theorem same_member (o : FlatObject) {m n : JsonMember} (hm : m ∈ o.members) (hn : n ∈ o.members)
    (h : m.key.content = n.key.content) : m = n := List.inj_on_of_nodup_map o.distinct hm hn h

/-- The value of a member of the object. -/
theorem value?_of_mem {o : FlatObject} {m : JsonMember} (hm : m ∈ o.members)
    (hcontent : m.key.content = ascii key) : o.value? key = some m.value := by
  cases hf : o.members.find? fun m => m.key.content == ascii key with
  | none => exact absurd (by simpa using hcontent) (List.find?_eq_none.mp hf m hm)
  | some n =>
      have hn : n.key.content = ascii key := by simpa using List.find?_some hf
      rw [FlatObject.value?, hf, Option.map_some,
        same_member o (List.mem_of_find?_eq_some hf) hm (hn.trans hcontent.symm)]

/-- Without a member with the key there is no value. -/
theorem value?_none {o : FlatObject} (h : ∀ m ∈ o.members, m.key.content ≠ ascii key) :
    o.value? key = none := by
  have hf : (o.members.find? fun m => m.key.content == ascii key) = none :=
    List.find?_eq_none.mpr fun m hm => by simpa using h m hm
  rw [FlatObject.value?, hf]
  rfl

/-- The brace closes the members. -/
theorem closing (o : FlatObject) : Closing (125 :: (o.back.1 ++ [125])) where
  head := ⟨_, rfl⟩
  quote := by simp [not_mem_blanks o.back (b := 34) rfl]
  colon := by simp [not_mem_blanks o.back (b := 58) rfl]

section Message

variable (F : Type) [CDouble F]

/-- What both readers need of a message: a search for the key reaches the members of the
object. -/
def Reaches (key : String) (message : Bytes) (o : FlatObject) : Prop :=
  afterFirst (quoted key) message =
    afterFirst (quoted key) (membersOnto o.members (125 :: (o.back.1 ++ [125])))

variable {F} {message : Bytes} {o : FlatObject}

/-- The robot finds the value where nothing before it is mistaken for its key. -/
theorem stands_of_clear (hkey : IsWord key) (hreach : Reaches key message o)
    (hclear : Clear key o.members) : valueOf message key =
      (o.textFrom key [125]).map skipTabs := by
  rw [valueOf_eq, show afterFirst (quoted key) message = _ from hreach,
    robot_finds hkey (closing o) o.members hclear]
  rfl

/-- So does the bridge. -/
theorem found_of_clear (hkey : IsWord key) (hreach : Reaches key message o)
    (hclear : Clear key o.members) :
    findKeyValue key message = (o.textFrom key [125]).map (List.dropWhile isSpace) := by
  rw [findKeyValue_congr hreach, bridge_finds hkey (closing o) o.members hclear]
  rfl

/-- A key without a member is read by neither. -/
theorem reads_absent (hvalue : valueOf message key = none)
    (hfound : findKeyValue key message = none) : ReadsField F message key none where
  string := by rw [extractString, hvalue]; rfl
  number := fun out => by rw [extractNumber, hvalue]; rfl
  bool := by rw [extractBool, hvalue]; rfl
  agreeString := by rw [extractString, hvalue, getString, hfound]; rfl
  agreeNumber := fun out out' => by rw [extractNumber, hvalue, getDouble, hfound]; rfl
  agreeBool := by rw [extractBool, hvalue, getBool, hfound]

/-- With a clear way both readers stand on the value of the member under the key. -/
theorem stands_on (hkey : IsWord key) (hreach : Reaches key message o)
    (hclear : Clear key o.members) {m : JsonMember} (hm : m ∈ o.members) (hunder : m.Under key) :
    ∃ rest, EndsNumber rest ∧ findKeyValue key message = some (m.value.onto rest) ∧
      valueOf message key = some (skipTabs (m.afterColon.1 ++ m.value.onto rest)) := by
  obtain ⟨ms', hown⟩ := ownValue_some (fun a ha b hb hua hub => same_member o ha hb
    ((Under.content hkey hua).trans (Under.content hkey hub).symm)) hm hunder
    (125 :: (o.back.1 ++ [125]))
  have hstands := stands_of_clear hkey hreach hclear
  have hfound := found_of_clear hkey hreach hclear
  rw [FlatObject.textFrom, hown, Option.map_some] at hstands hfound
  refine ⟨_, endsNumber_tail m.after ms' (closing o), ?_, hstands⟩
  obtain ⟨b, t, hhead, hb⟩ := value_head m.value
    (m.after.1 ++ tailOnto ms' (125 :: (o.back.1 ++ [125])))
  rw [hfound, JsonMember.valueOnto, hhead, dropWhile_blanks m.afterColon hb]

/-- **A legible key is read**, by both and with the value it was sent with. -/
theorem readsSent_of_legible (hkey : IsWord key) (hreach : Reaches key message o)
    (h : Legible F o key) : ReadsSent F message o key := by
  refine ⟨stands_of_clear hkey hreach h.clear, ?_⟩
  by_cases hex : ∃ m ∈ o.members, m.key.content = ascii key
  · obtain ⟨m, hm, hcontent⟩ := hex
    obtain ⟨hunder, hdirect⟩ := h.own m hm hcontent
    obtain ⟨rest, hends, hfound, hstands⟩ := stands_on hkey hreach h.clear hm hunder
    obtain ⟨hstring, hnumber, hbool⟩ := robot_reads hstands hends hdirect
    obtain ⟨hstring', hnumber', hbool'⟩ := bridge_reads hfound hends hdirect
    rw [value?_of_mem hm hcontent]
    exact
      { string := hstring
        number := hnumber
        bool := hbool
        agreeString := hstring'.trans hstring.symm
        agreeNumber := fun out out' => (hnumber' out).trans (hnumber out').symm
        agreeBool := hbool'.trans hbool.symm }
  · push Not at hex
    have hown := ownValue_none (fun m hm hu => hex m hm (Under.content hkey hu))
      (125 :: (o.back.1 ++ [125]))
    have hstands := stands_of_clear hkey hreach h.clear
    have hfound := found_of_clear hkey hreach h.clear
    rw [FlatObject.textFrom, hown] at hstands hfound
    rw [value?_none hex]
    exact reads_absent hstands hfound

/-- A value that is read is found. -/
theorem found_of_reads {v : Scalar} (h : ReadsField F message key (some v)) :
    valueOf message key ≠ none := by
  intro hnone
  cases v with
  | str s =>
      have hs := h.string
      rw [extractString, hnone] at hs
      cases hs
  | num n =>
      have hn := h.number 0.0
      rw [extractNumber, hnone] at hn
      cases hn
  | bool b =>
      have hb := h.bool
      rw [extractBool, hnone] at hb
      cases hb

/-- **A key that is read is legible.** -/
theorem legible_of_readsSent (hkey : IsWord key) (hreach : Reaches key message o)
    (h : ReadsSent F message o key) : Legible F o key := by
  have hclear : Clear key o.members := by
    have hstands := h.stands
    rw [valueOf_eq, show afterFirst (quoted key) message = _ from hreach] at hstands
    exact clear_of_stands hkey (closing o) o.members hstands
  refine ⟨hclear, fun m hm hcontent => ?_⟩
  have hreads := h.reads
  rw [value?_of_mem hm hcontent] at hreads
  -- The robot finds a value, so a member is written under the key, and it is the one of that key.
  have hunder : m.Under key := by
    by_contra hnot
    refine found_of_reads hreads ?_
    rw [h.stands, FlatObject.textFrom, ownValue_none, Option.map_none]
    intro n hn hu
    rw [same_member o hn hm ((Under.content hkey hu).trans hcontent.symm)] at hu
    exact hnot hu
  obtain ⟨rest, hends, hfound, hstands⟩ := stands_on hkey hreach hclear hm hunder
  exact ⟨hunder, direct_of_reads hstands hfound hends hreads⟩

end Message

/-- The fields of the commands are words. -/
theorem isWord_commandFields : ∀ key ∈ commandFields, IsWord key :=
  List.forall_iff_forall_mem.mp (by decide +kernel)

/-- No name in the envelope is a field of the payload. -/
theorem envelope_names {type : UInt8} (htype : type ∈ commandTypes) :
    ∀ key ∈ commandFields,
      ∀ word ∈ [ascii "seq", ascii "cmd", ascii (msgTypeName type), ascii "payload"],
        word ≠ ascii key := by
  have hall : ∀ type ∈ commandTypes, commandFields.Forall fun key =>
      [ascii "seq", ascii "cmd", ascii (msgTypeName type), ascii "payload"].Forall
        fun word => word ≠ ascii key := List.forall_iff_forall_mem.mp (by decide +kernel)
  intro key hkey
  exact List.forall_iff_forall_mem.mp (List.forall_iff_forall_mem.mp (hall type htype) key hkey)

/-- **The robot reads the field that was sent, and agrees with the bridge, exactly for a payload
whose fields are all legible.** -/
theorem fields_read_iff (F : Type) [CDouble F] {type : UInt8} (htype : type ∈ commandTypes)
    (seq : UInt16) (o : FlatObject) :
    (∀ key ∈ commandFields,
        ReadsSent F (cmdEnvelope (ascii (msgTypeName type)) seq o.text) o key) ↔
      ∀ key ∈ commandFields, Legible F o key := by
  have hreach : ∀ key ∈ commandFields,
      Reaches key (cmdEnvelope (ascii (msgTypeName type)) seq o.text) o := fun key hkey =>
    afterFirst_envelope (plain_name htype) (isWord_commandFields key hkey)
      (envelope_names htype key hkey) seq o
  constructor
  · intro h key hkey
    exact legible_of_readsSent (isWord_commandFields key hkey) (hreach key hkey) (h key hkey)
  · intro h key hkey
    exact readsSent_of_legible (isWord_commandFields key hkey) (hreach key hkey) (h key hkey)

/-! ### A task named like a field -/

/-- A key or a string of plain bytes. -/
def plainString (s : String) (h : ∀ b ∈ ascii s, 32 ≤ b ∧ b ≠ 34 ∧ b ≠ 92) : JsonString :=
  JsonString.ofBytes (ascii s) h

/-- A number of one digit. -/
def digitNumber (d : UInt8) (h : isDigit d = true) : JsonNumber where
  neg := false
  int := ⟨[d], by simp, by simpa using h⟩
  frac := none
  exp := none
  noLead := by simp

/-- The payload that the console writes for a task, in the order of its keys. -/
def gotoPayload (taskId : JsonString) : FlatObject :=
  .compact
    [.compact (plainString "task_id" (by decide +kernel)) (.str taskId),
      .compact (plainString "timeout_s" (by decide +kernel)) (.num (digitNumber 57 rfl)),
      .compact (plainString "type" (by decide +kernel))
        (.str (plainString "goto" (by decide +kernel))),
      .compact (plainString "x" (by decide +kernel)) (.num (digitNumber 51 rfl)),
      .compact (plainString "y" (by decide +kernel)) (.num (digitNumber 52 rfl))]
    (by simp only [List.map, JsonMember.compact]; decide +kernel)

/-- A goto whose fields are all read as they were sent. -/
theorem fields_read_iff_goto :
    commandFields.Forall fun key => ReadsSent ℚ (cmdEnvelope (ascii (msgTypeName msgCmdTask)) 7
      (gotoPayload (plainString "t1" (by decide +kernel))).text)
      (gotoPayload (plainString "t1" (by decide +kernel))) key := by
  refine List.forall_iff_forall_mem.mpr ((fields_read_iff ℚ (by decide +kernel) 7 _).mpr ?_)
  exact List.forall_iff_forall_mem.mp (by decide +kernel)

/-- A task id after which a field is taken from the wrong place. -/
theorem timeout_read_as_goal :
    ¬∀ key ∈ commandFields, ReadsField ℚ (cmdEnvelope (ascii (msgTypeName msgCmdTask)) 7
        (gotoPayload (plainString "x" (by decide +kernel))).text) key
      ((gotoPayload (plainString "x" (by decide +kernel))).value? key) := by
  intro h
  have hread := (h "x" (by decide)).number 0
  have hgoal : reported (extractNumber (cmdEnvelope (ascii (msgTypeName msgCmdTask)) 7
      (gotoPayload (plainString "x" (by decide +kernel))).text) "x" (0 : ℚ)) = some 9 := by
    decide +kernel
  have hsent : (((gotoPayload (plainString "x" (by decide +kernel))).value? "x").bind
      Scalar.number?).map (CDouble.ofText (F := ℚ)) = some 3 := by
    decide +kernel
  rw [hgoal, hsent] at hread
  exact absurd hread (by decide)

end BotCockpit.Bridge
