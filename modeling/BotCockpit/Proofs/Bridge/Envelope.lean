import BotCockpit.Bridge.Messages
import BotCockpit.Proofs.Sim.Command
import BotCockpit.Lib.Exact
import BotCockpit.Proofs.Sim.Publication

/-!
# `BotCockpit.Proofs.Bridge.Envelope`: command identity survives any payload

The envelope puts the sequence number and the command in front of the payload. The scanners of
the robot take the first occurrence of a key, so the payload decides neither. A result has its
sequence number in front as well, so the bridge reads it back whatever strings follow.
-/

set_option autoImplicit false

namespace BotCockpit.Bridge

open BotCockpit.Lib
open BotCockpit.Sim (FakeRobot CmdResult Output Request extractString extractSeq extractNumber
  valueOf stringBody)

variable {F : Type} [CDouble F]

/-! ### The names -/

/-- A byte that neither scanner nor writer treats specially. -/
def Plain (b : UInt8) : Prop := b ≠ 34 ∧ b ≠ 92 ∧ 32 ≤ b

instance (b : UInt8) : Decidable (Plain b) := by
  unfold Plain
  infer_instance

/-- A text without special bytes is its own escape. -/
theorem escape_plain {s : Bytes} (h : ∀ b ∈ s, Plain b) : escape s = s := by
  induction s with
  | nil => rfl
  | cons b s ih =>
      obtain ⟨hquote, hslash, hlow⟩ := h b (by simp)
      -- A byte from 32 on is none of the three blanks with an escape of their own.
      have hnot : ∀ c : UInt8, c < 32 → b ≠ c := by
        intro c hc hbc
        rw [hbc] at hlow
        exact absurd hc (UInt8.not_lt.mpr hlow)
      have hbyte : escapeByte b = [b] := by
        simp [escapeByte, hquote, hslash, hnot 10 (by decide), hnot 13 (by decide),
          hnot 9 (by decide), UInt8.not_lt.mpr hlow]
      show escapeByte b ++ escape s = b :: s
      rw [hbyte, ih fun c hc => h c (by simp [hc])]
      rfl

/-- The robot reads a plain string back from its quotes. -/
theorem stringBody_plain {s : Bytes} (h : ∀ b ∈ s, Plain b) (rest : Bytes) :
    stringBody (s ++ 34 :: rest) = s := by
  induction s with
  | nil => cases rest <;> simp [stringBody]
  | cons b s ih =>
      obtain ⟨hquote, hslash, -⟩ := h b (by simp)
      have ih' := ih fun c hc => h c (by simp [hc])
      -- The body goes on, so the scanner looks two bytes ahead.
      obtain ⟨c, cs, hcons⟩ : ∃ c cs, s ++ 34 :: rest = c :: cs :=
        List.exists_cons_of_ne_nil (by simp)
      rw [List.cons_append, hcons, stringBody, if_neg hquote, if_neg hslash, ← hcons, ih']

-- Deciding a statement over `type ∈ commandTypes` would try every byte. `List.Forall` goes
-- through the list.
/-- The names of the commands have no special bytes. -/
theorem plain_name {type : UInt8} (h : type ∈ commandTypes) :
    ∀ b ∈ ascii (msgTypeName type), Plain b := by
  have hall : ∀ type ∈ commandTypes, (ascii (msgTypeName type)).Forall Plain :=
    List.forall_iff_forall_mem.mp (by decide +kernel)
  exact List.forall_iff_forall_mem.mp (hall type h)

/-! ### The envelope -/

/-- The envelope up to the payload, for a command name without special bytes. -/
theorem cmdEnvelope_eq {name : Bytes} (hname : ∀ b ∈ name, Plain b) (seq : UInt16)
    (payload : Bytes) :
    ∃ rest, cmdEnvelope name seq payload =
      123 :: (quoted "seq" ++ 58 :: (decimal seq.toNat ++
        44 :: (quoted "cmd" ++ 58 :: 34 :: (name ++ 34 :: rest)))) := by
  refine ⟨ascii ",\"payload\":" ++ (if payload = [] then ascii "null" else payload) ++
    ascii "\x7d", ?_⟩
  unfold cmdEnvelope
  rw [escape_plain hname]
  simp [quoted, ascii]

/-- The value of the first key is found at once. -/
theorem valueOf_hit (key : String) (b : UInt8) (rest : Bytes) (hb : (b == 32 || b == 9) = false) :
    valueOf (quoted key ++ 58 :: b :: rest) key = some (b :: rest) := by
  have hcolon : afterFirst [58] (58 :: b :: rest) = some (b :: rest) :=
    @afterFirst_hit [58] (b :: rest)
  simp only [valueOf, afterFirst_hit, hcolon, List.dropWhile_cons, hb]
  rfl

/-- A text without quotes is passed over in the search for a key. -/
theorem valueOf_skip {pre : Bytes} (h : 34 ∉ pre) (bs : Bytes) (key : String) :
    valueOf (pre ++ bs) key = valueOf bs key := by
  unfold valueOf quoted
  rw [afterFirst_skip h]

/-- A quote that does not open the key is passed over. -/
theorem afterFirst_quote {b : UInt8} {key : String}
    (h : ∀ c ∈ (ascii key ++ [34]).head?, c ≠ b) (bs : Bytes) :
    afterFirst (quoted key) (34 :: b :: bs) = afterFirst (quoted key) (b :: bs) := by
  have hnot : ¬quoted key <+: 34 :: b :: bs := by
    unfold quoted
    cases hkey : ascii key ++ [34] with
    | nil => simp at hkey
    | cons c cs =>
        simp only [List.cons_prefix_cons, true_and, not_and]
        exact fun hc => absurd hc (h c (by simp [hkey]))
  rw [afterFirst, if_neg hnot]

/-- A search goes past a quote that does not start its key. -/
theorem valueOf_quote {b : UInt8} {key : String}
    (h : ∀ c ∈ (ascii key ++ [34]).head?, c ≠ b) (bs : Bytes) :
    valueOf (34 :: b :: bs) key = valueOf (b :: bs) key := by
  unfold valueOf
  rw [afterFirst_quote h]

/-- A decimal text has no quotes. -/
theorem quote_not_mem_decimal (n : Nat) : 34 ∉ decimal n := not_mem_decimal rfl n

/-- The value of the sequence number is the first value of the envelope. -/
theorem valueOf_seq (n : Nat) (rest : Bytes) :
    valueOf (123 :: (quoted "seq" ++ 58 :: (decimal n ++ rest))) "seq" =
      some (decimal n ++ rest) := by
  obtain ⟨d, ds, hcons, hd⟩ := decimal_eq_cons n
  have hblank : (d == 32 || d == 9) = false := by
    have hb := isDigit_bounds hd
    simp only [Bool.or_eq_false_iff, beq_eq_false_iff_ne]
    constructor <;> rintro rfl <;> simp at hb
  rw [show (123 : UInt8) :: (quoted "seq" ++ 58 :: (decimal n ++ rest)) =
    [123] ++ (quoted "seq" ++ 58 :: (decimal n ++ rest)) from rfl, valueOf_skip (by decide),
    hcons]
  exact valueOf_hit "seq" d _ hblank

/-- The value of the command is the one after the sequence number. -/
theorem valueOf_cmd (n : Nat) (rest : Bytes) :
    valueOf (123 :: (quoted "seq" ++ 58 :: (decimal n ++
      44 :: (quoted "cmd" ++ 58 :: 34 :: rest)))) "cmd" = some (34 :: rest) := by
  have hquoted : ∀ tail, (123 : UInt8) :: (quoted "seq" ++ tail) =
      [123] ++ 34 :: 115 :: ([101, 113] ++ 34 :: tail) := fun _ => rfl
  have hcomma : (58 : UInt8) :: (decimal n ++ 44 :: (quoted "cmd" ++ 58 :: 34 :: rest)) =
      (58 :: decimal n ++ [44]) ++ (quoted "cmd" ++ 58 :: 34 :: rest) := by simp
  -- Neither quote of the first key opens the second one.
  rw [hquoted, valueOf_skip (by decide), valueOf_quote (by decide +kernel),
    show (115 : UInt8) :: ([101, 113] ++ 34 :: 58 :: (decimal n ++
      44 :: (quoted "cmd" ++ 58 :: 34 :: rest))) = [115, 101, 113] ++ 34 :: 58 :: (decimal n ++
      44 :: (quoted "cmd" ++ 58 :: 34 :: rest)) from rfl,
    valueOf_skip (by decide), valueOf_quote (by decide +kernel), hcomma,
    valueOf_skip (by simp [quote_not_mem_decimal])]
  exact valueOf_hit "cmd" 34 rest rfl

/-- The robot reads the command that the bridge wrote. -/
theorem extractString_cmdEnvelope {name : Bytes} (hname : ∀ b ∈ name, Plain b) (seq : UInt16)
    (payload : Bytes) : extractString (cmdEnvelope name seq payload) "cmd" = some name := by
  obtain ⟨rest, heq⟩ := cmdEnvelope_eq hname seq payload
  rw [heq, extractString, valueOf_cmd]
  simp only [if_true, stringBody_plain hname]

/-- The robot reads the sequence number that the bridge wrote. -/
theorem extractSeq_cmdEnvelope {name : Bytes} (hname : ∀ b ∈ name, Plain b) (seq : UInt16)
    (payload : Bytes) : extractSeq F (cmdEnvelope name seq payload) = seq := by
  obtain ⟨rest, heq⟩ := cmdEnvelope_eq hname seq payload
  have hnum : ∀ out : F, extractNumber (cmdEnvelope name seq payload) "seq" out =
      (true, CDouble.ofText (.finite false seq.toNat 10 0)) := by
    intro out
    obtain ⟨d, ds, hcons, -⟩ := decimal_eq_cons seq.toNat
    have hscan := strtod_decimal seq.toNat (b := 44)
      (quoted "cmd" ++ 58 :: 34 :: (name ++ 34 :: rest))
      rfl (by decide) (by decide) (by decide)
    rw [hcons] at hscan
    rw [extractNumber, heq, valueOf_seq, hcons, List.cons_append]
    rw [List.cons_append] at hscan
    simp only [hscan]
  unfold extractSeq
  rw [hnum]
  simp only [CDouble.toUInt16_ofText seq.toNat seq.toNat_lt, UInt16.ofNat_toNat]

/-! ### The result -/

/-- A result starts with its sequence number and its verdict. -/
theorem text_eq (res : CmdResult) :
    ∃ rest, res.text = 123 :: (quoted "seq" ++ 58 :: (decimal res.seq.toNat ++
      44 :: (quoted "ok" ++ 58 :: (ascii (if res.ok then "true" else "false") ++ 44 :: rest)))) :=
  ⟨_, Json.render_object_num_bool Sim.esc "seq" "ok" (decimal res.seq.toNat) res.ok _ _⟩

/-- The search for a key goes on from its first occurrence. -/
theorem findKeyValue_eq (key : String) (obj : Bytes) :
    findKeyValue key obj = (afterFirst (quoted key) obj).bind fun rest =>
      match rest.dropWhile isSpace with
      | 58 :: v => if v.dropWhile isSpace = [] then none else some (v.dropWhile isSpace)
      | _ => findKeyValue key rest := by
  rw [findKeyValue]
  split <;> rename_i h
  · rw [h]
    rfl
  · rw [h]
    rfl

/-- The value behind a key that is found with its colon. -/
theorem findKeyValue_hit {key : String} {b : UInt8} {obj rest : Bytes}
    (h : afterFirst (quoted key) obj = some (58 :: b :: rest)) (hb : isSpace b = false) :
    findKeyValue key obj = some (b :: rest) := by
  rw [findKeyValue_eq, h]
  simp [hb, show isSpace 58 = false from rfl]

/-- The sequence number in front of a text is passed over in the search for another key. -/
theorem afterFirst_seq {key : String}
    (h : ∀ c ∈ (ascii key ++ [34]).head?, c ≠ 115 ∧ c ≠ 58) (n : Nat) (rest : Bytes) :
    afterFirst (quoted key) (123 :: (quoted "seq" ++ 58 :: (decimal n ++ rest))) =
      afterFirst (quoted key) rest := by
  have hopen : (123 : UInt8) :: (quoted "seq" ++ 58 :: (decimal n ++ rest)) =
      [123] ++ 34 :: 115 :: ([101, 113] ++ 34 :: 58 :: (decimal n ++ rest)) := rfl
  have hclose : (115 : UInt8) :: ([101, 113] ++ 34 :: 58 :: (decimal n ++ rest)) =
      [115, 101, 113] ++ 34 :: 58 :: (decimal n ++ rest) := rfl
  have hskip : ∀ {pre : Bytes}, 34 ∉ pre → ∀ bs : Bytes,
      afterFirst (quoted key) (pre ++ bs) = afterFirst (quoted key) bs :=
    fun hpre bs => afterFirst_skip hpre bs
  -- Neither quote of the first key opens the key that is searched for.
  rw [hopen, hskip (by decide), afterFirst_quote (fun c hc => (h c hc).1), hclose,
    hskip (by decide), afterFirst_quote (fun c hc => (h c hc).2), ← List.singleton_append,
    hskip (by decide), hskip (quote_not_mem_decimal n)]

/-- **The bridge reads the sequence number of a result back**, whatever strings the result
carries. -/
theorem getInt_text (res : CmdResult) : getInt res.text "seq" = some (res.seq.toNat : Int) := by
  obtain ⟨rest, heq⟩ := text_eq res
  generalize quoted "ok" ++ _ = tail at heq
  obtain ⟨d, ds, hcons, hd⟩ := decimal_eq_cons res.seq.toNat
  have hfind : findKeyValue "seq" res.text = some (decimal res.seq.toNat ++ 44 :: tail) := by
    rw [hcons]
    refine findKeyValue_hit ?_ (isSpace_of_isDigit hd)
    rw [heq]
    show afterFirst (34 :: _) ([123] ++ _) = _
    rw [afterFirst_skip (by decide), hcons]
    exact afterFirst_hit _
  have hscan := strtoll_decimal res.seq.toNat
    (Nat.lt_trans res.seq.toNat_lt (by decide)) (b := 44) tail rfl
  rw [hcons] at hfind hscan
  rw [List.cons_append] at hfind hscan
  unfold getInt
  rw [hfind]
  simp only [readSign_of_isDigit hd, hd, if_true, hscan]

/-- The bridge reads the verdict of a result back. -/
theorem getBool_text (res : CmdResult) : getBool res.text "ok" = some res.ok := by
  obtain ⟨rest, heq⟩ := text_eq res
  have hafter : afterFirst (quoted "ok") res.text =
      some (58 :: (ascii (if res.ok then "true" else "false") ++ 44 :: rest)) := by
    rw [heq, afterFirst_seq (by decide +kernel), ← List.singleton_append]
    show afterFirst (34 :: _) _ = _
    rw [afterFirst_skip (by decide)]
    exact afterFirst_hit _
  unfold getBool
  cases hok : res.ok <;> rw [hok] at hafter
  · rw [findKeyValue_hit (b := 102) hafter rfl]
    rfl
  · rw [findKeyValue_hit (b := 116) hafter rfl]
    rfl

/-- The reason that a reader finds in a refusal of the bridge. -/
theorem getString_refusal (reason : Refusal) {type : UInt8} (htype : type ∈ commandTypes)
    (seq : UInt16) :
    getString (refusal reason (ascii (msgTypeName type)) seq) "reason" =
      (true, ascii reason.text) := by
  have htail : ∀ reason : Refusal, ∀ type ∈ commandTypes,
      getString (ascii ",\"ok\":false,\"cmd\":\"" ++ ascii (msgTypeName type) ++
        ascii "\",\"status\":\"REJECTED\",\"reason\":\"" ++ ascii reason.text ++ ascii "\"\x7d")
        "reason" = (true, ascii reason.text) := by
    rintro (_ | _ | _) <;> exact List.forall_iff_forall_mem.mp (by decide +kernel)
  have heq : refusal reason (ascii (msgTypeName type)) seq =
      123 :: (quoted "seq" ++ 58 :: (decimal seq.toNat ++
        (ascii ",\"ok\":false,\"cmd\":\"" ++ ascii (msgTypeName type) ++
          ascii "\",\"status\":\"REJECTED\",\"reason\":\"" ++ ascii reason.text ++
            ascii "\"\x7d"))) := by
    simp [refusal, quoted, ascii]
  rw [← htail reason type htype, heq]
  unfold getString
  rw [findKeyValue_eq, afterFirst_seq (by decide +kernel), ← findKeyValue_eq]

example : getString (refusal .timeout (ascii "CMD_MODE") 7) "reason" = (true, ascii "timeout") := by
  decide +kernel

/-! ### Command identity -/

/-- The commands of the robot that no frame type of the protocol names. -/
def faultCommands : List Bytes :=
  [ascii "INJECT_FAULT", ascii "CMD_INJECT_FAULT", ascii "CLEAR_FAULT", ascii "CMD_CLEAR_FAULT"]

/-- The robot handles the envelope as the command and the sequence number that the bridge put
in. -/
theorem onCmd_cmdEnvelope (C : Type) [CFloat C] {type : UInt8} (htype : type ∈ commandTypes)
    (seq : UInt16) (payload : Bytes) (nowMs : UInt64) (r : FakeRobot F) :
    FakeRobot.onCmd C nowMs (cmdEnvelope (ascii (msgTypeName type)) seq payload) r =
      FakeRobot.dispatch C
        { nowMs := nowMs
          data := cmdEnvelope (ascii (msgTypeName type)) seq payload
          cmd := ascii (msgTypeName type)
          seq := seq } r := by
  unfold FakeRobot.onCmd
  rw [extractString_cmdEnvelope (plain_name htype)]
  simp only [extractSeq_cmdEnvelope (plain_name htype)]

/-- A configured robot publishes one result for a command, with the sequence number of the
request. -/
theorem dispatch_results (C : Type) [CFloat C] (q : Request) {r : FakeRobot F}
    (hready : r.topicsReady = true) :
    ∃ res, (FakeRobot.dispatch C q r).2.filterMap Output.result? = [res] ∧ res.seq = q.seq := by
  obtain ⟨s, res, ha⟩ := FakeRobot.dispatch_answers C q r
  have hresult : r.publishCmdResult res = [Output.result res] := by
    simp [FakeRobot.publishCmdResult, hready]
  have hstate : (s.publishState q.nowMs).filterMap Output.result? = [] := by
    unfold FakeRobot.publishState
    split <;> rfl
  refine ⟨res, ?_, ha.seq⟩
  rcases ha.output with hout | hout
  · rw [hout, hresult]
    rfl
  · rw [hout, hresult, List.filterMap_append, hstate]
    rfl

/-- **Command identity survives any payload.** A configured robot, in any state, reads from the
envelope the command and the sequence number that the bridge put in, and handles them and no
other command. It publishes one result, and the bridge reads that sequence number back from
it. -/
theorem command_identity (C : Type) [CFloat C] (type : UInt8) (htype : type ∈ commandTypes)
    (seq : UInt16) (payload : Bytes) (nowMs : UInt64) {r : FakeRobot F}
    (hready : r.topicsReady = true) :
    let name := ascii (msgTypeName type)
    let envelope := cmdEnvelope name seq payload
    extractString envelope "cmd" = some name ∧ extractSeq F envelope = seq ∧
      name ∉ faultCommands ∧
      (∃ res, (FakeRobot.onCmd C nowMs envelope r).2.filterMap Output.result? = [res] ∧
        res.seq = seq ∧ getInt res.text "seq" = some (seq.toNat : Int)) := by
  refine ⟨extractString_cmdEnvelope (plain_name htype) seq payload,
    extractSeq_cmdEnvelope (plain_name htype) seq payload, ?_, ?_⟩
  · have hall : ∀ type ∈ commandTypes, ascii (msgTypeName type) ∉ faultCommands :=
      List.forall_iff_forall_mem.mp (by decide +kernel)
    exact hall type htype
  · rw [onCmd_cmdEnvelope C htype]
    obtain ⟨res, hresults, hseq⟩ := dispatch_results C _ hready
    refine ⟨res, hresults, hseq, ?_⟩
    rw [getInt_text, hseq]

/-- A payload that names another command and another sequence number. -/
def forgedPayload : Bytes := ascii "\"\x7d,\"seq\":9,\"cmd\":\"CLEAR_FAULT\""

/-- A payload with a `cmd` and a `seq` of its own does not come through. -/
theorem command_identity_forged :
    let envelope := cmdEnvelope (ascii "CMD_RESET") 7 forgedPayload
    extractString envelope "cmd" = some (ascii "CMD_RESET") ∧ extractSeq ℚ envelope = 7 ∧
      ascii "CMD_RESET" ∉ faultCommands ∧
      (∃ res, (FakeRobot.onCmd Exact.Cost 0 envelope Sim.readyNode.robot).2.filterMap
          Output.result? = [res] ∧
        res.seq = 7 ∧ getInt res.text "seq" = some 7) :=
  command_identity Exact.Cost msgCmdReset (by decide) 7 forgedPayload 0 (by decide +kernel)

end BotCockpit.Bridge
