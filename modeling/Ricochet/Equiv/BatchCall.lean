import Ricochet.Equiv.ParserInvariant
import Ricochet.Equiv.ShiftedArguments

/-!
# The parser of `batchCall`

The parser jumps: it drops words until the one whose offset, as a `uint32_t`, is the one it wants
(`nextWord`, `exec_waiting_some`).  It wants the last entry of the table of offsets, from there what
that entry points to, and from there the inner call seven words on.  Of every offset it keeps the
last two bytes (`low16`).  `landing ws` is where the second jump ends, if it ends; the first jump
reads words that may lie beyond the calldata as zero, which does no harm, since it then ends beyond
it too.

`inputDataResult ws c` is what the parser has made of the words `ws` of the inner call.
`batchCallParsed_exec` puts the parser's context in closed form for calldata of any length.
-/

namespace Ricochet

open CLib Abi Machine

variable {sdk : EthPluginSdk} {c : Context} {b : ℕ}

/-! ### Jumps -/

/-- The first word from word `i` on that a parser waiting for offset `o` takes. -/
def nextWord (i o : ℕ) : Option ℕ :=
  if o % 32 = 0 then some (i + (o / 32 + 2 ^ 27 - i % 2 ^ 27) % 2 ^ 27) else none

theorem nextWord_eq_some {i o j : ℕ} (ho : o < 2 ^ 32) (h : nextWord i o = some j) :
    i ≤ j ∧ 32 * j % 2 ^ 32 = o ∧ ∀ m, i ≤ m → m < j → 32 * m % 2 ^ 32 ≠ o := by
  unfold nextWord at h
  split_ifs at h with hdvd
  obtain rfl := Option.some.inj h
  exact ⟨by omega, by omega, fun m him hmj => by omega⟩

theorem le_of_nextWord_eq_some {i o j : ℕ} (h : nextWord i o = some j) : i ≤ j := by
  unfold nextWord at h
  split_ifs at h
  obtain rfl := Option.some.inj h
  omega

theorem nextWord_eq_none {i o : ℕ} (h : nextWord i o = none) (m : ℕ) : 32 * m % 2 ^ 32 ≠ o := by
  unfold nextWord at h
  split_ifs at h with hdvd
  omega

/-- A jump a few words ahead ends there. -/
theorem nextWord_ahead (i d : ℕ) (hd : d < 2 ^ 27) :
    nextWord i (32 * (i + d) % 2 ^ 32) = some (i + d) := by
  unfold nextWord
  rw [if_pos (by omega)]
  congr 1
  omega

/-- The value of the last two bytes of a word. -/
def low16 (w : Word) : ℕ := beNat w.toList % 2 ^ 16

theorem low16_lt (w : Word) : low16 w < 2 ^ 16 := Nat.mod_lt _ (by decide)

theorem u2be_eq_low16 (w : Word) : (sdk.u2be w (parameterLength - 2)).toNat = low16 w := by
  have hsplit : w.toList = w.toList.take 30 ++ [w[30], w[31]] := by
    apply List.ext_getElem
    · simp
    · intro i hi _
      rw [Vector.length_toList] at hi
      rw [List.getElem_append]
      split_ifs with h
      · rw [List.getElem_take]
      · have hlt : ¬ i < 30 := by simpa using h
        obtain rfl | rfl : i = 30 ∨ i = 31 := by omega
        · simp
        · simp
  -- the bytes before the last two count for multiples of 2 ^ 16
  have htail : beNat [w[30], w[31]] = w[30].toNat * 256 + w[31].toNat := by simp [beNat_cons]
  have hu2be : (sdk.u2be w (parameterLength - 2)).toNat = w[30].toNat * 256 + w[31].toNat :=
    sdk.u2be_toNat w 30 (by decide)
  have h₁ := w[30].toNat_lt
  have h₂ := w[31].toNat_lt
  rw [hu2be, low16, hsplit, beNat_append, htail]
  simp only [List.length_cons, List.length_nil]
  omega

/-- Where the parser lands: the first word it takes after the jump through the table of offsets. -/
def landing (ws : List Word) : Option ℕ := do
  let i ← nextWord 2 (32 + 32 * low16 (wordAt ws 1))
  nextWord (i + 1) (64 + low16 (wordAt ws i))

/-- The context on the way to the inner call: nothing but the control fields has changed. -/
def batchControl (host : Host) (offset : UInt32) (goToOffset : UInt16) (nextParam : Param)
    (arrayLen : UInt16) : Context :=
  { Session.initial host .batchCall with
    offset := offset
    goToOffset := goToOffset
    nextParam := nextParam
    arrayLen := arrayLen }

variable {host : Host} {o : UInt32} {next : Param} {len : UInt16}

theorem handleProvideParameter_batchControl (go : UInt16) (msg : EthPluginProvideParameter) :
    handleProvideParameter sdk msg (batchControl host o go next len) =
      handleBatchCall sdk { msg with result := .ok } (batchControl host o go next len) := by
  simp [handleProvideParameter, batchControl, Session.initial, Context.zero]

/-- A parser that does not wait takes the next word. -/
theorem step_moving (i : ℕ) (w : Word) :
    (handleProvideParameter sdk (parameterMsg i w) (batchControl host o 0 next len)).2 =
      (batchCallSwitch sdk { parameterMsg i w with result := .ok }
        (batchControl host o 0 next len)).2 := by
  have hgo : ¬ (batchControl host o 0 next len).goToOffset = 1 := by simp [batchControl]
  rw [handleProvideParameter_batchControl, handleBatchCall, if_neg hgo]

/-- One that waits leaves any other word alone. -/
theorem step_waiting_of_ne {i : ℕ} (h : 32 * i % 2 ^ 32 ≠ o.toNat) (w : Word) :
    (handleProvideParameter sdk (parameterMsg i w) (batchControl host o 1 next len)).2 =
      batchControl host o 1 next len := by
  have hne : (parameterMsg i w).parameterOffset ≠
      (batchControl host o 1 next len).offset + .ofNat selectorSize :=
    (parameterOffset_eq_iff i w o).not.mpr h
  rw [handleProvideParameter_batchControl, handleBatchCall, if_pos (by rfl), if_pos hne]

/-- One that waits for this word takes it. -/
theorem step_waiting_of_eq {i : ℕ} (h : 32 * i % 2 ^ 32 = o.toNat) (w : Word) :
    (handleProvideParameter sdk (parameterMsg i w) (batchControl host o 1 next len)).2 =
      (batchCallSwitch sdk { parameterMsg i w with result := .ok }
        (batchControl host o 0 next len)).2 := by
  have heq : (parameterMsg i w).parameterOffset =
      (batchControl host o 1 next len).offset + .ofNat selectorSize :=
    (parameterOffset_eq_iff i w o).mpr h
  rw [handleProvideParameter_batchControl, handleBatchCall, if_pos (by rfl),
    if_neg (not_not.mpr heq)]
  rfl

/-- A parser that waits drops words until the one it waits for. -/
theorem exec_waiting_some {i j : ℕ} (hnext : nextWord i o.toNat = some j) (ws : List Word) :
    exec (handleProvideParameter sdk) (numbered parameterMsg i (ws.drop i))
        (batchControl host o 1 next len) =
      exec (handleProvideParameter sdk) (numbered parameterMsg j (ws.drop j))
        (batchControl host o 1 next len) := by
  obtain ⟨hij, -, hbefore⟩ := nextWord_eq_some o.toNat_lt hnext
  rw [exec_numbered_drop parameterMsg (j - i) (ws.drop i) fun m w him hlt =>
    step_waiting_of_ne (hbefore m him (by omega)) w, List.drop_drop,
    show i + (j - i) = j by omega]

/-- One that waits for an offset no word has waits for good. -/
theorem exec_waiting_none {i : ℕ} (hnext : nextWord i o.toNat = none) (l : List Word) :
    exec (handleProvideParameter sdk) (numbered parameterMsg i l) (batchControl host o 1 next len) =
      batchControl host o 1 next len :=
  exec_numbered_of_ignored parameterMsg l fun m w _ =>
    step_waiting_of_ne (nextWord_eq_none hnext m) w

/-! ### The inner call -/

/-- What the parser makes of the words of the inner call. -/
def inputDataResult (ws : List Word) (c : Context) : Context :=
  { c with
    methodCfa := window ws 0 4
    methodId := methodIdOf (window ws 0 4)
    contractAddressSent := window ws 16 20
    contractAddressReceived := window ws 48 20
    amount := window ws 68 32
    nextParam := if 4 ≤ ws.length then .none else .inputData }

theorem atBase_inputDataResult (h : AtBase .batchCall b c) (ws : List Word) :
    AtBase .batchCall b (inputDataResult ws c) := by
  unfold inputDataResult
  exact ⟨h.selectorIndex, h.skip, h.goToOffset, h.offset⟩

theorem handleProvideParameter_batchCall (h : AtBase .batchCall b c)
    (msg : EthPluginProvideParameter) :
    handleProvideParameter sdk msg c = batchCallSwitch sdk { msg with result := .ok } c :=
  handleProvideParameter_eq_batchCallSwitch h.selectorIndex h.skip h.goToOffset_ne msg

/-- Word 0 of the inner call: the method and the start of the token. -/
private theorem inputDataResult_step_zero (h : AtBase .batchCall b c) (w : Word) :
    (handleProvideParameter sdk (parameterMsg (b + 0) w) (inputDataResult [] c)).2 =
      inputDataResult [w] c := by
  have h' := atBase_inputDataResult h []
  have h0 := (h'.slot_zero_iff 0 w (by decide)).mpr rfl
  have hnext : (inputDataResult [] c).nextParam = .inputData := by simp [inputDataResult]
  have hid : (inputDataResult [] c).methodId = startStream := by simp [inputDataResult]
  rw [handleProvideParameter_batchCall h', batchCallSwitch]
  simp only [hnext, if_pos h0]
  simp only [handleSentAddressFirstPart, handleMethodCfa_eq _ _ hid,
    addressFirstPart_eq _ [] _ (p := 16) rfl]
  simp [inputDataResult, window_of_length_le, parameterMsg]

/-- Word 1: the end of the token and the start of the receiver. -/
private theorem inputDataResult_step_one (h : AtBase .batchCall b c) {ws : List Word}
    (hlen : ws.length = 1) (w : Word) :
    (handleProvideParameter sdk (parameterMsg (b + 1) w) (inputDataResult ws c)).2 =
      inputDataResult (ws ++ [w]) c := by
  have h' := atBase_inputDataResult h ws
  have h0 := (h'.slot_zero_iff 1 w (by decide)).not.mpr (by decide)
  have h1 := (h'.slot_iff 1 1 w (by decide) (by decide)).mpr rfl
  rw [Nat.one_mul] at h1
  have hnext : (inputDataResult ws c).nextParam = .inputData := by simp [inputDataResult, hlen]
  rw [handleProvideParameter_batchCall h', batchCallSwitch]
  simp only [hnext, if_neg h0, if_pos h1]
  simp only [handleSentAddressSecondPart, handleReceiveAddressFirstPart, inputDataResult,
    addressFirstPart_eq _ ws _ (p := 48) (by omega), addressSecondPart_eq ws _ (p := 16) (by omega)]
  simp [hlen, window_of_length_le, window_append_of_le, parameterMsg]

/-- Word 2: the end of the receiver and the start of the rate. -/
private theorem inputDataResult_step_two (h : AtBase .batchCall b c) {ws : List Word}
    (hlen : ws.length = 2) (w : Word) :
    (handleProvideParameter sdk (parameterMsg (b + 2) w) (inputDataResult ws c)).2 =
      inputDataResult (ws ++ [w]) c := by
  have h' := atBase_inputDataResult h ws
  have h0 := (h'.slot_zero_iff 2 w (by decide)).not.mpr (by decide)
  have h1 := (h'.slot_iff 2 1 w (by decide) (by decide)).not.mpr (by decide)
  have h2 := (h'.slot_iff 2 2 w (by decide) (by decide)).mpr rfl
  rw [Nat.one_mul] at h1
  have hnext : (inputDataResult ws c).nextParam = .inputData := by simp [inputDataResult, hlen]
  rw [handleProvideParameter_batchCall h', batchCallSwitch]
  simp only [hnext, if_neg h0, if_neg h1, if_pos h2]
  simp only [handleReceiveAddressSecondPart, handleFlowRateFirstPart, inputDataResult,
    addressSecondPart_eq ws _ (p := 48) (by omega), flowRateFirst_eq _ ws _ (p := 68) (by omega)]
  simp [hlen, window_append_of_le, parameterMsg]

/-- Word 3: the end of the rate. -/
private theorem inputDataResult_step_three (h : AtBase .batchCall b c) {ws : List Word}
    (hlen : ws.length = 3) (w : Word) :
    (handleProvideParameter sdk (parameterMsg (b + 3) w) (inputDataResult ws c)).2 =
      inputDataResult (ws ++ [w]) c := by
  have h' := atBase_inputDataResult h ws
  have h0 := (h'.slot_zero_iff 3 w (by decide)).not.mpr (by decide)
  have h1 := (h'.slot_iff 3 1 w (by decide) (by decide)).not.mpr (by decide)
  have h2 := (h'.slot_iff 3 2 w (by decide) (by decide)).not.mpr (by decide)
  have h3 := (h'.slot_iff 3 3 w (by decide) (by decide)).mpr rfl
  rw [Nat.one_mul] at h1
  have hnext : (inputDataResult ws c).nextParam = .inputData := by simp [inputDataResult, hlen]
  rw [handleProvideParameter_batchCall h', batchCallSwitch]
  simp only [hnext, if_neg h0, if_neg h1, if_neg h2, if_pos h3]
  simp only [handleFlowRateSecondPart, inputDataResult,
    flowRateSecond_eq ws _ (p := 68) (by omega)]
  simp [hlen, window_append_of_le, parameterMsg]

/-- One word of the inner call read. -/
theorem inputDataResult_step (h : AtBase .batchCall b c) (ws : List Word) (w : Word)
    (hlen : ws.length < 4) :
    (handleProvideParameter sdk (parameterMsg (b + ws.length) w) (inputDataResult ws c)).2 =
      inputDataResult (ws ++ [w]) c := by
  rcases hk : ws.length with _ | _ | _ | _ | k
  · rw [List.length_eq_zero_iff.mp hk]
    exact inputDataResult_step_zero h w
  · exact inputDataResult_step_one h hk w
  · exact inputDataResult_step_two h hk w
  · exact inputDataResult_step_three h hk w
  · omega

/-- After the four words the context is final. -/
theorem inputDataResult_done (h : AtBase .batchCall b c) (ws : List Word)
    (hlen : ws.length = 4) (i : ℕ) (w : Word) :
    (handleProvideParameter sdk (parameterMsg i w) (inputDataResult ws c)).2 =
      inputDataResult ws c := by
  have hnext : (inputDataResult ws c).nextParam = .none := by simp [inputDataResult, hlen]
  rw [handleProvideParameter_batchCall (atBase_inputDataResult h ws), batchCallSwitch]
  simp only [hnext]

/-! ### The whole calldata -/

/-- The words the parser reads the inner call from. -/
def batchCallInner (ws : List Word) : List Word :=
  (landing ws).elim [] fun e => ws.drop (e + 7)

/-- What the parser has made of the calldata when it ends. -/
structure BatchCallParsed (ws : List Word) (c : Context) : Prop where
  valid : c.valid = 1
  selectorIndex : c.selectorIndex = Selector.batchCall.index
  tickerSent : c.tickerSent = ""
  tickerReceived : c.tickerReceived = ""
  methodCfa : c.methodCfa = window (batchCallInner ws) 0 4
  methodId : c.methodId = methodIdOf (window (batchCallInner ws) 0 4)
  contractAddressSent : c.contractAddressSent = window (batchCallInner ws) 16 20
  contractAddressReceived : c.contractAddressReceived = window (batchCallInner ws) 48 20
  amount : c.amount = window (batchCallInner ws) 68 32
  nextParam : c.nextParam = .none ↔ 4 ≤ (batchCallInner ws).length

/-- A parser that has not come to the inner call has kept no argument. -/
theorem batchCallParsed_batchControl {ws : List Word} {go : UInt16} (hnext : next ≠ .none)
    (hinner : batchCallInner ws = []) : BatchCallParsed ws (batchControl host o go next len) := by
  constructor <;> simp [batchControl, Session.initial, Context.zero, hinner, hnext, startStream]

theorem batchControl_initial :
    Session.initial host .batchCall = batchControl host 0 0 .pathOffset 0 :=
  rfl

/-- The base of the table of offsets. -/
theorem step_batch_pathOffset (i : ℕ) (w : Word) :
    (handleProvideParameter sdk (parameterMsg i w) (batchControl host o 0 .pathOffset len)).2 =
      batchControl host (sdk.u2be w (parameterLength - 4 + 2)).toUInt32 0 .pathLength len := by
  rw [step_moving]
  rfl

/-- The number of operations: the last entry of the table is as many words on. -/
theorem step_batch_pathLength (w : Word) :
    (handleProvideParameter sdk (parameterMsg 1 w) (batchControl host o 0 .pathLength len)).2 =
      batchControl host (.ofNat (32 + 32 * low16 w)) 1 .contractPathOffset
        (sdk.u2be w (parameterLength - 2)) := by
  have hlen := low16_lt w
  have hoffset : (parameterMsg 1 w).parameterOffset - .ofNat selectorSize +
      .ofNat parameterLength * (sdk.u2be w (parameterLength - 2)).toUInt32 =
        .ofNat (32 + 32 * low16 w) := by
    rw [← UInt32.toNat_inj, UInt32.toNat_add, UInt32.toNat_sub, UInt32.toNat_mul,
      UInt16.toNat_toUInt32, u2be_eq_low16]
    simp only [parameterMsg, selectorSize, parameterLength, UInt32.toNat_ofNat']
    omega
  rw [step_moving, ← hoffset]
  rfl

/-- The last entry of the table. -/
theorem step_batch_contractPathOffset (i : ℕ) (w : Word) :
    (batchCallSwitch sdk { parameterMsg i w with result := .ok }
      (batchControl host o 0 .contractPathOffset len)).2 =
      batchControl host (.ofNat (64 + low16 w)) 1 .operationType len := by
  have hlen := low16_lt w
  have hoffset : (sdk.u2be w (parameterLength - 4 + 2)).toUInt32 + .ofNat (parameterLength * 2) =
      .ofNat (64 + low16 w) := by
    rw [← UInt32.toNat_inj, UInt32.toNat_add, UInt16.toNat_toUInt32,
      show parameterLength - 4 + 2 = parameterLength - 2 from rfl, u2be_eq_low16]
    simp only [parameterLength, UInt32.toNat_ofNat']
    omega
  rw [← hoffset]
  rfl

/-- The operation's type and target are passed, and five words after them. -/
theorem step_batch_target (i : ℕ) (w : Word) :
    (handleProvideParameter sdk (parameterMsg i w) (batchControl host o 0 .target len)).2 =
      batchControl host (.ofNat (32 * (i + 5))) 1 .bytesArrayLen len := by
  rw [step_moving, ← offset_eq i 5 w]
  rfl

/-- The length of the inner call, which starts with the next word. -/
theorem step_batch_bytesArrayLen (i : ℕ) (w : Word) :
    (batchCallSwitch sdk { parameterMsg i w with result := .ok }
      (batchControl host o 0 .bytesArrayLen len)).2 =
      batchControl host (.ofNat (32 * (i + 1))) 0 .inputData
        (sdk.u2be w (parameterLength - 2)) := by
  have hoffset := offset_eq i 1 w
  rw [Nat.one_mul] at hoffset
  rw [← hoffset]
  rfl

variable {ws : List Word} {e : ℕ}

theorem batchCallInner_of_landing (hland : landing ws = some e) :
    batchCallInner ws = ws.drop (e + 7) := by
  rw [batchCallInner, hland]
  rfl

theorem batchCallInner_eq_nil (hland : landing ws = some e) (hlen : ws.length ≤ e + 7) :
    batchCallInner ws = [] := by
  rw [batchCallInner_of_landing hland, List.drop_eq_nil_of_le hlen]

/-- From the first word of the inner call on. -/
private theorem batchCallParsed_of_inputData (hland : landing ws = some e) :
    BatchCallParsed ws (exec (handleProvideParameter sdk)
      (numbered parameterMsg (e + 7) (ws.drop (e + 7)))
      (batchControl host (.ofNat (32 * (e + 7))) 0 .inputData len)) := by
  have hbase : AtBase .batchCall (e + 7)
      (batchControl host (.ofNat (32 * (e + 7))) 0 .inputData len) := ⟨rfl, rfl, rfl, rfl⟩
  have hrun := exec_numbered_take (handleProvideParameter sdk) parameterMsg
    (fun l => inputDataResult l (batchControl host (.ofNat (32 * (e + 7))) 0 .inputData len))
    (e + 7) 4 (inputDataResult_step hbase) (inputDataResult_done hbase) (ws.drop (e + 7))
  have hnil : inputDataResult [] (batchControl host (.ofNat (32 * (e + 7))) 0 .inputData len) =
      batchControl host (.ofNat (32 * (e + 7))) 0 .inputData len := by
    simp [inputDataResult, batchControl, Session.initial, Context.zero, startStream]
  have hwin : ∀ {p n : ℕ}, p + n ≤ 32 * 4 →
      window ((ws.drop (e + 7)).take 4) p n = window (batchCallInner ws) p n := by
    intro p n h
    rw [batchCallInner_of_landing hland, window_take_of_le _ h]
  rw [hnil] at hrun
  rw [hrun, inputDataResult, batchControl]
  constructor <;>
    simp [Session.initial, Context.zero, hwin, batchCallInner_of_landing hland]

/-- From the word after the target on: the parser jumps to the length of the inner call. -/
private theorem batchCallParsed_of_bytesArrayLen (hland : landing ws = some e) :
    BatchCallParsed ws (exec (handleProvideParameter sdk)
      (numbered parameterMsg (e + 2) (ws.drop (e + 2)))
      (batchControl host (.ofNat (32 * (e + 1 + 5))) 1 .bytesArrayLen len)) := by
  have hnext : nextWord (e + 2) (UInt32.ofNat (32 * (e + 1 + 5))).toNat = some (e + 2 + 4) := by
    rw [UInt32.toNat_ofNat']
    exact nextWord_ahead (e + 2) 4 (by decide)
  obtain ⟨-, hhit, -⟩ := nextWord_eq_some (UInt32.toNat_lt _) hnext
  rw [exec_waiting_some hnext]
  by_cases hlen : ws.length ≤ e + 2 + 4
  · rw [List.drop_eq_nil_of_le hlen]
    exact batchCallParsed_batchControl (by decide) (batchCallInner_eq_nil hland (by omega))
  · rw [drop_eq_wordAt_cons (by omega), numbered_cons, exec_cons, step_waiting_of_eq hhit,
      step_batch_bytesArrayLen]
    exact batchCallParsed_of_inputData hland

/-- From the last operation on. -/
private theorem batchCallParsed_of_operationType (hland : landing ws = some e)
    (hhit : 32 * e % 2 ^ 32 = o.toNat) :
    BatchCallParsed ws (exec (handleProvideParameter sdk)
      (numbered parameterMsg e (ws.drop e)) (batchControl host o 1 .operationType len)) := by
  by_cases hlen : ws.length ≤ e
  · rw [List.drop_eq_nil_of_le hlen]
    exact batchCallParsed_batchControl (by decide) (batchCallInner_eq_nil hland (by omega))
  rw [drop_eq_wordAt_cons (by omega), numbered_cons, exec_cons, step_waiting_of_eq hhit]
  -- the type has been passed without a look at it, and now the target
  show BatchCallParsed ws (exec (handleProvideParameter sdk)
    (numbered parameterMsg (e + 1) (ws.drop (e + 1))) (batchControl host o 0 .target len))
  by_cases hlen : ws.length ≤ e + 1
  · rw [List.drop_eq_nil_of_le hlen]
    exact batchCallParsed_batchControl (by decide) (batchCallInner_eq_nil hland (by omega))
  rw [drop_eq_wordAt_cons (by omega), numbered_cons, exec_cons, step_batch_target]
  exact batchCallParsed_of_bytesArrayLen hland

theorem landing_eq_nextWord {i : ℕ} (hi : nextWord 2 (32 + 32 * low16 (wordAt ws 1)) = some i) :
    landing ws = nextWord (i + 1) (64 + low16 (wordAt ws i)) := by
  rw [landing, hi]
  rfl

/-- Calldata that ends before the last entry of the table has no inner call. -/
theorem batchCallInner_eq_nil_of_length_le {i : ℕ}
    (hi : nextWord 2 (32 + 32 * low16 (wordAt ws 1)) = some i) (hlen : ws.length ≤ i) :
    batchCallInner ws = [] := by
  have hland := landing_eq_nextWord hi
  cases he : nextWord (i + 1) (64 + low16 (wordAt ws i)) with
  | none => rw [batchCallInner, hland, he, Option.elim_none]
  | some e =>
    have hle := le_of_nextWord_eq_some he
    exact batchCallInner_eq_nil (hland.trans he) (by omega)

/-- From the last entry of the table of offsets on. -/
private theorem batchCallParsed_of_contractPathOffset {i : ℕ}
    (hi : nextWord 2 (32 + 32 * low16 (wordAt ws 1)) = some i)
    (hhit : 32 * i % 2 ^ 32 = o.toNat) :
    BatchCallParsed ws (exec (handleProvideParameter sdk)
      (numbered parameterMsg i (ws.drop i)) (batchControl host o 1 .contractPathOffset len)) := by
  have hlow := low16_lt (wordAt ws i)
  have hoffset : (UInt32.ofNat (64 + low16 (wordAt ws i))).toNat = 64 + low16 (wordAt ws i) := by
    rw [UInt32.toNat_ofNat', Nat.mod_eq_of_lt (by omega)]
  have hland := landing_eq_nextWord hi
  by_cases hlen : ws.length ≤ i
  · rw [List.drop_eq_nil_of_le hlen]
    exact batchCallParsed_batchControl (by decide) (batchCallInner_eq_nil_of_length_le hi hlen)
  rw [drop_eq_wordAt_cons (by omega), numbered_cons, exec_cons, step_waiting_of_eq hhit,
    step_batch_contractPathOffset]
  cases he : nextWord (i + 1) (64 + low16 (wordAt ws i)) with
  | none =>
    -- the entry is no whole number of words: the parser waits for good
    rw [exec_waiting_none (by rw [hoffset]; exact he)]
    exact batchCallParsed_batchControl (by decide)
      (by rw [batchCallInner, hland, he, Option.elim_none])
  | some e =>
    obtain ⟨-, hhit', -⟩ := nextWord_eq_some (by omega) he
    rw [exec_waiting_some (by rw [hoffset]; exact he)]
    exact batchCallParsed_of_operationType (hland.trans he) (by rw [hoffset]; exact hhit')

/-- The first jump always ends, though perhaps beyond the calldata. -/
theorem exists_nextWord_two (n : ℕ) : ∃ i, nextWord 2 (32 + 32 * n) = some i := by
  rw [nextWord, if_pos (by omega)]
  exact ⟨_, rfl⟩

theorem batchCallParsed_exec (host : Host) (ws : List Word) :
    BatchCallParsed ws
      (exec (handleProvideParameter sdk) (numbered parameterMsg 0 ws)
        (Session.initial host .batchCall)) := by
  have hlow := low16_lt (wordAt ws 1)
  have hoffset : (UInt32.ofNat (32 + 32 * low16 (wordAt ws 1))).toNat =
      32 + 32 * low16 (wordAt ws 1) := by
    rw [UInt32.toNat_ofNat', Nat.mod_eq_of_lt (by omega)]
  obtain ⟨i, hi⟩ := exists_nextWord_two (low16 (wordAt ws 1))
  obtain ⟨h2i, hhit, -⟩ := nextWord_eq_some (by omega) hi
  have hshort : ws.length ≤ 1 → batchCallInner ws = [] := fun hlen =>
    batchCallInner_eq_nil_of_length_le hi (by omega)
  rw [batchControl_initial]
  rcases ws with _ | ⟨w₀, _ | ⟨w₁, ws⟩⟩
  · exact batchCallParsed_batchControl (by decide) (hshort (by simp))
  · rw [numbered_cons, exec_cons, step_batch_pathOffset]
    exact batchCallParsed_batchControl (by decide) (hshort (by simp))
  · simp only [numbered_cons, exec_cons, step_batch_pathOffset, Nat.zero_add, Nat.reduceAdd,
      step_batch_pathLength]
    rw [← hoffset] at hi hhit
    -- the words up to the last entry of the table are dropped
    have hparsed : BatchCallParsed (w₀ :: w₁ :: ws) (exec (handleProvideParameter sdk)
        (numbered parameterMsg i ((w₀ :: w₁ :: ws).drop i))
        (batchControl host (.ofNat (32 + 32 * low16 (wordAt (w₀ :: w₁ :: ws) 1))) 1
          .contractPathOffset (sdk.u2be w₁ (parameterLength - 2)))) :=
      batchCallParsed_of_contractPathOffset (by rw [← hoffset]; exact hi) hhit
    rw [← exec_waiting_some hi (w₀ :: w₁ :: ws)] at hparsed
    exact hparsed

end Ricochet
