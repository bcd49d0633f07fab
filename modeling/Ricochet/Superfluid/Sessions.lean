import Ricochet.Equiv.StreamSession
import Ricochet.Superfluid.Calls

/-!
# What a session shows of an operation

`Presents s sel call`: the words from which the parser of `sel` reads the inner call carry `call`.
Such a session keeps the arguments of the operation (`Presents.receiver`, `Presents.token`,
`Presents.rate`), answers every call with `OK` when the rate fits (`Presents.allOk_iff`), and shows
the operation with the tickers of its receiver (`Presents.showsStream`).

The words of a canonical encoding carry the operation it encodes: `carries_encodeCallAgreement` and,
for the last operation of a batch, `carries_encodeBatchCall`.
-/

namespace Ricochet

open CLib Abi

/-- The parser of `sel` reads `call`.  A batch is shown with a rate whatever its method is, so it
presents only an operation that has one. -/
structure Presents (s : Session) (sel : Selector) (call : CfaCall) : Prop where
  selector : s.selector = sel.bytes
  isStream : sel.IsStream
  carries : CarriesCall (innerWords sel s.words) call
  hasRate : sel = .batchCall → call.flowRate?.isSome

namespace Presents

variable {s : Session} {sdk : EthPluginSdk} {sel : Selector} {call : CfaCall}

theorem methodIdOf_eq (h : Presents s sel call) :
    methodIdOf (window (innerWords sel s.words) 0 4) = call.method.methodId := by
  rw [h.carries.method, methodIdOf_of_mem call.method_mem]

theorem hasRate_iff (h : Presents s sel call) : s.HasRate sel ↔ call.flowRate?.isSome := by
  have hmethod := call.method_eq_stopStream_iff
  rw [Session.HasRate, h.methodIdOf_eq, ne_eq, hmethod, Option.eq_none_iff_forall_ne_some]
  constructor
  · rintro (hbatch | hne)
    · exact h.hasRate hbatch
    · cases hrate : call.flowRate? with
      | none => exact absurd hrate (fun h => hne fun f hf => by rw [h] at hf; cases hf)
      | some f => rfl
  · intro hsome
    obtain ⟨f, hf⟩ := Option.isSome_iff_exists.mp hsome
    exact Or.inr fun hall => hall f hf

/-- The rate is kept, as far as a word holds it. -/
theorem rate (h : Presents s sel call) {f : ℕ} (hf : call.flowRate? = some f)
    (hlt : f < 256 ^ 32) : s.rate sel = f := by
  rw [Session.rate, h.carries.flowRate f hf, beNat_beBytes_of_lt hlt]

theorem shownRate (h : Presents s sel call) (hlt : ∀ f, call.flowRate? = some f → f < 256 ^ 32) :
    s.shownRate sel = call.flowRate? := by
  rw [Session.shownRate]
  cases hrate : call.flowRate? with
  | none =>
    rw [if_neg]
    rw [h.hasRate_iff, hrate]
    decide
  | some f =>
    rw [if_pos, h.rate hrate (hlt f hrate)]
    rw [h.hasRate_iff, hrate]
    rfl

theorem receiver (h : Presents s sel call) (hhost : s.host.Compatible sdk) :
    receiverOf sel (s.parsed sdk) = call.receiver := by
  have hoffset : (if s.HasRate sel then 48 else 80) = call.receiverOffset := by
    simp only [h.hasRate_iff, CfaCall.receiverOffset]
  rw [Session.receiverOf_parsed hhost h.isStream h.selector h.carries.length, hoffset,
    h.carries.receiver]

/-- The parser of `callAgreement` keeps the token in a field of its own. -/
theorem token (h : Presents s .callAgreement call) (hhost : s.host.Compatible sdk) :
    (s.parsed sdk).tokenAddress = call.token := by
  rw [(Session.parsed_callAgreement hhost h.selector).tokenAddress, ← h.carries.token]
  exact (window_drop s.words 4 16 20).symm

/-- That of `batchCall` keeps it in the field of the sent contract. -/
theorem token_batchCall (h : Presents s .batchCall call) (hhost : s.host.Compatible sdk) :
    (s.parsed sdk).contractAddressSent = call.token := by
  rw [(Session.parsed_batchCall hhost h.selector).contractAddressSent]
  exact h.carries.token

theorem nextParam (h : Presents s sel call) (hhost : s.host.Compatible sdk) :
    (s.parsed sdk).nextParam = .none :=
  (Session.streamParsed hhost h.isStream h.selector).nextParam.mpr h.carries.length

theorem version (h : Presents s sel call) (hhost : s.host.Compatible sdk) :
    (s.contractId sdk).version =
      strlcpy s.host.version call.method.methodName s.host.versionLength := by
  have hfind : lookupMethod call.method.method = some call.method :=
    lookupMethod_eq_some_iff.mpr ⟨call.method_mem, rfl⟩
  rw [Session.contractId_stream hhost h.isStream h.selector, h.carries.method, hfind]
  rfl

/-- Every call is answered with `OK` exactly when the rate per month fits in 64 bits. -/
theorem allOk_iff (h : Presents s sel call) (hhost : s.host.Compatible sdk)
    (hlt : ∀ f, call.flowRate? = some f → f < 256 ^ 32) :
    s.AllOk sdk ↔ ∀ f, call.flowRate? = some f → f * 2592000 < 2 ^ 64 := by
  rw [Session.allOk_iff hhost h.isStream h.selector, h.hasRate_iff]
  constructor
  · intro hfit f hf
    have := hfit (by rw [hf]; rfl)
    rwa [h.rate hf (hlt f hf)] at this
  · intro hfit hsome
    obtain ⟨f, hf⟩ := Option.isSome_iff_exists.mp hsome
    rw [h.rate hf (hlt f hf)]
    exact hfit f hf

/-- A session answered with `OK` shows the operation with the tickers found for its receiver. -/
theorem showsStream_tickers (h : Presents s sel call) (hhost : s.host.Compatible sdk)
    (hlt : ∀ f, call.flowRate? = some f → f < 256 ^ 32) (hok : s.AllOk sdk) :
    s.ShowsStream sdk call.flowRate? (tickerSentOf call.receiver)
      (tickerReceivedOf call.receiver) := by
  have hshows := Session.showsStream_of_allOk hhost h.isStream h.selector hok
  rwa [h.receiver hhost, h.shownRate hlt] at hshows

/-- These are those of the receiver's entry. -/
theorem showsStream (h : Presents s sel call) (hhost : s.host.Compatible sdk)
    (hlt : ∀ f, call.flowRate? = some f → f < 256 ^ 32) (hok : s.AllOk sdk)
    {e : ContractAddressTicker} (he : e ∈ contractAddressCollection)
    (hreceiver : call.receiver = e.contractAddress) :
    s.ShowsStream sdk call.flowRate? e.tickerSent e.tickerReceived := by
  have hshows := h.showsStream_tickers hhost hlt hok
  rwa [hreceiver, tickerSentOf, tickerReceivedOf, lookupContract_contractAddress he] at hshows

end Presents

/-! ### Canonical encodings -/

/-- The call data of a canonical `callAgreement` starts with its fifth word. -/
theorem encodeCallAgreement_split (agreementClass : Address) (callData userData : List UInt8) :
    ∃ pre post, pre.length = 128 ∧
      encodeCallAgreement agreementClass callData userData = pre ++ (callData ++ post) := by
  let ps : List Part :=
    [.static (addressWord agreementClass), .dynamic (bytes callData), .dynamic (bytes userData)]
  refine ⟨heads (headLength ps) ps ++ word callData.length,
    List.replicate ((32 - callData.length % 32) % 32) 0 ++ bytes userData, ?_, ?_⟩
  · simp [ps, Part.headLength]
  · simp [encodeCallAgreement, tuple, ps, tails, Part.tail, bytes, pad]

/-- The parser of `callAgreement` reads canonical call data, whatever it is. -/
theorem window_encodeCallAgreement (agreementClass : Address) (callData userData : List UInt8)
    {p n : ℕ} (h : p + n ≤ callData.length) :
    window (innerWords .callAgreement
      (toWords (encodeCallAgreement agreementClass callData userData))) p n =
        slice callData p n := by
  obtain ⟨pre, post, hpre, hsplit⟩ := encodeCallAgreement_split agreementClass callData userData
  rw [innerWords, window_drop, window_toWords, hsplit, show 32 * 4 = pre.length from hpre.symm,
    slice_append_add, slice_append_left h]

theorem length_innerWords_encodeCallAgreement (agreementClass : Address)
    (callData userData : List UInt8) (h : 100 ≤ callData.length) :
    4 ≤ (innerWords .callAgreement
      (toWords (encodeCallAgreement agreementClass callData userData))).length := by
  obtain ⟨pre, post, hpre, hsplit⟩ := encodeCallAgreement_split agreementClass callData userData
  rw [innerWords, List.length_drop, length_toWords, hsplit, List.length_append, List.length_append]
  omega

theorem carries_encodeCallAgreement (agreementClass : Address) (call : CfaCall)
    (userData : List UInt8) :
    CarriesCall (innerWords .callAgreement
      (toWords (encodeCallAgreement agreementClass call.encode userData))) call := by
  obtain ⟨pre, post, hpre, hsplit⟩ := encodeCallAgreement_split agreementClass call.encode userData
  rw [hsplit, innerWords]
  exact carriesCall_drop pre post call hpre

/-- The offset of the last operation of a batch in the table of offsets. -/
def lastOffset (operations : List Operation) : ℕ :=
  32 * (operations.length + 1) + (operations.map fun op => op.encode.length).sum

theorem lastOffset_mod (operations : List Operation) : lastOffset operations % 32 = 0 := by
  have hsum : (operations.map fun op => op.encode.length).sum % 32 = 0 := by
    induction operations with
    | nil => rfl
    | cons op operations ih =>
      rw [List.map_cons, List.sum_cons, length_encode_operation]
      omega
  rw [lastOffset]
  omega

/-- The parts of the array of a batch. -/
theorem encodeBatchCall_eq (operations : List Operation) :
    encodeBatchCall operations =
      word 32 ++ (word operations.length ++
        tuple (operations.map fun op => .dynamic op.encode)) := by
  simp [encodeBatchCall, tuple, heads, tails, Part.tail, Part.headLength, array, Function.comp_def]

section

variable (operations : List Operation) (last : Operation)

private theorem map_append_last :
    ((operations ++ [last]).map fun op => Part.dynamic op.encode) =
      operations.map (fun op => Part.dynamic op.encode) ++ [.dynamic last.encode] := by
  rw [List.map_append, List.map_singleton]

theorem headLength_operations :
    headLength (operations.map fun op => Part.dynamic op.encode) = 32 * operations.length := by
  have := headLength_map_dynamic (operations.map Operation.encode)
  rwa [List.map_map, List.length_map] at this

theorem length_tails_operations :
    (tails (operations.map fun op => Part.dynamic op.encode)).length =
      (operations.map fun op => op.encode.length).sum := by
  simp [tails, List.flatMap_map, List.length_flatMap, Part.tail]

/-- The offset of the last operation, from the start of the table. -/
private theorem lastOffset_eq :
    headLength (operations.map (fun op => Part.dynamic op.encode) ++ [.dynamic last.encode]) +
        (tails (operations.map fun op => Part.dynamic op.encode)).length =
          lastOffset operations := by
  rw [headLength_append, headLength_operations, length_tails_operations, headLength_cons,
    headLength_nil, Part.headLength, lastOffset]
  omega

theorem length_encodeBatchCall :
    (encodeBatchCall operations).length = 32 + lastOffset operations := by
  rw [encodeBatchCall_eq, List.length_append, List.length_append, length_word, length_word,
    length_tuple, headLength_operations, length_tails_operations, lastOffset]
  omega

/-- Word 1 is the number of operations. -/
theorem slice_encodeBatchCall_length :
    slice (encodeBatchCall operations) 32 32 = beBytes 32 operations.length := by
  rw [encodeBatchCall_eq, slice_append_right (by simp), length_word,
    slice_append_left (by simp), slice_word]

/-- The last entry of the table of offsets. -/
theorem slice_encodeBatchCall_lastOffset :
    slice (encodeBatchCall (operations ++ [last])) (32 * (operations.length + 2)) 32 =
      beBytes 32 (lastOffset operations) := by
  have hentry := slice_tuple_offset (operations.map fun op => Part.dynamic op.encode) [] last.encode
  rw [headLength_operations, lastOffset_eq] at hentry
  have hpos : 32 * (operations.length + 2) - 32 - 32 = 32 * operations.length := by omega
  rw [encodeBatchCall_eq, map_append_last, slice_append_right (by rw [length_word]; omega),
    length_word, slice_append_right (by rw [length_word]; omega), length_word, hpos, hentry]

/-- What it points to is the last operation. -/
theorem drop_encodeBatchCall_lastOffset :
    (encodeBatchCall (operations ++ [last])).drop (64 + lastOffset operations) = last.encode := by
  have htail := drop_tuple_dynamic (operations.map fun op => Part.dynamic op.encode) [] last.encode
  rw [lastOffset_eq, tails, List.flatMap_nil, List.append_nil] at htail
  -- the table comes after the offset of the array and the number of operations
  have hlen : (word 32 ++ word (operations ++ [last]).length).length = 64 := by simp
  rw [encodeBatchCall_eq, map_append_last, ← List.append_assoc, List.drop_append,
    List.drop_eq_nil_of_le (by rw [hlen]; omega), List.nil_append, hlen, Nat.add_sub_cancel_left,
    htail]

/-- The first operation comes right after the table. -/
theorem drop_encodeBatchCall_first (first : Operation) :
    (encodeBatchCall (first :: operations)).drop (64 + 32 * (operations.length + 1)) =
      first.encode ++ tails (operations.map fun op => .dynamic op.encode) := by
  have htail := drop_tuple_dynamic [] (operations.map fun op => Part.dynamic op.encode) first.encode
  rw [List.nil_append, headLength_cons, headLength_operations, Part.headLength, tails,
    List.flatMap_nil, List.length_nil, Nat.add_zero] at htail
  have hlen : (word 32 ++ word (first :: operations).length).length = 64 := by simp
  have hpos : 32 * (operations.length + 1) = 32 + 32 * operations.length := by omega
  rw [encodeBatchCall_eq, List.map_cons, ← List.append_assoc, List.drop_append,
    List.drop_eq_nil_of_le (by rw [hlen]; omega), List.nil_append, hlen, Nat.add_sub_cancel_left,
    hpos, htail]

end

/-- The data of an operation starts with its fifth word, and is the rest but for the padding. -/
theorem encode_operation_eq (op : Operation) :
    ∃ pre, pre.length = 128 ∧ op.encode = pre ++ pad op.data := by
  let ps : List Part :=
    [.static (word op.operationType), .static (addressWord op.target), .dynamic (bytes op.data)]
  refine ⟨heads (headLength ps) ps ++ word op.data.length, ?_, ?_⟩
  · simp [ps, Part.headLength]
  · simp [Operation.encode, tuple, ps, tails, Part.tail, bytes]

theorem encode_operation_split (op : Operation) :
    ∃ pre post, pre.length = 128 ∧ op.encode = pre ++ (op.data ++ post) := by
  obtain ⟨pre, hpre, hencode⟩ := encode_operation_eq op
  exact ⟨pre, _, hpre, hencode⟩

/-- The call data of a canonical operation's data starts with its fourth word. -/
theorem encodeCallAgreementData_split (callData userData : List UInt8) :
    ∃ pre post, pre.length = 96 ∧
      encodeCallAgreementData callData userData = pre ++ (callData ++ post) := by
  let ps : List Part := [.dynamic (bytes callData), .dynamic (bytes userData)]
  refine ⟨heads (headLength ps) ps ++ word callData.length,
    List.replicate ((32 - callData.length % 32) % 32) 0 ++ bytes userData, ?_, ?_⟩
  · simp [ps, Part.headLength]
  · simp [encodeCallAgreementData, tuple, ps, tails, Part.tail, bytes, pad]

theorem low16_beBytes (v : ℕ) : low16 (beBytes 32 v) = v % 65536 := by
  have hdvd : 65536 ∣ 256 ^ 32 := ⟨2 ^ 240, by norm_num⟩
  rw [low16, beNat_beBytes, show 2 ^ 16 = 65536 from rfl, Nat.mod_mod_of_dvd v hdvd]

/-- The parser of `batchCall` lands where the last two bytes of the last offset point to, unless
that is back in the table. -/
theorem landing_encodeBatchCall_mod (operations : List Operation) (last : Operation)
    (hcount : operations.length + 1 < 65536)
    (hle : 32 * (operations.length + 1) ≤ lastOffset operations % 65536) :
    landing (toWords (encodeBatchCall (operations ++ [last]))) =
      some (lastOffset operations % 65536 / 32 + 2) := by
  have hmod := lastOffset_mod operations
  -- what the parser keeps of the number of operations and of the last entry of the table
  have hlength : low16 (wordAt (toWords (encodeBatchCall (operations ++ [last]))) 1) =
      operations.length + 1 := by
    rw [wordAt_toWords, slice_encodeBatchCall_length, List.length_append, List.length_singleton,
      low16_beBytes, Nat.mod_eq_of_lt hcount]
  have hentry : low16 (wordAt (toWords (encodeBatchCall (operations ++ [last])))
      (operations.length + 2)) = lastOffset operations % 65536 := by
    rw [wordAt_toWords, slice_encodeBatchCall_lastOffset, low16_beBytes]
  have hfirst : nextWord 2 (32 + 32 * low16
      (wordAt (toWords (encodeBatchCall (operations ++ [last]))) 1)) =
      some (operations.length + 2) := by
    rw [hlength, nextWord, if_pos (by omega)]
    refine congrArg some ?_
    omega
  rw [landing_eq_nextWord hfirst, hentry, nextWord, if_pos (by omega)]
  refine congrArg some ?_
  omega

/-- The parser of `batchCall` lands on the last operation of a canonical batch. -/
theorem landing_encodeBatchCall (operations : List Operation) (last : Operation)
    (hlast : lastOffset operations < 65536) :
    landing (toWords (encodeBatchCall (operations ++ [last]))) =
      some (lastOffset operations / 32 + 2) := by
  have hle : 32 * (operations.length + 1) ≤ lastOffset operations := Nat.le_add_right _ _
  have hmod : lastOffset operations % 65536 = lastOffset operations := Nat.mod_eq_of_lt hlast
  have hland := landing_encodeBatchCall_mod operations last (by omega) (by rwa [hmod])
  rwa [hmod] at hland

/-- The parser of `batchCall` reads the call from the fourth word of the last operation's data. -/
theorem carries_of_lastData (operations : List Operation) (last : Operation) (call : CfaCall)
    {pre post : List UInt8} (hpre : pre.length = 96)
    (hdata : last.data = pre ++ (call.encode ++ post)) (hlast : lastOffset operations < 65536) :
    CarriesCall (innerWords .batchCall (toWords (encodeBatchCall (operations ++ [last]))))
      call := by
  obtain ⟨pre', post', hpre', hencode⟩ := encode_operation_split last
  have hmod := lastOffset_mod operations
  have hpos : 64 + lastOffset operations = 32 * (lastOffset operations / 32 + 2) := by omega
  have hdrop := drop_encodeBatchCall_lastOffset operations last
  rw [hencode, hdata, hpos, List.append_assoc, List.append_assoc, ← List.append_assoc pre'] at hdrop
  rw [innerWords, batchCallInner_of_landing (landing_encodeBatchCall operations last hlast)]
  exact carriesCall_of_drop hdrop (by rw [List.length_append, hpre, hpre'])

theorem carries_encodeBatchCall (operations : List Operation) (operationType : ℕ)
    (target : Address) (call : CfaCall) (userData : List UInt8)
    (hlast : lastOffset operations < 65536) :
    CarriesCall (innerWords .batchCall (toWords (encodeBatchCall (operations ++
      [⟨operationType, target, encodeCallAgreementData call.encode userData⟩])))) call := by
  obtain ⟨pre, post, hpre, hdata⟩ := encodeCallAgreementData_split call.encode userData
  exact carries_of_lastData operations _ call hpre hdata hlast

end Ricochet
