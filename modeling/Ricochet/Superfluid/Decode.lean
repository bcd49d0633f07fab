import Ricochet.Abi.Decode
import Ricochet.Superfluid.Sessions

/-!
# What the contracts execute

The contracts decode their arguments by following the offsets.  `signedCallData sel l` is the call
data that the arguments `l` of a transaction carry, and `CfaCall.decode` the operation on a stream
it asks for.

Canonical encodings are decoded to what they encode (`CfaCall.decode_encode`,
`decodeCallAgreement_encode`, `decodeBatchCall_encode`), and whatever is decoded has its fields
where the canonical encoding has them in the call data (`hasFields_of_decode`).
-/

namespace Ricochet

open CLib Abi

/-- The arguments of an operation that sets a rate. -/
def decodeFlow (make : Address → Address → ℕ → List UInt8 → CfaCall) (args : List UInt8) :
    Option CfaCall := do
  let token ← readAddress args 0
  let receiver ← readAddress args 32
  let flowRate ← readWord args 64
  let ctx ← readBytes args 96
  some (make token receiver flowRate ctx)

/-- The operation that call data asks for. -/
def CfaCall.decode (callData : List UInt8) : Option CfaCall :=
  if slice callData 0 4 = beBytes 4 0x62fc305e then
    decodeFlow .createFlow (callData.drop 4)
  else if slice callData 0 4 = beBytes 4 0x50209a62 then
    decodeFlow .updateFlow (callData.drop 4)
  else if slice callData 0 4 = beBytes 4 0xb4b333c6 then do
    let args := callData.drop 4
    let token ← readAddress args 0
    let sender ← readAddress args 32
    let receiver ← readAddress args 64
    let ctx ← readBytes args 96
    some (.deleteFlow token sender receiver ctx)
  else none

/-- The arguments of `callAgreement(address agreementClass, bytes callData, bytes userData)`. -/
def decodeCallAgreement (l : List UInt8) : Option (Address × List UInt8 × List UInt8) := do
  let agreementClass ← readAddress l 0
  let callData ← readBytes l 32
  let userData ← readBytes l 64
  some (agreementClass, callData, userData)

/-- `(uint32 operationType, address target, bytes data)`. -/
def Operation.decode (l : List UInt8) : Option Operation := do
  let operationType ← readWord l 0
  let target ← readAddress l 32
  let data ← readBytes l 64
  some ⟨operationType, target, data⟩

/-- The arguments of `batchCall(Operation[] operations)`. -/
def decodeBatchCall (l : List UInt8) : Option (List Operation) := readArray Operation.decode l 0

/-- The data of an operation that calls an agreement: `(bytes callData, bytes userData)`. -/
def decodeCallAgreementData (l : List UInt8) : Option (List UInt8 × List UInt8) := do
  let callData ← readBytes l 0
  let userData ← readBytes l 32
  some (callData, userData)

/-- The call data that the arguments carry; of a batch, that of its last operation. -/
def signedCallData : Selector → List UInt8 → Option (List UInt8)
  | .callAgreement, l => do
    let (_, callData, _) ← decodeCallAgreement l
    some callData
  | .batchCall, l => do
    let operations ← decodeBatchCall l
    let last ← operations.getLast?
    let (callData, _) ← decodeCallAgreementData last.data
    some callData
  | _, _ => none

/-! ### Fields -/

/-- The fields of an operation, where its canonical encoding has them. -/
structure HasFields (l : List UInt8) (call : CfaCall) : Prop where
  method : slice l 0 4 = call.method.method
  token : slice l 16 20 = call.token
  receiver : slice l call.receiverOffset 20 = call.receiver
  flowRate : ∀ f, call.flowRate? = some f → slice l 68 32 = beBytes 32 f

theorem CarriesCall.hasFields {inner : List Word} {call : CfaCall} (h : CarriesCall inner call) :
    HasFields (bytesOf inner) call := by
  refine ⟨?_, ?_, ?_, fun f hf => ?_⟩
  · rw [← window_eq_slice, h.method]
  · rw [← window_eq_slice, h.token]
  · rw [← window_eq_slice, h.receiver]
  · rw [← window_eq_slice, h.flowRate f hf]

theorem hasFields_of_decodeFlow {callData : List UInt8}
    {make : Address → Address → ℕ → List UInt8 → CfaCall} {call : CfaCall}
    (hmake : make = .createFlow ∨ make = .updateFlow)
    (hmethod : ∀ a b f ctx, slice callData 0 4 = (make a b f ctx).method.method)
    (h : decodeFlow make (callData.drop 4) = some call) :
    HasFields callData call ∧ 132 ≤ callData.length := by
  obtain ⟨token, htoken, h⟩ := Option.bind_eq_some_iff.mp h
  obtain ⟨receiver, hreceiver, h⟩ := Option.bind_eq_some_iff.mp h
  obtain ⟨flowRate, hflowRate, h⟩ := Option.bind_eq_some_iff.mp h
  obtain ⟨ctx, hctx, h⟩ := Option.bind_eq_some_iff.mp h
  obtain rfl := Option.some.inj h
  obtain ⟨o, ho, -, -⟩ := readBytes_eq_some hctx
  have hlen := (readWord_eq_some ho).1
  have htoken := (readAddress_eq_some htoken).2
  have hreceiver := (readAddress_eq_some hreceiver).2
  have hflowRate := (readWord_eq_some hflowRate).2
  rw [slice_drop] at htoken hreceiver hflowRate
  rw [List.length_drop] at hlen
  refine ⟨?_, by omega⟩
  rcases hmake with rfl | rfl
  all_goals
    refine ⟨hmethod _ _ _ _, htoken, hreceiver, fun f hf => ?_⟩
    obtain rfl := Option.some.inj hf
    exact hflowRate

/-- Whatever the offset of its context, decoded call data has the other arguments in their place. -/
theorem hasFields_of_decode {callData : List UInt8} {call : CfaCall}
    (h : CfaCall.decode callData = some call) :
    HasFields callData call ∧ 132 ≤ callData.length := by
  unfold CfaCall.decode at h
  split_ifs at h with hcreate hupdate hdelete
  · exact hasFields_of_decodeFlow (Or.inl rfl) (fun _ _ _ _ => hcreate) h
  · exact hasFields_of_decodeFlow (Or.inr rfl) (fun _ _ _ _ => hupdate) h
  · obtain ⟨token, htoken, h⟩ := Option.bind_eq_some_iff.mp h
    obtain ⟨sender, -, h⟩ := Option.bind_eq_some_iff.mp h
    obtain ⟨receiver, hreceiver, h⟩ := Option.bind_eq_some_iff.mp h
    obtain ⟨ctx, hctx, h⟩ := Option.bind_eq_some_iff.mp h
    obtain rfl := Option.some.inj h
    obtain ⟨o, ho, -, -⟩ := readBytes_eq_some hctx
    have hlen := (readWord_eq_some ho).1
    have htoken := (readAddress_eq_some htoken).2
    have hreceiver := (readAddress_eq_some hreceiver).2
    rw [slice_drop] at htoken hreceiver
    rw [List.length_drop] at hlen
    exact ⟨⟨hdelete, htoken, hreceiver, fun f hf => absurd hf (by simp [CfaCall.flowRate?])⟩,
      by omega⟩

/-- The call data of a `callAgreement` is where the second word of the arguments says. -/
theorem signedCallData_callAgreement {l callData : List UInt8}
    (h : signedCallData .callAgreement l = some callData) :
    ∃ o, readWord l 32 = some o ∧ o + 32 + callData.length ≤ l.length ∧
      callData = (l.drop (o + 32)).take callData.length := by
  obtain ⟨⟨agreementClass, callData', userData⟩, hargs, h⟩ := Option.bind_eq_some_iff.mp h
  obtain ⟨_, -, hargs⟩ := Option.bind_eq_some_iff.mp hargs
  obtain ⟨_, hcallData, hargs⟩ := Option.bind_eq_some_iff.mp hargs
  obtain ⟨_, -, hargs⟩ := Option.bind_eq_some_iff.mp hargs
  obtain rfl := Option.some.inj h
  obtain ⟨-, rfl, -⟩ := Prod.mk.injEq .. ▸ Option.some.inj hargs
  exact readBytes_eq_some hcallData

/-! ### Canonical encodings -/

theorem decodeFlow_tuple (make : Address → Address → ℕ → List UInt8 → CfaCall)
    (token receiver : Address) {flowRate : ℕ} (ctx : List UInt8) (hrate : flowRate < 256 ^ 32)
    (hctx : ctx.length < 256 ^ 31) :
    decodeFlow make (tuple [.static (addressWord token), .static (addressWord receiver),
      .static (word flowRate), .dynamic (bytes ctx)]) =
      some (make token receiver flowRate ctx) := by
  have htoken := readAddress_tuple [] [.static (addressWord receiver), .static (word flowRate),
    .dynamic (bytes ctx)] [] token
  have hreceiver := readAddress_tuple [.static (addressWord token)] [.static (word flowRate),
    .dynamic (bytes ctx)] [] receiver
  have hflowRate := readWord_tuple [.static (addressWord token), .static (addressWord receiver)]
    [.dynamic (bytes ctx)] [] hrate
  have hctx := readBytes_tuple [.static (addressWord token), .static (addressWord receiver),
    .static (word flowRate)] [] [] ctx
    (by simp [Part.headLength, tails, Part.tail]; omega)
    (by simp [Part.headLength, tails, Part.tail])
  simp only [List.append_nil, List.nil_append, List.cons_append, headLength_nil, headLength_cons,
    Part.headLength, length_addressWord, length_word, Nat.reduceAdd]
    at htoken hreceiver hflowRate hctx
  simp only [decodeFlow, htoken, hreceiver, hflowRate, hctx, Option.bind_eq_bind, Option.bind_some]

theorem CfaCall.decode_encode (call : CfaCall) (hrate : ∀ f, call.flowRate? = some f → f < 256 ^ 32)
    (hctx : call.ctx.length < 256 ^ 31) : CfaCall.decode call.encode = some call := by
  have hmethod : slice call.encode 0 4 = call.method.method := slice_toList_append _ _
  have hargs : call.encode.drop 4 = tuple call.args :=
    List.drop_left' (by rw [Vector.length_toList])
  unfold CfaCall.decode
  rw [hmethod, hargs]
  cases call with
  | createFlow token receiver flowRate ctx =>
    rw [method, if_pos rfl]
    exact decodeFlow_tuple .createFlow token receiver ctx (hrate flowRate rfl) hctx
  | updateFlow token receiver flowRate ctx =>
    rw [method, if_neg (by decide), if_pos rfl]
    exact decodeFlow_tuple .updateFlow token receiver ctx (hrate flowRate rfl) hctx
  | deleteFlow token sender receiver ctx =>
    have htoken := readAddress_tuple [] [.static (addressWord sender),
      .static (addressWord receiver), .dynamic (bytes ctx)] [] token
    have hsender := readAddress_tuple [.static (addressWord token)]
      [.static (addressWord receiver), .dynamic (bytes ctx)] [] sender
    have hreceiver := readAddress_tuple [.static (addressWord token), .static (addressWord sender)]
      [.dynamic (bytes ctx)] [] receiver
    have hctx := readBytes_tuple [.static (addressWord token), .static (addressWord sender),
      .static (addressWord receiver)] [] [] ctx
      (by simp [Part.headLength, tails, Part.tail]; rw [CfaCall.ctx] at hctx; omega)
      (by simp [Part.headLength, tails, Part.tail])
    simp only [List.append_nil, List.nil_append, List.cons_append, headLength_nil, headLength_cons,
      Part.headLength, length_addressWord, Nat.reduceAdd] at htoken hsender hreceiver hctx
    rw [method, if_neg (by decide), if_neg (by decide), if_pos rfl]
    simp only [args, htoken, hsender, hreceiver, hctx, Option.bind_eq_bind, Option.bind_some]

/-- The size of an encoding is far from the size that its offsets can express. -/
theorem decodeCallAgreement_encode (agreementClass : Address) {callData userData : List UInt8}
    (hcallData : callData.length < 256 ^ 31) (huserData : userData.length < 256 ^ 31) :
    decodeCallAgreement (encodeCallAgreement agreementClass callData userData) =
      some (agreementClass, callData, userData) := by
  have hclass := readAddress_tuple [] [.dynamic (bytes callData), .dynamic (bytes userData)] []
    agreementClass
  have hcall := readBytes_tuple [.static (addressWord agreementClass)]
    [.dynamic (bytes userData)] [] callData
    (by simp [Part.headLength, tails, Part.tail]; omega)
    (by simp [Part.headLength, tails, Part.tail])
  have huser := readBytes_tuple [.static (addressWord agreementClass),
    .dynamic (bytes callData)] [] [] userData
    (by simp [Part.headLength, tails, Part.tail]; omega)
    (by simp [Part.headLength, tails, Part.tail]; omega)
  simp only [List.append_nil, List.nil_append, List.cons_append, headLength_nil, headLength_cons,
    Part.headLength, length_addressWord, Nat.reduceAdd] at hclass hcall huser
  simp only [decodeCallAgreement, encodeCallAgreement, hclass, hcall, huser, Option.bind_eq_bind,
    Option.bind_some]

theorem Operation.decode_encode (op : Operation) (rest : List UInt8)
    (htype : op.operationType < 256 ^ 32) (hdata : op.data.length < 256 ^ 31) :
    Operation.decode (op.encode ++ rest) = some op := by
  have htype := readWord_tuple [] [.static (addressWord op.target), .dynamic (bytes op.data)] rest
    htype
  have htarget := readAddress_tuple [.static (word op.operationType)] [.dynamic (bytes op.data)]
    rest op.target
  have hdata := readBytes_tuple [.static (word op.operationType),
    .static (addressWord op.target)] [] rest op.data
    (by simp [Part.headLength, tails, Part.tail]; omega)
    (by simp [Part.headLength, tails, Part.tail])
  simp only [List.nil_append, List.cons_append, headLength_nil, headLength_cons, Part.headLength,
    length_addressWord, length_word, Nat.reduceAdd] at htype htarget hdata
  simp only [Operation.decode, Operation.encode, htype, htarget, hdata, Option.bind_eq_bind,
    Option.bind_some]

theorem decodeBatchCall_encode (operations : List Operation)
    (htype : ∀ op ∈ operations, op.operationType < 256 ^ 32)
    (hlen : (encodeBatchCall operations).length < 256 ^ 31) :
    decodeBatchCall (encodeBatchCall operations) = some operations := by
  have hmod : ∀ op ∈ operations, op.encode.length % 32 = 0 := by
    intro op _
    rw [length_encode_operation]
    omega
  have hdecode : ∀ op ∈ operations, ∀ rest, Operation.decode (op.encode ++ rest) = some op := by
    intro op hop rest
    have hmem : Part.dynamic op.encode ∈ (operations.map Operation.encode).map Part.dynamic :=
      List.mem_map_of_mem (List.mem_map_of_mem hop)
    have htail := length_tail_le hmem
    rw [Part.tail, length_encode_operation] at htail
    -- an element is shorter than the batch it is in
    have hfits : (tails ((operations.map Operation.encode).map .dynamic)).length <
        (encodeBatchCall operations).length := by
      simp only [encodeBatchCall, length_tuple, tails, List.flatMap_cons, List.flatMap_nil,
        Part.tail, array, List.length_append, length_word, List.append_nil]
      omega
    exact Operation.decode_encode op rest (htype op hop) (by omega)
  have harray := readArray_tuple [] [] operations [] hdecode hmod
    (by rw [encodeBatchCall] at hlen; exact hlen.trans (by decide))
    (by simp [Part.headLength, tails])
  rw [List.append_nil] at harray
  exact harray

theorem length_encodeCallAgreementData (callData userData : List UInt8) :
    (encodeCallAgreementData callData userData).length =
      128 + (callData.length + 31) / 32 * 32 + (userData.length + 31) / 32 * 32 := by
  simp only [encodeCallAgreementData, length_tuple, headLength_cons, headLength_nil,
    Part.headLength, tails, List.flatMap_cons, List.flatMap_nil, Part.tail, List.length_append,
    List.length_nil, length_bytes]
  omega

theorem decodeCallAgreementData_encode (callData userData : List UInt8)
    (hcallData : callData.length < 256 ^ 31) (huserData : userData.length < 256 ^ 31) :
    decodeCallAgreementData (encodeCallAgreementData callData userData) =
      some (callData, userData) := by
  have hcall := readBytes_tuple [] [.dynamic (bytes userData)] [] callData
    (by simp [Part.headLength, tails, Part.tail]; omega) (by simp [Part.headLength, tails])
  have huser := readBytes_tuple [.dynamic (bytes callData)] [] [] userData
    (by simp [Part.headLength, tails, Part.tail]; omega)
    (by simp [Part.headLength, tails, Part.tail]; omega)
  simp only [List.append_nil, List.nil_append, List.cons_append, headLength_nil, headLength_cons,
    Part.headLength, Nat.reduceAdd] at hcall huser
  simp only [decodeCallAgreementData, encodeCallAgreementData, hcall, huser, Option.bind_eq_bind,
    Option.bind_some]

/-- The call data is the first of the tails. -/
theorem readWord_encodeCallAgreement (agreementClass : Address) (callData userData : List UInt8) :
    readWord (encodeCallAgreement agreementClass callData userData) 32 = some 96 := by
  have hoffset := slice_tuple_offset [.static (addressWord agreementClass)]
    [.dynamic (bytes userData)] (bytes callData)
  simp only [headLength_cons, headLength_nil, Part.headLength, length_addressWord, tails,
    List.flatMap_cons, List.flatMap_nil, Part.tail, List.append_nil, List.length_nil,
    List.cons_append, List.nil_append, Nat.reduceAdd] at hoffset
  refine readWord_of_slice ?_ hoffset (by decide)
  simp only [encodeCallAgreement, length_tuple, headLength_cons, headLength_nil, Part.headLength,
    length_addressWord]
  omega

theorem length_encodeCallAgreement_mod (agreementClass : Address) (callData userData : List UInt8) :
    (encodeCallAgreement agreementClass callData userData).length % 32 = 0 := by
  simp only [encodeCallAgreement, length_tuple, headLength_cons, headLength_nil, Part.headLength,
    length_addressWord, tails, List.flatMap_cons, List.flatMap_nil, Part.tail, List.length_append,
    List.length_nil, length_bytes]
  omega

theorem signedCallData_encodeCallAgreement (agreementClass : Address)
    (callData userData : List UInt8) (hcallData : callData.length < 256 ^ 31)
    (huserData : userData.length < 256 ^ 31) :
    signedCallData .callAgreement (encodeCallAgreement agreementClass callData userData) =
      some callData := by
  rw [signedCallData, decodeCallAgreement_encode agreementClass hcallData huserData]
  rfl

theorem length_encodeBatchCall_mod (operations : List Operation) :
    (encodeBatchCall operations).length % 32 = 0 := by
  have := lastOffset_mod operations
  rw [length_encodeBatchCall]
  omega

theorem signedCallData_encodeBatchCall (operations : List Operation) (last : Operation)
    {callData userData : List UInt8}
    (hdata : decodeCallAgreementData last.data = some (callData, userData))
    (htype : ∀ op ∈ operations ++ [last], op.operationType < 256 ^ 32)
    (hlen : (encodeBatchCall (operations ++ [last])).length < 256 ^ 31) :
    signedCallData .batchCall (encodeBatchCall (operations ++ [last])) = some callData := by
  rw [signedCallData, decodeBatchCall_encode _ htype hlen, Option.bind_eq_bind, Option.bind_some,
    List.getLast?_concat, Option.bind_eq_bind, Option.bind_some, hdata]
  rfl

end Ricochet
