import Ricochet.Abi.Encode
import Ricochet.Plugin.Contract

/-!
# The calls of the protocol

What a transaction means to the contracts it is sent to: the operations on a stream (`CfaCall`) and
the two entry points that carry them, each with its canonical encoding.  This is the purpose the
plugin's parsers are measured against; it is not translated from the plugin.

`CarriesCall inner call` says that the words `inner` start with the encoding of `call`, as far as
the plugin's screens depend on it.
-/

namespace Ricochet

open CLib Abi

/-- An operation on a stream: a call of the constant flow agreement.  Rates are per second. -/
inductive CfaCall
  | createFlow (token receiver : Address) (flowRate : ℕ) (ctx : List UInt8)
  | updateFlow (token receiver : Address) (flowRate : ℕ) (ctx : List UInt8)
  | deleteFlow (token sender receiver : Address) (ctx : List UInt8)
  deriving DecidableEq

namespace CfaCall

/-- The plugin's name for a method. -/
def method : CfaCall → CfaMethod
  | createFlow .. => ⟨beBytes 4 0x62fc305e, "Start Stream", startStream⟩
  | updateFlow .. => ⟨beBytes 4 0x50209a62, "Update Steam", updateStream⟩
  | deleteFlow .. => ⟨beBytes 4 0xb4b333c6, "Stop Stream", stopStream⟩

/-- The token streamed. -/
def token : CfaCall → Address
  | createFlow token .. | updateFlow token .. | deleteFlow token .. => token

/-- The receiver of the stream. -/
def receiver : CfaCall → Address
  | createFlow _ receiver .. | updateFlow _ receiver .. | deleteFlow _ _ receiver _ => receiver

/-- The new rate, if the operation sets one. -/
def flowRate? : CfaCall → Option ℕ
  | createFlow _ _ flowRate _ | updateFlow _ _ flowRate _ => some flowRate
  | deleteFlow .. => none

/-- The context that the protocol passes along. -/
def ctx : CfaCall → List UInt8
  | createFlow _ _ _ ctx | updateFlow _ _ _ ctx | deleteFlow _ _ _ ctx => ctx

/-- The new rate is in the non-negative range of its type, `int96`. -/
def Valid (call : CfaCall) : Prop := ∀ f, call.flowRate? = some f → f < 2 ^ 95

theorem Valid.lt_word {call : CfaCall} (h : call.Valid) :
    ∀ f, call.flowRate? = some f → f < 256 ^ 32 :=
  fun f hf => (h f hf).trans (by decide)

/-- The arguments. -/
def args : CfaCall → List Part
  | createFlow token receiver flowRate ctx | updateFlow token receiver flowRate ctx =>
    [.static (addressWord token), .static (addressWord receiver), .static (word flowRate),
      .dynamic (bytes ctx)]
  | deleteFlow token sender receiver ctx =>
    [.static (addressWord token), .static (addressWord sender), .static (addressWord receiver),
      .dynamic (bytes ctx)]

/-- The call data of the operation. -/
def encode (call : CfaCall) : List UInt8 := call.method.method.toList ++ tuple call.args

/-- Where the receiver is in the call data. -/
def receiverOffset (call : CfaCall) : ℕ := if call.flowRate?.isSome then 48 else 80

theorem method_mem (call : CfaCall) : call.method ∈ cfaMethodCollection := by
  have hcreate : (⟨beBytes 4 0x62fc305e, "Start Stream", startStream⟩ : CfaMethod) ∈
      cfaMethodCollection := by decide +kernel
  have hupdate : (⟨beBytes 4 0x50209a62, "Update Steam", updateStream⟩ : CfaMethod) ∈
      cfaMethodCollection := by decide +kernel
  have hdelete : (⟨beBytes 4 0xb4b333c6, "Stop Stream", stopStream⟩ : CfaMethod) ∈
      cfaMethodCollection := by decide +kernel
  cases call with
  | createFlow => exact hcreate
  | updateFlow => exact hupdate
  | deleteFlow => exact hdelete

theorem method_eq_stopStream_iff (call : CfaCall) :
    call.method.methodId = stopStream ↔ call.flowRate? = none := by
  cases call <;> simp [method, flowRate?, startStream, updateStream, stopStream]

end CfaCall

/-- The arguments of `callAgreement(address agreementClass, bytes callData, bytes userData)`. -/
def encodeCallAgreement (agreementClass : Address) (callData userData : List UInt8) :
    List UInt8 :=
  tuple [.static (addressWord agreementClass), .dynamic (bytes callData), .dynamic (bytes userData)]

/-- An operation of a batch. -/
structure Operation where
  operationType : ℕ
  target : Address
  data : List UInt8
  deriving DecidableEq

/-- `(uint32 operationType, address target, bytes data)`. -/
def Operation.encode (op : Operation) : List UInt8 :=
  tuple [.static (word op.operationType), .static (addressWord op.target), .dynamic (bytes op.data)]

/-- The arguments of `batchCall(Operation[] operations)`. -/
def encodeBatchCall (operations : List Operation) : List UInt8 :=
  tuple [.dynamic (array (operations.map Operation.encode))]

/-- The data of a batch's operation that calls an agreement: `(bytes callData, bytes userData)`. -/
def encodeCallAgreementData (callData userData : List UInt8) : List UInt8 :=
  tuple [.dynamic (bytes callData), .dynamic (bytes userData)]

/-! ### The call data in words -/

/-- The words start with the call data of an operation. -/
structure CarriesCall (inner : List Word) (call : CfaCall) : Prop where
  length : 4 ≤ inner.length
  method : window inner 0 4 = call.method.method
  token : window inner 16 20 = call.token
  receiver : window inner call.receiverOffset 20 = call.receiver
  flowRate : ∀ f, call.flowRate? = some f → window inner 68 32 = beBytes 32 f

/-- An argument of an operation: the arguments come after the selector. -/
theorem slice_encode {call : CfaCall} {ps qs : List Part} {head : List UInt8}
    (hargs : call.args = ps ++ .static head :: qs) {p n q : ℕ} (h : p + n ≤ head.length)
    (hq : q = 4 + (headLength ps + p)) : slice call.encode q n = slice head p n := by
  have hskip := slice_append_add call.method.method.toList (tuple (ps ++ .static head :: qs))
    (headLength ps + p) n
  rw [Vector.length_toList] at hskip
  rw [CfaCall.encode, hargs, hq, hskip, slice_tuple_static _ _ _ h]

theorem slice_encode_address {call : CfaCall} (ps : List Part) {qs : List Part} {a : Address}
    (hargs : call.args = ps ++ .static (addressWord a) :: qs) {q : ℕ}
    (hq : q = 4 + (headLength ps + 12)) : slice call.encode q 20 = a := by
  rw [slice_encode hargs (p := 12) (by simp) hq, slice_addressWord]

theorem slice_encode_word {call : CfaCall} (ps : List Part) {qs : List Part} {v : ℕ}
    (hargs : call.args = ps ++ .static (word v) :: qs) {q : ℕ}
    (hq : q = 4 + (headLength ps + 0)) : slice call.encode q 32 = beBytes 32 v := by
  rw [slice_encode hargs (p := 0) (by simp) hq, slice_word]

theorem slice_encode_token (call : CfaCall) : slice call.encode 16 20 = call.token := by
  cases call <;> exact slice_encode_address [] rfl (by simp)

theorem slice_encode_receiver (call : CfaCall) :
    slice call.encode call.receiverOffset 20 = call.receiver := by
  cases call with
  | createFlow token receiver flowRate ctx =>
    exact slice_encode_address [.static (addressWord token)] rfl
      (by simp [CfaCall.receiverOffset, CfaCall.flowRate?, Part.headLength])
  | updateFlow token receiver flowRate ctx =>
    exact slice_encode_address [.static (addressWord token)] rfl
      (by simp [CfaCall.receiverOffset, CfaCall.flowRate?, Part.headLength])
  | deleteFlow token sender receiver ctx =>
    exact slice_encode_address [.static (addressWord token), .static (addressWord sender)]
      rfl (by simp [CfaCall.receiverOffset, CfaCall.flowRate?, Part.headLength])

theorem slice_encode_flowRate {call : CfaCall} {f : ℕ} (hf : call.flowRate? = some f) :
    slice call.encode 68 32 = beBytes 32 f := by
  cases call with
  | createFlow token receiver flowRate ctx =>
    obtain rfl : flowRate = f := Option.some.inj hf
    exact slice_encode_word [.static (addressWord token), .static (addressWord receiver)]
      rfl (by simp [Part.headLength])
  | updateFlow token receiver flowRate ctx =>
    obtain rfl : flowRate = f := Option.some.inj hf
    exact slice_encode_word [.static (addressWord token), .static (addressWord receiver)]
      rfl (by simp [Part.headLength])
  | deleteFlow => exact absurd hf (by simp [CfaCall.flowRate?])

theorem length_encode (call : CfaCall) :
    call.encode.length = 164 + (call.ctx.length + 31) / 32 * 32 := by
  cases call <;>
  · simp only [CfaCall.encode, CfaCall.args, CfaCall.ctx, List.length_append, Vector.length_toList,
      length_tuple, headLength_cons, headLength_nil, Part.headLength, length_addressWord,
      length_word, tails, List.flatMap_cons, List.flatMap_nil, Part.tail, List.length_nil,
      length_bytes]
    omega

theorem receiverOffset_le (call : CfaCall) : call.receiverOffset + 20 ≤ 132 := by
  rw [CfaCall.receiverOffset]
  split_ifs <;> decide

theorem length_encode_operation (op : Operation) :
    op.encode.length = 128 + (op.data.length + 31) / 32 * 32 := by
  simp only [Operation.encode, length_tuple, headLength_cons, headLength_nil, Part.headLength,
    length_word, length_addressWord, tails, List.flatMap_cons, List.flatMap_nil, Part.tail,
    List.nil_append, List.append_nil, length_bytes]
  omega

/-- Where the call data starts with a word, the words from there carry the operation. -/
theorem carriesCall_drop (pre post : List UInt8) (call : CfaCall) {b : ℕ}
    (hb : pre.length = 32 * b) :
    CarriesCall ((toWords (pre ++ (call.encode ++ post))).drop b) call := by
  have hlen := length_encode call
  have hwin : ∀ {p n : ℕ}, p + n ≤ 132 →
      window ((toWords (pre ++ (call.encode ++ post))).drop b) p n = slice call.encode p n := by
    intro p n hpn
    rw [window_drop, window_toWords, ← hb, slice_append_add, slice_append_left (by omega)]
  constructor
  · simp only [List.length_drop, length_toWords, List.length_append]
    omega
  · rw [hwin (by decide), CfaCall.encode, slice_toList_append]
  · rw [hwin (by decide), slice_encode_token]
  · rw [hwin (receiverOffset_le call), slice_encode_receiver]
  · intro f hf
    rw [hwin (by decide), slice_encode_flowRate hf]

/-- The same from some word of the calldata on. -/
theorem carriesCall_of_drop {l pre post : List UInt8} {call : CfaCall} {m b : ℕ}
    (hdrop : l.drop (32 * m) = pre ++ (call.encode ++ post)) (hpre : pre.length = 32 * b) :
    CarriesCall ((toWords l).drop (m + b)) call := by
  have hlen : (l.take (32 * m)).length = 32 * m := by
    have := congrArg List.length hdrop
    have hcall := length_encode call
    simp only [List.length_drop, List.length_append] at this
    rw [List.length_take]
    omega
  rw [← List.take_append_drop (32 * m) l, hdrop, ← List.append_assoc]
  refine carriesCall_drop _ post call ?_
  rw [List.length_append, hlen, hpre]
  omega

end Ricochet
