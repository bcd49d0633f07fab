import Ricochet.Guarantees.BatchCall
import Ricochet.Superfluid.Swapped

/-!
# Where the call data is

The contracts find the call data by following offsets, and the parsers find it by counting words:
that of `callAgreement` stores the offset it is given and starts with word 4 whatever it is, and
that of `batchCall` follows the last two bytes of two offsets and replaces the others by fixed
distances.  So what a parser keeps is what the contract executes exactly when the place it counts to
has the same bytes, as far as it keeps them, as the call data of the contract
(`callAgreement_reads_iff`, `batchCall_reads_iff`).  An encoding with the tails in another order
shows one operation and executes another.
-/

namespace Ricochet

open CLib Abi

/-- The field in which a parser keeps the token. -/
def tokenField : Selector → Context → Address
  | .callAgreement, c => c.tokenAddress
  | _, c => c.contractAddressSent

/-- The field in which a parser keeps the receiver of an operation. -/
def receiverField (call : CfaCall) : Selector → Context → Address
  | .callAgreement, c =>
    if call.flowRate?.isSome then c.contractAddressSent else c.contractAddressReceived
  | _, c => c.contractAddressReceived

/-- The context holds what there is to an operation. -/
structure KeepsCall (sel : Selector) (c : Context) (call : CfaCall) : Prop where
  method : c.methodCfa = call.method.method
  token : tokenField sel c = call.token
  receiver : receiverField call sel c = call.receiver
  flowRate : ∀ f, call.flowRate? = some f → c.amount = beBytes 32 f

/-- If every parameter and the end of the arguments are answered with `OK`, the parser has kept the
operation the contract decodes.  A batch is only asked to keep operations that set a rate. -/
def Session.ReadsSigned (s : Session) (sdk : EthPluginSdk) (sel : Selector) : Prop :=
  ∀ callData call, signedCallData sel (bytesOf s.words) = some callData →
    CfaCall.decode callData = some call → (sel = .batchCall → call.flowRate?.isSome) →
    (∀ m ∈ s.parameterReplies sdk, m.result = .ok) → (s.finalize sdk).result = .ok →
    KeepsCall sel (s.parsed sdk) call

/-- Two byte strings agree where call data has the selector, the token, the receiver and, if the
operation sets one, the rate.  What is beyond the end of a string counts as zero. -/
structure SameFields (call : CfaCall) (l l' : List UInt8) : Prop where
  method : slice l 0 4 = slice l' 0 4
  token : slice l 16 20 = slice l' 16 20
  receiver : slice l call.receiverOffset 20 = slice l' call.receiverOffset 20
  flowRate : call.flowRate?.isSome → slice l 68 32 = slice l' 68 32

variable {sdk : EthPluginSdk} {sel : Selector} {call : CfaCall} {l l' : List UInt8}

theorem sameFields_iff_hasFields (h : HasFields l' call) :
    SameFields call l l' ↔ HasFields l call := by
  constructor
  · intro hsame
    refine ⟨hsame.method.trans h.method, hsame.token.trans h.token,
      hsame.receiver.trans h.receiver, fun f hf => ?_⟩
    exact (hsame.flowRate (by rw [hf]; rfl)).trans (h.flowRate f hf)
  · intro hl
    refine ⟨hl.method.trans h.method.symm, hl.token.trans h.token.symm,
      hl.receiver.trans h.receiver.symm, fun hsome => ?_⟩
    obtain ⟨f, hf⟩ := Option.isSome_iff_exists.mp hsome
    exact (hl.flowRate f hf).trans (h.flowRate f hf).symm

/-- Nothing carries no operation. -/
theorem not_hasFields_nil (call : CfaCall) : ¬ HasFields [] call := by
  have hne : ∀ m ∈ cfaMethodCollection, slice [] 0 4 ≠ m.method := by decide
  exact fun h => hne call.method call.method_mem h.method

namespace Session

variable {s : Session}

/-! ### What the parsers keep -/

theorem keepsCall_callAgreement_iff (hhost : s.host.Compatible sdk)
    (hsel : s.selector = Selector.bytes .callAgreement) (hlen : 6 ≤ s.words.length) :
    KeepsCall .callAgreement (s.parsed sdk) call ↔ HasFields ((bytesOf s.words).drop 128) call := by
  have h := parsed_callAgreement hhost hsel
  have hwin : ∀ p n, slice ((bytesOf s.words).drop 128) p n = window s.words (128 + p) n := by
    intro p n
    rw [slice_drop, window_eq_slice]
  -- which field holds the receiver depends on the method that was read
  have hreceiver : window s.words 128 4 = call.method.method →
      receiverField call .callAgreement (s.parsed sdk) =
        slice ((bytesOf s.words).drop 128) call.receiverOffset 20 := by
    intro hmethod
    rw [hwin, receiverField, CfaCall.receiverOffset]
    cases hrate : call.flowRate? with
    | none =>
      have hstop : methodIdOf (window s.words 128 4) = stopStream := by
        rw [hmethod, methodIdOf_of_mem call.method_mem, call.method_eq_stopStream_iff, hrate]
      rw [if_neg (by simp), if_neg (by simp), h.contractAddressReceived, if_pos hstop]
    | some f =>
      rw [if_pos Option.isSome_some, if_pos Option.isSome_some, h.contractAddressSent,
        if_neg (by omega)]
  constructor
  · intro hkeeps
    have hmethod := h.methodCfa.symm.trans hkeeps.method
    refine ⟨?_, ?_, ?_, fun f hf => ?_⟩
    · rw [hwin, hmethod]
    · rw [hwin, ← hkeeps.token, tokenField, h.tokenAddress]
    · rw [← hreceiver hmethod, hkeeps.receiver]
    · rw [hwin, ← hkeeps.flowRate f hf, h.amount]
  · intro hfields
    have hmethod : window s.words 128 4 = call.method.method := (hwin 0 4).symm.trans hfields.method
    refine ⟨?_, ?_, ?_, fun f hf => ?_⟩
    · rw [h.methodCfa, hmethod]
    · rw [tokenField, h.tokenAddress, ← hfields.token, hwin]
    · rw [hreceiver hmethod, hfields.receiver]
    · rw [h.amount, ← hfields.flowRate f hf, hwin]

theorem keepsCall_batchCall_iff (hhost : s.host.Compatible sdk)
    (hsel : s.selector = Selector.bytes .batchCall) (hrate : call.flowRate?.isSome) :
    KeepsCall .batchCall (s.parsed sdk) call ↔
      HasFields (bytesOf (batchCallInner s.words)) call := by
  have h := parsed_batchCall hhost hsel
  have hreceiver : call.receiverOffset = 48 := if_pos hrate
  constructor
  · intro hkeeps
    refine ⟨?_, ?_, ?_, fun f hf => ?_⟩
    · rw [← window_eq_slice, ← h.methodCfa, hkeeps.method]
    · rw [← window_eq_slice, ← h.contractAddressSent]
      exact hkeeps.token
    · rw [← window_eq_slice, hreceiver, ← h.contractAddressReceived]
      exact hkeeps.receiver
    · rw [← window_eq_slice, ← h.amount, hkeeps.flowRate f hf]
  · intro hfields
    have hreceiver' := hfields.receiver
    rw [hreceiver] at hreceiver'
    refine ⟨?_, ?_, ?_, fun f hf => ?_⟩
    · rw [h.methodCfa, window_eq_slice, hfields.method]
    · show (s.parsed sdk).contractAddressSent = call.token
      rw [h.contractAddressSent, window_eq_slice, hfields.token]
    · show (s.parsed sdk).contractAddressReceived = call.receiver
      rw [h.contractAddressReceived, window_eq_slice, hreceiver']
    · rw [h.amount, window_eq_slice, hfields.flowRate f hf]

/-- A session whose call data decodes to an operation reads what is signed exactly when it keeps the
fields of that operation. -/
theorem readsSigned_iff_keepsCall {callData : List UInt8} (hhost : s.host.Compatible sdk)
    (hstream : sel.IsStream) (hsel : s.selector = sel.bytes)
    (hsigned : signedCallData sel (bytesOf s.words) = some callData)
    (hcall : CfaCall.decode callData = some call)
    (hrate : sel = .batchCall → call.flowRate?.isSome) :
    s.ReadsSigned sdk sel ↔ KeepsCall sel (s.parsed sdk) call := by
  constructor
  · intro h
    exact h callData call hsigned hcall hrate (forall_parameterReplies_ok hhost hstream hsel)
      (finalize_ok hhost hstream hsel)
  · intro hkeeps callData' call' hsigned' hcall' _ _ _
    obtain rfl := Option.some.inj (hsigned.symm.trans hsigned')
    obtain rfl := Option.some.inj (hcall.symm.trans hcall')
    exact hkeeps

end Session

/-- A session whose parser reads one call where the contract decodes another, with another rate. -/
theorem not_readsSigned_of_presents {s : Session} {sdk : EthPluginSdk} {sel : Selector}
    {shown signed : CfaCall} {callData : List UInt8} (hhost : s.host.Compatible sdk)
    (hshown : Presents s sel shown) (hsigned : signedCallData sel (bytesOf s.words) = some callData)
    (hcall : CfaCall.decode callData = some signed) {f g : ℕ} (hf : shown.flowRate? = some f)
    (hg : signed.flowRate? = some g) (hne : beBytes 32 f ≠ beBytes 32 g) :
    ¬ s.ReadsSigned sdk sel := by
  intro hreads
  rw [Session.readsSigned_iff_keepsCall hhost hshown.isStream hshown.selector hsigned hcall
    fun _ => by rw [hg]; rfl] at hreads
  have hamount := (Session.streamParsed hhost hshown.isStream hshown.selector).amount
  rw [hreads.flowRate g hg, hshown.carries.flowRate f hf] at hamount
  exact hne hamount.symm

/-- The offset of the canonical encoding leads to the place the parser counts to. -/
theorem sameFields_of_pathOffset {l callData : List UInt8} {call : CfaCall}
    (hsigned : signedCallData .callAgreement l = some callData)
    (hcall : CfaCall.decode callData = some call) (hoffset : readWord l 32 = some 96) :
    SameFields call (l.drop 128) callData := by
  obtain ⟨o, ho, -, hplace⟩ := signedCallData_callAgreement hsigned
  obtain rfl := Option.some.inj (ho.symm.trans hoffset)
  obtain ⟨-, hlen⟩ := hasFields_of_decode hcall
  have hslice : ∀ {p n}, p + n ≤ 132 → slice (l.drop 128) p n = slice callData p n := by
    intro p n hpn
    rw [hplace, slice_take (by omega)]
  exact ⟨hslice (by decide), hslice (by decide), hslice (receiverOffset_le call),
    fun _ => hslice (by decide)⟩

/-- A stream of a token that nobody knows, to a contract that nobody knows. -/
def startUnknown : CfaCall := .createFlow (zeros 20) (zeros 20) 7 []

theorem decode_startUnknown : CfaCall.decode startUnknown.encode = some startUnknown :=
  startUnknown.decode_encode (fun f hf => by obtain rfl := Option.some.inj hf; decide) (by decide)

theorem length_startUnknown : startUnknown.encode.length = 164 := length_encode startUnknown

theorem decode_startAsDai : CfaCall.decode (startAsDai 0 1).encode = some (startAsDai 0 1) :=
  (startAsDai 0 1).decode_encode (fun f hf => by obtain rfl := Option.some.inj hf; decide)
    (by decide)

theorem length_startAsDai : (startAsDai 0 1).encode.length = 164 := length_encode (startAsDai 0 1)

/-! ### `callAgreement` -/

/-- The parser of `callAgreement` keeps what the contract executes exactly when the calldata from
its fifth word on agrees with the call data. -/
theorem Session.callAgreement_reads_iff (s : Session) (sdk : EthPluginSdk) (callData : List UInt8)
    (call : CfaCall) (hhost : s.host.Compatible sdk)
    (hsel : s.selector = Selector.bytes .callAgreement)
    (hsigned : signedCallData .callAgreement (bytesOf s.words) = some callData)
    (hcall : CfaCall.decode callData = some call) :
    s.ReadsSigned sdk .callAgreement ↔
      SameFields call ((bytesOf s.words).drop 128) callData := by
  obtain ⟨hfields, hlen⟩ := hasFields_of_decode hcall
  obtain ⟨o, -, hin, -⟩ := signedCallData_callAgreement hsigned
  rw [length_bytesOf] at hin
  rw [readsSigned_iff_keepsCall hhost (Or.inl rfl) hsel hsigned hcall fun h => absurd h (by decide),
    keepsCall_callAgreement_iff hhost hsel (by omega), sameFields_iff_hasFields hfields]

theorem bytesOf_callAgreementSession (host : Host) (memory : Context) (agreementClass : Address)
    (callData userData : List UInt8) :
    bytesOf (callAgreementSession host memory agreementClass callData userData).words =
      encodeCallAgreement agreementClass callData userData :=
  bytesOf_toWords (length_encodeCallAgreement_mod agreementClass callData userData)

theorem Session.callAgreement_reads_start :
    (callAgreementSession (referenceHost (zeros 20)) Context.zero (zeros 20)
      (startAsDai 0 1).encode []).ReadsSigned referenceSdk .callAgreement := by
  have hlen := length_startAsDai
  have hsigned := signedCallData_encodeCallAgreement (zeros 20) (startAsDai 0 1).encode []
    (by omega)
    (by decide)
  rw [← bytesOf_callAgreementSession (referenceHost (zeros 20)) Context.zero] at hsigned
  refine (callAgreement_reads_iff _ referenceSdk _ _ (referenceHost_compatible _) rfl hsigned
    decode_startAsDai).mpr (sameFields_of_pathOffset hsigned decode_startAsDai ?_)
  rw [bytesOf_callAgreementSession, readWord_encodeCallAgreement]

/-- A `callAgreement` with the tail of its user data first. -/
def swappedCallAgreement (host : Host) (memory : Context) (agreementClass : Address)
    (callData userData : List UInt8) : Session :=
  ⟨host, memory, callAgreementSelector,
    toWords (encodeSwapped (addressWord agreementClass) callData userData)⟩

theorem bytesOf_swappedCallAgreement (host : Host) (memory : Context) (agreementClass : Address)
    (callData userData : List UInt8) :
    bytesOf (swappedCallAgreement host memory agreementClass callData userData).words =
      encodeSwapped (addressWord agreementClass) callData userData :=
  bytesOf_toWords (length_encodeSwapped_mod _ _ (by simp))

/-- It presents its user data. -/
theorem presents_swappedCallAgreement (host : Host) (memory : Context) (agreementClass : Address)
    (callData : List UInt8) (call : CfaCall) :
    Presents (swappedCallAgreement host memory agreementClass callData call.encode) .callAgreement
      call := by
  obtain ⟨pre, post, hpre, hsplit⟩ :=
    encodeSwapped_split (addressWord agreementClass) callData call.encode
  refine ⟨rfl, Or.inl rfl, ?_, fun h => absurd h (by decide)⟩
  rw [swappedCallAgreement, hsplit]
  exact carriesCall_drop pre post call (by rw [hpre, length_addressWord])

/-- A stream to an unknown contract is shown as the listed stream in the user data. -/
theorem Session.callAgreement_misread_swapped :
    let s := swappedCallAgreement (referenceHost (zeros 20)) Context.zero (zeros 20)
      startUnknown.encode (startAsDai 0 1).encode
    signedCallData .callAgreement (bytesOf s.words) = some startUnknown.encode ∧
      CfaCall.decode startUnknown.encode = some startUnknown ∧
      s.ShowsStream referenceSdk (some 1) "DAIx " "ETHx" ∧
      ¬ s.ReadsSigned referenceSdk .callAgreement := by
  intro s
  have hhost : s.host.Compatible referenceSdk := referenceHost_compatible _
  have hlen := length_startAsDai
  have hlen' := length_startUnknown
  have hshown : Presents s .callAgreement (startAsDai 0 1) :=
    presents_swappedCallAgreement _ _ _ _ _
  have hsigned : signedCallData .callAgreement (bytesOf s.words) = some startUnknown.encode := by
    rw [bytesOf_swappedCallAgreement, signedCallData,
      decodeCallAgreement_encodeSwapped _ (by omega) (by omega)]
    rfl
  exact ⟨hsigned, decode_startUnknown, showsStream_startAsDai hhost hshown,
    not_readsSigned_of_presents hhost hshown hsigned decode_startUnknown rfl rfl (by decide)⟩

/-! ### `batchCall` -/

/-- The parser of `batchCall` keeps what the contract executes exactly when it lands, and the
calldata from seven words further on agrees with the call data. -/
theorem Session.batchCall_reads_iff (s : Session) (sdk : EthPluginSdk) (callData : List UInt8)
    (call : CfaCall) (hhost : s.host.Compatible sdk)
    (hsel : s.selector = Selector.bytes .batchCall)
    (hsigned : signedCallData .batchCall (bytesOf s.words) = some callData)
    (hcall : CfaCall.decode callData = some call) (hrate : call.flowRate?.isSome) :
    s.ReadsSigned sdk .batchCall ↔
      ∃ e, landing s.words = some e ∧
        SameFields call ((bytesOf s.words).drop (32 * (e + 7))) callData := by
  obtain ⟨hfields, hlen⟩ := hasFields_of_decode hcall
  rw [readsSigned_iff_keepsCall hhost (Or.inr rfl) hsel hsigned hcall fun _ => hrate,
    keepsCall_batchCall_iff hhost hsel hrate]
  cases hland : landing s.words with
  | none =>
    -- the parser has not landed, and keeps nothing
    rw [batchCallInner, hland, Option.elim_none]
    refine iff_of_false (not_hasFields_nil call) ?_
    rintro ⟨e, he, -⟩
    cases he
  | some e =>
    rw [batchCallInner_of_landing hland, bytesOf_drop, ← sameFields_iff_hasFields hfields]
    constructor
    · exact fun hsame => ⟨e, rfl, hsame⟩
    · rintro ⟨e', he, hsame⟩
      obtain rfl := Option.some.inj he
      exact hsame

theorem bytesOf_batchCallSession (host : Host) (memory : Context) (operations : List Operation) :
    bytesOf (batchCallSession host memory operations).words = encodeBatchCall operations :=
  bytesOf_toWords (length_encodeBatchCall_mod operations)

/-- One operation before the stream, of another size. -/
theorem Session.batchCall_reads_start :
    (batchCallSession (referenceHost (zeros 20)) Context.zero ([⟨1, zeros 20, [1, 2, 3]⟩] ++
      [⟨201, zeros 20, encodeCallAgreementData (startAsDai 0 1).encode []⟩])).ReadsSigned
        referenceSdk
        .batchCall := by
  have hlen := length_startAsDai
  have hdata := decodeCallAgreementData_encode (startAsDai 0 1).encode [] (by omega) (by decide)
  have hlast : lastOffset [⟨1, zeros 20, [1, 2, 3]⟩] = 224 := by
    rw [lastOffset]
    simp [length_encode_operation]
  have hsigned := signedCallData_encodeBatchCall [⟨1, zeros 20, [1, 2, 3]⟩]
    ⟨201, zeros 20, encodeCallAgreementData (startAsDai 0 1).encode []⟩ hdata
    (by simp)
    (by
      rw [length_encodeBatchCall, lastOffset]
      simp [length_encode_operation, length_encodeCallAgreementData, hlen])
  rw [← bytesOf_batchCallSession (referenceHost (zeros 20)) Context.zero] at hsigned
  have hland := landing_encodeBatchCall [⟨1, zeros 20, [1, 2, 3]⟩]
    ⟨201, zeros 20, encodeCallAgreementData (startAsDai 0 1).encode []⟩ (by omega)
  have hcarries := (carries_encodeBatchCall [⟨1, zeros 20, [1, 2, 3]⟩] 201 (zeros 20)
    (startAsDai 0 1) [] (by omega)).hasFields
  rw [innerWords, batchCallInner_of_landing hland, bytesOf_drop] at hcarries
  refine (batchCall_reads_iff _ referenceSdk _ _ (referenceHost_compatible _) rfl hsigned
    decode_startAsDai rfl).mpr ?_
  rw [words_batchCallSession]
  exact ⟨_, hland,
    (sameFields_iff_hasFields (hasFields_of_decode decode_startAsDai).1).mpr hcarries⟩

/-- An operation whose data has the tail of its user data first. -/
def swappedOperation (operationType : ℕ) (target : Address) (callData userData : List UInt8) :
    Operation :=
  ⟨operationType, target, encodeSwapped [] callData userData⟩

theorem presents_swappedOperation (host : Host) (memory : Context) (operations : List Operation)
    (operationType : ℕ) (target : Address) (callData : List UInt8) (call : CfaCall)
    (hlast : lastOffset operations < 65536) (hrate : call.flowRate?.isSome) :
    Presents (batchCallSession host memory
      (operations ++ [swappedOperation operationType target callData call.encode])) .batchCall
      call := by
  obtain ⟨pre, post, hpre, hsplit⟩ := encodeSwapped_split [] callData call.encode
  refine ⟨rfl, Or.inr rfl, ?_, fun _ => hrate⟩
  exact carries_of_lastData operations _ call hpre hsplit hlast

/-- The same in the last operation of a batch, here its only one. -/
theorem Session.batchCall_misread_swapped :
    let s := batchCallSession (referenceHost (zeros 20)) Context.zero
      ([] ++ [swappedOperation 201 (zeros 20) startUnknown.encode (startAsDai 0 1).encode])
    signedCallData .batchCall (bytesOf s.words) = some startUnknown.encode ∧
      CfaCall.decode startUnknown.encode = some startUnknown ∧
      s.ShowsStream referenceSdk (some 1) "DAIx " "ETHx" ∧
      ¬ s.ReadsSigned referenceSdk .batchCall := by
  intro s
  have hhost : s.host.Compatible referenceSdk := referenceHost_compatible _
  have hlen := length_startAsDai
  have hlen' := length_startUnknown
  have hshown : Presents s .batchCall (startAsDai 0 1) :=
    presents_swappedOperation _ _ [] 201 (zeros 20) _ _ (by decide) rfl
  have hdata : decodeCallAgreementData (swappedOperation 201 (zeros 20) startUnknown.encode
      (startAsDai 0 1).encode).data = some (startUnknown.encode, (startAsDai 0 1).encode) :=
    decodeCallAgreementData_encodeSwapped (by omega) (by omega)
  have hsigned : signedCallData .batchCall (bytesOf s.words) = some startUnknown.encode := by
    rw [bytesOf_batchCallSession]
    refine signedCallData_encodeBatchCall [] _ hdata ?_ ?_
    · simp [swappedOperation]
    · rw [length_encodeBatchCall, lastOffset]
      simp [length_encode_operation, swappedOperation, encodeSwapped, hlen, hlen']
  exact ⟨hsigned, decode_startUnknown, showsStream_startAsDai hhost hshown,
    not_readsSigned_of_presents hhost hshown hsigned decode_startUnknown rfl rfl (by decide)⟩

end Ricochet
