import Ricochet.Equiv.StreamSession
import Ricochet.Equiv.Viewer

/-!
# Sessions without a stream, of any calldata

The four selectors that wrap or unwrap a token, with any words of calldata and any called contract.
The amount of three of them is the last word, if there is one; `upgradeToETH` has the value sent
along, and refuses every word (`parsed_transfer`, `parameterReplies_transfer`).  The tickers are
those of the called contract, or empty (`ready_transfer`).  So what is displayed is known from the
calldata (`viewer_transfer`).
-/

namespace Ricochet

open CLib Abi Machine KeyedTable

variable {sdk : EthPluginSdk} {sel : Selector} {c : Context}

/-- A selector whose argument is an amount. -/
def Selector.IsAmount (sel : Selector) : Prop :=
  sel = .upgrade ∨ sel = .downgrade ∨ sel = .downgradeToEth

theorem Selector.isAmount_upgrade : Selector.IsAmount .upgrade := Or.inl rfl

/-- They are the selectors without a stream, but the one that has no argument. -/
theorem Selector.isAmount_iff : sel.IsAmount ↔ ¬ sel.IsStream ∧ sel ≠ .upgradeToEth := by
  cases sel <;> simp [Selector.IsAmount, Selector.IsStream]

/-- The wrapped token is sent when it is wrapped. -/
def transferSent (sel : Selector) (t : SuperTokenTicker) : String :=
  if sel = .upgrade ∨ sel = .upgradeToEth then t.tickerToken else t.tickerSuperToken

/-- The super token is received then. -/
def transferReceived (sel : Selector) (t : SuperTokenTicker) : String :=
  if sel = .upgrade ∨ sel = .upgradeToEth then t.tickerSuperToken else t.tickerToken

/-- What the plugin calls it. -/
def transferName (sel : Selector) : String :=
  if sel = .upgrade ∨ sel = .upgradeToEth then "Upgrade" else "Downgrade"

/-! ### Words -/

/-- Every word is taken for the amount. -/
theorem handleProvideParameter_amount (hsel : sel.IsAmount) {c : Context} (hskip : c.skip = 0)
    (hindex : c.selectorIndex = sel.index) (msg : EthPluginProvideParameter) :
    handleProvideParameter sdk msg c =
      ({ msg with result := .ok }, { c with amount := msg.parameter }) := by
  rw [handleProvideParameter, if_neg (not_not.mpr hskip), ofIndex?_of_eq hindex]
  rcases hsel with rfl | rfl | rfl <;> simp only [handleAmount, sdk.copyParameter_eq]

theorem exec_amount (hsel : sel.IsAmount) (w₀ : Word) (ws : List Word) (n : ℕ) {c : Context}
    (hskip : c.skip = 0) (hindex : c.selectorIndex = sel.index) :
    exec (handleProvideParameter sdk) (numbered parameterMsg n (w₀ :: ws)) c =
      { c with amount := (w₀ :: ws).getLast (List.cons_ne_nil w₀ ws) } := by
  induction ws generalizing w₀ n c with
  | nil =>
    rw [numbered_cons, exec_cons, handleProvideParameter_amount hsel hskip hindex]
    rfl
  | cons w₁ ws ih =>
    rw [numbered_cons, exec_cons, handleProvideParameter_amount hsel hskip hindex]
    rw [ih w₁ (n + 1) (c := { c with amount := (parameterMsg n w₀).parameter }) hskip hindex]
    rw [List.getLast_cons (List.cons_ne_nil w₁ ws)]

/-- A word given to `upgradeToETH` is refused, and leaves the context alone. -/
theorem handleProvideParameter_upgradeToEth (hindex : c.selectorIndex = Selector.upgradeToEth.index)
    (hskip : c.skip = 0) (msg : EthPluginProvideParameter) :
    handleProvideParameter sdk msg c = ({ msg with result := .error }, c) := by
  rw [handleProvideParameter, if_neg (not_not.mpr hskip), ofIndex?_of_eq hindex]

/-! ### Token information -/

theorem handleDowngradeTokens_eq (c : Context) :
    handleDowngradeTokens sdk c =
      { c with
        tickerSent :=
          (lookupSuperToken c.contractAddressReceived).elim c.tickerSent (·.tickerSuperToken)
        tickerReceived :=
          (lookupSuperToken c.contractAddressReceived).elim c.tickerReceived (·.tickerToken) } := by
  have hfind : (superTokenCollection.find? fun t =>
      t.superTokenAddress = c.contractAddressReceived) =
        lookupSuperToken c.contractAddressReceived := rfl
  rw [handleDowngradeTokens, hfind]
  cases h : lookupSuperToken c.contractAddressReceived with
  | none => rfl
  | some t =>
    obtain ⟨htoken, hsuper⟩ := length_superTicker_lt_of_mem (lookupSuperToken_eq_some_iff.mp h).1
    simp only [Option.elim_some, strlcpy_ticker htoken, strlcpy_ticker hsuper]

theorem handleUpgradeTokens_eq (c : Context) :
    handleUpgradeTokens sdk c =
      { c with
        tickerSent := (lookupSuperToken c.contractAddressReceived).elim c.tickerSent (·.tickerToken)
        tickerReceived :=
          (lookupSuperToken c.contractAddressReceived).elim c.tickerReceived
            (·.tickerSuperToken) } := by
  have hfind : (superTokenCollection.find? fun t =>
      t.superTokenAddress = c.contractAddressReceived) =
        lookupSuperToken c.contractAddressReceived := rfl
  rw [handleUpgradeTokens, hfind]
  cases h : lookupSuperToken c.contractAddressReceived with
  | none => rfl
  | some t =>
    obtain ⟨htoken, hsuper⟩ := length_superTicker_lt_of_mem (lookupSuperToken_eq_some_iff.mp h).1
    simp only [Option.elim_some, strlcpy_ticker htoken, strlcpy_ticker hsuper]

/-- The called contract replaces whatever the field has held. -/
theorem handleReceivedAddress_eq (msg : EthPluginProvideInfo) (c : Context) :
    handleReceivedAddress msg c =
      { c with contractAddressReceived := msg.txContent.destination } := by
  have hcopy : memcpy (memset c.contractAddressReceived 0) 0 msg.txContent.destination 0
      addressLength (Nat.le_refl addressLength) (Nat.le_refl addressLength) =
        msg.txContent.destination := by
    rw [memcpy_full]
    refine Vector.ext fun i hi => ?_
    rw [Vector.getElem_ofFn]
    rfl
  rw [handleReceivedAddress, hcopy]

variable (sdk) in
/-- The tickers are those of the called contract, where it is a super token. -/
theorem handleProvideToken_transfer (hsel : ¬ sel.IsStream) (hindex : c.selectorIndex = sel.index)
    (msg : EthPluginProvideInfo) :
    ∃ d, (handleProvideToken sdk msg c).2 =
      { c with
        contractAddressReceived := msg.txContent.destination
        tickerSent :=
          (lookupSuperToken msg.txContent.destination).elim c.tickerSent (transferSent sel)
        tickerReceived :=
          (lookupSuperToken msg.txContent.destination).elim c.tickerReceived (transferReceived sel)
        decimals := d } := by
  rw [handleProvideToken, ofIndex?_of_eq hindex]
  cases sel with
  | callAgreement => exact absurd Selector.isStream_callAgreement hsel
  | batchCall => exact absurd Selector.isStream_batchCall hsel
  | downgrade | downgradeToEth =>
    simp only [handleReceivedAddress_eq, handleDowngradeTokens_eq]
    exact ⟨_, rfl⟩
  | upgrade | upgradeToEth =>
    simp only [handleReceivedAddress_eq, handleUpgradeTokens_eq]
    exact ⟨_, rfl⟩

namespace Session

variable {s : Session}

/-! ### The parser -/

/-- The amount a session is about: the value sent along, or the last word. -/
def transferAmount (s : Session) (sel : Selector) : Buffer 32 :=
  if sel = .upgradeToEth then s.host.txContent.value else s.words.getLast?.getD (zeros 32)

theorem parsed_transfer (hhost : s.host.Compatible sdk) (hsel : ¬ sel.IsStream)
    (hselector : s.selector = sel.bytes) :
    s.parsed sdk = { initial s.host sel with amount := s.transferAmount sel } := by
  by_cases heth : sel = .upgradeToEth
  · subst heth
    rw [parsed, init_eq_of_selector hhost hselector, transferAmount, if_pos rfl]
    refine exec_eq_self fun msg _ => ?_
    rw [handleProvideParameter_upgradeToEth rfl rfl]
  · have hamount : sel.IsAmount := Selector.isAmount_iff.mpr ⟨hsel, heth⟩
    rw [transferAmount, if_neg heth]
    cases hwords : s.words with
    | nil =>
      rw [parsed, init_eq_of_selector hhost hselector, hwords]
      simp only [numbered_nil, exec_nil, initial, if_neg heth, List.getLast?_nil, Option.getD_none]
    | cons w ws =>
      rw [parsed, init_eq_of_selector hhost hselector, hwords, List.getLast?_eq_some_getLast]
      exact exec_amount hamount w ws 0 rfl rfl

/-- No word is refused but by `upgradeToETH`, which refuses them all. -/
theorem parameterReplies_transfer (hhost : s.host.Compatible sdk) (hsel : ¬ sel.IsStream)
    (hselector : s.selector = sel.bytes) :
    ∀ m ∈ s.parameterReplies sdk, m.result = if sel = .upgradeToEth then .error else .ok := by
  by_cases heth : sel = .upgradeToEth
  · subst heth
    rw [parameterReplies, init_eq_of_selector hhost hselector, if_pos rfl]
    refine forall_outputs
      (fun c => c.selectorIndex = Selector.upgradeToEth.index ∧ c.skip = 0) _ ?_ ⟨rfl, rfl⟩ ?_
    · intro m _ c hc
      rw [handleProvideParameter_upgradeToEth hc.1 hc.2]
      exact hc
    · intro m _ c hc
      rw [handleProvideParameter_upgradeToEth hc.1 hc.2]
  · have hamount : sel.IsAmount := Selector.isAmount_iff.mpr ⟨hsel, heth⟩
    rw [parameterReplies, init_eq_of_selector hhost hselector, if_neg heth]
    refine forall_outputs (fun c => c.skip = 0 ∧ c.selectorIndex = sel.index) _ ?_ ⟨rfl, rfl⟩ ?_
    · intro m _ c hc
      rw [handleProvideParameter_amount hamount hc.1 hc.2]
      exact hc
    · intro m _ c hc
      rw [handleProvideParameter_amount hamount hc.1 hc.2]

/-! ### The display -/

/-- Token information is always requested: neither address is the dummy one of the chain's token. -/
theorem finalize_transfer (hhost : s.host.Compatible sdk) (hsel : ¬ sel.IsStream)
    (hselector : s.selector = sel.bytes) :
    (s.finalize sdk).result = .ok ∧ s.infoRequested sdk = true := by
  have hzero : zeros 20 ≠ ricochetEthAddress := by decide
  rw [infoRequested, finalize, parsed_transfer hhost hsel hselector]
  cases sel with
  | callAgreement => exact absurd Selector.isStream_callAgreement hsel
  | batchCall => exact absurd Selector.isStream_batchCall hsel
  | _ =>
    simp [handleFinalize, initial, handleSentAddressLookup, handleReceiveAddressLookup,
      Context.zero, hzero]

/-- The tickers a session shows: those of the called contract, or none. -/
def transferTicker (s : Session) (ticker : SuperTokenTicker → String) : String :=
  (lookupSuperToken s.host.txContent.destination).elim "" ticker

theorem ready_transfer (hhost : s.host.Compatible sdk) (hsel : ¬ sel.IsStream)
    (hselector : s.selector = sel.bytes) :
    ∃ d, s.ready sdk =
      { initial s.host sel with
        amount := s.transferAmount sel
        contractAddressReceived := s.host.txContent.destination
        tickerSent := s.transferTicker (transferSent sel)
        tickerReceived := s.transferTicker (transferReceived sel)
        decimals := d } := by
  obtain ⟨d, hinfo⟩ := handleProvideToken_transfer sdk hsel
    (c := { initial s.host sel with amount := s.transferAmount sel }) rfl ⟨s.host.txContent, .error⟩
  refine ⟨d, ?_⟩
  rw [ready, provideInfo, if_pos (finalize_transfer hhost hsel hselector).2,
    parsed_transfer hhost hsel hselector]
  exact hinfo

theorem viewer_transfer (hhost : s.host.Compatible sdk) (hsel : ¬ sel.IsStream)
    (hselector : s.selector = sel.bytes) :
    (s.ready sdk).viewer sel =
      .transfer (transferName sel)
        (if sel = .upgradeToEth then none else some (s.words.getLast?.getD (zeros 32)))
        (s.transferTicker (transferSent sel)) (s.transferTicker (transferReceived sel)) := by
  obtain ⟨d, hready⟩ := ready_transfer hhost hsel hselector
  rw [hready]
  cases sel with
  | callAgreement => exact absurd Selector.isStream_callAgreement hsel
  | batchCall => exact absurd Selector.isStream_batchCall hsel
  | _ => rfl

end Session

end Ricochet
