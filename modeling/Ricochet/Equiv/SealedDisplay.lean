import Ricochet.Equiv.PluginState
import Ricochet.Equiv.SessionViewer

/-!
# A display that is sealed

Once a stream has been parsed to its end, nothing but a new start of the plugin changes what it is
displayed as: words of the arguments are ignored, token information finds the tickers that the
screens find (`Sealed.provideToken`), and the queries answer as the viewer does.
`sealed_simulation` puts the calls together.
-/

namespace Ricochet

open CLib Machine

variable {sdk : EthPluginSdk} {sel : Selector} {c : Context}

/-- An `INIT` that passes the checks. -/
def PluginCall.Restarts (sdk : EthPluginSdk) : PluginCall → Prop
  | .initContract msg => msg.Accepts sdk
  | _ => False

instance (sdk : EthPluginSdk) : DecidablePred (PluginCall.Restarts sdk) := fun call =>
  match call with
  | .initContract msg => inferInstanceAs (Decidable (msg.Accepts sdk))
  | .provideParameter _ | .finalize _ | .provideInfo _ | .queryContractId _ | .queryContractUi _ =>
    .isFalse id

/-- A stream parsed to its end, with the tickers of its receiver on the screens. -/
structure Sealed (sel : Selector) (c : Context) : Prop where
  isStream : sel.IsStream
  parser : ParserInvariant sel c
  nextParam : c.nextParam = .none
  shows : ShowsReceiver sel (receiverOf sel c) c

namespace Sealed

/-- What the other handlers may write to a ticker does not change what its screen finds. -/
theorem sentTicker_of_writes {t : String} (ht : t = c.tickerSent ∨ t = c.sentTicker) :
    (lookupContract c.contractAddressReceived).elim t (·.tickerSent) = c.sentTicker := by
  rcases ht with rfl | rfl
  · rfl
  · rw [Context.sentTicker]
    cases lookupContract c.contractAddressReceived <;> rfl

theorem receivedTicker_of_writes {t : String} (ht : t = c.tickerReceived ∨ t = c.receivedTicker) :
    (lookupContract c.contractAddressReceived).elim t (·.tickerReceived) = c.receivedTicker := by
  rcases ht with rfl | rfl
  · rfl
  · rw [Context.receivedTicker]
    cases lookupContract c.contractAddressReceived <;> rfl

/-- Writing the amount and such tickers breaks no seal. -/
theorem of_writes (h : Sealed sel c) (amount : Buffer 32) {t t' : String}
    (ht : t = c.tickerSent ∨ t = c.sentTicker)
    (ht' : t' = c.tickerReceived ∨ t' = c.receivedTicker) :
    Sealed sel { c with amount := amount, tickerSent := t, tickerReceived := t' } where
  isStream := h.isStream
  parser := h.parser.withDisplay amount c.contractAddressReceived t t' c.decimals
  nextParam := h.nextParam
  shows := {
    selectorIndex := h.shows.selectorIndex
    tickerSent := (sentTicker_of_writes ht).trans h.shows.tickerSent
    tickerReceived := (receivedTicker_of_writes ht').trans h.shows.tickerReceived }

/-- A lookup writes nothing, or what it finds. -/
theorem elim_eq_or {α β : Type*} (o : Option α) (t t' : β) (f : α → β) :
    o.elim t f = t ∨ o.elim t f = o.elim t' f := by
  cases o with
  | none => exact Or.inl rfl
  | some a => exact Or.inr rfl

/-- Token information writes tickers that the screens would find anyway. -/
theorem provideToken (h : Sealed sel c) (msg : EthPluginProvideInfo) :
    Sealed sel (handleProvideToken sdk msg c).2 ∧
      (handleProvideToken sdk msg c).2.viewer sel = c.viewer sel := by
  rcases h.isStream with rfl | rfl
  · have hid : c.methodId = startStream ∨ c.methodId = updateStream ∨ c.methodId = stopStream := by
      simpa using h.parser.methodId
    have hcfa : (handleProvideToken sdk msg c).2 = handleCfaTokens sdk c := by
      rw [handleProvideToken, ofIndex?_of_eq h.shows.selectorIndex]
    have hsent : (lookupContract (callAgreementReceiver c)).elim c.tickerSent (·.tickerSent) =
          c.tickerSent ∨
        (lookupContract (callAgreementReceiver c)).elim c.tickerSent (·.tickerSent) =
          c.sentTicker := by
      have hshows : c.sentTicker = tickerSentOf (callAgreementReceiver c) := h.shows.tickerSent
      rw [hshows]
      exact elim_eq_or _ _ _ _
    have hreceived : (lookupContract (callAgreementReceiver c)).elim c.tickerReceived
          (·.tickerReceived) = c.tickerReceived ∨
        (lookupContract (callAgreementReceiver c)).elim c.tickerReceived (·.tickerReceived) =
          c.receivedTicker := by
      have hshows : c.receivedTicker = tickerReceivedOf (callAgreementReceiver c) :=
        h.shows.tickerReceived
      rw [hshows]
      exact elim_eq_or _ _ _ _
    rw [hcfa, handleCfaTokens_eq c hid]
    -- written or not, the screens look the received contract up again
    exact ⟨h.of_writes c.amount hsent hreceived, viewer_stream_congr (Or.inl rfl) rfl rfl
      (sentTicker_of_writes hsent) (receivedTicker_of_writes hreceived) rfl⟩
  · -- for a batch there is no token information
    have hsame : (handleProvideToken sdk msg c).2 = c := by
      rw [handleProvideToken, ofIndex?_of_eq h.shows.selectorIndex]
    rw [hsame]
    exact ⟨h, rfl⟩

theorem queryContractUi (h : Sealed sel c) (msg : EthQueryContractUI) :
    Sealed sel (handleQueryContractUi sdk msg c).2 := by
  obtain ⟨a, t, t', hwrites, ht, ht'⟩ := (displayStep sdk h.shows.selectorIndex msg).writes
  rw [hwrites]
  exact h.of_writes a ht ht'

end Sealed

/-- Whatever is called but a new start, the display is that of the viewer. -/
theorem sealed_simulation (sdk : EthPluginSdk) (sel : Selector) :
    Simulation (fun call => ¬ call.Restarts sdk) (fun c v => Sealed sel c ∧ c.viewer sel = v)
      Query.ofCall? id (dispatchPluginCalls sdk) (Viewer.step sdk) := by
  constructor
  · rintro call hcall q hq c v ⟨h, rfl⟩
    cases call with
    | queryContractId msg =>
      obtain rfl := Option.some.inj hq
      exact congrArg PluginCall.queryContractId (handleQueryContractId_eq h.shows.selectorIndex msg)
    | queryContractUi msg =>
      obtain rfl := Option.some.inj hq
      exact (displayStep sdk h.shows.selectorIndex msg).answer
    | _ => cases hq
  · rintro call hcall q hq c v ⟨h, rfl⟩
    cases call with
    | queryContractId msg =>
      obtain rfl := Option.some.inj hq
      exact ⟨h, rfl⟩
    | queryContractUi msg =>
      obtain rfl := Option.some.inj hq
      exact ⟨h.queryContractUi msg, (displayStep sdk h.shows.selectorIndex msg).next⟩
    | _ => cases hq
  · rintro call hcall hnone c v ⟨h, rfl⟩
    cases call with
    | initContract msg =>
      rw [dispatchPluginCalls]
      rw [handleInitContract_of_not_accepts sdk hcall]
      exact ⟨h, rfl⟩
    | provideParameter msg =>
      rw [dispatchPluginCalls, h.parser.step_of_none h.nextParam]
      exact ⟨h, rfl⟩
    | finalize msg => exact ⟨h, rfl⟩
    | provideInfo msg => exact h.provideToken msg
    | queryContractId msg => cases hnone
    | queryContractUi msg => cases hnone

/-- A session of a stream parsed to its end. -/
theorem Session.sealed_ready {s : Session} (hhost : s.host.Compatible sdk) (hstream : sel.IsStream)
    (hsel : s.selector = sel.bytes) (hnone : (s.parsed sdk).nextParam = .none) :
    Sealed sel (s.ready sdk) := by
  obtain ⟨t, t', hready, hshows⟩ := exists_ready_eq hhost hstream hsel
  have hparser : ParserInvariant sel (s.parsed sdk) := by
    rw [parsed, init_eq_of_selector hhost hsel]
    exact parserInvariant_exec s.host sel _
  rw [hready] at hshows ⊢
  refine ⟨hstream, ?_, hnone, hshows⟩
  exact hparser.withDisplay (s.parsed sdk).amount (s.parsed sdk).contractAddressReceived t t'
    (s.parsed sdk).decimals

end Ricochet
