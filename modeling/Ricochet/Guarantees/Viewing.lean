import Ricochet.Equiv.SessionViewer
import Ricochet.Plugin.ReferenceSdk
import Ricochet.Superfluid.Sessions

/-!
# What the user sees, whatever is asked for

Every session, with any calldata, is displayed as its `Session.viewer`, in any order of queries and
with any buffers (`Session.display_refines`).  In particular the sending screen of a stream shows
the rate times as many months' seconds as it has been asked for, and fails for good once that does
not fit (`Session.sending_screen_compounds`).  Which sessions succeed is settled for every calldata
and every host by `Session.succeeds_iff`, and what the display does not depend on by
`Session.display_determined`.
-/

namespace Ricochet

open CLib Abi Machine

namespace Session

/-! ### Any order of queries -/

/-- The sending screen of a stream with a rate, asked for after any queries, with any buffers: it
shows the rate times the seconds of a month, once more for every time it has been asked for before,
as long as that fits in 64 bits.  From then on it fails. -/
theorem sending_screen_compounds (s : Session) (sdk : EthPluginSdk) (sel : Selector)
    (hhost : s.host.Compatible sdk) (hstream : sel.IsStream) (hsel : s.selector = sel.bytes)
    (hrate : s.HasRate sel) (calls : List PluginCall) (hcalls : ∀ call ∈ calls, call.IsDisplay)
    (msg : EthQueryContractUI) (hscreen : msg.screenIndex = 0) :
    let views := (calls.filterMap Query.ofCall?).countP Query.IsSend
    let month := s.rate sel * 2592000 ^ (views + 1)
    (handleQueryContractUi sdk msg (exec (dispatchPluginCalls sdk) calls (s.ready sdk))).1 =
      if month < 2 ^ 64 then
        Viewer.screen msg "From" (Viewer.monthText sdk msg (tickerSentOf (s.receiver sel)) month)
      else { Viewer.screen msg "From" "" with result := .error } := by
  intro views month
  obtain ⟨hindex, hviewer⟩ := (viewer_simulation sdk sel).exec_rel hcalls
    ⟨index_ready hhost hsel, viewer_ready hhost hsel⟩
  have hanswer := (displayStep sdk hindex msg).answer
  -- what is displayed after the queries
  rw [hviewer, viewer, if_pos hstream, streamViewer, if_pos hrate, Viewer.exec_stream,
    Viewer.step_send hscreen, Viewer.send] at hanswer
  have hfits :
      (compound 2592000 (2 ^ 64))^[views] (s.rate sel) * 2592000 < 2 ^ 64 ↔ month < 2 ^ 64 :=
    iterate_compound_mul_lt_iff (by decide) views
  rw [PluginCall.queryContractUi.inj hanswer]
  by_cases hlt : month < 2 ^ 64
  · have hmonth : (compound 2592000 (2 ^ 64))^[views] (s.rate sel) * 2592000 = month :=
      iterate_compound_mul_of_lt (by decide) hlt
    rw [if_pos hlt, if_pos (hfits.mpr hlt), hmonth]
  · rw [if_neg hlt, if_neg (mt hfits.mp hlt)]

/-- The session of some words of calldata, in a transaction to no contract of the tables. -/
def batchCallWith (words : List Word) : Session :=
  ⟨referenceHost (zeros 20), Context.zero, batchCallSelector, words⟩

/-- The second view of a batch without a rate. -/
theorem sending_screen_compounds_zero :
    (handleQueryContractUi referenceSdk ((batchCallWith []).host.uiMsg 0)
      (exec (dispatchPluginCalls referenceSdk)
        [.queryContractUi ((batchCallWith []).host.uiMsg 0)]
          ((batchCallWith []).ready referenceSdk))).1.result = .ok := by
  have hinner : innerWords .batchCall (batchCallWith []).words = [] := by decide +kernel
  have hrate : (batchCallWith []).rate .batchCall = 0 := by
    rw [rate, hinner, window_nil]
    decide +kernel
  have h := sending_screen_compounds (batchCallWith []) referenceSdk .batchCall
    (referenceHost_compatible _) Selector.isStream_batchCall rfl (hasRate_batchCall _)
    [.queryContractUi ((batchCallWith []).host.uiMsg 0)]
    (fun call hcall => by obtain rfl := List.mem_singleton.mp hcall; trivial)
    ((batchCallWith []).host.uiMsg 0) rfl
  rw [h, hrate, Nat.zero_mul, if_pos (by decide), Viewer.screen]

/-! ### Success -/

/-- Every session, of any host, selector and calldata: all its calls return, and with `OK`, exactly
when the application is compatible, the selector is one of the six, no word is given to
`upgradeToETH`, a stream with a rate has one that fits, and `amountToString` has room for the amount
on each screen. -/
theorem succeeds_iff (s : Session) (sdk : EthPluginSdk) :
    s.Succeeds sdk ↔
      s.host.Compatible sdk ∧ ∃ sel : Selector, s.selector = sel.bytes ∧
        (sel = .upgradeToEth → s.words = []) ∧
        (sel.IsStream → s.HasRate sel → s.rate sel * 2592000 < 2 ^ 64) ∧
        ∀ i, (s.viewer sel).Returns sdk (s.host.uiMsg i) := by
  have hfits : ∀ sel : Selector, ¬ (s.viewer sel).Overflows ↔
      (sel.IsStream → s.HasRate sel → s.rate sel * 2592000 < 2 ^ 64) := by
    intro sel
    rw [overflows_viewer_iff]
    constructor
    · intro hnot hstream hrate
      exact Nat.lt_of_not_le fun hle => hnot ⟨hstream, hrate, hle⟩
    · rintro hfit ⟨hstream, hrate, hle⟩
      exact Nat.not_lt.mpr hle (hfit hstream hrate)
  constructor
  · intro hok
    have hinit : (s.init sdk).1.result = .ok :=
      hok.1 _ (by simp [results, prepareResults, parseResults])
    obtain ⟨hhost, sel, hsel⟩ := init_ok_iff.mp hinit
    obtain ⟨hwords, hfit, hreturns⟩ := (succeeds_iff_of_selector hhost hsel).mp hok
    exact ⟨hhost, sel, hsel, hwords, (hfits sel).mp hfit, hreturns⟩
  · rintro ⟨hhost, sel, hsel, hwords, hfit, hreturns⟩
    exact (succeeds_iff_of_selector hhost hsel).mpr ⟨hwords, (hfits sel).mpr hfit, hreturns⟩

/-! ### What the display depends on -/

/-- Streams whose inner calls agree in their first four words are displayed as the same. -/
theorem streamViewer_congr {s s' : Session} {sel : Selector} (hstream : sel.IsStream)
    (hlen : sel = .callAgreement → 6 ≤ s.words.length ∧ 6 ≤ s'.words.length)
    (hinner : (innerWords sel s'.words).take 4 = (innerWords sel s.words).take 4) :
    s'.streamViewer sel = s.streamViewer sel := by
  have hwindow : ∀ {p n : ℕ}, p + n ≤ 128 →
      window (innerWords sel s'.words) p n = window (innerWords sel s.words) p n := by
    intro p n hpn
    rw [← window_take_of_le (innerWords sel s'.words) (m := 4) hpn, hinner, window_take_of_le _ hpn]
  have hmethod := hwindow (p := 0) (n := 4) (by decide)
  have hrate : s'.HasRate sel ↔ s.HasRate sel := by rw [HasRate, HasRate, hmethod]
  have hreceiver : s'.receiver sel = s.receiver sel := by
    rw [receiver_eq_window hstream fun h => (hlen h).2,
      receiver_eq_window hstream fun h => (hlen h).1]
    simp only [hrate]
    exact hwindow (by split_ifs <;> decide)
  have hamount : s'.rate sel = s.rate sel := by rw [rate, rate, hwindow (by decide)]
  simp only [streamViewer, hrate, hmethod, hreceiver, hamount]

/-- Two sessions of a stream, with any other words before, between and after, on any memory: if the
four words of the inner call are the same, they are displayed as the same, in any order of queries,
and one is answered with `OK` throughout when the other is. -/
theorem display_determined (s s' : Session) (sdk : EthPluginSdk) (sel : Selector)
    (hhost : s.host.Compatible sdk) (hsame : s'.host = s.host) (hstream : sel.IsStream)
    (hsel : s.selector = sel.bytes) (hsel' : s'.selector = sel.bytes)
    (hlen : sel = .callAgreement → 6 ≤ s.words.length ∧ 6 ≤ s'.words.length)
    (hinner : (innerWords sel s'.words).take 4 = (innerWords sel s.words).take 4) :
    (∃ v, s.DisplayedAs sdk v ∧ s'.DisplayedAs sdk v) ∧ (s'.AllOk sdk ↔ s.AllOk sdk) := by
  have hhost' : s'.host.Compatible sdk := hsame ▸ hhost
  have hviewer : s'.viewer sel = s.viewer sel := by
    rw [viewer, viewer, if_pos hstream, if_pos hstream, streamViewer_congr hstream hlen hinner]
  have hne : sel ≠ .upgradeToEth := by
    rintro rfl
    exact absurd hstream (by decide)
  constructor
  · exact ⟨s.viewer sel, displayedAs_viewer hhost hsel, hviewer ▸ displayedAs_viewer hhost' hsel'⟩
  · rw [allOk_iff_of_selector hhost hsel, allOk_iff_of_selector hhost' hsel', hviewer]
    exact ⟨fun h => ⟨fun heq => absurd heq hne, h.2⟩, fun h => ⟨fun heq => absurd heq hne, h.2⟩⟩

/-- Another agreement class. -/
theorem display_determined_agreementClass :
    let words : List Word := List.replicate 7 (zeros 32)
    let s : Session :=
      ⟨referenceHost (zeros 20), Context.zero, callAgreementSelector, zeros 32 :: words⟩
    let s' : Session :=
      ⟨referenceHost (zeros 20), Context.zero, callAgreementSelector,
        Vector.replicate 32 1 :: words⟩
    s'.AllOk referenceSdk ↔ s.AllOk referenceSdk :=
  (display_determined
    ⟨referenceHost (zeros 20), Context.zero, callAgreementSelector,
      zeros 32 :: List.replicate 7 (zeros 32)⟩
    ⟨referenceHost (zeros 20), Context.zero, callAgreementSelector,
      Vector.replicate 32 1 :: List.replicate 7 (zeros 32)⟩
    referenceSdk .callAgreement (referenceHost_compatible _) rfl Selector.isStream_callAgreement rfl
    rfl (fun _ => by simp) rfl).2

end Session

end Ricochet
