import Ricochet.Equiv.TransferSession

/-!
# What a session is displayed as, from its calldata

`Session.viewer` is what a session of a selector is displayed as, in terms of the calldata, the
called contract and the value sent along: `viewer_ready` says that it is what the context is
displayed as when the display begins.  So the two screens and the version are known
(`screen0_viewer`, `screen1_viewer`, `contractId_viewer`), and with them which sessions succeed
(`succeeds_iff_of_selector`).
-/

namespace Ricochet

open CLib Abi Machine

namespace Session

variable {s : Session} {sdk : EthPluginSdk} {sel : Selector}

/-! ### Streams -/

/-- What a stream is displayed as. -/
def streamViewer (s : Session) (sel : Selector) : Viewer :=
  if s.HasRate sel then
    .stream (sel = .batchCall) (methodNameOf (window (innerWords sel s.words) 0 4))
      (tickerSentOf (s.receiver sel)) (tickerReceivedOf (s.receiver sel)) (s.rate sel)
  else
    .stop (methodNameOf (window (innerWords sel s.words) 0 4))
      (tickerSentOf (s.receiver sel)) (tickerReceivedOf (s.receiver sel))

theorem viewer_stream (hhost : s.host.Compatible sdk) (hstream : sel.IsStream)
    (hsel : s.selector = sel.bytes) : (s.ready sdk).viewer sel = s.streamViewer sel := by
  have h := streamParsed hhost hstream hsel
  obtain ⟨t, t', hready, hshows⟩ := exists_ready_eq hhost hstream hsel
  rw [receiverOf_eq hhost hstream hsel] at hshows
  have hcfa : (s.ready sdk).methodCfa = window (innerWords sel s.words) 0 4 := by
    rw [hready]
    exact h.methodCfa
  have hshown := showsRate_ready_iff hhost hstream hsel
  rw [streamViewer]
  -- both sides split on the method, the context's by its identifier
  by_cases hrate : s.HasRate sel
  · rw [if_pos hrate, viewer_of_rate (hshown.mpr hrate), hcfa, hshows.tickerSent,
      hshows.tickerReceived, amount_ready hhost hstream hsel]
  · obtain ⟨rfl, hstop⟩ := eq_stop_of_not_showsRate hstream (mt hshown.mp hrate)
    rw [if_neg hrate, viewer_of_stop hstop, hcfa, hshows.tickerSent, hshows.tickerReceived]

/-! ### All selectors -/

/-- What a session without a stream is displayed as. -/
def transferViewer (s : Session) (sel : Selector) : Viewer :=
  .transfer (transferName sel)
    (if sel = .upgradeToEth then none else some (s.words.getLast?.getD (zeros 32)))
    (s.transferTicker (transferSent sel)) (s.transferTicker (transferReceived sel))

/-- What a session is displayed as. -/
def viewer (s : Session) (sel : Selector) : Viewer :=
  if sel.IsStream then s.streamViewer sel else s.transferViewer sel

theorem viewer_ready (hhost : s.host.Compatible sdk) (hsel : s.selector = sel.bytes) :
    (s.ready sdk).viewer sel = s.viewer sel := by
  rw [viewer]
  split_ifs with hstream
  · exact viewer_stream hhost hstream hsel
  · exact viewer_transfer hhost hstream hsel

theorem index_ready (hhost : s.host.Compatible sdk) (hsel : s.selector = sel.bytes) :
    (s.ready sdk).selectorIndex = sel.index := by
  by_cases hstream : sel.IsStream
  · obtain ⟨t, t', -, hshows⟩ := exists_ready_eq hhost hstream hsel
    exact hshows.selectorIndex
  · obtain ⟨d, hready⟩ := ready_transfer hhost hstream hsel
    rw [hready]
    rfl

/-- The session is displayed as `v`, in whatever order the display is asked. -/
def DisplayedAs (s : Session) (sdk : EthPluginSdk) (v : Viewer) : Prop :=
  (s.ready sdk).DisplayedAs sdk v

theorem displayedAs_viewer (hhost : s.host.Compatible sdk) (hsel : s.selector = sel.bytes) :
    s.DisplayedAs sdk (s.viewer sel) := by
  rw [DisplayedAs, ← viewer_ready hhost hsel]
  exact Context.displayedAs_viewer sdk (index_ready hhost hsel)

theorem contractId_viewer (hhost : s.host.Compatible sdk) (hsel : s.selector = sel.bytes) :
    .queryContractId (s.contractId sdk) =
      (Viewer.step sdk (.contractId s.host.idMsg) (s.viewer sel)).1 := by
  rw [contractId, handleQueryContractId_eq (index_ready hhost hsel), viewer_ready hhost hsel,
    Viewer.step]

/-- The first view of the sending screen. -/
theorem screen0_viewer (hhost : s.host.Compatible sdk) (hsel : s.selector = sel.bytes) :
    (s.screen0 sdk).1 = (s.viewer sel).send sdk (s.host.uiMsg 0) := by
  have hanswer := (displayStep sdk (index_ready hhost hsel) (s.host.uiMsg 0)).answer
  rw [viewer_ready hhost hsel, Viewer.step_send rfl] at hanswer
  exact PluginCall.queryContractUi.inj hanswer

/-- What is displayed after it. -/
theorem viewer_screen0 (hhost : s.host.Compatible sdk) (hsel : s.selector = sel.bytes) :
    (s.screen0 sdk).2.selectorIndex = sel.index ∧
      (s.screen0 sdk).2.viewer sel = (s.viewer sel).sent := by
  have hstep := displayStep sdk (index_ready hhost hsel) (s.host.uiMsg 0)
  have hnext := hstep.next
  rw [viewer_ready hhost hsel, Viewer.step_send rfl] at hnext
  obtain ⟨a, t, t', hwrites, -⟩ := hstep.writes
  exact ⟨(congrArg Context.selectorIndex hwrites).trans (index_ready hhost hsel), hnext⟩

/-- The first view of the receiving screen, after it. -/
theorem screen1_viewer (hhost : s.host.Compatible sdk) (hsel : s.selector = sel.bytes) :
    (s.screen1 sdk).1 = (s.viewer sel).receive sdk (s.host.uiMsg 1) := by
  obtain ⟨hindex, hviewer⟩ := viewer_screen0 hhost hsel
  have hanswer := (displayStep sdk hindex (s.host.uiMsg 1)).answer
  rw [hviewer, Viewer.step_receive (show (1 : UInt8) ≠ 0 by decide) rfl,
    Viewer.receive_sent] at hanswer
  exact PluginCall.queryContractUi.inj hanswer

/-! ### Success -/

theorem overflows_viewer_iff (s : Session) (sel : Selector) :
    (s.viewer sel).Overflows ↔
      sel.IsStream ∧ s.HasRate sel ∧ 2 ^ 64 ≤ s.rate sel * 2592000 := by
  rw [viewer]
  by_cases hstream : sel.IsStream
  · rw [if_pos hstream, streamViewer]
    by_cases hrate : s.HasRate sel
    · rw [if_pos hrate]
      simp only [Viewer.Overflows, hstream, hrate, true_and]
    · rw [if_neg hrate]
      simp only [Viewer.Overflows, hrate, false_and, and_false]
  · rw [if_neg hstream, transferViewer]
    simp only [Viewer.Overflows, hstream, false_and]

/-- The words of a session are all accepted, but those given to `upgradeToETH`. -/
theorem parameterReplies_ok_iff (hhost : s.host.Compatible sdk) (hsel : s.selector = sel.bytes) :
    (∀ m ∈ s.parameterReplies sdk, m.result = .ok) ↔ (sel = .upgradeToEth → s.words = []) := by
  by_cases hstream : sel.IsStream
  · have hne : sel ≠ .upgradeToEth := by
      rintro rfl
      exact absurd hstream (by decide)
    exact iff_of_true (forall_parameterReplies_ok hhost hstream hsel) fun h => absurd h hne
  have hall := parameterReplies_transfer hhost hstream hsel
  constructor
  · rintro hok rfl
    rw [if_pos rfl] at hall
    cases hwords : s.words with
    | nil => rfl
    | cons w ws =>
      -- the first word has been refused
      have hmem : (handleProvideParameter sdk (parameterMsg 0 w) (s.init sdk).2).1 ∈
          s.parameterReplies sdk := by
        rw [parameterReplies, hwords, numbered_cons, outputs_cons]
        exact List.mem_cons_self
      have hresult := (hall _ hmem).symm.trans (hok _ hmem)
      cases hresult
  · intro hwords m hm
    rw [hall m hm]
    by_cases heth : sel = .upgradeToEth
    · rw [parameterReplies, hwords heth, numbered_nil, outputs_nil] at hm
      exact absurd hm List.not_mem_nil
    · rw [if_neg heth]

theorem finalize_ok_of_selector (hhost : s.host.Compatible sdk) (hsel : s.selector = sel.bytes) :
    (s.finalize sdk).result = .ok := by
  by_cases hstream : sel.IsStream
  · exact finalize_ok hhost hstream hsel
  · exact (finalize_transfer hhost hstream hsel).1

/-- Every session of a selector: a call fails by a word given to `upgradeToETH`, or by a rate that
does not fit, and by nothing else. -/
theorem allOk_iff_of_selector (hhost : s.host.Compatible sdk) (hsel : s.selector = sel.bytes) :
    s.AllOk sdk ↔ (sel = .upgradeToEth → s.words = []) ∧ ¬ (s.viewer sel).Overflows := by
  have hinit : (s.init sdk).1.result = .ok := by rw [init_eq_of_selector hhost hsel]
  have hfinal := finalize_ok_of_selector hhost hsel
  have hid : (s.contractId sdk).result = .ok := by
    rw [contractId, handleQueryContractId_eq (index_ready hhost hsel)]
  have hscreen0 : (s.screen0 sdk).1.result = if (s.viewer sel).Overflows then .error else .ok := by
    rw [screen0_viewer hhost hsel, Viewer.result_send]
  have hscreen1 : (s.screen1 sdk).1.result = .ok := by
    rw [screen1_viewer hhost hsel, Viewer.result_receive]
  rw [← parameterReplies_ok_iff hhost hsel]
  constructor
  · intro hok
    refine ⟨fun m hm => hok _ ?_, fun hover => ?_⟩
    · simp only [results, prepareResults, parseResults, List.mem_append, List.mem_cons]
      exact Or.inl (Or.inl (Or.inl (Or.inr (List.mem_map_of_mem hm))))
    · have hresult := hok (s.screen0 sdk).1.result (by simp [results])
      rw [hscreen0, if_pos hover] at hresult
      cases hresult
  · rintro ⟨hparams, hfit⟩ r hr
    rw [if_neg hfit] at hscreen0
    simp only [results, List.mem_append, List.mem_cons, List.not_mem_nil, or_false] at hr
    rcases hr with hr | rfl | rfl | rfl
    · exact prepareResults_ok hinit hparams hfinal r hr
    · exact hid
    · exact hscreen0
    · exact hscreen1

/-- The screens are written when there is room for the amounts on those of the viewer. -/
theorem returns_iff_of_selector (hhost : s.host.Compatible sdk) (hsel : s.selector = sel.bytes) :
    s.Returns sdk ↔ ∀ i, (s.viewer sel).Returns sdk (s.host.uiMsg i) := by
  obtain ⟨hindex, hviewer⟩ := viewer_screen0 hhost hsel
  have h0 : uiReturns sdk (s.host.uiMsg 0) (s.ready sdk) = true ↔
      (s.viewer sel).Returns sdk (s.host.uiMsg 0) := by
    rw [uiReturns_iff (index_ready hhost hsel), viewer_ready hhost hsel]
  have h1 : uiReturns sdk (s.host.uiMsg 1) (s.screen0 sdk).2 = true ↔
      (s.viewer sel).Returns sdk (s.host.uiMsg 1) := by
    rw [uiReturns_iff hindex, hviewer, Viewer.returns_sent (show (1 : UInt8) ≠ 0 by decide)]
  rw [Returns, h0, h1]
  constructor
  · rintro ⟨hsend, hreceive⟩ i
    by_cases hi0 : i = 0
    · exact hi0 ▸ hsend
    by_cases hi1 : i = 1
    · exact hi1 ▸ hreceive
    · exact Viewer.returns_of_outOfRange hi0 hi1 _
  · intro hall
    exact ⟨hall 0, hall 1⟩

theorem succeeds_iff_of_selector (hhost : s.host.Compatible sdk) (hsel : s.selector = sel.bytes) :
    s.Succeeds sdk ↔ (sel = .upgradeToEth → s.words = []) ∧ ¬ (s.viewer sel).Overflows ∧
      ∀ i, (s.viewer sel).Returns sdk (s.host.uiMsg i) := by
  rw [Succeeds, allOk_iff_of_selector hhost hsel, returns_iff_of_selector hhost hsel, and_assoc]

end Session

end Ricochet
