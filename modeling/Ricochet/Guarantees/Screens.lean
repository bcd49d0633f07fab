import Ricochet.Equiv.SessionViewer
import Ricochet.Guarantees.Receiver

/-!
# Paging back and forth

After the token information the application may ask for the two screens in any order and any number
of times, and for the identification in between.  The screens look tickers up again and again, which
changes nothing.  But the sending screen of a stream also replaces the rate per second in the
context by the rate per month, and turns that into a rate per month of its own when it is asked
again.  So the screens are repeatable exactly when there is no such rate to replace
(`screens_repeatable_iff`).
-/

namespace Ricochet

open CLib Abi Machine

/-- What a display query may be. -/
def Host.Query (host : Host) (call : PluginCall) : Prop :=
  call = .queryContractId host.idMsg ∨ call = .queryContractUi (host.uiMsg 0) ∨
    call = .queryContractUi (host.uiMsg 1)

/-- The title, the text and the result of a screen. -/
def PluginCall.shown : PluginCall → Option (String × String × PluginResult)
  | .queryContractUi msg => some (msg.title, msg.msg, msg.result)
  | _ => none

variable {sdk : EthPluginSdk} {sel : Selector} {c : Context}

/-! ### Streams -/

/-- The sending screen replaces no rate: there is none, or it is zero, or it does not fit. -/
def KeepsRate (sel : Selector) (c : Context) : Prop :=
  ShowsRate sel c → beNat c.amount.toList * 2592000 < 2 ^ 64 → beNat c.amount.toList = 0

variable {r : Address} {msg : EthQueryContractUI}

/-- What the sending screen answers depends on the receiver, the method and the amount. -/
theorem screen0_fst_eq (hstream : sel.IsStream) {d : Context} (hc : ShowsReceiver sel r c)
    (hd : ShowsReceiver sel r d) (hid : c.methodId = d.methodId) (hamount : c.amount = d.amount)
    (hindex : msg.screenIndex = 0) :
    (handleQueryContractUi sdk msg c).1 = (handleQueryContractUi sdk msg d).1 := by
  by_cases hrate : ShowsRate sel c
  · have hrate' : ShowsRate sel d := by
      rwa [ShowsRate, hid] at hrate
    rw [screen0_of_rate hc hrate hindex, screen0_of_rate hd hrate' hindex, hamount]
    split_ifs <;> rfl
  · obtain ⟨rfl, hstop⟩ := eq_stop_of_not_showsRate hstream hrate
    rw [screen0_of_stop hc hstop hindex, screen0_of_stop hd (hid.symm.trans hstop) hindex]

/-- A sending screen with no rate to replace only writes the ticker. -/
theorem screen0_snd_eq (hstream : sel.IsStream) (hc : ShowsReceiver sel r c)
    (hkeeps : KeepsRate sel c) (hindex : msg.screenIndex = 0) :
    (handleQueryContractUi sdk msg c).2 = { c with tickerSent := tickerSentOf r } := by
  by_cases hrate : ShowsRate sel c
  · rw [screen0_of_rate hc hrate hindex]
    split_ifs with hfit
    · have hzero := hkeeps hrate hfit
      have hamount : beBytes 32 (beNat c.amount.toList * 2592000) = c.amount := by
        rw [hzero, Nat.zero_mul, ← hzero, beBytes_beNat]
      rw [hamount]
    · rfl
  · obtain ⟨rfl, hstop⟩ := eq_stop_of_not_showsRate hstream hrate
    rw [screen0_of_stop hc hstop hindex]

/-- The sending screen that replaces a rate leaves one that is a month's. -/
theorem screen0_of_showsRate (hc : ShowsReceiver sel r c) (hrate : ShowsRate sel c)
    (hindex : msg.screenIndex = 0) (hok : (handleQueryContractUi sdk msg c).1.result = .ok) :
    beNat c.amount.toList * 2592000 < 2 ^ 64 ∧
      ShowsReceiver sel r (handleQueryContractUi sdk msg c).2 ∧
      ShowsRate sel (handleQueryContractUi sdk msg c).2 ∧
      beNat (handleQueryContractUi sdk msg c).2.amount.toList =
        beNat c.amount.toList * 2592000 := by
  rw [screen0_of_rate hc hrate hindex] at hok ⊢
  by_cases hfit : beNat c.amount.toList * 2592000 < 2 ^ 64
  · rw [if_pos hfit]
    refine ⟨hfit, hc.withTickerSent _, ?_, beNat_beBytes_of_lt (hfit.trans (by decide))⟩
    simpa only [ShowsRate] using hrate
  · rw [if_neg hfit] at hok
    cases hok

/-- A rate that is shown `n` times in a row is multiplied as often. -/
theorem rate_mul_pow_lt (msg : EthQueryContractUI) (hindex : msg.screenIndex = 0) (n : ℕ)
    (hc : ShowsReceiver sel r c) (hrate : ShowsRate sel c)
    (hok : ∀ o ∈ outputs (handleQueryContractUi sdk) (List.replicate (n + 1) msg) c,
      o.result = .ok) :
    beNat c.amount.toList * 2592000 ^ (n + 1) < 2 ^ 64 := by
  induction n generalizing c with
  | zero =>
    rw [pow_one]
    exact (screen0_of_showsRate hc hrate hindex (hok _ List.mem_cons_self)).1
  | succ n ih =>
    obtain ⟨-, hc', hrate', hamount⟩ :=
      screen0_of_showsRate hc hrate hindex (hok _ List.mem_cons_self)
    have hrest := ih hc' hrate' fun o ho => hok o (List.mem_cons_of_mem _ ho)
    rwa [hamount, Nat.mul_assoc, ← pow_succ'] at hrest

/-! ### The whole navigation -/

/-- Two answers of one navigation to the same query show the same. -/
def Session.ScreensRepeatable (s : Session) (sdk : EthPluginSdk) : Prop :=
  Repeatable (dispatchPluginCalls sdk) s.host.Query Eq PluginCall.shown (s.ready sdk)

theorem repeatable_of_not_isStream (hstream : ¬ sel.IsStream) (host : Host)
    (hindex : c.selectorIndex = sel.index) :
    Repeatable (dispatchPluginCalls sdk) host.Query Eq PluginCall.shown c := by
  refine Repeatable.of_invariant (fun t => t = c) ?_ ?_ rfl
  · rintro i (rfl | rfl | rfl) t rfl
    · rfl
    · exact handleQueryContractUi_transfer sdk hstream hindex _
    · exact handleQueryContractUi_transfer sdk hstream hindex _
  · rintro i j - - rfl t u rfl rfl
    rfl

theorem repeatable_of_keepsRate (hstream : sel.IsStream) (host : Host)
    (hc : ShowsReceiver sel r c) (hkeeps : KeepsRate sel c) :
    Repeatable (dispatchPluginCalls sdk) host.Query Eq PluginCall.shown c := by
  -- the queries change the tickers at most, and the answers do not depend on those
  refine Repeatable.of_invariant
    (fun t => ShowsReceiver sel r t ∧ t.methodId = c.methodId ∧ t.amount = c.amount)
    ?_ ?_ ⟨hc, rfl, rfl⟩
  · rintro i (rfl | rfl | rfl) t ⟨ht, hid, hamount⟩
    · exact ⟨ht, hid, hamount⟩
    · have hkeeps' : KeepsRate sel t := by
        rwa [KeepsRate, ShowsRate, hid, hamount]
      simp only [dispatchPluginCalls]
      rw [screen0_snd_eq hstream ht hkeeps' rfl]
      exact ⟨ht.withTickerSent t.amount, hid, hamount⟩
    · simp only [dispatchPluginCalls]
      rw [screen1_of_receiver ht hstream rfl]
      exact ⟨ht.withTickerReceived, hid, hamount⟩
  · rintro i j (rfl | rfl | rfl) - rfl t u ⟨ht, hid, hamount⟩ ⟨hu, hid', hamount'⟩
    · rfl
    · simp only [dispatchPluginCalls]
      rw [screen0_fst_eq hstream ht hu (hid.trans hid'.symm) (hamount.trans hamount'.symm) rfl]
    · simp only [dispatchPluginCalls]
      rw [screen1_of_receiver ht hstream rfl, screen1_of_receiver hu hstream rfl]

/-- The answers to a screen asked for again and again are entries of the trace. -/
theorem mem_trace_of_mem_outputs (msg : EthQueryContractUI) (n : ℕ) {o : EthQueryContractUI}
    (ho : o ∈ outputs (handleQueryContractUi sdk) (List.replicate n msg) c) :
    (PluginCall.queryContractUi msg, PluginCall.queryContractUi o) ∈
      trace (dispatchPluginCalls sdk) (List.replicate n (.queryContractUi msg)) c := by
  induction n generalizing c with
  | zero => exact absurd ho List.not_mem_nil
  | succ n ih =>
    rw [List.replicate_succ, outputs_cons] at ho
    rcases List.mem_cons.mp ho with rfl | ho
    · exact List.mem_cons_self
    · exact List.mem_cons_of_mem _ (ih ho)

/-- Four views of a rate other than zero cannot all be `OK`, so one differs from the first. -/
theorem not_repeatable_of_rate (host : Host) (hc : ShowsReceiver sel r c) (hrate : ShowsRate sel c)
    (hpos : 0 < beNat c.amount.toList) (hfit : beNat c.amount.toList * 2592000 < 2 ^ 64) :
    ¬ Repeatable (dispatchPluginCalls sdk) host.Query Eq PluginCall.shown c := by
  intro hrepeat
  have hfirst : (handleQueryContractUi sdk (host.uiMsg 0) c).1.result = .ok := by
    rw [screen0_of_rate hc hrate rfl, if_pos hfit]
  have hok : ∀ o ∈ outputs (handleQueryContractUi sdk) (List.replicate 4 (host.uiMsg 0)) c,
      o.result = .ok := by
    intro o ho
    have hquery : ∀ i ∈ List.replicate 4 (PluginCall.queryContractUi (host.uiMsg 0)),
        host.Query i := fun i hi => Or.inr (Or.inl (List.eq_of_mem_replicate hi))
    have hsame := hrepeat _ hquery _ (mem_trace_of_mem_outputs (host.uiMsg 0) 4 ho) _
      (mem_trace_of_mem_outputs (host.uiMsg 0) 4 List.mem_cons_self) rfl
    have hresult := congrArg (fun o => o.2.2) (Option.some.inj hsame)
    exact hresult.trans hfirst
  -- `2592000 ^ 4` alone does not fit in 64 bits
  have hlt := rate_mul_pow_lt (host.uiMsg 0) rfl 3 hc hrate hok
  omega

namespace Session

/-- The screens of a session are repeatable unless it has a rate to show, other than zero and small
enough to be shown. -/
theorem screens_repeatable_iff (s : Session) (sdk : EthPluginSdk) (sel : Selector)
    (hhost : s.host.Compatible sdk) (hsel : s.selector = sel.bytes) :
    s.ScreensRepeatable sdk ↔
      ¬ (sel.IsStream ∧ s.HasRate sel ∧ 0 < s.rate sel ∧ s.rate sel * 2592000 < 2 ^ 64) := by
  by_cases hstream : sel.IsStream
  · obtain ⟨t, t', -, hshows⟩ := exists_ready_eq hhost hstream hsel
    have hrate := showsRate_ready_iff hhost hstream hsel
    have hamount := amount_ready hhost hstream hsel
    constructor
    · rintro hrepeat ⟨-, hhas, hpos, hfit⟩
      rw [← hamount] at hpos hfit
      exact not_repeatable_of_rate s.host hshows (hrate.mpr hhas) hpos hfit hrepeat
    · intro hnot
      refine repeatable_of_keepsRate hstream s.host hshows fun hhas hfit => ?_
      rw [hamount] at hfit ⊢
      by_contra hne
      exact hnot ⟨hstream, hrate.mp hhas, Nat.pos_of_ne_zero hne, hfit⟩
  · exact iff_of_true (repeatable_of_not_isStream hstream s.host (index_ready hhost hsel))
      fun h => hstream h.1

/-- A stopped stream has no rate to show. -/
theorem screens_repeatable_stop :
    (startSession (.deleteFlow (zeros 20) (zeros 20) (zeros 20) [])).ScreensRepeatable
      referenceSdk :=
  (screens_repeatable_iff _ referenceSdk .callAgreement (referenceHost_compatible _) rfl).mpr
    fun h => absurd ((presents_startSession _).hasRate_iff.mp h.2.1) (by decide)

/-- A rate of one unit per second, and the sending screen looked at twice. -/
theorem screens_not_repeatable_start :
    let s := startSession (startAsDai 0 1)
    (s.screen0 referenceSdk).1.msg = "DAIx 0.000000000002592 per month" ∧
      (handleQueryContractUi referenceSdk (s.host.uiMsg 0) (s.screen0 referenceSdk).2).1.msg =
        "DAIx 0.000006718464 per month" ∧
      ¬ s.ScreensRepeatable referenceSdk := by
  intro s
  have hs : Presents s .callAgreement (startAsDai 0 1) := presents_startSession (startAsDai 0 1)
  have hhost : s.host.Compatible referenceSdk := referenceHost_compatible _
  have hrate : s.rate .callAgreement = 1 := hs.rate rfl (by decide)
  have hhas : s.HasRate .callAgreement := hs.hasRate_iff.mpr rfl
  have hticker : tickerSentOf (receiverOf .callAgreement (s.parsed referenceSdk)) = "DAIx " := by
    rw [hs.receiver hhost]
    decide
  obtain ⟨u, u', -, hshows⟩ := exists_ready_eq hhost hs.isStream hs.selector
  have hshowsRate := (showsRate_ready_iff hhost hs.isStream hs.selector).mpr hhas
  have hamount : beNat (s.ready referenceSdk).amount.toList = 1 :=
    (amount_ready hhost hs.isStream hs.selector).trans hrate
  have hfirst : s.screen0 referenceSdk = _ :=
    screen0_of_hasRate hhost hs.isStream hs.selector hhas
  rw [hrate, if_pos (by decide), hticker] at hfirst
  obtain ⟨-, hshows', hshowsRate', hamount'⟩ :=
    screen0_of_showsRate hshows hshowsRate rfl (congrArg (fun x => x.1.result) hfirst)
  rw [hamount, Nat.one_mul] at hamount'
  refine ⟨?_, ?_, not_repeatable_of_rate s.host hshows hshowsRate (by rw [hamount]; decide)
    (by rw [hamount]; decide)⟩
  · rw [hfirst]
    decide +kernel
  · have hsecond : handleQueryContractUi referenceSdk (s.host.uiMsg 0)
        (handleQueryContractUi referenceSdk (s.host.uiMsg 0) (s.ready referenceSdk)).2 = _ :=
      screen0_of_rate hshows' hshowsRate' rfl
    rw [hamount', if_pos (by decide), hticker] at hsecond
    rw [screen0, hsecond]
    decide +kernel

end Session

end Ricochet
