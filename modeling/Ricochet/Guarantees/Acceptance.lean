import Ricochet.Guarantees.Finalize

/-!
# What the parsers accept

Calldata of any words, well formed or not, that is short enough for no offset to wrap around.  The
parser of `callAgreement` ends when eight words have come; the parser of `batchCall` follows the
last entry of the table of offsets, forwards only, and ends when the entry is a whole number of
words and enough of them follow (`accepts_iff`).
-/

namespace Ricochet

open CLib Abi

/-! ### The jumps of `batchCall` -/

/-- The parser jumps from the word after the number of operations to the last entry of the table. -/
theorem nextWord_last_entry {n : ℕ} (hn : 1 ≤ n) (hlt : n < 2 ^ 16) :
    nextWord 2 (32 + 32 * n) = some (n + 1) := by
  rw [nextWord, if_pos (by omega), Option.some.injEq]
  omega

/-- Without operations the entry would be the number itself, which has gone by. -/
theorem nextWord_no_entry : nextWord 2 (32 + 32 * 0) = some (2 ^ 27 + 1) := by
  rw [nextWord, if_pos (by decide), Option.some.injEq]
  norm_num

/-- Where the parser lands in calldata of that size: on the word the last entry of the table points
to, unless the entry is not a number of words, or points back into the table. -/
theorem landing_eq_some_iff {ws : List Word} {e : ℕ} (he : e < 2 ^ 26) :
    landing ws = some e ↔
      1 ≤ low16 (wordAt ws 1) ∧
      low16 (wordAt ws (low16 (wordAt ws 1) + 1)) % 32 = 0 ∧
      32 * low16 (wordAt ws 1) ≤ low16 (wordAt ws (low16 (wordAt ws 1) + 1)) ∧
      e = low16 (wordAt ws (low16 (wordAt ws 1) + 1)) / 32 + 2 := by
  have hn := low16_lt (wordAt ws 1)
  by_cases hpos : 1 ≤ low16 (wordAt ws 1)
  · have ho := low16_lt (wordAt ws (low16 (wordAt ws 1) + 1))
    rw [landing_eq_nextWord (nextWord_last_entry hpos hn)]
    generalize low16 (wordAt ws (low16 (wordAt ws 1) + 1)) = o at ho ⊢
    generalize low16 (wordAt ws 1) = n at hn hpos ⊢
    unfold nextWord
    split_ifs with hdvd
    · -- a jump back would go once around the offsets of `uint32_t`
      rw [Option.some.injEq]
      omega
    · refine iff_of_false (by simp) ?_
      rintro ⟨-, hword, -⟩
      omega
  · have hzero : low16 (wordAt ws 1) = 0 := by omega
    refine iff_of_false ?_ fun h => hpos h.1
    intro hland
    have hfirst := nextWord_no_entry
    rw [← hzero] at hfirst
    rw [landing_eq_nextWord hfirst] at hland
    have hle := le_of_nextWord_eq_some hland
    omega

/-! ### The fields -/

/-- What `callAgreement` keeps of calldata it has read to the end: the bytes from word 4 on, four
bytes off the word boundaries, whatever the other words are. -/
structure KeepsCallAgreement (ws : List Word) (c : Context) : Prop where
  methodCfa : c.methodCfa = window ws (32 * 4) 4
  tokenAddress : c.tokenAddress = window ws (32 * 4 + 16) 20
  contractAddressSent : c.contractAddressSent = window ws (32 * 5 + 16) 20
  amount : c.amount = window ws (32 * 6 + 4) 32
  contractAddressReceived :
    c.contractAddressReceived =
      if c.methodId = stopStream then window ws (32 * 6 + 16) 20 else zeros 20

/-- What `batchCall` keeps of calldata whose last operation starts at word `e`. -/
structure KeepsBatchCall (ws : List Word) (e : ℕ) (c : Context) : Prop where
  methodCfa : c.methodCfa = window ws (32 * (e + 7)) 4
  contractAddressSent : c.contractAddressSent = window ws (32 * (e + 7) + 16) 20
  contractAddressReceived : c.contractAddressReceived = window ws (32 * (e + 8) + 16) 20
  amount : c.amount = window ws (32 * (e + 9) + 4) 32

namespace Session

variable {s : Session} {sdk : EthPluginSdk}

theorem keepsCallAgreement (hhost : s.host.Compatible sdk)
    (hsel : s.selector = callAgreementSelector) (hlen : 8 ≤ s.words.length) :
    KeepsCallAgreement s.words (s.parsed sdk) := by
  have h := parsed_callAgreement hhost hsel
  have hwords : ¬ s.words.length ≤ 5 := by omega
  refine ⟨h.methodCfa, h.tokenAddress, ?_, h.amount, ?_⟩
  · rw [h.contractAddressSent, if_neg hwords]
  · rw [h.contractAddressReceived, h.methodId]

theorem keepsBatchCall (hhost : s.host.Compatible sdk) (hsel : s.selector = batchCallSelector)
    {e : ℕ} (hland : landing s.words = some e) : KeepsBatchCall s.words e (s.parsed sdk) := by
  have h := parsed_batchCall hhost hsel
  have hinner : batchCallInner s.words = s.words.drop (e + 7) := batchCallInner_of_landing hland
  refine ⟨?_, ?_, ?_, ?_⟩
  · rw [h.methodCfa, hinner, window_drop, Nat.add_zero]
  · rw [h.contractAddressSent, hinner, window_drop]
  · rw [h.contractAddressReceived, hinner, window_drop]
    congr 1
  · rw [h.amount, hinner, window_drop]
    congr 1

/-- Any list of words, of a size whose offsets do not wrap around. -/
theorem accepts_iff (s : Session) (sdk : EthPluginSdk) (hhost : s.host.Compatible sdk)
    (hwords : s.words.length < 2 ^ 26) :
    (s.selector = callAgreementSelector →
      ((s.parsed sdk).nextParam = .none ↔ 8 ≤ s.words.length) ∧
      ((s.parsed sdk).nextParam = .none → KeepsCallAgreement s.words (s.parsed sdk))) ∧
    (s.selector = batchCallSelector →
      let n := low16 (wordAt s.words 1)
      let o := low16 (wordAt s.words (n + 1))
      ((s.parsed sdk).nextParam = .none ↔
        1 ≤ n ∧ n + 1 < s.words.length ∧ o % 32 = 0 ∧ 32 * n ≤ o ∧ o / 32 + 13 ≤ s.words.length) ∧
      ((s.parsed sdk).nextParam = .none → KeepsBatchCall s.words (o / 32 + 2) (s.parsed sdk))) := by
  constructor
  · intro hsel
    have hnone := (parsed_callAgreement hhost hsel).nextParam
    refine ⟨hnone, fun h => ?_⟩
    apply keepsCallAgreement hhost hsel
    exact hnone.mp h
  · intro hsel n o
    have hend : (s.parsed sdk).nextParam = .none ↔
        ∃ e, landing s.words = some e ∧ e + 11 ≤ s.words.length :=
      (parsed_batchCall hhost hsel).nextParam.trans
        (carriesInnerCall_iff Selector.isStream_batchCall s.words).symm
    rw [hend]
    constructor
    · constructor
      · rintro ⟨e, hland, hlen⟩
        have ⟨(hn : 1 ≤ n), (hword : o % 32 = 0), (hle : 32 * n ≤ o), (he : e = o / 32 + 2)⟩ :=
          (landing_eq_some_iff (by omega)).mp hland
        -- the entry points past the table, and the table past the word it is in
        have hentry : n + 1 < s.words.length := by
          have : n ≤ o / 32 := by omega
          omega
        exact ⟨hn, hentry, hword, hle, by omega⟩
      · rintro ⟨hn, -, hword, hle, hlen⟩
        exact ⟨o / 32 + 2, (landing_eq_some_iff (by omega)).mpr ⟨hn, hword, hle, rfl⟩, by omega⟩
    · rintro ⟨e, hland, hlen⟩
      obtain ⟨-, -, -, he⟩ := (landing_eq_some_iff (by omega)).mp hland
      show KeepsBatchCall s.words (o / 32 + 2) (s.parsed sdk)
      rw [← he]
      exact keepsBatchCall hhost hsel hland

/-- Seven words are one too few, though they hold an inner call but for its last bytes. -/
theorem accepts_iff_seven_words :
    ((callAgreementWith (List.replicate 7 (zeros 32))).parsed referenceSdk).nextParam ≠ .none := by
  have h := accepts_iff (callAgreementWith (List.replicate 7 (zeros 32))) referenceSdk
    (referenceHost_compatible _) (show (List.replicate 7 (zeros 32)).length < 2 ^ 26 by decide)
  intro hnone
  have hlen : 8 ≤ (List.replicate 7 (zeros 32)).length := (h.1 rfl).1.mp hnone
  exact absurd hlen (by decide)

end Session

end Ricochet
