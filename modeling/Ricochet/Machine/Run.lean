import Mathlib.Data.Nat.Notation
import Mathlib.Tactic.TypeStar

/-!
# Runs of a message-driven component

A component answers a message `i : ι` in a state `s : σ` with `step i s`, an answer and the next
state.  `exec` is the state after a list of messages, `outputs` the answers, and `trace` the
messages paired with their answers.

* `exec_invariant`, `forall_outputs`: what every step keeps holds after a run, and of its answers.
* `exec_numbered_drop`, `exec_numbered_of_ignored`: a component fed with numbered messages drops
  those it ignores in its present state, up to the one it waits for or for good;
  `exec_numbered_take` is the rule for one that collects the first few.
* `Repeatable`: two questions of one run that count as the same are always answered the same,
  whatever was asked before, between and after them.  `Repeatable.of_invariant`: answers that depend
  on the question alone, as long as an invariant holds, are repeatable.
-/

namespace Machine

variable {σ ι ο α ω : Type*}

/-- The state after the messages. -/
def exec (step : ι → σ → ο × σ) : List ι → σ → σ
  | [], s => s
  | i :: is, s => exec step is (step i s).2

/-- The messages with their answers, in order. -/
def trace (step : ι → σ → ο × σ) : List ι → σ → List (ι × ο)
  | [], _ => []
  | i :: is, s => (i, (step i s).1) :: trace step is (step i s).2

/-- The answers to the messages, in order. -/
def outputs (step : ι → σ → ο × σ) (is : List ι) (s : σ) : List ο :=
  (trace step is s).map Prod.snd

/-- The messages made of the elements of a list, numbered from `n` on. -/
def numbered (f : ℕ → α → ι) : ℕ → List α → List ι
  | _, [] => []
  | n, a :: l => f n a :: numbered f (n + 1) l

variable {step : ι → σ → ο × σ}

@[simp]
theorem exec_nil (s : σ) : exec step [] s = s := rfl

@[simp]
theorem exec_cons (i : ι) (is : List ι) (s : σ) :
    exec step (i :: is) s = exec step is (step i s).2 := rfl

@[simp]
theorem outputs_nil (s : σ) : outputs step [] s = [] := rfl

@[simp]
theorem outputs_cons (i : ι) (is : List ι) (s : σ) :
    outputs step (i :: is) s = (step i s).1 :: outputs step is (step i s).2 := rfl

/-! ### Invariants -/

/-- What every message of the list keeps holds after the run. -/
theorem exec_invariant (I : σ → Prop) {is : List ι} {s : σ}
    (hstep : ∀ i ∈ is, ∀ t, I t → I (step i t).2) (hs : I s) : I (exec step is s) := by
  induction is generalizing s with
  | nil => exact hs
  | cons i is ih =>
    exact ih (fun j hj => hstep j (List.mem_cons_of_mem _ hj)) (hstep i List.mem_cons_self s hs)

/-- A state that every message leaves alone is final. -/
theorem exec_eq_self {is : List ι} {s : σ} (h : ∀ i ∈ is, (step i s).2 = s) :
    exec step is s = s :=
  exec_invariant (fun t => t = s) (fun i hi t ht => by rw [ht, h i hi]) rfl

/-- Every entry of a trace is the answer of some state that satisfies the invariant. -/
theorem exists_of_mem_trace (I : σ → Prop) {is : List ι} {s : σ}
    (hstep : ∀ i ∈ is, ∀ t, I t → I (step i t).2) (hs : I s) {p : ι × ο}
    (hp : p ∈ trace step is s) : p.1 ∈ is ∧ ∃ t, I t ∧ p.2 = (step p.1 t).1 := by
  induction is generalizing s with
  | nil => exact absurd hp List.not_mem_nil
  | cons i is ih =>
    rcases List.mem_cons.mp hp with rfl | hp
    · exact ⟨List.mem_cons_self, s, hs, rfl⟩
    · obtain ⟨hmem, ht⟩ := ih (fun j hj => hstep j (List.mem_cons_of_mem _ hj))
        (hstep i List.mem_cons_self s hs) hp
      exact ⟨List.mem_cons_of_mem _ hmem, ht⟩

/-- What holds of the answer of every state that satisfies the invariant holds of all answers. -/
theorem forall_outputs (I : σ → Prop) (P : ο → Prop) {is : List ι} {s : σ}
    (hstep : ∀ i ∈ is, ∀ t, I t → I (step i t).2) (hs : I s)
    (hout : ∀ i ∈ is, ∀ t, I t → P (step i t).1) : ∀ o ∈ outputs step is s, P o := by
  intro o ho
  obtain ⟨p, hp, rfl⟩ := List.mem_map.mp ho
  obtain ⟨hmem, t, ht, hpt⟩ := exists_of_mem_trace I hstep hs hp
  rw [hpt]
  exact hout _ hmem t ht

/-! ### Numbered messages -/

@[simp]
theorem numbered_nil (f : ℕ → α → ι) (n : ℕ) : numbered f n [] = [] := rfl

@[simp]
theorem numbered_cons (f : ℕ → α → ι) (n : ℕ) (a : α) (l : List α) :
    numbered f n (a :: l) = f n a :: numbered f (n + 1) l := rfl

/-- Messages that leave the present state alone are dropped. -/
theorem exec_numbered_drop (f : ℕ → α → ι) {n : ℕ} (d : ℕ) (l : List α) {s : σ}
    (h : ∀ m a, n ≤ m → m < n + d → (step (f m a) s).2 = s) :
    exec step (numbered f n l) s = exec step (numbered f (n + d) (l.drop d)) s := by
  induction d generalizing n l with
  | zero => rfl
  | succ d ih =>
    cases l with
    | nil => rfl
    | cons a l =>
      rw [numbered_cons, exec_cons, h n a (Nat.le_refl n) (by omega), List.drop_succ_cons,
        ih l (fun m b hm hlt => h m b (by omega) (by omega)), show n + 1 + d = n + (d + 1) by omega]

/-- A state that all later messages leave alone is final. -/
theorem exec_numbered_of_ignored (f : ℕ → α → ι) {n : ℕ} (l : List α) {s : σ}
    (h : ∀ m a, n ≤ m → (step (f m a) s).2 = s) : exec step (numbered f n l) s = s := by
  rw [exec_numbered_drop f l.length l fun m a hm _ => h m a hm, List.drop_length]
  rfl

variable (step) in
/-- A component that collects elements up to a bound, and then ignores what follows, has collected
the first of them. -/
theorem exec_numbered_take (f : ℕ → α → ι) (result : List α → σ) (n m : ℕ)
    (hstep : ∀ l a, l.length < m → (step (f (n + l.length) a) (result l)).2 = result (l ++ [a]))
    (hdone : ∀ l, l.length = m → ∀ i a, (step (f i a) (result l)).2 = result l) (l : List α) :
    exec step (numbered f n l) (result []) = result (l.take m) := by
  have hrun : ∀ l pre : List α, pre.length ≤ m →
      exec step (numbered f (n + pre.length) l) (result pre) = result ((pre ++ l).take m) := by
    -- on the messages left, for any that have been collected
    intro l
    induction l with
    | nil =>
      intro pre hpre
      rw [List.append_nil, List.take_of_length_le hpre]
      rfl
    | cons a l ih =>
      intro pre hpre
      by_cases hlt : pre.length < m
      · have hih := ih (pre ++ [a]) (by rw [List.length_append, List.length_singleton]; omega)
        rw [List.length_append, List.length_singleton, ← Nat.add_assoc, List.append_assoc,
          List.singleton_append] at hih
        rw [numbered_cons, exec_cons, hstep pre a hlt, hih]
      · have heq : pre.length = m := by omega
        rw [exec_numbered_of_ignored f _ fun i a _ => hdone pre heq i a, List.take_append,
          heq, Nat.sub_self, List.take_zero, List.append_nil, List.take_of_length_le hpre]
  exact hrun l [] (Nat.zero_le m)

/-! ### Repeatable answers -/

/-- Any two questions of a run that are the same by `same` have answers that look the same. -/
def Repeatable (step : ι → σ → ο × σ) (Q : ι → Prop) (same : ι → ι → Prop) (look : ο → ω)
    (s : σ) : Prop :=
  ∀ is : List ι, (∀ i ∈ is, Q i) →
    ∀ p ∈ trace step is s, ∀ q ∈ trace step is s, same p.1 q.1 → look p.2 = look q.2

theorem Repeatable.of_invariant {step : ι → σ → ο × σ} {Q : ι → Prop} {same : ι → ι → Prop}
    {look : ο → ω} (I : σ → Prop) (hstep : ∀ i, Q i → ∀ t, I t → I (step i t).2)
    (hlook : ∀ i j, Q i → Q j → same i j → ∀ t u, I t → I u →
      look (step i t).1 = look (step j u).1) {s : σ} (hs : I s) :
    Repeatable step Q same look s := by
  intro is hQ p hp q hq hpq
  have hkeep : ∀ i ∈ is, ∀ t, I t → I (step i t).2 := fun i hi => hstep i (hQ i hi)
  obtain ⟨hmp, t, ht, hpt⟩ := exists_of_mem_trace I hkeep hs hp
  obtain ⟨hmq, u, hu, hqu⟩ := exists_of_mem_trace I hkeep hs hq
  rw [hpt, hqu]
  exact hlook _ _ (hQ _ hmp) (hQ _ hmq) hpq t u ht hu

end Machine
