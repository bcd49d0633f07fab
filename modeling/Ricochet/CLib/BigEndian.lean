import Mathlib.Data.Nat.ModEq
import Mathlib.Tactic.Ring
import Ricochet.CLib.Buffer

/-!
# Big-endian values of byte strings

`beNat l` is the number whose base-256 digits are the bytes of `l`, most significant first;
`beBytes n v` are the `n` low bytes of `v` in that order.  The two are inverse below `256 ^ n`
(`beNat_beBytes_of_lt`, `beBytes_beNat`).

`beNat` is the left fold a parser performs, so a loop that reads a prefix of the bytes has the
value of that prefix in its accumulator (`beNat_append`).
-/

namespace CLib

/-- The big-endian value of a byte string. -/
def beNat (l : List UInt8) : ℕ := l.foldl (fun v b => v * 256 + b.toNat) 0

/-- The `n` low bytes of `v`, most significant first. -/
def beBytes (n v : ℕ) : Buffer n := Vector.ofFn fun i => UInt8.ofNat (v / 256 ^ (n - 1 - i))

@[simp]
theorem beNat_nil : beNat [] = 0 := rfl

private theorem foldl_beNat (l : List UInt8) :
    ∀ v : ℕ, l.foldl (fun v b => v * 256 + b.toNat) v = v * 256 ^ l.length + beNat l := by
  induction l with
  | nil => intro v; simp
  | cons b l ih =>
    intro v
    have hb : beNat (b :: l) = (0 * 256 + b.toNat) * 256 ^ l.length + beNat l := ih _
    rw [List.foldl_cons, ih, hb, List.length_cons, pow_succ]
    ring

theorem beNat_append (l l' : List UInt8) :
    beNat (l ++ l') = beNat l * 256 ^ l'.length + beNat l' := by
  rw [beNat, List.foldl_append, foldl_beNat]
  rfl

theorem beNat_cons (b : UInt8) (l : List UInt8) :
    beNat (b :: l) = b.toNat * 256 ^ l.length + beNat l := by
  rw [← List.singleton_append, beNat_append]
  simp [beNat]

theorem beNat_lt (l : List UInt8) : beNat l < 256 ^ l.length := by
  induction l with
  | nil => simp
  | cons b l ih =>
    have hb : b.toNat < 256 := b.toNat_lt
    rw [beNat_cons, List.length_cons, pow_succ]
    calc b.toNat * 256 ^ l.length + beNat l
        < b.toNat * 256 ^ l.length + 256 ^ l.length := by omega
      _ = (b.toNat + 1) * 256 ^ l.length := by ring
      _ ≤ 256 * 256 ^ l.length := Nat.mul_le_mul_right _ hb
      _ = 256 ^ l.length * 256 := Nat.mul_comm _ _

/-- The first byte of a string, from its value. -/
theorem beNat_cons_div (b : UInt8) (l : List UInt8) :
    beNat (b :: l) / 256 ^ l.length = b.toNat := by
  have hpos : 0 < 256 ^ l.length := Nat.pow_pos (by decide)
  rw [beNat_cons, Nat.add_comm, Nat.add_mul_div_right _ _ hpos, Nat.div_eq_of_lt (beNat_lt l),
    Nat.zero_add]

/-- Byte strings of one length with one value are equal. -/
theorem beNat_inj {l l' : List UInt8} (hlen : l.length = l'.length) (h : beNat l = beNat l') :
    l = l' := by
  induction l generalizing l' with
  | nil => exact (List.length_eq_zero_iff.mp hlen.symm).symm
  | cons b l ih =>
    obtain _ | ⟨b', l'⟩ := l'
    · simp at hlen
    have hlen' : l.length = l'.length := by simpa using hlen
    have hb : b.toNat = b'.toNat := by
      rw [← beNat_cons_div b l, ← beNat_cons_div b' l', h, hlen']
    rw [beNat_cons, beNat_cons, ← hlen', hb] at h
    rw [UInt8.toNat_inj.mp hb, ih hlen' (by omega)]

theorem toList_beBytes_succ (n v : ℕ) :
    (beBytes (n + 1) v).toList = UInt8.ofNat (v / 256 ^ n) :: (beBytes n v).toList := by
  simp only [beBytes, Vector.toList_ofFn, List.ofFn_succ]
  congr 1
  congr 1
  funext i
  simp only [Fin.val_succ]
  congr 3
  omega

/-- Reading back what was written keeps the low `n` bytes. -/
theorem beNat_beBytes (n v : ℕ) : beNat (beBytes n v).toList = v % 256 ^ n := by
  induction n with
  | zero =>
    have h := beNat_lt (beBytes 0 v).toList
    rw [Vector.length_toList, pow_zero, Nat.lt_one_iff] at h
    rw [h, pow_zero, Nat.mod_one]
  | succ n ih =>
    have hmod : v % 256 ^ (n + 1) = v % 256 ^ n + 256 ^ n * (v / 256 ^ n % 256) :=
      Nat.mod_pow_succ
    rw [toList_beBytes_succ, beNat_cons, ih, Vector.length_toList, UInt8.toNat_ofNat', hmod,
      Nat.mul_comm, Nat.add_comm]

theorem beNat_beBytes_of_lt {n v : ℕ} (h : v < 256 ^ n) : beNat (beBytes n v).toList = v := by
  rw [beNat_beBytes, Nat.mod_eq_of_lt h]

/-- Writing the value of a buffer gives the buffer back. -/
theorem beBytes_beNat {n : ℕ} (b : Buffer n) : beBytes n (beNat b.toList) = b := by
  apply Vector.toList_inj.mp
  apply beNat_inj (by simp)
  rw [beNat_beBytes]
  exact Nat.mod_eq_of_lt (by simpa using beNat_lt b.toList)

@[simp]
theorem beBytes_zero (n : ℕ) : beBytes n 0 = zeros n := by
  refine Vector.ext fun i hi => ?_
  simp [beBytes]

end CLib
