import NggPrimShader.Basic
import Mathlib.Data.Nat.Count

/-! Cross-lane primitives of one wave: `ballot`, `ctpop` and `mbcnt_lo`/`mbcnt_hi`.
A lane mask is a natural number whose bit `l` belongs to lane `l`; the lemmas
here turn each primitive into a count of the lanes that hold a flag. -/
namespace NggPrimShader.Wave.Ballot

open NggPrimShader.Basic

/-- `ballot`: bit `l` of the mask is set iff lane `l < n` holds `true`. -/
def ballot (flag : Nat → Bool) : Nat → Nat
  | 0 => 0
  | n + 1 => 2 ^ n * (flag n).toNat + ballot flag n

theorem ballot_lt (flag : Nat → Bool) (n : Nat) : ballot flag n < 2 ^ n := by
  induction n with
  | zero => simp [ballot]
  | succ n ih =>
    rw [ballot, Nat.pow_succ]
    cases flag n <;> simp <;> omega

@[simp] theorem testBit_ballot (flag : Nat → Bool) (n j : Nat) :
    (ballot flag n).testBit j = (decide (j < n) && flag j) := by
  induction n with
  | zero => simp [ballot]
  | succ n ih =>
    rw [ballot, Nat.testBit_mul_pow_two_add _ (ballot_lt flag n)]
    split
    · simp only [ih]
      simp [show j < n + 1 by omega, *]
    · rcases Nat.lt_or_ge n j with h | h
      · have : (flag n).toNat < 2 ^ (j - n) :=
          lt_of_le_of_lt (Bool.toNat_le _) (Nat.one_lt_two_pow (by omega))
        simp [Nat.testBit_lt_two_pow this, show ¬ j < n + 1 by omega]
      · obtain rfl : j = n := by omega
        cases flag j <;> simp

def popCount (mask n : Nat) : Nat := Nat.count (fun j => mask.testBit j) n

theorem count_congr {p q : Nat → Bool} {n : Nat} (h : ∀ j < n, p j = q j) :
    Nat.count (fun j => p j) n = Nat.count (fun j => q j) n := by
  induction n with
  | zero => rfl
  | succ n ih =>
    rw [Nat.count_succ, Nat.count_succ, ih (fun j hj => h j (by omega)), h n (by omega)]

theorem popCount_ballot (flag : Nat → Bool) {n k : Nat} (hk : k ≤ n) :
    popCount (ballot flag n) k = Nat.count (fun j => flag j) k :=
  count_congr fun j hj => by simp [show j < n by omega]

def mbcntLo (lane mask acc : Nat) : Nat := acc + popCount mask (min lane 32)

def mbcntHi (lane mask acc : Nat) : Nat := acc + popCount mask (lane - 32)

/-- The lane rank the compaction blocks compute from a 64-bit ballot bitcast to
`<2 x i32>`: `mbcnt_lo` on the low dword, then `mbcnt_hi` on the high dword when
the wave has 64 lanes. -/
def mbcnt (ws : WaveSize) (lane mask : Nat) : Nat :=
  if ws.val = 64 then mbcntHi lane (mask / 2 ^ 32) (mbcntLo lane (mask % 2 ^ 32) 0)
  else mbcntLo lane (mask % 2 ^ 32) 0

theorem mbcnt_ballot (ws : WaveSize) (flag : Nat → Bool) {lane : Nat} (hl : lane < ws.val) :
    mbcnt ws lane (ballot flag ws.val) = Nat.count (fun j => flag j) lane := by
  have hlo : popCount (ballot flag ws.val % 2 ^ 32) (min lane 32) =
      Nat.count (fun j => flag j) (min lane 32) :=
    count_congr fun j hj => by
      rw [Nat.testBit_mod_two_pow, testBit_ballot]
      simp [show j < 32 by omega, show j < ws.val by omega]
  rcases ws.valid with h | h
  · rw [mbcnt, if_neg (by omega), mbcntLo, Nat.zero_add, hlo, show min lane 32 = lane by omega]
  · have hhi : popCount (ballot flag ws.val / 2 ^ 32) (lane - 32) =
        Nat.count (fun j => flag (32 + j)) (lane - 32) :=
      count_congr fun j hj => by
        rw [← Nat.shiftRight_eq_div_pow, Nat.testBit_shiftRight, testBit_ballot]
        simp [show 32 + j < ws.val by omega]
    rw [mbcnt, if_pos h, mbcntHi, mbcntLo, Nat.zero_add, hlo, hhi]
    rcases Nat.lt_or_ge lane 32 with hl32 | hl32
    · rw [show min lane 32 = lane by omega, show lane - 32 = 0 by omega, Nat.count_zero,
        Nat.add_zero]
    · rw [show min lane 32 = 32 by omega, ← Nat.count_add (fun j => flag j = true) 32,
        Nat.add_sub_cancel' hl32]

end NggPrimShader.Wave.Ballot
