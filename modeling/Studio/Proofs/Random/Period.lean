import Mathlib.Algebra.Ring.GeomSum
import Mathlib.NumberTheory.Multiplicity
import Mathlib.RingTheory.Int.Basic
import Studio.Random

/-! The period of the generator. Its recurrence is modulo a power of two, with a factor that
is 1 modulo 4 and an odd increment. So from any state it comes through all of its states
before it is in one of them again, and no state is out of reach. -/

namespace Studio.Random

/-- A sum of powers of `a` is divided by 2 as often as their number is. -/
theorem emultiplicity_geom_sum {a : Int} (ha : 4 ∣ a - 1) (hne : a ≠ 1) (n : Nat) :
    emultiplicity 2 (∑ i ∈ Finset.range n, a ^ i) = emultiplicity (2 : Int) n := by
  have hodd : ¬ 2 ∣ a := by omega
  have hfinite : emultiplicity 2 (a - 1) ≠ ⊤ := finiteMultiplicity_iff_emultiplicity_ne_top.1
    (Int.finiteMultiplicity_iff.2 ⟨by decide, sub_ne_zero.2 hne⟩)
  apply ENat.add_right_injective_of_ne_top hfinite
  calc emultiplicity 2 (a - 1) + emultiplicity 2 (∑ i ∈ Finset.range n, a ^ i)
      = emultiplicity 2 (a ^ n - 1 ^ n) := by
        rw [← emultiplicity_mul Int.prime_two, mul_geom_sum, one_pow]
    _ = emultiplicity 2 (a - 1) + emultiplicity (2 : Int) n := Int.two_pow_sub_pow' n ha hodd

theorem advance_lt (s : Nat) : advance s < stateBound := Nat.mod_lt _ (by decide)

theorem iterate_advance_lt {s : Nat} (h : s < stateBound) (n : Nat) :
    advance^[n] s < stateBound := by
  cases n with
  | zero => exact h
  | succ n =>
    rw [Function.iterate_succ_apply']
    exact advance_lt _

theorem advance_modEq (s : Nat) : (advance s : Int) ≡ s * factor + increment [ZMOD stateBound] := by
  rw [advance, Int.natCast_mod]
  exact Int.mod_modEq _ _

/-- How far the state moves by `n` steps. -/
theorem iterate_advance_modEq (s n : Nat) :
    ((advance^[n] s : Nat) : Int) ≡
      s + (s * (factor - 1) + increment) * ∑ i ∈ Finset.range n, (factor : Int) ^ i
      [ZMOD stateBound] := by
  induction n with
  | zero =>
    rw [Finset.range_zero, Finset.sum_empty, mul_zero, add_zero]
    rfl
  | succ n ih =>
    rw [Function.iterate_succ_apply']
    calc (advance (advance^[n] s) : Int)
        ≡ (advance^[n] s : Nat) * factor + increment [ZMOD stateBound] := advance_modEq _
      _ ≡ (s + (s * (factor - 1) + increment) * ∑ i ∈ Finset.range n, (factor : Int) ^ i) * factor
            + increment [ZMOD stateBound] := (ih.mul_right _).add_right _
      _ = s + (s * (factor - 1) + increment) * ∑ i ∈ Finset.range (n + 1), (factor : Int) ^ i := by
        rw [geom_sum_succ]
        ring

/-- A state is not met again before all states are. -/
theorem stateBound_dvd {s n : Nat} (h : advance^[n] s = s) : stateBound ∣ n := by
  have hmoved : (stateBound : Int) ∣
      (s * (factor - 1) + increment) * ∑ i ∈ Finset.range n, (factor : Int) ^ i := by
    have hmod := iterate_advance_modEq s n
    rw [h] at hmod
    simpa using hmod.dvd
  have hfactor : (4 : Int) ∣ factor - 1 := by decide
  have hodd : Odd ((s : Int) * (factor - 1) + increment) := by
    refine Even.add_odd (Even.mul_left ?_ _) ?_
    · exact even_iff_two_dvd.2 (dvd_trans (by decide) hfactor)
    · decide
  -- The sum is multiplied by an odd number, so the power of two divides the sum itself.
  have hpow : (stateBound : Int) = 2 ^ 128 := by decide
  rw [hpow] at hmoved
  have hsum := (Int.isCoprime_two_left.2 hodd).pow_left.dvd_of_dvd_mul_left hmoved
  rw [pow_dvd_iff_le_emultiplicity, emultiplicity_geom_sum hfactor (by decide),
    ← pow_dvd_iff_le_emultiplicity, ← hpow] at hsum
  exact Int.natCast_dvd_natCast.1 hsum

theorem iterate_advance_injOn (s : Nat) :
    Set.InjOn (fun n => advance^[n] s) (Finset.range stateBound) := by
  intro i hi j hj h
  wlog hij : i ≤ j generalizing i j
  · exact (this hj hi h.symm (le_of_not_ge hij)).symm
  -- From the state that both lead to, the steps left of `j` lead back to it.
  have hback : advance^[j - i] (advance^[i] s) = advance^[i] s := by
    rw [← Function.iterate_add_apply, Nat.sub_add_cancel hij]
    exact h.symm
  have hlt : j - i < stateBound := lt_of_le_of_lt (Nat.sub_le j i) (Finset.mem_range.1 hj)
  have hzero : j - i = 0 := Nat.eq_zero_of_dvd_of_lt (stateBound_dvd hback) hlt
  exact le_antisymm hij (Nat.le_of_sub_eq_zero hzero)

/-- From any state the generator comes to any other, in fewer steps than it has states. -/
theorem exists_iterate_advance {s t : Nat} (hs : s < stateBound) (ht : t < stateBound) :
    ∃ n < stateBound, advance^[n] s = t := by
  have hmaps : Set.MapsTo (fun n => advance^[n] s) (Finset.range stateBound)
      (Finset.range stateBound) :=
    fun n _ => Finset.mem_coe.2 (Finset.mem_range.2 (iterate_advance_lt hs n))
  obtain ⟨n, hn, h⟩ := Finset.surjOn_of_injOn_of_card_le _ hmaps (iterate_advance_injOn s) le_rfl
    (Finset.mem_coe.2 (Finset.mem_range.2 ht))
  exact ⟨n, Finset.mem_range.1 (Finset.mem_coe.1 hn), h⟩

end Studio.Random
