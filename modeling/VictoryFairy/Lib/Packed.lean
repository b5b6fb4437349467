import Mathlib.Data.Prod.Lex
import Mathlib.Algebra.Order.Ring.Int
import Mathlib.Tactic.Linarith

/-!
# Two numbers in one

`pack base a b` is `a * base + b`: the high part of any sign, the low part a digit below
the base.  Floor division gives the high part back, and packed numbers compare like the
pairs.

    pack_fdiv   : the high part
    pack_lt     : the order
    pack_inj    : nothing is lost
-/

namespace Packed

def pack (base : Nat) (a : Int) (b : Nat) : Int := a * base + b

variable {base : Nat} {a a' : Int} {b b' : Nat}

theorem pack_fdiv (hb : b < base) : (pack base a b).fdiv base = a := by
  have hpos : (0 : Int) < base := by omega
  rw [Int.fdiv_eq_ediv_of_nonneg _ hpos.le, pack, Int.add_comm,
    Int.add_mul_ediv_right _ _ hpos.ne', Int.ediv_eq_zero_of_lt (by omega) (by omega), Int.zero_add]

/-- A greater high part outweighs every low part. -/
theorem pack_lt_of_high (hb : b < base) (h : a < a') : pack base a b < pack base a' b' := by
  have hstep : (a + 1) * (base : Int) ≤ a' * base :=
    Int.mul_le_mul_of_nonneg_right h (Int.natCast_nonneg base)
  rw [Int.add_mul, Int.one_mul] at hstep
  unfold pack
  omega

theorem pack_lt (hb : b < base) (hb' : b' < base) :
    pack base a b < pack base a' b' ↔ toLex (a, b) < toLex (a', b') := by
  rw [Prod.Lex.toLex_lt_toLex]
  rcases lt_trichotomy a a' with h | rfl | h
  · exact ⟨fun _ => Or.inl h, fun _ => pack_lt_of_high hb h⟩
  · simp [pack]
  · refine ⟨fun hlt => absurd (pack_lt_of_high hb' h) (not_lt.2 hlt.le), ?_⟩
    rintro (hlt | ⟨rfl, -⟩)
    · exact absurd hlt (not_lt.2 h.le)
    · exact absurd h (lt_irrefl a)

theorem pack_inj (hb : b < base) (hb' : b' < base) :
    pack base a b = pack base a' b' ↔ (a, b) = (a', b') := by
  constructor
  · intro h
    have ha : a = a' := by rw [← pack_fdiv (a := a) hb, ← pack_fdiv (a := a') hb', h]
    subst ha
    unfold pack at h
    rw [Prod.mk.injEq]
    exact ⟨rfl, by omega⟩
  · intro h
    obtain ⟨rfl, rfl⟩ := Prod.mk.inj h
    rfl

end Packed
