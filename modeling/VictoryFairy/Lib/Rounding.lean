import Mathlib.Data.Int.Log
import Mathlib.Data.Rat.Floor
import Mathlib.Tactic.Linarith
import Mathlib.Tactic.LinearCombination
import Mathlib.Tactic.Ring

/-!
# Rounding to a binary format

A format keeps `precision` bits of a number, and no unit below `2 ^ minExponent`.
`nearest q` is the number of the format nearest to `q`, half to even; the exponents have no
upper bound.  Rounding of nonnegative numbers only.

    le_nearest_iff           : a number of the format is reached past the half-way point below it
    floor_nearest_eq_iff     : the integer part after rounding
    nearest_eq_iff_sameSide  : two numbers are rounded alike
-/

namespace Rounding

/-! ## To integers -/

def roundEven (q : ℚ) : ℤ :=
  if q - ⌊q⌋ < 1 / 2 ∨ q - ⌊q⌋ = 1 / 2 ∧ Even ⌊q⌋ then ⌊q⌋ else ⌊q⌋ + 1

/-- The next integer is reached past the half-way point; from an odd one, at the point. -/
theorem lt_roundEven_iff (k : ℤ) (q : ℚ) :
    k < roundEven q ↔ k + 1 / 2 < q ∨ q = k + 1 / 2 ∧ Odd k := by
  have hlow := Int.floor_le q
  have hhigh := Int.lt_floor_add_one q
  unfold roundEven
  rcases lt_trichotomy k ⌊q⌋ with hk | rfl | hk
  · have hcast : (k : ℚ) + 1 ≤ ⌊q⌋ := by exact_mod_cast hk
    have hpast : (k : ℚ) + 1 / 2 < q := by linarith
    refine iff_of_true ?_ (Or.inl hpast)
    split <;> omega
  · split
    · rename_i h
      refine iff_of_false (lt_irrefl _) ?_
      rintro (hlt | ⟨heq, hodd⟩)
      · rcases h with h | ⟨h, -⟩ <;> linarith
      · rcases h with h | ⟨-, heven⟩
        · linarith
        · exact Int.not_even_iff_odd.2 hodd heven
    · rename_i h
      refine iff_of_true (by omega) ?_
      rw [not_or, not_and, not_lt] at h
      rcases h.1.lt_or_eq with hlt | heq
      · exact Or.inl (by linarith)
      · exact Or.inr ⟨by linarith, Int.not_even_iff_odd.1 (h.2 heq.symm)⟩
  · have hcast : (⌊q⌋ : ℚ) + 1 ≤ k := by exact_mod_cast hk
    refine iff_of_false (by split <;> omega) ?_
    rintro (hlt | ⟨heq, -⟩) <;> linarith

theorem roundEven_le {q : ℚ} {k : ℤ} (h : q ≤ k) : roundEven q ≤ k := by
  rw [← not_lt, lt_roundEven_iff]
  rintro (hlt | ⟨heq, -⟩) <;> linarith

theorem le_roundEven {q : ℚ} {k : ℤ} (h : (k : ℚ) ≤ q) : k ≤ roundEven q := by
  have hlt : k - 1 < roundEven q := by
    rw [lt_roundEven_iff]
    left
    push_cast
    linarith
  omega

theorem roundEven_intCast (k : ℤ) : roundEven k = k :=
  le_antisymm (roundEven_le (le_refl _)) (le_roundEven (le_refl _))

/-! ## To a format -/

structure Format where
  precision : ℕ
  minExponent : ℤ
  precision_pos : 0 < precision
  minExponent_le : minExponent ≤ -precision

namespace Format

variable (fmt : Format)

theorem exists_precision : ∃ p, fmt.precision = p + 1 :=
  Nat.exists_eq_succ_of_ne_zero fmt.precision_pos.ne'

/-- The exponent of the last bit kept. -/
def exponent (q : ℚ) : ℤ := max (Int.log 2 q + 1 - fmt.precision) fmt.minExponent

def nearest (q : ℚ) : ℚ := roundEven (q / 2 ^ fmt.exponent q) * 2 ^ fmt.exponent q

/-- The significands that use every bit. -/
def Full (k : ℤ) : Prop := 2 ^ fmt.precision ≤ 2 * k ∧ k < 2 ^ fmt.precision

end Format

/-- Past the half-way point between `k * 2 ^ e` and `(k + 1) * 2 ^ e`, which itself is
rounded to the even one. -/
def Past (k e : ℤ) (q : ℚ) : Prop :=
  (k + 1 / 2) * 2 ^ e < q ∨ q = (k + 1 / 2) * 2 ^ e ∧ Odd k

variable {fmt : Format} {q : ℚ}

theorem two_zpow_pos (e : ℤ) : (0 : ℚ) < 2 ^ e := zpow_pos (by norm_num) e

theorem two_zpow_le {d e : ℤ} (h : d ≤ e) : (2 : ℚ) ^ d ≤ 2 ^ e :=
  zpow_le_zpow_right₀ (by norm_num) h

theorem two_zpow_add (e : ℤ) (n : ℕ) : (2 : ℚ) ^ (e + n) = (2 ^ n : ℤ) * 2 ^ e := by
  push_cast
  rw [zpow_add₀ two_ne_zero, zpow_natCast, mul_comm]

theorem lt_zpow_exponent (fmt : Format) (q : ℚ) : q < 2 ^ (fmt.exponent q + fmt.precision) := by
  have hlog : q < (2 : ℕ) ^ (Int.log 2 q + 1) := Int.lt_zpow_succ_log_self (by norm_num) q
  have hle : Int.log 2 q + 1 ≤ fmt.exponent q + fmt.precision := by
    unfold Format.exponent
    omega
  exact hlog.trans_le (two_zpow_le hle)

theorem zpow_exponent_le (hq : 0 < q) (h : fmt.minExponent < fmt.exponent q) :
    (2 : ℚ) ^ (fmt.exponent q + fmt.precision - 1) ≤ q := by
  have hlog : ((2 : ℕ) : ℚ) ^ Int.log 2 q ≤ q := Int.zpow_log_le_self (by norm_num) hq
  have heq : fmt.exponent q + fmt.precision - 1 = Int.log 2 q := by
    unfold Format.exponent at h ⊢
    omega
  rw [heq]
  exact_mod_cast hlog

/-- A multiple of the last bit above `q` stays above. -/
theorem nearest_le_mul {k : ℤ} (h : q ≤ k * 2 ^ fmt.exponent q) :
    fmt.nearest q ≤ k * 2 ^ fmt.exponent q := by
  have hpos := two_zpow_pos (fmt.exponent q)
  have hround : roundEven (q / 2 ^ fmt.exponent q) ≤ k := roundEven_le ((div_le_iff₀ hpos).2 h)
  exact mul_le_mul_of_nonneg_right (by exact_mod_cast hround) hpos.le

theorem mul_le_nearest {k : ℤ} (h : k * 2 ^ fmt.exponent q ≤ q) :
    k * 2 ^ fmt.exponent q ≤ fmt.nearest q := by
  have hpos := two_zpow_pos (fmt.exponent q)
  have hround : k ≤ roundEven (q / 2 ^ fmt.exponent q) := le_roundEven ((le_div_iff₀ hpos).2 h)
  exact mul_le_mul_of_nonneg_right (by exact_mod_cast hround) hpos.le

theorem nearest_le_zpow {d : ℤ} (h : fmt.exponent q ≤ d) :
    fmt.nearest q ≤ 2 ^ (d + fmt.precision) := by
  have hle : fmt.nearest q ≤ 2 ^ (fmt.exponent q + fmt.precision) := by
    rw [two_zpow_add]
    refine nearest_le_mul ?_
    rw [← two_zpow_add]
    exact (lt_zpow_exponent fmt q).le
  exact hle.trans (two_zpow_le (by omega))

theorem zpow_le_nearest (hq : 0 < q) (h : fmt.minExponent < fmt.exponent q) :
    (2 : ℚ) ^ (fmt.exponent q + fmt.precision - 1) ≤ fmt.nearest q := by
  obtain ⟨p, hp⟩ := fmt.exists_precision
  have hsplit : fmt.exponent q + fmt.precision - 1 = fmt.exponent q + (p : ℤ) := by omega
  have hle := zpow_exponent_le hq h
  rw [hsplit, two_zpow_add] at hle ⊢
  exact mul_le_nearest hle

theorem nearest_nonneg (hq : 0 ≤ q) : 0 ≤ fmt.nearest q := by
  have hle : ((0 : ℤ) : ℚ) * 2 ^ fmt.exponent q ≤ fmt.nearest q := mul_le_nearest (by simpa using hq)
  simpa using hle

/-! ## Half-way points -/

theorem past_mul_iff {k e : ℤ} : Past k e q ↔ k < roundEven (q / 2 ^ e) := by
  have hpos := two_zpow_pos e
  rw [lt_roundEven_iff, lt_div_iff₀ hpos, div_eq_iff hpos.ne']
  exact Iff.rfl

theorem nearest_zero : fmt.nearest 0 = 0 := by
  have hround := roundEven_intCast 0
  rw [Int.cast_zero] at hround
  rw [Format.nearest, zero_div, hround, Int.cast_zero, zero_mul]

/-- By the place of `q` among the powers of two: only where the last bit of `q` is that of
the number does the rounding of `q` decide. -/
theorem le_nearest_iff {k e : ℤ} (hk : fmt.Full k) (he : fmt.minExponent ≤ e) (hq : 0 ≤ q) :
    (k + 1) * 2 ^ e ≤ fmt.nearest q ↔ Past k e q := by
  have hpos := two_zpow_pos e
  have hpow : (0 : ℚ) < 2 ^ fmt.precision := by positivity
  have hlow : (2 : ℚ) ^ fmt.precision ≤ 2 * k := by exact_mod_cast hk.1
  have hhigh : (k : ℚ) + 1 ≤ 2 ^ fmt.precision := by exact_mod_cast hk.2
  have hstart : 0 < k * (2 : ℚ) ^ e := mul_pos (by linarith) hpos
  rcases hq.eq_or_lt with rfl | hq
  · rw [nearest_zero]
    refine iff_of_false (fun h => ?_) ?_
    · linarith
    · rintro (h | ⟨h, -⟩) <;> linarith
  rcases lt_trichotomy (fmt.exponent q) e with hlt | heq | hgt
  · -- `q` is below `k * 2 ^ e`, and stays there
    have hbound : (2 : ℚ) ^ (e - 1 + fmt.precision) ≤ k * 2 ^ e := by
      have hsplit : (2 : ℚ) ^ (e - 1 + fmt.precision) = 2 ^ fmt.precision / 2 * 2 ^ e := by
        rw [two_zpow_add, zpow_sub_one₀ two_ne_zero]
        push_cast
        ring
      rw [hsplit]
      exact mul_le_mul_of_nonneg_right (by linarith) hpos.le
    have hnearest : fmt.nearest q ≤ k * 2 ^ e :=
      (nearest_le_zpow (by omega)).trans hbound
    have hbelow : q < k * 2 ^ e :=
      ((lt_zpow_exponent fmt q).trans_le (two_zpow_le (by omega))).trans_le hbound
    refine iff_of_false (fun h => ?_) ?_
    · linarith
    · rintro (h | ⟨h, -⟩) <;> linarith
  · rw [past_mul_iff, ← heq, Format.nearest, mul_le_mul_iff_of_pos_right (two_zpow_pos _)]
    exact_mod_cast Int.add_one_le_iff
  · -- `q` is above `(k + 1) * 2 ^ e`, and stays there
    have hmin : fmt.minExponent < fmt.exponent q := he.trans_lt hgt
    have hbound : (k + 1) * (2 : ℚ) ^ e ≤ 2 ^ (fmt.exponent q + fmt.precision - 1) :=
      calc (k + 1) * (2 : ℚ) ^ e
          ≤ 2 ^ fmt.precision * 2 ^ e := mul_le_mul_of_nonneg_right hhigh hpos.le
        _ = 2 ^ (e + fmt.precision) := by
            rw [two_zpow_add]
            push_cast
            rfl
        _ ≤ 2 ^ (fmt.exponent q + fmt.precision - 1) := two_zpow_le (by omega)
    have habove : (k + 1) * 2 ^ e ≤ q := hbound.trans (zpow_exponent_le hq hmin)
    refine iff_of_true (hbound.trans (zpow_le_nearest hq hmin)) (Or.inl ?_)
    linarith

/-! ## Integers -/

/-- The distance from `m` to the number of the format below it. -/
def Format.gap (fmt : Format) (m : ℕ) : ℚ := 2 ^ ((Nat.clog 2 m : ℤ) - fmt.precision)

theorem pow_clog_lt {m : ℕ} (hm : 0 < m) : 2 ^ Nat.clog 2 m < 2 * m := by
  rcases (Nat.one_le_iff_ne_zero.2 hm.ne').eq_or_lt with rfl | hone
  · simp
  · have hclog : Nat.clog 2 m ≠ 0 := (Nat.clog_pos (by norm_num) hone).ne'
    have hpred := Nat.pow_pred_clog_lt_self (b := 2) (by norm_num) hone
    obtain ⟨c, hc⟩ := Nat.exists_eq_succ_of_ne_zero hclog
    rw [hc, Nat.pred_succ] at hpred
    rw [hc, pow_succ]
    omega

/-- Below the last power of two that leaves a bit for halves, a half-way point goes up. -/
theorem natCast_le_nearest_iff {m : ℕ} (hm : 0 < m) (hle : 2 * m ≤ 2 ^ fmt.precision)
    (hq : 0 ≤ q) : (m : ℚ) ≤ fmt.nearest q ↔ m - fmt.gap m / 2 ≤ q := by
  obtain ⟨p, hp⟩ := fmt.exists_precision
  have hclog : Nat.clog 2 m ≤ p := by
    refine Nat.clog_le_of_le_pow ?_
    rw [hp, pow_succ] at hle
    omega
  obtain ⟨d, hd⟩ := Nat.exists_eq_add_of_le hclog
  set c := Nat.clog 2 m with hc
  have hpow : (2 : ℤ) ^ fmt.precision = 2 * (2 ^ c * 2 ^ d) := by
    rw [hp, hd, pow_succ, pow_add]
    ring
  have hself : (m : ℤ) ≤ 2 ^ c := by exact_mod_cast Nat.le_pow_clog (by norm_num) m
  have hpred : (2 : ℤ) ^ c + 1 ≤ 2 * m := by exact_mod_cast pow_clog_lt hm
  have hpos : (0 : ℤ) < 2 ^ d := by positivity
  have hk : fmt.Full (2 * (m * 2 ^ d) - 1) := by
    have hmul := mul_le_mul_of_nonneg_right hpred hpos.le
    have hmul' := mul_le_mul_of_nonneg_right hself hpos.le
    unfold Format.Full
    rw [hpow]
    constructor <;> linarith
  have he : fmt.minExponent ≤ (c : ℤ) - fmt.precision := by
    have hmin := fmt.minExponent_le
    omega
  have hscale : (2 * (m * 2 ^ d)) * (2 : ℚ) ^ ((c : ℤ) - fmt.precision) = m := by
    rw [zpow_sub₀ two_ne_zero, zpow_natCast, zpow_natCast, hp, hd, pow_succ, pow_add]
    field_simp
  have hiff := le_nearest_iff hk he hq
  push_cast at hiff
  rw [sub_add_cancel, hscale] at hiff
  rw [hiff, Past, Format.gap, ← hc]
  have hhalf : ((2 * (m * 2 ^ d) - 1 : ℤ) + 1 / 2 : ℚ) * 2 ^ ((c : ℤ) - fmt.precision) =
      m - 2 ^ ((c : ℤ) - fmt.precision) / 2 := by
    push_cast
    linear_combination hscale
  have hodd : Odd (2 * ((m : ℤ) * 2 ^ d) - 1) := Even.sub_odd (even_two_mul _) odd_one
  rw [hhalf, and_iff_left hodd, le_iff_lt_or_eq, eq_comm]

theorem floor_nearest_eq_iff {n : ℕ} (hn : 2 * (n + 1) ≤ 2 ^ fmt.precision) (hq : 0 ≤ q) :
    ⌊fmt.nearest q⌋ = n ↔ n - fmt.gap n / 2 ≤ q ∧ q < n + 1 - fmt.gap (n + 1) / 2 := by
  have hupper := natCast_le_nearest_iff n.succ_pos hn hq
  push_cast at hupper
  have hlower : (n : ℚ) ≤ fmt.nearest q ↔ n - fmt.gap n / 2 ≤ q := by
    rcases n.eq_zero_or_pos with rfl | hpos
    · have hgap : 0 < fmt.gap 0 := two_zpow_pos _
      refine iff_of_true ?_ ?_
      · exact_mod_cast nearest_nonneg hq
      · push_cast
        linarith
    · exact natCast_le_nearest_iff hpos (by omega) hq
  rw [Int.floor_eq_iff, ← hlower, ← not_le, ← not_le, ← hupper]
  exact Iff.rfl

theorem nearest_natCast {n : ℕ} (hn : n < 2 ^ fmt.precision) : fmt.nearest n = n := by
  have hlog : Nat.log 2 n < fmt.precision := by
    rcases eq_or_ne n 0 with rfl | hzero
    · rw [Nat.log_zero_right]
      exact fmt.precision_pos
    · exact Nat.log_lt_of_lt_pow hzero hn
  have hexponent : fmt.exponent (n : ℚ) ≤ 0 := by
    have hmin := fmt.minExponent_le
    rw [Format.exponent, Int.log_natCast]
    omega
  obtain ⟨d, hd⟩ := Int.eq_ofNat_of_zero_le (neg_nonneg.2 hexponent)
  have hscaled : (n : ℚ) / 2 ^ fmt.exponent (n : ℚ) = (n * 2 ^ d : ℤ) := by
    rw [neg_eq_iff_eq_neg.1 hd, zpow_neg, div_inv_eq_mul]
    push_cast
    rw [zpow_natCast]
  have hpos := two_zpow_pos (fmt.exponent (n : ℚ))
  rw [Format.nearest, hscaled, roundEven_intCast, ← hscaled, div_mul_cancel₀ _ hpos.ne']

/-- From here on, the format has integers only. -/
theorem nearest_eq_intCast (hlarge : 2 ^ fmt.precision ≤ 2 * fmt.nearest q) :
    ∃ z : ℤ, fmt.nearest q = z := by
  rcases le_or_gt 0 (fmt.exponent q) with hexponent | hexponent
  · obtain ⟨d, hd⟩ := Int.eq_ofNat_of_zero_le hexponent
    refine ⟨roundEven (q / 2 ^ fmt.exponent q) * 2 ^ d, ?_⟩
    push_cast
    rw [Format.nearest, hd, zpow_natCast]
  · obtain ⟨p, hp⟩ := fmt.exists_precision
    have hle : fmt.nearest q ≤ 2 ^ ((-1 : ℤ) + fmt.precision) := nearest_le_zpow (by omega)
    have hpow : (2 : ℚ) ^ ((-1 : ℤ) + fmt.precision) = 2 ^ p := by
      rw [← zpow_natCast]
      congr 1
      omega
    refine ⟨2 ^ p, ?_⟩
    push_cast
    rw [hp, pow_succ] at hlarge
    rw [hpow] at hle
    linarith

theorem large_natCast {n : ℕ} (hn : 2 ^ fmt.precision ≤ 2 * n) :
    2 ^ fmt.precision ≤ 2 * fmt.nearest n := by
  obtain ⟨p, hp⟩ := fmt.exists_precision
  rw [hp, pow_succ] at hn
  have hpow : 0 < 2 ^ p := by positivity
  have hlog : p ≤ Nat.log 2 n := Nat.le_log_of_pow_le (by norm_num) (by omega)
  have hexponent : 0 ≤ fmt.exponent (n : ℚ) := by
    rw [Format.exponent, Int.log_natCast]
    omega
  have hmin := fmt.minExponent_le
  have hle : (2 : ℚ) ^ (fmt.exponent (n : ℚ) + fmt.precision - 1) ≤ fmt.nearest n :=
    zpow_le_nearest (by exact_mod_cast (by omega : 0 < n)) (by omega)
  have hmono : (2 : ℚ) ^ (p : ℤ) ≤ 2 ^ (fmt.exponent (n : ℚ) + fmt.precision - 1) :=
    two_zpow_le (by omega)
  rw [zpow_natCast] at hmono
  rw [hp, pow_succ]
  linarith

theorem exists_nearest_natCast_eq (fmt : Format) (n : ℕ) : ∃ z : ℤ, fmt.nearest n = z := by
  rcases lt_or_ge n (2 ^ fmt.precision) with hn | hn
  · exact ⟨n, nearest_natCast hn⟩
  · exact nearest_eq_intCast (large_natCast (by omega))

/-! ## Rounded alike -/

/-- No half-way point between two numbers that use every bit separates them. -/
def Format.SameSide (fmt : Format) (a b : ℚ) : Prop :=
  ∀ k e, fmt.Full k → fmt.minExponent ≤ e → (Past k e a ↔ Past k e b)

/-- A power of two is written with the exponent of the numbers below it. -/
theorem exists_full_of_large (hq : 0 ≤ q) (hlarge : 2 ^ fmt.precision ≤ 2 * fmt.nearest q) :
    ∃ k e, fmt.Full k ∧ fmt.minExponent ≤ e ∧ fmt.nearest q = (k + 1) * 2 ^ e := by
  obtain ⟨p, hp⟩ := fmt.exists_precision
  have hmin : fmt.minExponent ≤ -fmt.precision := fmt.minExponent_le
  have hpos := two_zpow_pos (fmt.exponent q)
  have hpow : (0 : ℚ) < 2 ^ fmt.precision := by positivity
  have hupper : fmt.nearest q ≤ (2 ^ fmt.precision : ℤ) * 2 ^ fmt.exponent q := by
    rw [← two_zpow_add]
    exact nearest_le_zpow (le_refl _)
  generalize hr : roundEven (q / 2 ^ fmt.exponent q) = r
  have hnearest : fmt.nearest q = r * 2 ^ fmt.exponent q := by rw [Format.nearest, hr]
  rcases lt_or_ge (2 ^ fmt.precision) (2 * r) with hhalf | hhalf
  · have hle : r ≤ 2 ^ fmt.precision := by
      rw [hnearest] at hupper
      exact_mod_cast le_of_mul_le_mul_right hupper hpos
    refine ⟨r - 1, fmt.exponent q, ⟨?_, ?_⟩, le_max_right _ _, ?_⟩
    · rw [hp, pow_succ] at hhalf ⊢
      omega
    · omega
    · rw [hnearest]
      push_cast
      ring
  · have hcast : (2 * r : ℚ) ≤ 2 ^ fmt.precision := by exact_mod_cast hhalf
    have hle : 2 * fmt.nearest q ≤ 2 ^ fmt.precision * 2 ^ fmt.exponent q := by
      rw [hnearest, ← mul_assoc]
      exact mul_le_mul_of_nonneg_right hcast hpos.le
    have hexponent : 0 ≤ fmt.exponent q := by
      by_contra hneg
      have hlt : (2 : ℚ) ^ fmt.exponent q < 1 := zpow_lt_one_of_neg₀ (by norm_num) (by omega)
      have hmul := mul_lt_mul_of_pos_left hlt hpow
      linarith
    have hq' : 0 < q := by
      refine hq.lt_of_ne' fun h => ?_
      rw [h, nearest_zero] at hlarge
      linarith
    have hge : (2 : ℚ) ^ (fmt.exponent q + fmt.precision - 1) ≤ fmt.nearest q :=
      zpow_le_nearest hq' (by omega)
    rw [zpow_sub_one₀ two_ne_zero, zpow_add₀ two_ne_zero, zpow_natCast] at hge
    refine ⟨2 ^ fmt.precision - 1, fmt.exponent q - 1, ⟨?_, ?_⟩, by omega, ?_⟩
    · have hone : (1 : ℤ) ≤ 2 ^ p := by exact_mod_cast Nat.one_le_two_pow
      rw [hp, pow_succ]
      omega
    · omega
    · rw [zpow_sub_one₀ two_ne_zero]
      push_cast
      linarith

theorem Format.SameSide.nearest_le {a b : ℚ} (h : fmt.SameSide a b) (ha : 0 ≤ a) (hb : 0 ≤ b)
    (hlarge : 2 ^ fmt.precision ≤ 2 * fmt.nearest b) : fmt.nearest b ≤ fmt.nearest a := by
  obtain ⟨k, e, hk, he, heq⟩ := exists_full_of_large hb hlarge
  rw [heq, le_nearest_iff hk he ha, h k e hk he, ← le_nearest_iff hk he hb, heq]

theorem nearest_eq_iff_sameSide {a b : ℚ} (ha : 0 ≤ a) (hb : 0 ≤ b)
    (hlarge : 2 ^ fmt.precision ≤ 2 * fmt.nearest b) :
    fmt.nearest a = fmt.nearest b ↔ fmt.SameSide a b := by
  constructor
  · intro h k e hk he
    rw [← le_nearest_iff hk he ha, ← le_nearest_iff hk he hb, h]
  · intro h
    have hle : fmt.nearest b ≤ fmt.nearest a := h.nearest_le ha hb hlarge
    have hside : fmt.SameSide b a := fun k e hk he => (h k e hk he).symm
    exact le_antisymm (hside.nearest_le hb ha (by linarith)) hle

/-! ## The same integer -/

/-- `q` keeps the integer part `n` when both are rounded. -/
def Format.SameFloor (fmt : Format) (n : ℕ) (q : ℚ) : Prop :=
  if 2 * (n + 1) ≤ 2 ^ fmt.precision then
    n - fmt.gap n / 2 ≤ q ∧ q < n + 1 - fmt.gap (n + 1) / 2
  else fmt.SameSide q n

theorem floor_nearest_eq_nearest_iff {n : ℕ} (hq : 0 ≤ q) :
    (⌊fmt.nearest q⌋ : ℚ) = fmt.nearest n ↔ fmt.SameFloor n q := by
  unfold Format.SameFloor
  split
  · rename_i hsmall
    rw [nearest_natCast (by omega), ← floor_nearest_eq_iff hsmall hq]
    exact_mod_cast Iff.rfl
  · rename_i hsmall
    obtain ⟨p, hp⟩ := fmt.exists_precision
    have hlarge : 2 ^ fmt.precision ≤ 2 * fmt.nearest n := by
      refine large_natCast ?_
      rw [hp, pow_succ] at hsmall ⊢
      omega
    rw [← nearest_eq_iff_sameSide hq n.cast_nonneg hlarge]
    constructor
    · intro h
      have hfloor := Int.floor_le (fmt.nearest q)
      have hlarge' : 2 ^ fmt.precision ≤ 2 * fmt.nearest q := by linarith
      obtain ⟨z, hz⟩ := nearest_eq_intCast hlarge'
      rw [hz, Int.floor_intCast] at h
      rw [hz, h]
    · intro h
      obtain ⟨z, hz⟩ := exists_nearest_natCast_eq fmt n
      rw [h, hz, Int.floor_intCast]

theorem sameFloor_self (n : ℕ) : fmt.SameFloor n n := by
  obtain ⟨z, hz⟩ := exists_nearest_natCast_eq fmt n
  rw [← floor_nearest_eq_nearest_iff n.cast_nonneg, hz, Int.floor_intCast]

end Rounding
