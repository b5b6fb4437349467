import VictoryFairy.Model.ScoreCrawl
import VictoryFairy.Proofs.MatchupCell

/-!
# A crawled score that is no integer

`isNumber` and `parseInt` read a text with two grammars.  `NumericLiteral.integer` is what
`parseInt` makes of a literal that `+text` knows: the integer part of hexadecimal literals,
and of decimals whose value stays with the digits before the point.

    parseInt_eq                  : blanks are not read
    readInteger_literal          : what `parseInt` makes of a literal
    integerOrNull_iff            : the texts whose score is an integer or `null`
    crawledScore_toString        : the natural numbers are among them
    getCurrentGameStatus_crawled : the update of a game such texts make
-/

namespace VictoryFairy

namespace Js

variable {cs blanks digits : List Char} {radix : Nat} {negative : Bool}
  {letter : Char} {l : NumericLiteral}

/-! ## Blanks -/

theorem space_toNat {c : Char} (h : isJsSpace c = true) : c.toNat ≤ 32 ∨ 160 ≤ c.toNat := by
  unfold isJsSpace at h
  simp only [Bool.or_eq_true, Bool.and_eq_true, decide_eq_true_eq, beq_iff_eq] at h
  omega

theorem isLower_bounds {c : Char} (h : c.isLower = true) : 97 ≤ c.toNat ∧ c.toNat ≤ 122 := by
  unfold Char.isLower at h
  simp only [Bool.and_eq_true, decide_eq_true_eq] at h
  exact ⟨UInt32.le_iff_toNat_le.1 h.1, UInt32.le_iff_toNat_le.1 h.2⟩

theorem isUpper_bounds {c : Char} (h : c.isUpper = true) : 65 ≤ c.toNat ∧ c.toNat ≤ 90 := by
  unfold Char.isUpper at h
  simp only [decide_eq_true_eq] at h
  exact ⟨UInt32.le_iff_toNat_le.1 h.1, UInt32.le_iff_toNat_le.1 h.2⟩

theorem digitValue_space {c : Char} (h : isJsSpace c = true) : digitValue c = 36 := by
  have htoNat := space_toNat h
  have hdigit : ¬c.isDigit = true := fun hc => by
    have hbounds := isDigit_bounds hc
    omega
  have hlower : ¬c.isLower = true := fun hc => by
    have hbounds := isLower_bounds hc
    omega
  have hupper : ¬c.isUpper = true := fun hc => by
    have hbounds := isUpper_bounds hc
    omega
  rw [digitValue, if_neg hdigit, if_neg hlower, if_neg hupper]

theorem space_ne {c d : Char} (h : isJsSpace c = true) (hd : isJsSpace d = false) : c ≠ d := by
  rintro rfl
  rw [h] at hd
  exact Bool.true_eq_false_eq_False hd

theorem takeWhile_append_blanks (h : Blanks blanks) (hradix : radix ≤ 36) :
    (cs ++ blanks).takeWhile (isDigitOf radix) = cs.takeWhile (isDigitOf radix) := by
  have hnone : blanks.takeWhile (isDigitOf radix) = [] := by
    cases blanks with
    | nil => rfl
    | cons c rest =>
      have hc : isDigitOf radix c = false := by
        rw [isDigitOf, digitValue_space (h c List.mem_cons_self)]
        exact decide_eq_false (by omega)
      rw [List.takeWhile_cons, hc, if_neg Bool.false_ne_true]
  rw [List.takeWhile_append, hnone, List.append_nil]
  split
  · rename_i hlen
    exact ((List.takeWhile_prefix _).eq_of_length hlen).symm
  · rfl

theorem readSign_append_blanks (h : Blanks blanks) :
    readSign (cs ++ blanks) = ((readSign cs).1, (readSign cs).2 ++ blanks) := by
  cases cs with
  | nil =>
    cases blanks with
    | nil => rfl
    | cons c rest =>
      have hc := h c List.mem_cons_self
      have hminus := space_ne hc (d := '-') (by decide)
      have hplus := space_ne hc (d := '+') (by decide)
      simp [readSign, hminus, hplus]
  | cons c rest =>
    rw [List.cons_append, readSign, readSign]
    split
    · rfl
    · split <;> rfl

theorem prefixRadix_space {c : Char} (h : isJsSpace c = true) : prefixRadix c = none := by
  have hne (d : Char) (hd : isJsSpace d = false) : c ≠ d := space_ne h hd
  rw [prefixRadix, if_neg, if_neg, if_neg]
  all_goals exact not_or.2 ⟨hne _ (by decide), hne _ (by decide)⟩

theorem readPrefix_append_blanks (h : Blanks blanks) :
    readPrefix (cs ++ blanks) = (readPrefix cs).map fun p => (p.1, p.2 ++ blanks) := by
  cases cs with
  | nil =>
    cases blanks with
    | nil => rfl
    | cons c rest =>
      have hc := space_ne (h c List.mem_cons_self) (d := '0') (by decide)
      cases rest with
      | nil => rfl
      | cons d rest => simp [readPrefix, hc]
  | cons zero cs =>
    cases cs with
    | nil =>
      cases blanks with
      | nil => rfl
      | cons c rest =>
        simp [readPrefix, prefixRadix_space (h c List.mem_cons_self)]
    | cons letter rest =>
      simp only [List.cons_append, readPrefix]
      split
      · rw [Option.map_map]
        rfl
      · rfl

theorem parseIntRadix_append_blanks (h : Blanks blanks) :
    parseIntRadix (cs ++ blanks) = ((parseIntRadix cs).1, (parseIntRadix cs).2 ++ blanks) := by
  unfold parseIntRadix
  rw [readPrefix_append_blanks h]
  cases readPrefix cs with
  | none => rfl
  | some p =>
    simp only [Option.map_some]
    split <;> rfl

theorem parseIntRadix_le (cs : List Char) : (parseIntRadix cs).1 ≤ 36 := by
  unfold parseIntRadix
  split
  · split <;> simp
  · simp

theorem readInteger_append_blanks (h : Blanks blanks) :
    readInteger (cs ++ blanks) = readInteger cs := by
  unfold readInteger
  simp only [readSign_append_blanks h, parseIntRadix_append_blanks h,
    takeWhile_append_blanks h (parseIntRadix_le _)]

theorem parseInt_eq (s : String) : parseInt s = readInteger (trim s.toList) := by
  obtain ⟨blanks, hblanks, happend⟩ := exists_trim_append s.toList
  rw [parseInt, happend, readInteger_append_blanks hblanks]

/-! ## Literals -/

/-- What `parseInt` makes of a literal. -/
def NumericLiteral.integer : NumericLiteral → Number
  | .blank => .nan
  | .nonDecimal radix digits =>
    if radix = 16 then .round false (digitsValue 16 digits) else .finite 0
  | .infinity _ => .nan
  | .decimal negative int _ _ =>
    if int = [] then .nan else .round negative (digitsValue 10 int)

theorem round_zero (negative : Bool) : Number.round negative 0 = .finite 0 := by
  rw [Number.round, Rounding.nearest_zero, if_pos (by positivity), neg_zero, ite_self]

theorem prefixRadix_letter (h : prefixRadix letter = some radix) :
    letter ∈ ['b', 'B', 'o', 'O', 'x', 'X'] ∧ radix ∈ [2, 8, 16] := by
  unfold prefixRadix at h
  split at h
  · rename_i hb
    cases h
    rcases hb with rfl | rfl <;> simp
  split at h
  · rename_i ho
    cases h
    rcases ho with rfl | rfl <;> simp
  split at h
  · rename_i hx
    cases h
    rcases hx with rfl | rfl <;> simp
  · cases h

theorem letter_reads_nothing (h : letter ∈ ['b', 'B', 'o', 'O', 'x', 'X']) :
    isDigitOf 10 letter = false ∧ letter ≠ '.' ∧ ¬(letter = 'e' ∨ letter = 'E') := by
  simp only [List.mem_cons, List.not_mem_nil, or_false] at h
  rcases h with rfl | rfl | rfl | rfl | rfl | rfl <;> decide

theorem takeWhile_zero (h : prefixRadix letter = some radix) :
    ('0' :: letter :: digits).takeWhile (isDigitOf 10) = ['0'] ∧
      ('0' :: letter :: digits).dropWhile (isDigitOf 10) = letter :: digits := by
  obtain ⟨hdigit, -⟩ := letter_reads_nothing (prefixRadix_letter h).1
  have hzero : isDigitOf 10 '0' = true := by decide
  simp [hzero, hdigit]

theorem readPrefix_eq_some (h : readPrefix cs = some (radix, digits)) :
    ∃ letter, cs = '0' :: letter :: digits ∧ prefixRadix letter = some radix := by
  unfold readPrefix at h
  split at h
  · rename_i zero letter rest
    split at h
    · rename_i hzero
      obtain ⟨r, hr, heq⟩ := Option.map_eq_some_iff.1 h
      cases heq
      exact ⟨letter, by rw [hzero], hr⟩
    · cases h
  · cases h

/-- Behind a zero that reads as a prefix, a decimal literal cannot go on. -/
theorem parseIntRadix_of_readDecimal (h : readDecimal negative cs = some l) :
    parseIntRadix cs = (10, cs) := by
  unfold parseIntRadix
  split
  · rename_i radix digits hprefix
    obtain ⟨letter, rfl, hletter⟩ := readPrefix_eq_some hprefix
    obtain ⟨-, hpoint, hexponent⟩ := letter_reads_nothing (prefixRadix_letter hletter).1
    simp [readDecimal, takeWhile_zero hletter, readFraction, hpoint, readExponent,
      hexponent] at h
  · rfl

theorem readInteger_prefix (hletter : prefixRadix letter = some radix)
    (hdigits : digits ≠ []) (hall : digits.all (isDigitOf radix) = true) :
    readInteger ('0' :: letter :: digits) = (NumericLiteral.nonDecimal radix digits).integer := by
  have hsign : readSign ('0' :: letter :: digits) = (false, '0' :: letter :: digits) := rfl
  have hprefix : readPrefix ('0' :: letter :: digits) = some (radix, digits) := by
    rw [readPrefix, if_pos rfl, hletter]
    rfl
  by_cases hhex : radix = 16
  · subst hhex
    have hradix : parseIntRadix ('0' :: letter :: digits) = (16, digits) := by
      rw [parseIntRadix, hprefix]
      rfl
    have htake : digits.takeWhile (isDigitOf 16) = digits :=
      List.takeWhile_eq_self_iff.2 fun c hc => List.all_eq_true.1 hall c hc
    rw [readInteger, hsign, hradix]
    simp only
    rw [htake, if_neg hdigits, NumericLiteral.integer, if_pos rfl]
  · have hradix : parseIntRadix ('0' :: letter :: digits) = (10, '0' :: letter :: digits) := by
      rw [parseIntRadix, hprefix]
      exact if_neg hhex
    rw [readInteger, hsign, hradix]
    simp only
    rw [(takeWhile_zero hletter).1, if_neg (List.cons_ne_nil _ _), NumericLiteral.integer,
      if_neg hhex]
    exact round_zero false

theorem readInteger_decimal (h : readDecimal (readSign cs).1 (readSign cs).2 = some l) :
    readInteger cs = l.integer := by
  rw [readInteger, parseIntRadix_of_readDecimal h]
  unfold readDecimal at h
  dsimp only at h
  split at h
  · cases h
  · obtain ⟨exponent, -, heq⟩ := Option.map_eq_some_iff.1 h
    rw [← heq]
    rfl

theorem readInteger_literal (h : readLiteral cs = some l) : readInteger cs = l.integer := by
  unfold readLiteral at h
  split at h
  · rename_i hnil
    cases h
    rw [hnil]
    rfl
  split at h
  · rename_i radix digits hprefix
    obtain ⟨letter, rfl, hletter⟩ := readPrefix_eq_some hprefix
    split at h
    · rename_i hdigits
      cases h
      exact readInteger_prefix hletter hdigits.1 hdigits.2
    · cases h
  split at h
  · rename_i hinfinity
    cases h
    rw [readInteger, hinfinity]
    rfl
  · exact readInteger_decimal h

/-! ## The integer part -/

/-- The literals of which `parseInt` reads the integer part of the number. -/
def NumericLiteral.KeepsInteger : NumericLiteral → Prop
  | .blank => False
  | .nonDecimal radix digits => radix = 16 ∨ ∀ c ∈ digits, c = '0'
  | .infinity _ => False
  | .decimal _ int frac exponent =>
    int ≠ [] ∧ double.SameFloor (digitsValue 10 int) (decimalValue int frac exponent)

theorem round_eq_finite_iff {q r : ℚ} : Number.round negative q = .finite r ↔
    double.nearest q < 2 ^ 1024 ∧ (if negative then -double.nearest q else double.nearest q) = r := by
  unfold Number.round
  split
  · rename_i hfinite
    rw [Number.finite.injEq, and_iff_right hfinite]
  · rename_i hinfinite
    simp [hinfinite]

theorem trunc_neg {q : ℚ} (hq : 0 ≤ q) : trunc (-q) = -⌊q⌋ := by
  unfold trunc
  split
  · rename_i hneg
    obtain rfl : q = 0 := le_antisymm (by linarith) hq
    simp
  · rw [Int.ceil_neg]

/-- The sign stays with both. -/
theorem round_eq_trunc_iff {n : Nat} {v q : ℚ} (hv : 0 ≤ v)
    (hq : Number.round negative v = .finite q) :
    Number.round negative n = .finite (trunc q) ↔ double.SameFloor n v := by
  obtain ⟨hfinite, rfl⟩ := round_eq_finite_iff.1 hq
  have hnonneg : 0 ≤ double.nearest v := Rounding.nearest_nonneg hv
  have hbound : (⌊double.nearest v⌋ : ℚ) = double.nearest n → double.nearest n < 2 ^ 1024 :=
    fun h => (h.symm.le.trans (Int.floor_le _)).trans_lt hfinite
  rw [← Rounding.floor_nearest_eq_nearest_iff hv, round_eq_finite_iff]
  cases negative with
  | false =>
    rw [if_neg Bool.false_ne_true, if_neg Bool.false_ne_true, trunc, if_pos hnonneg]
    exact ⟨fun h => h.2.symm, fun h => ⟨hbound h, h.symm⟩⟩
  | true =>
    rw [if_pos rfl, if_pos rfl, trunc_neg hnonneg, Int.cast_neg, neg_inj]
    exact ⟨fun h => h.2.symm, fun h => ⟨hbound h, h.symm⟩⟩

theorem digitValue_eq_zero_iff {c : Char} : digitValue c = 0 ↔ c = '0' := by
  constructor
  · intro h
    unfold digitValue at h
    split at h
    · rename_i hdigit
      obtain ⟨hlow, -⟩ := isDigit_bounds hdigit
      have htoNat : c.toNat = '0'.toNat := by
        simp only [Char.reduceToNat] at h ⊢
        omega
      exact Char.toNat_inj.1 htoNat
    · split at h
      · omega
      · split at h <;> omega
  · rintro rfl
    rfl

theorem digitsValue_append (radix : Nat) (digits : List Char) (c : Char) :
    digitsValue radix (digits ++ [c]) = radix * digitsValue radix digits + digitValue c := by
  simp [digitsValue]

theorem digitsValue_eq_zero_iff (hradix : 0 < radix) :
    digitsValue radix digits = 0 ↔ ∀ c ∈ digits, c = '0' := by
  induction digits using List.reverseRecOn with
  | nil => simp [digitsValue]
  | append_singleton digits c ih =>
    rw [digitsValue_append, Nat.add_eq_zero_iff, Nat.mul_eq_zero, digitValue_eq_zero_iff,
      or_iff_right hradix.ne', ih]
    simp [or_imp, forall_and]

theorem decimalValue_nonneg (int frac : List Char) (exponent : Int) :
    0 ≤ decimalValue int frac exponent := by
  unfold decimalValue
  exact mul_nonneg (Nat.cast_nonneg _) (zpow_nonneg (by norm_num) _)

theorem sameFloor_zero_iff (n : Nat) : double.SameFloor 0 n ↔ n = 0 := by
  rw [← Rounding.floor_nearest_eq_nearest_iff n.cast_nonneg, Nat.cast_zero, Rounding.nearest_zero,
    Int.cast_eq_zero]
  constructor
  · intro h
    by_contra hn
    have hone : ((1 : Nat) : ℚ) ≤ double.nearest n := by
      rw [Rounding.natCast_le_nearest_iff Nat.one_pos (by decide) n.cast_nonneg]
      have hle : (1 : ℚ) ≤ n := by exact_mod_cast Nat.one_le_iff_ne_zero.2 hn
      have hgap : 0 < double.gap 1 := Rounding.two_zpow_pos _
      rw [Nat.cast_one]
      linarith
    have hfloor : 1 ≤ ⌊double.nearest n⌋ := Int.le_floor.2 (by exact_mod_cast hone)
    omega
  · rintro rfl
    rw [Nat.cast_zero, Rounding.nearest_zero, Int.floor_zero]

theorem radix_of_readLiteral (h : readLiteral cs = some (.nonDecimal radix digits)) :
    radix ∈ [2, 8, 16] := by
  unfold readLiteral at h
  split at h
  · cases h
  split at h
  · rename_i radix digits hprefix
    obtain ⟨letter, -, hletter⟩ := readPrefix_eq_some hprefix
    split at h
    · cases h
      exact (prefixRadix_letter hletter).2
    · cases h
  split at h
  · cases h
  · unfold readDecimal at h
    dsimp only at h
    split at h
    · cases h
    · obtain ⟨exponent, -, heq⟩ := Option.map_eq_some_iff.1 h
      cases heq

/-- Each literal that `+text` makes a finite number of. -/
theorem integer_eq_trunc_iff {q : ℚ} (h : readLiteral cs = some l) (hq : l.number = .finite q) :
    l.integer = .finite (trunc q) ↔ l.KeepsInteger := by
  cases l with
  | blank => simp [NumericLiteral.integer, NumericLiteral.KeepsInteger]
  | nonDecimal radix digits =>
    rw [NumericLiteral.integer, NumericLiteral.KeepsInteger]
    split
    · rename_i hhex
      subst hhex
      rw [round_eq_trunc_iff (Nat.cast_nonneg _) hq]
      exact iff_of_true (Rounding.sameFloor_self _) (Or.inl rfl)
    · rename_i hhex
      have hradix : 0 < radix := by
        have hmem := radix_of_readLiteral h
        simp only [List.mem_cons, List.not_mem_nil, or_false] at hmem
        omega
      rw [or_iff_right hhex, ← digitsValue_eq_zero_iff hradix, ← sameFloor_zero_iff,
        ← round_eq_trunc_iff (Nat.cast_nonneg _) hq, Nat.cast_zero, round_zero]
  | infinity negative => cases hq
  | decimal negative int frac exponent =>
    rw [NumericLiteral.integer, NumericLiteral.KeepsInteger]
    split
    · rename_i hint
      simp [hint]
    · rename_i hint
      rw [and_iff_right hint]
      exact round_eq_trunc_iff (decimalValue_nonneg int frac exponent) hq

/-- The literals in which `parseInt` finds no digit. -/
def NumericLiteral.NoInteger : NumericLiteral → Prop
  | .blank => True
  | .nonDecimal _ _ => False
  | .infinity _ => True
  | .decimal _ int _ _ => int = []

theorem round_ne_nan (negative : Bool) (q : ℚ) : Number.round negative q ≠ .nan := by
  unfold Number.round
  split <;> simp

theorem integer_eq_nan_iff : l.integer = .nan ↔ l.NoInteger := by
  cases l with
  | blank | infinity _ => exact iff_of_true rfl trivial
  | nonDecimal radix digits =>
    refine iff_of_false ?_ id
    rw [NumericLiteral.integer]
    split
    · exact round_ne_nan false _
    · simp
  | decimal negative int frac exponent =>
    rw [NumericLiteral.integer, NumericLiteral.NoInteger]
    split
    · rename_i hint
      exact iff_of_true rfl hint
    · rename_i hint
      exact iff_of_false (round_ne_nan negative _) hint

/-! ## Natural numbers -/

theorem isDigitOf_ten {c : Char} (h : c.isDigit = true) : isDigitOf 10 c = true := by
  obtain ⟨hlow, hhigh⟩ := isDigit_bounds h
  rw [isDigitOf, digitValue, if_pos h]
  simp only [Char.reduceToNat, decide_eq_true_eq]
  omega

theorem digitsValue_toString (n : Nat) : digitsValue 10 (toString n).toList = n := by
  obtain ⟨hdigits, hall⟩ := toString_digits n
  have hfold : digitsValue 10 (toString n).toList = Nat.ofDigitChars 10 (toString n).toList 0 := by
    refine List.foldl_ext _ _ 0 fun m c hc => ?_
    rw [digitValue, if_pos (hall c hc)]
  rw [hfold, hdigits, Nat.ofDigitChars_toDigits (by decide) (by decide)]

theorem readLiteral_toString (n : Nat) :
    readLiteral (toString n).toList = some (.decimal false (toString n).toList [] 0) := by
  obtain ⟨hdigits, hall⟩ := toString_digits n
  have hne : (toString n).toList ≠ [] := hdigits ▸ Nat.toDigits_ne_nil
  generalize (toString n).toList = digits at hall hne
  have hprefix : readPrefix digits = none := by
    rw [Option.eq_none_iff_forall_ne_some]
    rintro ⟨radix, rest⟩ h
    obtain ⟨letter, rfl, hletter⟩ := readPrefix_eq_some h
    have hletter' := (letter_reads_nothing (prefixRadix_letter hletter).1).1
    rw [isDigitOf_ten (hall letter (by simp))] at hletter'
    cases hletter'
  have hsign : readSign digits = (false, digits) := by
    obtain ⟨c, rest, rfl⟩ := List.exists_cons_of_ne_nil hne
    have hc := isDigit_bounds (hall c List.mem_cons_self)
    rw [readSign, if_neg, if_neg]
    all_goals
      rintro rfl
      exact absurd hc (by decide)
  have hinfinity : digits ≠ "Infinity".toList := by
    rintro rfl
    exact absurd (hall 'I' (by decide)) (by decide)
  have hten : ∀ c ∈ digits, isDigitOf 10 c = true := fun c hc => isDigitOf_ten (hall c hc)
  have htake : digits.takeWhile (isDigitOf 10) = digits := List.takeWhile_eq_self_iff.2 hten
  have hdrop : digits.dropWhile (isDigitOf 10) = [] := List.dropWhile_eq_nil_iff.2 hten
  rw [readLiteral, if_neg hne, hprefix]
  simp only
  rw [hsign, if_neg hinfinity, readDecimal, htake, hdrop]
  simp [hne, readFraction, readExponent]

end Js

/-! ## The score -/

/-- `null`, or the integer part of the number that `isNumber` recognised. -/
def IntegerOrNull (innerText : String) : Prop :=
  ∀ score, crawledScore (some innerText) = some score →
    ∃ q, Js.toNumber innerText = .finite q ∧ score = .finite (Js.trunc q)

theorem crawledScore_eq_some {innerText : String} {score : Js.Number} :
    crawledScore (some innerText) = some score ↔
      isNumber innerText = true ∧ Js.parseInt innerText = score := by
  unfold crawledScore
  dsimp only
  split
  · rename_i h
    rw [Option.some.injEq, and_iff_right h]
  · rename_i h
    simp [h]

/-- What `isNumber` accepts is a literal, and not too great. -/
theorem exists_literal {innerText : String} (h : isNumber innerText = true) :
    ∃ l q, Js.readLiteral (trim innerText.toList) = some l ∧ l.number = .finite q ∧
      Js.toNumber innerText = .finite q ∧ Js.parseInt innerText = l.integer := by
  obtain ⟨-, hfinite⟩ := Bool.and_eq_true_iff.1 h
  cases hl : Js.readLiteral (trim innerText.toList) with
  | none =>
    rw [Js.toNumber, hl] at hfinite
    cases hfinite
  | some l =>
    have hnumber : Js.toNumber innerText = l.number := by
      rw [Js.toNumber, hl]
      rfl
    rw [hnumber] at hfinite ⊢
    cases hq : l.number with
    | nan | infinity _ =>
      rw [hq] at hfinite
      cases hfinite
    | finite q =>
      refine ⟨l, q, rfl, hq, rfl, ?_⟩
      rw [Js.parseInt_eq, Js.readInteger_literal hl]

/-- Of the texts that `isNumber` accepts, the hexadecimal literals, the binary and octal ones
of zero, and the decimals with a digit before the point whose value stays with that integer. -/
theorem integerOrNull_iff (innerText : String) :
    IntegerOrNull innerText ↔ isNumber innerText = false ∨
      ∃ l, Js.readLiteral (trim innerText.toList) = some l ∧ l.KeepsInteger := by
  cases haccepted : isNumber innerText with
  | false =>
    refine iff_of_true (fun score hscore => ?_) (Or.inl rfl)
    rw [crawledScore_eq_some, haccepted] at hscore
    cases hscore.1
  | true =>
    obtain ⟨l, q, hl, hq, hnumber, hparse⟩ := exists_literal haccepted
    have hkeeps := Js.integer_eq_trunc_iff hl hq
    rw [or_iff_right Bool.true_eq_false_eq_False]
    constructor
    · intro h
      obtain ⟨q', hq', hscore⟩ := h _ (crawledScore_eq_some.2 ⟨haccepted, hparse⟩)
      rw [hnumber, Js.Number.finite.injEq] at hq'
      rw [← hq'] at hscore
      exact ⟨l, hl, hkeeps.1 hscore⟩
    · rintro ⟨l', hl', hkept⟩ score hscore
      rw [hl, Option.some.injEq] at hl'
      rw [← hl'] at hkept
      refine ⟨q, hnumber, ?_⟩
      rw [← (crawledScore_eq_some.1 hscore).2, hparse, hkeeps.2 hkept]

/-- No digit before the point: `NaN`, which is not `null`. -/
theorem integerOrNull_not_point :
    crawledScore (some ".5") = some .nan ∧ ¬ IntegerOrNull ".5" := by
  have hnan : crawledScore (some ".5") = some .nan := by decide +kernel
  refine ⟨hnan, fun h => ?_⟩
  obtain ⟨q, -, hscore⟩ := h _ hnan
  cases hscore

/-- The scores of a game. -/
theorem crawledScore_toString {before after : String} (hbefore : isBlank before = true)
    (hafter : isBlank after = true) {n : Nat} (hn : n < 2 ^ 53) :
    crawledScore (some (before ++ toString n ++ after)) = some (.finite n) := by
  obtain ⟨hhead, hlast⟩ := digits_ends n
  obtain ⟨hdigits, hall⟩ := toString_digits n
  have hne : (toString n).toList ≠ [] := hdigits ▸ Nat.toDigits_ne_nil
  have htrim : trim (before ++ toString n ++ after).toList = (toString n).toList := by
    rw [String.toList_append, String.toList_append]
    exact trim_blanks (blanks_of_isBlank hbefore) (blanks_of_isBlank hafter) hne hhead hlast
  have hround : Js.Number.round false n = .finite n := by
    rw [Js.round_eq_finite_iff, Rounding.nearest_natCast hn, if_neg Bool.false_ne_true]
    refine ⟨?_, rfl⟩
    have hcast : (n : ℚ) < 2 ^ 53 := by exact_mod_cast hn
    exact hcast.trans (pow_lt_pow_right₀ (by norm_num) (by norm_num))
  have hnumber : Js.toNumber (before ++ toString n ++ after) = .finite n := by
    rw [Js.toNumber, htrim, Js.readLiteral_toString, Option.elim_some, Js.NumericLiteral.number,
      Js.decimalValue, List.append_nil, Js.digitsValue_toString]
    simpa using hround
  have haccepted : isNumber (before ++ toString n ++ after) = true := by
    obtain ⟨c, rest, hcons⟩ := List.exists_cons_of_ne_nil hne
    have hmem : c ∈ (before ++ toString n ++ after).toList := by
      rw [String.toList_append, String.toList_append, hcons]
      simp
    have hbounds := isDigit_bounds (hall c (by rw [hcons]; exact List.mem_cons_self))
    rw [isNumber, hnumber, Bool.and_eq_true_iff, List.any_eq_true]
    refine ⟨⟨c, hmem, ?_⟩, rfl⟩
    rw [decide_eq_true_eq]
    omega
  rw [crawledScore_eq_some, Js.parseInt_eq, htrim,
    Js.readInteger_literal (Js.readLiteral_toString n), Js.NumericLiteral.integer, if_neg hne,
    Js.digitsValue_toString]
  exact ⟨haccepted, hround⟩

/-- A score is `NaN` where no digit stands before the point, or nothing but blanks. -/
theorem crawledScore_eq_nan_iff (innerText : String) :
    crawledScore (some innerText) = some .nan ↔ isNumber innerText = true ∧
      ∃ l, Js.readLiteral (trim innerText.toList) = some l ∧ l.NoInteger := by
  rw [crawledScore_eq_some]
  refine and_congr_right fun haccepted => ?_
  obtain ⟨l, q, hl, -, -, hparse⟩ := exists_literal haccepted
  rw [hparse, Js.integer_eq_nan_iff]
  constructor
  · intro h
    exact ⟨l, hl, h⟩
  · rintro ⟨l', hl', h⟩
    rw [hl, Option.some.injEq] at hl'
    rwa [hl']

/-! ## The update -/

/-- The update of a game as it was crawled. -/
def UpdateGameScoreInput.crawled (input : UpdateGameScoreInput) : CrawledGameStatus where
  homeScore := input.homeScore.map fun z : Int => .finite z
  awayScore := input.awayScore.map fun z : Int => .finite z
  status := input.status

theorem exists_integer {element : Option String}
    (h : ∀ innerText, element = some innerText → IntegerOrNull innerText) :
    ∃ score : Option Int, crawledScore element = score.map fun z : Int => .finite z := by
  cases hscore : crawledScore element with
  | none => exact ⟨none, rfl⟩
  | some score =>
    cases element with
    | none => cases hscore
    | some innerText =>
      obtain ⟨q, -, rfl⟩ := h innerText rfl score hscore
      exact ⟨some (Js.trunc q), rfl⟩

/-- From such a page, and from none, the crawl makes an update that a game can be given. -/
theorem getCurrentGameStatus_crawled {scoreRes : Option ScorePage} {statusRes : Option StatusPage}
    (h : ∀ page innerText, scoreRes = some page → page.homeScoreElement = some innerText ∨
      page.awayScoreElement = some innerText → IntegerOrNull innerText) :
    ∃ input : UpdateGameScoreInput, getCurrentGameStatus scoreRes statusRes = input.crawled := by
  cases scoreRes with
  | none => exact ⟨⟨none, none, none⟩, rfl⟩
  | some page =>
    cases statusRes with
    | none => exact ⟨⟨none, none, none⟩, rfl⟩
    | some statusPage =>
      obtain ⟨homeScore, hhome⟩ := exists_integer fun innerText htext =>
        h page innerText rfl (Or.inl htext)
      obtain ⟨awayScore, haway⟩ := exists_integer fun innerText htext =>
        h page innerText rfl (Or.inr htext)
      refine ⟨⟨homeScore, awayScore, extractStatus statusPage⟩, ?_⟩
      rw [getCurrentGameStatus, extractScore, hhome, haway]
      rfl

end VictoryFairy
