import Mathlib.Data.List.TakeWhile
import VictoryFairy.Lib.Packed
import VictoryFairy.Model.MyPage
import VictoryFairy.Proofs.DoubleHeader

/-!
# The score of a record

`getIntegerScoreForRedis` packs `win - lose` and the number of games; with fewer than
10000 games nothing carries over.

    parseDecimal_toString    : a stored number is read back
    storedScore_order        : what is displayed, and how stored scores compare
    myPage_matches_total_iff : my page shows the score of the ranking below 1000 games
-/

namespace VictoryFairy

/-! ## Numbers as text -/

theorem isDigit_bounds {c : Char} (h : c.isDigit = true) : 48 ≤ c.toNat ∧ c.toNat ≤ 57 := by
  unfold Char.isDigit at h
  simp only [Bool.and_eq_true, decide_eq_true_eq] at h
  exact ⟨UInt32.le_iff_toNat_le.1 h.1, UInt32.le_iff_toNat_le.1 h.2⟩

theorem digit_not_space {c : Char} (h : c.isDigit = true) : isJsSpace c = false := by
  obtain ⟨hlo, hhi⟩ := isDigit_bounds h
  unfold isJsSpace
  simp only [Bool.or_eq_false_iff, Bool.and_eq_false_iff, decide_eq_false_iff_not, beq_eq_false_iff_ne]
  omega

theorem parseDigits_toString (n : Nat) : parseDigits (toString n).toList = some n := by
  obtain ⟨hdigits, hall⟩ := toString_digits n
  have htake : (toString n).toList.takeWhile Char.isDigit = Nat.toDigits 10 n := by
    rw [List.takeWhile_eq_self_iff.2 hall, hdigits]
  unfold parseDigits
  rw [htake]
  dsimp only
  rw [if_neg Nat.toDigits_ne_nil, Nat.ofDigitChars_toDigits (by decide) (by decide)]

theorem parseDecimal_natural (n : Nat) : parseDecimal (toString n) = some (n : Int) := by
  have hdigits := parseDigits_toString n
  obtain ⟨hlist, hall⟩ := toString_digits n
  obtain ⟨c, cs, hcs⟩ := List.exists_cons_of_ne_nil (hlist ▸ Nat.toDigits_ne_nil)
  have hc : c.isDigit = true := hall c (hcs ▸ List.mem_cons_self)
  rw [hcs] at hdigits
  unfold parseDecimal
  rw [hcs, List.dropWhile_cons, digit_not_space hc, if_neg Bool.false_ne_true]
  split
  · next h => exact absurd ((List.cons.inj h).1 ▸ hc) (by decide)
  · next h => exact absurd ((List.cons.inj h).1 ▸ hc) (by decide)
  · rw [hdigits]
    rfl

theorem parseDecimal_toString (n : Int) : parseDecimal (toString n) = some n := by
  cases n with
  | ofNat m => exact parseDecimal_natural m
  | negSucc m =>
    have htext : (toString (Int.negSucc m)).toList = '-' :: (toString (m + 1)).toList := by
      show ("-" ++ toString (m + 1)).toList = _
      rw [String.toList_append]
      rfl
    unfold parseDecimal
    rw [htext, List.dropWhile_cons, show isJsSpace '-' = false by decide, if_neg Bool.false_ne_true]
    show (parseDigits (toString (m + 1)).toList).map (fun n => -Int.ofNat n) = _
    rw [parseDigits_toString]
    rfl

/-! ## Stored scores -/

/-- The endpoints that read the text of a stored score show what the number stands for. -/
theorem displayScoreOfText_toString (score : Int) :
    RankScoreVo.displayScoreOfText (toString score) = some (RankScoreVo.toDisplayScore score) := by
  unfold RankScoreVo.displayScoreOfText
  rw [parseDecimal_toString]
  rfl

/-- What the ranking orders by: first `win - lose`, then the games played. -/
def RankScoreVo.standing (v : RankScoreVo) : Int × Nat := ((v.win : Int) - v.lose, v.getTotalCount)

theorem getIntegerScoreForRedis_eq (v : RankScoreVo) :
    v.getIntegerScoreForRedis =
      Packed.pack 10000 (1000 + 10 * ((v.win : Int) - v.lose)) v.getTotalCount := by
  unfold RankScoreVo.getIntegerScoreForRedis Packed.pack RankScoreVo.BASE_SCORE
    RankScoreVo.SCORE_MULTIPLIER RankScoreVo.SCALE_FACTOR
  dsimp only
  rw [Int.mul_comm _ 10]
  rfl

/-- **Stored scores.**  Below 10000 games the text of a stored score displays
`1000 + 10 * (win - lose)`, and stored scores compare like the standings. -/
theorem storedScore_order (v w : RankScoreVo) (hv : v.getTotalCount < 10000)
    (hw : w.getTotalCount < 10000) :
    RankScoreVo.displayScoreOfText (toString v.getIntegerScoreForRedis) =
        some (1000 + 10 * ((v.win : Int) - v.lose)) ∧
      (v.getIntegerScoreForRedis < w.getIntegerScoreForRedis ↔
        toLex v.standing < toLex w.standing) ∧
      (v.getIntegerScoreForRedis = w.getIntegerScoreForRedis ↔ v.standing = w.standing) := by
  have hmono : ∀ a b : Int, 1000 + 10 * a < 1000 + 10 * b ↔ a < b := fun a b => by omega
  have heq : ∀ a b : Int, 1000 + 10 * a = 1000 + 10 * b ↔ a = b := fun a b => by omega
  refine ⟨?_, ?_, ?_⟩
  · rw [displayScoreOfText_toString, getIntegerScoreForRedis_eq]
    exact congrArg some (Packed.pack_fdiv hv)
  · rw [getIntegerScoreForRedis_eq, getIntegerScoreForRedis_eq, Packed.pack_lt hv hw,
      Prod.Lex.toLex_lt_toLex, Prod.Lex.toLex_lt_toLex]
    unfold RankScoreVo.standing
    dsimp only
    rw [hmono, heq]
  · rw [getIntegerScoreForRedis_eq, getIntegerScoreForRedis_eq, Packed.pack_inj hv hw]
    unfold RankScoreVo.standing
    rw [Prod.mk.injEq, Prod.mk.injEq, heq]

/-- The score of more than a hundred lost games is negative. -/
theorem storedScore_order_losing :
    RankScoreVo.displayScoreOfText
        (toString (RankScoreVo.mk 1 123 1 0).getIntegerScoreForRedis) = some (-220) ∧
      (RankScoreVo.mk 1 123 1 0).getIntegerScoreForRedis <
        (RankScoreVo.mk 2 124 0 0).getIntegerScoreForRedis := by
  obtain ⟨htext, hlt, -⟩ := storedScore_order ⟨1, 123, 1, 0⟩ ⟨2, 124, 0, 0⟩ (by decide) (by decide)
  exact ⟨htext, hlt.2 (by decide)⟩

/-! ## My page -/

/-- The `total` entry of the aggregate; without rank rows there is none, and nothing to sum. -/
def totalEntry (db : Db) (userId : Nat) : RankScoreVo :=
  (projected db userId .total).getD ⟨0, 0, 0, 0⟩

/-- My page shows this record, with the score of the ranking. -/
structure ShowsRecord (record : RankRecordResDto) (vo : RankScoreVo) : Prop where
  win : record.win = some (vo.win : Int)
  lose : record.lose = some (vo.lose : Int)
  tie : record.tie = some (vo.tie : Int)
  cancel : record.cancel = some (vo.cancel : Int)
  total : record.total = some (vo.getTotalCount : Int)
  score : record.score = some (RankScoreVo.toDisplayScore vo.getIntegerScoreForRedis)

theorem totalEntry_eq (db : Db) (userId : Nat) : totalEntry db userId = totalVo (rowsOf db userId) := by
  unfold totalEntry
  rw [projected_total]
  by_cases h : rowsOf db userId = []
  · rw [if_pos h, h]
    rfl
  · rw [if_neg h]
    rfl

/-- The counter of a column. -/
def RankScoreVo.get (v : RankScoreVo) : RankColumn → Nat
  | .win => v.win
  | .lose => v.lose
  | .tie => v.tie
  | .cancel => v.cancel

/-- The sums of the two aggregations are the same. -/
theorem rankStat_eq (db : Db) (userId : Nat) (column : RankColumn) :
    parseDecimal (((rankStat db userId column).filter (· ≠ "")).getD "0") =
      some ((totalEntry db userId).get column : Int) := by
  rw [totalEntry_eq]
  unfold rankStat
  dsimp only
  rw [show (db.ranks.rows.filter fun r => decide (r.user = userId)) = rowsOf db userId from rfl]
  by_cases h : rowsOf db userId = []
  · rw [h]
    cases column <;> exact parseDecimal_natural 0
  · rw [if_neg (by simpa using h), Option.filter_some, if_pos (by simp),
      Option.getD_some, parseDecimal_natural]
    cases column <;> rfl

/-- The score of my page, in whole numbers. -/
theorem floor_rankScoreWithDecimal (v : RankScoreVo) :
    ⌊rankScoreWithDecimal v.win v.lose v.tie v.cancel⌋ =
      1000 + 10 * ((v.win : Int) - v.lose) + (v.getTotalCount / 1000 : Nat) := by
  have hsum : rankScoreWithDecimal v.win v.lose v.tie v.cancel =
      ((1000 + 10 * ((v.win : Int) - v.lose) : Int) : Rat) +
        ((v.getTotalCount : Int) : Rat) / (1000 : Nat) := by
    unfold rankScoreWithDecimal DEFAULT_SCORE SCORE_MULTIPLIER RankScoreVo.getTotalCount
    push_cast
    ring
  rw [hsum, Int.floor_intCast_add, Rat.floor_intCast_div_natCast]
  rfl

/-- The score of the ranking, without a bound on the games. -/
theorem toDisplayScore_stored (v : RankScoreVo) :
    RankScoreVo.toDisplayScore v.getIntegerScoreForRedis =
      1000 + 10 * ((v.win : Int) - v.lose) + (v.getTotalCount / 10000 : Nat) := by
  rw [getIntegerScoreForRedis_eq]
  unfold Packed.pack RankScoreVo.toDisplayScore RankScoreVo.SCALE_FACTOR
  rw [Int.fdiv_eq_ediv_of_nonneg _ (by decide)]
  omega

/-- My page always shows the sums of the ranking; its score counts a point for every
thousand games. -/
theorem getUserMyPageInfo_ok {db : Db} {userId : Nat} {page : UserMyPageDto}
    (h : getUserMyPageInfo db userId = .ok page) :
    page.record =
      { win := some ((totalEntry db userId).win : Int)
        lose := some ((totalEntry db userId).lose : Int)
        tie := some ((totalEntry db userId).tie : Int)
        cancel := some ((totalEntry db userId).cancel : Int)
        total := some ((totalEntry db userId).getTotalCount : Int)
        score := some (1000 + 10 * (((totalEntry db userId).win : Int) - (totalEntry db userId).lose) +
          ((totalEntry db userId).getTotalCount / 1000 : Nat)) } := by
  unfold getUserMyPageInfo at h
  split at h
  · cases h
  · dsimp only at h
    rw [rankStat_eq, rankStat_eq, rankStat_eq, rankStat_eq] at h
    cases h
    rw [← floor_rankScoreWithDecimal]
    rfl

theorem exists_myPage {db : Db} {userId : Nat} (huser : (db.users.find? userId).isSome) :
    ∃ page, getUserMyPageInfo db userId = .ok page := by
  obtain ⟨user, hfound⟩ := Option.isSome_iff_exists.1 huser
  unfold getUserMyPageInfo
  rw [hfound]
  exact ⟨_, rfl⟩

/-- **One record, two pages.**  My page of a user shows the record and the score of the ranking
exactly when the user has fewer than a thousand games. -/
theorem myPage_matches_total_iff (db : Db) (userId : Nat) (huser : (db.users.find? userId).isSome) :
    ∃ page, getUserMyPageInfo db userId = .ok page ∧
      (ShowsRecord page.record (totalEntry db userId) ↔
        (totalEntry db userId).getTotalCount < 1000) := by
  obtain ⟨page, h⟩ := exists_myPage huser
  have hrecord := getUserMyPageInfo_ok h
  have hscore : page.record.score = some (RankScoreVo.toDisplayScore
      (totalEntry db userId).getIntegerScoreForRedis) ↔
      (totalEntry db userId).getTotalCount < 1000 := by
    rw [hrecord, toDisplayScore_stored, Option.some.injEq]
    omega
  refine ⟨page, h, fun hshow => hscore.1 hshow.score, fun hlt => ?_⟩
  refine ⟨?_, ?_, ?_, ?_, ?_, hscore.2 hlt⟩ <;> rw [hrecord]

/-- A thousand games, over two years and two teams. -/
def manyGamesDb : Db :=
  { leagueDb with ranks := ⟨[⟨7, 1, 2024, 300, 200, 0, 0⟩, ⟨7, 2, 2025, 300, 198, 1, 1⟩], by decide⟩ }

/-- One game less. -/
def fewGamesDb : Db :=
  { leagueDb with ranks := ⟨[⟨7, 1, 2024, 300, 200, 0, 0⟩, ⟨7, 2, 2025, 300, 197, 1, 1⟩], by decide⟩ }

theorem myPage_matches_total_few : ∃ page, getUserMyPageInfo fewGamesDb 7 = .ok page ∧
    (totalEntry fewGamesDb 7).getTotalCount = 999 ∧
    ShowsRecord page.record (totalEntry fewGamesDb 7) := by
  obtain ⟨page, hpage, hshows⟩ := myPage_matches_total_iff fewGamesDb 7 rfl
  exact ⟨page, hpage, by decide, hshows.2 (by decide)⟩

/-- With a thousand games my page shows one point more than the ranking. -/
theorem myPage_differs : ∃ page, getUserMyPageInfo manyGamesDb 7 = .ok page ∧
    page.record.score = some 3021 ∧
    RankScoreVo.toDisplayScore (totalEntry manyGamesDb 7).getIntegerScoreForRedis = 3020 ∧
    ¬ ShowsRecord page.record (totalEntry manyGamesDb 7) := by
  have hscore : RankScoreVo.toDisplayScore (totalEntry manyGamesDb 7).getIntegerScoreForRedis = 3020 := by
    decide
  have hshown : ∀ page, getUserMyPageInfo manyGamesDb 7 = .ok page → page.record.score = some 3021 := by
    intro page h
    rw [getUserMyPageInfo_ok h]
    decide
  refine ⟨_, rfl, hshown _ rfl, hscore, fun h => ?_⟩
  have hsame := h.score
  rw [hshown _ rfl, hscore] at hsame
  cases hsame

end VictoryFairy
