import Mathlib.Data.List.Infix
import VictoryFairy.Proofs.Scores

/-!
# The cell of a matchup

A cell spells the away team with its score, `vs`, and the home team after its score; before
the game it spells the names only.  Blanks may stand anywhere between them.

    splitVs_left          : the first `vs` of a cell is its separator
    splitScoreAndTeam_away, splitScoreAndTeam_home : the two sides
    matchup_parsed        : the teams and the scores of a cell
-/

namespace VictoryFairy

/-! ## Numbers -/

theorem toNumber_eq {n : Nat} (h : n ≤ 2 ^ 53) : toNumber n = n := by
  rcases Nat.lt_or_eq_of_le h with hlt | rfl
  · have hlog : n.log2 - 52 = 0 := by
      have hbits : n.log2 ≤ 52 := by
        rcases Nat.eq_zero_or_pos n with rfl | hpos
        · decide
        · exact Nat.le_of_lt_succ ((Nat.log2_lt hpos.ne').2 hlt)
      omega
    have hfinite : n ≤ infinity := hlt.le.trans (by decide +kernel)
    unfold toNumber
    rw [hlog]
    simpa [Nat.mod_one] using hfinite
  · decide +kernel

theorem parseInt_toString (n : Nat) : parseInt (toString n).toList = toNumber n := by
  have hvalue : Nat.ofDigitChars 10 (toString n).toList 0 = n := by
    rw [(toString_digits n).1, Nat.ofDigitChars_toDigits (by decide) (by decide)]
  exact congrArg toNumber hvalue

/-! ## Blanks -/

def Blanks (cs : List Char) : Prop := ∀ c ∈ cs, isJsSpace c = true

theorem blanks_nil : Blanks [] := fun _ hc => nomatch hc

theorem exists_trim_append (cs : List Char) :
    ∃ blanks, Blanks blanks ∧ trimStart cs = trim cs ++ blanks := by
  refine ⟨((trimStart cs).reverse.takeWhile isJsSpace).reverse, ?_, ?_⟩
  · intro c hc
    exact List.mem_takeWhile_imp (List.mem_reverse.1 hc)
  · rw [trim, trimEnd, ← List.reverse_append, List.takeWhile_append_dropWhile, List.reverse_reverse]

theorem trim_blanks {before cs after : List Char} (hbefore : Blanks before) (hafter : Blanks after)
    (hne : cs ≠ []) (hhead : ∀ c ∈ cs.head?, isJsSpace c = false)
    (hlast : ∀ c ∈ cs.getLast?, isJsSpace c = false) : trim (before ++ cs ++ after) = cs := by
  have hstart : trimStart (before ++ cs ++ after) = cs ++ after := by
    unfold trimStart
    rw [List.append_assoc, List.dropWhile_append_of_pos hbefore]
    obtain ⟨c, rest, rfl⟩ := List.exists_cons_of_ne_nil hne
    rw [List.cons_append, List.dropWhile_cons, hhead c rfl, if_neg Bool.false_ne_true]
  unfold trim trimEnd
  rw [hstart, List.reverse_append,
    List.dropWhile_append_of_pos fun c hc => hafter c (List.mem_reverse.1 hc)]
  have hrev : cs.reverse ≠ [] := fun h => hne (List.reverse_eq_nil_iff.1 h)
  obtain ⟨c, rest, hcs⟩ := List.exists_cons_of_ne_nil hrev
  have hc : isJsSpace c = false := by
    refine hlast c ?_
    rw [← List.head?_reverse, hcs]
    rfl
  rw [hcs, List.dropWhile_cons, hc, if_neg Bool.false_ne_true, ← hcs, List.reverse_reverse]

/-! ## The separator -/

/-- The text of a team: something without digits, `vs`, and blanks at its ends. -/
structure TeamText (name : List Char) : Prop where
  ne_nil : name ≠ []
  noDigit : ∀ c ∈ name, c.isDigit = false
  noVs : ¬ ['v', 's'] <:+: name
  head : ∀ c ∈ name.head?, isJsSpace c = false
  last : ∀ c ∈ name.getLast?, isJsSpace c = false

instance (name : List Char) : Decidable (TeamText name) :=
  decidable_of_iff (name ≠ [] ∧ name.all (fun c => !c.isDigit) ∧ ¬ ['v', 's'] <:+: name ∧
      name.head?.all (fun c => !isJsSpace c) ∧ name.getLast?.all fun c => !isJsSpace c) <| by
    simp only [List.all_eq_true, Option.all_eq_true, Bool.not_eq_true']
    constructor
    · rintro ⟨hne, hdigit, hvs, hhead, hlast⟩
      exact ⟨hne, hdigit, hvs, hhead, hlast⟩
    · rintro ⟨hne, hdigit, hvs, hhead, hlast⟩
      exact ⟨hne, hdigit, hvs, hhead, hlast⟩

theorem splitVs_cons {c : Char} {cs : List Char} (h : ¬ ['v', 's'] <+: c :: cs) :
    splitVs (c :: cs) = (c :: (splitVs cs).1, (splitVs cs).2) := by
  cases cs with
  | nil => simp [splitVs]
  | cons d rest =>
    rw [splitVs]
    rintro rest rfl hs
    obtain ⟨rfl, -⟩ := List.cons.inj hs
    exact h ⟨_, rfl⟩

/-- A text without `vs` is not split. -/
theorem splitVs_whole {cs : List Char} (h : ¬ ['v', 's'] <:+: cs) : splitVs cs = (cs, none) := by
  induction cs with
  | nil => rfl
  | cons c cs ih =>
    rw [splitVs_cons fun hpre => h hpre.isInfix,
      ih fun hin => h (hin.trans (List.suffix_cons c cs).isInfix)]

theorem splitVs_left {left : List Char} (h : ¬ ['v', 's'] <:+: left) (right : List Char) :
    splitVs (left ++ 'v' :: 's' :: right) = (left, some right) := by
  induction left with
  | nil => rfl
  | cons c cs ih =>
    have hstart : ¬ ['v', 's'] <+: c :: (cs ++ 'v' :: 's' :: right) := by
      -- The `v` of the separator is no `s`.
      cases cs with
      | nil =>
        intro hpre
        exact absurd (List.cons_prefix_cons.1 (List.cons_prefix_cons.1 hpre).2).1 (by decide)
      | cons d rest =>
        intro hpre
        obtain ⟨hv, htail⟩ := List.cons_prefix_cons.1 hpre
        obtain ⟨hs, -⟩ := List.cons_prefix_cons.1 htail
        subst hv hs
        exact h (List.prefix_append ['v', 's'] rest).isInfix
    rw [List.cons_append, splitVs_cons hstart,
      ih fun hin => h (hin.trans (List.suffix_cons c cs).isInfix)]

/-! ## The two sides -/

section

variable {name blank : List Char}

theorem Blanks.noDigit (h : Blanks blank) : ∀ c ∈ blank, c.isDigit = false := by
  intro c hc
  by_contra hdigit
  rw [Bool.not_eq_false] at hdigit
  have hspace := h c hc
  rw [digit_not_space hdigit] at hspace
  exact Bool.false_ne_true hspace

theorem TeamText.trim_after (h : TeamText name) (hblank : Blanks blank) :
    trim (name ++ blank) = name :=
  trim_blanks blanks_nil hblank h.ne_nil h.head h.last

theorem TeamText.trim_before (h : TeamText name) (hblank : Blanks blank) :
    trim (blank ++ name) = name := by
  have htrim := trim_blanks hblank blanks_nil h.ne_nil h.head h.last
  rwa [List.append_nil] at htrim

/-- The text of a side without a score. -/
theorem splitScoreAndTeam_name (h : TeamText name) (isRightSide : Bool) :
    splitScoreAndTeam name isRightSide = ⟨String.ofList name, none⟩ := by
  have hall : ∀ c ∈ name, (!c.isDigit) = true := fun c hc => by rw [h.noDigit c hc]; rfl
  have hleft : matchTeamAndScore name = none := by
    unfold matchTeamAndScore
    dsimp only
    rw [List.dropWhile_eq_nil_iff.2 hall, if_pos (Or.inl rfl)]
  have hright : matchScoreAndTeam name = none := by
    have hrest : name.reverse.dropWhile (fun c => !c.isDigit) = [] :=
      List.dropWhile_eq_nil_iff.2 fun c hc => hall c (List.mem_reverse.1 hc)
    unfold matchScoreAndTeam
    dsimp only
    rw [hrest]
    exact if_pos (Or.inl rfl)
  unfold splitScoreAndTeam
  cases isRightSide with
  | false => rw [if_neg Bool.false_ne_true, hleft]
  | true => rw [if_pos rfl, hright]

variable {digits : List Char}

theorem matchTeamAndScore_side (hname : name ≠ []) (hnoDigit : ∀ c ∈ name, c.isDigit = false)
    (hdigits : digits ≠ []) (hall : ∀ c ∈ digits, c.isDigit = true) :
    matchTeamAndScore (name ++ digits) = some (digits, name) := by
  have hskip : ∀ c ∈ name, (!c.isDigit) = true := fun c hc => by rw [hnoDigit c hc]; rfl
  obtain ⟨c, cs, rfl⟩ := List.exists_cons_of_ne_nil hdigits
  have hc : (!c.isDigit) = false := by rw [hall c List.mem_cons_self]; rfl
  have hdrop : (name ++ c :: cs).dropWhile (fun c => !c.isDigit) = c :: cs := by
    rw [List.dropWhile_append_of_pos hskip, List.dropWhile_cons, hc, if_neg Bool.false_ne_true]
  have htake : (name ++ c :: cs).takeWhile (fun c => !c.isDigit) = name := by
    rw [List.takeWhile_append_of_pos hskip, List.takeWhile_cons, hc, if_neg Bool.false_ne_true,
      List.append_nil]
  unfold matchTeamAndScore
  dsimp only
  rw [hdrop, htake, if_neg]
  rintro (h | h | h)
  · exact hdigits h
  · exact hname h
  · rw [List.all_eq_true.2 hall] at h
    exact absurd h (by decide)

theorem matchScoreAndTeam_side (hname : name ≠ []) (hnoDigit : ∀ c ∈ name, c.isDigit = false)
    (hdigits : digits ≠ []) (hall : ∀ c ∈ digits, c.isDigit = true) :
    matchScoreAndTeam (digits ++ name) = some (digits, name) := by
  have hskip : ∀ c ∈ name.reverse, (!c.isDigit) = true := by
    intro c hc
    rw [hnoDigit c (List.mem_reverse.1 hc)]
    rfl
  have hrev : digits.reverse ≠ [] := fun h => hdigits (List.reverse_eq_nil_iff.1 h)
  obtain ⟨c, cs, hcs⟩ := List.exists_cons_of_ne_nil hrev
  have hc : (!c.isDigit) = false := by
    rw [hall c (List.mem_reverse.1 (hcs ▸ List.mem_cons_self))]
    rfl
  have hdrop : (digits ++ name).reverse.dropWhile (fun c => !c.isDigit) = digits.reverse := by
    rw [List.reverse_append, List.dropWhile_append_of_pos hskip, hcs, List.dropWhile_cons, hc,
      if_neg Bool.false_ne_true]
  have htake : (digits ++ name).reverse.takeWhile (fun c => !c.isDigit) = name.reverse := by
    rw [List.reverse_append, List.takeWhile_append_of_pos hskip, hcs, List.takeWhile_cons, hc,
      if_neg Bool.false_ne_true, List.append_nil]
  have hscore : digits.reverse.takeWhile Char.isDigit = digits.reverse :=
    List.takeWhile_eq_self_iff.2 fun c hc => hall c (List.mem_reverse.1 hc)
  unfold matchScoreAndTeam
  dsimp only
  rw [hdrop, htake, hscore, List.reverse_reverse, List.reverse_reverse, if_neg]
  rintro (h | h)
  · exact hdigits h
  · exact hname h

theorem toString_ne_nil (n : Nat) : (toString n).toList ≠ [] := by
  rw [(toString_digits n).1]
  exact Nat.toDigits_ne_nil

theorem splitScoreAndTeam_away (h : TeamText name) (hblank : Blanks blank) (n : Nat) :
    splitScoreAndTeam (name ++ blank ++ (toString n).toList) false =
      ⟨String.ofList name, some (toNumber n)⟩ := by
  have hne : name ++ blank ≠ [] := fun hnil => h.ne_nil (List.append_eq_nil_iff.1 hnil).1
  have hmatch := matchTeamAndScore_side hne
    (fun c hc => (List.mem_append.1 hc).elim (h.noDigit c) (hblank.noDigit c))
    (toString_ne_nil n) (toString_digits n).2
  unfold splitScoreAndTeam
  rw [if_neg Bool.false_ne_true, hmatch]
  dsimp only
  rw [h.trim_after hblank, parseInt_toString]

theorem splitScoreAndTeam_home (h : TeamText name) (hblank : Blanks blank) (n : Nat) :
    splitScoreAndTeam ((toString n).toList ++ (blank ++ name)) true =
      ⟨String.ofList name, some (toNumber n)⟩ := by
  have hne : blank ++ name ≠ [] := fun hnil => h.ne_nil (List.append_eq_nil_iff.1 hnil).2
  have hmatch := matchScoreAndTeam_side hne
    (fun c hc => (List.mem_append.1 hc).elim (hblank.noDigit c) (h.noDigit c))
    (toString_ne_nil n) (toString_digits n).2
  unfold splitScoreAndTeam
  rw [if_pos rfl, hmatch]
  dsimp only
  rw [h.trim_before hblank, parseInt_toString]

end

/-! ## The cell -/

/-- What stands beside the names: blanks and digits. -/
def Filler (cs : List Char) : Prop := ∀ c ∈ cs, c ≠ 'v' ∧ c ≠ 's'

theorem Blanks.filler {cs : List Char} (h : Blanks cs) : Filler cs := by
  intro c hc
  constructor
  · rintro rfl
    exact absurd (h 'v' hc) (by decide)
  · rintro rfl
    exact absurd (h 's' hc) (by decide)

theorem digits_filler (n : Nat) : Filler (toString n).toList := by
  intro c hc
  have hdigit := (toString_digits n).2 c hc
  constructor
  · rintro rfl
    exact absurd hdigit (by decide)
  · rintro rfl
    exact absurd hdigit (by decide)

theorem Filler.append {cs ds : List Char} (h : Filler cs) (h' : Filler ds) : Filler (cs ++ ds) :=
  fun c hc => (List.mem_append.1 hc).elim (h c) (h' c)

theorem infix_of_append {a b : Char} {skipped cs : List Char} (hskip : ∀ c ∈ skipped, c ≠ a)
    (h : [a, b] <:+: skipped ++ cs) : [a, b] <:+: cs := by
  induction skipped with
  | nil => exact h
  | cons c skipped ih =>
    refine ih (fun d hd => hskip d (List.mem_cons_of_mem _ hd)) ?_
    rcases List.infix_cons_iff.1 h with hpre | hin
    · exact absurd (List.cons_prefix_cons.1 hpre).1.symm (hskip c List.mem_cons_self)
    · exact hin

theorem TeamText.noVs_side {name before after : List Char} (h : TeamText name)
    (hbefore : Filler before) (hafter : Filler after) :
    ¬ ['v', 's'] <:+: before ++ (name ++ after) := by
  intro hin
  have hin := infix_of_append (fun c hc => (hbefore c hc).1) hin
  rw [← List.reverse_infix, List.reverse_append] at hin
  have hin := infix_of_append (fun c hc => (hafter c (List.mem_reverse.1 hc)).2) hin
  exact h.noVs (List.reverse_infix.1 hin)

theorem getTeamAndScore_sides {left right : List Char} (hleft : ¬ ['v', 's'] <:+: left)
    (hright : ¬ ['v', 's'] <:+: right) (hne : left ≠ []) (hne' : right ≠ []) {cell : String}
    (hcell : cell.toList = left ++ 'v' :: 's' :: right) :
    getTeamAndScore cell =
      some (splitScoreAndTeam (trim right) true, splitScoreAndTeam (trim left) false) := by
  unfold getTeamAndScore
  rw [hcell, splitVs_left hleft]
  dsimp only
  rw [splitVs_whole hright, if_neg fun h => h.elim hne hne']

theorem blanks_of_isBlank {s : String} (h : isBlank s = true) : Blanks s.toList :=
  List.all_eq_true.1 h

theorem digits_ends (n : Nat) : (∀ c ∈ (toString n).toList.head?, isJsSpace c = false) ∧
    ∀ c ∈ (toString n).toList.getLast?, isJsSpace c = false :=
  ⟨fun c hc => digit_not_space ((toString_digits n).2 c (List.mem_of_mem_head? hc)),
    fun c hc => digit_not_space ((toString_digits n).2 c (List.mem_of_mem_getLast? hc))⟩

section

variable {away home : String} (haway : TeamText away.toList) (hhome : TeamText home.toList)

include haway hhome

/-- A cell with both scores. -/
theorem scored_cell {b₁ b₂ b₃ b₄ b₅ b₆ : String}
    (hblank : ∀ b ∈ [b₁, b₂, b₃, b₄, b₅, b₆], isBlank b = true) (a h : Nat) :
    getTeamAndScore (b₁ ++ away ++ b₂ ++ toString a ++ b₃ ++ "vs" ++
        b₄ ++ toString h ++ b₅ ++ home ++ b₆) =
      some (⟨home, some (toNumber h)⟩, ⟨away, some (toNumber a)⟩) := by
  have hb₁ := blanks_of_isBlank (hblank b₁ (by simp))
  have hb₂ := blanks_of_isBlank (hblank b₂ (by simp))
  have hb₃ := blanks_of_isBlank (hblank b₃ (by simp))
  have hb₄ := blanks_of_isBlank (hblank b₄ (by simp))
  have hb₅ := blanks_of_isBlank (hblank b₅ (by simp))
  have hb₆ := blanks_of_isBlank (hblank b₆ (by simp))
  have hnonempty : away.toList ++ b₂.toList ++ (toString a).toList ≠ [] :=
    fun hnil => toString_ne_nil a (List.append_eq_nil_iff.1 hnil).2
  have hnonempty' : (toString h).toList ++ (b₅.toList ++ home.toList) ≠ [] :=
    fun hnil => toString_ne_nil h (List.append_eq_nil_iff.1 hnil).1
  have hleft : trim (b₁.toList ++ (away.toList ++ b₂.toList ++ (toString a).toList) ++ b₃.toList) =
      away.toList ++ b₂.toList ++ (toString a).toList := by
    refine trim_blanks hb₁ hb₃ hnonempty ?_ ?_
    · rw [List.append_assoc, List.head?_append_of_ne_nil _ haway.ne_nil]
      exact haway.head
    · rw [List.getLast?_append_of_ne_nil _ (toString_ne_nil a)]
      exact (digits_ends a).2
  have hright : trim (b₄.toList ++ ((toString h).toList ++ (b₅.toList ++ home.toList)) ++ b₆.toList) =
      (toString h).toList ++ (b₅.toList ++ home.toList) := by
    refine trim_blanks hb₄ hb₆ hnonempty' ?_ ?_
    · rw [List.head?_append_of_ne_nil _ (toString_ne_nil h)]
      exact (digits_ends h).1
    · rw [← List.append_assoc, List.getLast?_append_of_ne_nil _ hhome.ne_nil]
      exact hhome.last
  have hcut : ¬ ['v', 's'] <:+:
      b₁.toList ++ (away.toList ++ b₂.toList ++ (toString a).toList) ++ b₃.toList := by
    have hside := haway.noVs_side hb₁.filler
      ((hb₂.filler.append (digits_filler a)).append hb₃.filler)
    simpa only [List.append_assoc] using hside
  have hcut' : ¬ ['v', 's'] <:+:
      b₄.toList ++ ((toString h).toList ++ (b₅.toList ++ home.toList)) ++ b₆.toList := by
    have hside := hhome.noVs_side ((hb₄.filler.append (digits_filler h)).append hb₅.filler)
      hb₆.filler
    simpa only [List.append_assoc] using hside
  rw [getTeamAndScore_sides hcut hcut', hleft, hright, splitScoreAndTeam_away haway hb₂,
    splitScoreAndTeam_home hhome hb₅, String.ofList_toList, String.ofList_toList]
  · exact fun hnil => hnonempty (List.append_eq_nil_iff.1 (List.append_eq_nil_iff.1 hnil).1).2
  · exact fun hnil => hnonempty' (List.append_eq_nil_iff.1 (List.append_eq_nil_iff.1 hnil).1).2
  · simp only [String.toList_append, List.append_assoc]
    rfl

/-- A cell without scores. -/
theorem unscored_cell {b₁ b₂ b₃ b₄ : String}
    (hblank : ∀ b ∈ [b₁, b₂, b₃, b₄], isBlank b = true) :
    getTeamAndScore (b₁ ++ away ++ b₂ ++ "vs" ++ b₃ ++ home ++ b₄) =
      some (⟨home, none⟩, ⟨away, none⟩) := by
  have hb₁ := blanks_of_isBlank (hblank b₁ (by simp))
  have hb₂ := blanks_of_isBlank (hblank b₂ (by simp))
  have hb₃ := blanks_of_isBlank (hblank b₃ (by simp))
  have hb₄ := blanks_of_isBlank (hblank b₄ (by simp))
  have hcut : ¬ ['v', 's'] <:+: b₁.toList ++ away.toList ++ b₂.toList := by
    rw [List.append_assoc]
    exact haway.noVs_side hb₁.filler hb₂.filler
  have hcut' : ¬ ['v', 's'] <:+: b₃.toList ++ home.toList ++ b₄.toList := by
    rw [List.append_assoc]
    exact hhome.noVs_side hb₃.filler hb₄.filler
  rw [getTeamAndScore_sides hcut hcut', trim_blanks hb₁ hb₂ haway.ne_nil haway.head haway.last,
    trim_blanks hb₃ hb₄ hhome.ne_nil hhome.head hhome.last,
    splitScoreAndTeam_name haway, splitScoreAndTeam_name hhome,
    String.ofList_toList, String.ofList_toList]
  · exact fun hnil => haway.ne_nil (List.append_eq_nil_iff.1 (List.append_eq_nil_iff.1 hnil).1).2
  · exact fun hnil => hhome.ne_nil (List.append_eq_nil_iff.1 (List.append_eq_nil_iff.1 hnil).1).2
  · simp only [String.toList_append, List.append_assoc]
    rfl

end

/-- The scores are `number`s, so those above `2 ^ 53` are rounded. -/
theorem matchup_parsed (away home : String) (haway : TeamText away.toList)
    (hhome : TeamText home.toList) :
    (∀ a h : Nat, getTeamAndScore (away ++ toString a ++ "vs" ++ toString h ++ home) =
      some (⟨home, some (toNumber h)⟩, ⟨away, some (toNumber a)⟩)) ∧
    getTeamAndScore (away ++ "vs" ++ home) = some (⟨home, none⟩, ⟨away, none⟩) ∧
    (∀ b₁ b₂ b₃ b₄ b₅ b₆ : String,
      (∀ b ∈ [b₁, b₂, b₃, b₄, b₅, b₆], isBlank b = true) →
      (∀ a h : Nat, getTeamAndScore (b₁ ++ away ++ b₂ ++ toString a ++ b₃ ++ "vs" ++
          b₄ ++ toString h ++ b₅ ++ home ++ b₆) =
        some (⟨home, some (toNumber h)⟩, ⟨away, some (toNumber a)⟩)) ∧
      getTeamAndScore (b₁ ++ away ++ b₂ ++ "vs" ++ b₃ ++ home ++ b₄) =
        some (⟨home, none⟩, ⟨away, none⟩)) ∧
    ∀ n ≤ 2 ^ 53, toNumber n = n := by
  refine ⟨fun a h => ?_, ?_, fun b₁ b₂ b₃ b₄ b₅ b₆ hblank => ⟨scored_cell haway hhome hblank,
    unscored_cell haway hhome fun b hb => hblank b ?_⟩, fun n hn => toNumber_eq hn⟩
  · have hcell := scored_cell haway hhome
      (show ∀ b ∈ ["", "", "", "", "", ""], isBlank b = true by decide) a h
    simpa only [String.append_empty, String.empty_append] using hcell
  · have hcell := unscored_cell haway hhome
      (show ∀ b ∈ ["", "", "", ""], isBlank b = true by decide)
    simpa only [String.append_empty, String.empty_append] using hcell
  · simp only [List.mem_cons, List.not_mem_nil, or_false] at hb ⊢
    tauto

theorem lg_text : TeamText "LG".toList := by decide +kernel

theorem kia_text : TeamText "KIA".toList := by decide +kernel

theorem matchup_parsed_kia : getTeamAndScore " LG 3 vs\t10 KIA" =
    some (⟨"KIA", some 10⟩, ⟨"LG", some 3⟩) := by
  have hcell := ((matchup_parsed "LG" "KIA" lg_text kia_text).2.2.1 " " " " " " "\t" " " ""
    (by decide +kernel)).1 3 10
  have htext : " LG 3 vs\t10 KIA" = " " ++ "LG" ++ " " ++ toString 3 ++ " " ++ "vs" ++
      "\t" ++ toString 10 ++ " " ++ "KIA" ++ "" := by decide +kernel
  rw [htext, hcell]
  decide +kernel

/-- A score above `2 ^ 53` is not read back. -/
theorem matchup_rounded : TeamText "LG".toList ∧ TeamText "KIA".toList ∧
    getTeamAndScore ("LG" ++ toString 9007199254740993 ++ "vs" ++ toString 1 ++ "KIA") =
      some (⟨"KIA", some 1⟩, ⟨"LG", some 9007199254740992⟩) ∧
    getTeamAndScore ("LG" ++ toString 9007199254740993 ++ "vs" ++ toString 1 ++ "KIA") ≠
      some (⟨"KIA", some 1⟩, ⟨"LG", some 9007199254740993⟩) :=
  ⟨lg_text, kia_text, by decide +kernel, by decide +kernel⟩

end VictoryFairy
