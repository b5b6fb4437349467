import Mathlib.Data.List.Infix
import VictoryFairy.Model.CheeringSong

/-!
# The keyword of a search

A keyword goes into its pattern with `%` and `_` escaped.  The escape character itself is not,
so it takes the character behind it along.

    sqlLike_escapeLike    : a keyword without a backslash stands for itself
    sqlLike_misread       : any keyword matches its misreading
    matchesSearch_literal : the songs a search finds
    search_literal_iff    : when a keyword is searched for literally
-/

namespace VictoryFairy

/-! ## Patterns -/

section

variable {pattern text : List Char}

theorem sqlLike_percent : sqlLike ('%' :: pattern) text = true ↔
    ∃ rest, rest <:+ text ∧ sqlLike pattern rest = true := by
  rw [sqlLike, List.any_eq_true]
  exact exists_congr fun rest => and_congr_left' (List.mem_tails rest text)

theorem sqlLike_escaped {c : Char} : sqlLike ('\\' :: c :: pattern) text = true ↔
    ∃ rest, text = c :: rest ∧ sqlLike pattern rest = true := by
  cases text with
  | nil => simp [sqlLike]
  | cons a text => simp [sqlLike, and_assoc]

theorem sqlLike_plain {c : Char} (hc : c ≠ '%' ∧ c ≠ '_' ∧ c ≠ '\\') :
    sqlLike (c :: pattern) text = true ↔ ∃ rest, text = c :: rest ∧ sqlLike pattern rest = true := by
  obtain ⟨hpercent, hscore, hslash⟩ := hc
  cases text with
  | nil => simp [sqlLike]
  | cons a text =>
    have hstep : sqlLike (c :: pattern) (a :: text) = (decide (a = c) && sqlLike pattern text) := by
      rw [sqlLike]
      · exact hpercent
      · exact hscore
      · exact fun c' pattern' h => absurd h hslash
    simp [hstep, and_assoc]

theorem sqlLike_everything (text : List Char) : sqlLike ['%'] text = true :=
  sqlLike_percent.2 ⟨[], List.nil_suffix, rfl⟩

end

/-! ## A keyword without a backslash -/

theorem escapeLike_cons (c : Char) (q : List Char) :
    escapeLike (c :: q) = (if c = '%' ∨ c = '_' then ['\\', c] else [c]) ++ escapeLike q :=
  List.flatMap_cons ..

/-- The escaped keyword matches itself and nothing else. -/
theorem sqlLike_escapeLike {q : List Char} (hq : '\\' ∉ q) {pattern text : List Char} :
    sqlLike (escapeLike q ++ pattern) text = true ↔
      ∃ rest, text = q ++ rest ∧ sqlLike pattern rest = true := by
  induction q generalizing text with
  | nil => simp [escapeLike]
  | cons c q ih =>
    obtain ⟨hc, hq⟩ := not_or.1 (mt List.mem_cons.2 hq)
    have hhead : sqlLike (escapeLike (c :: q) ++ pattern) text = true ↔
        ∃ rest, text = c :: rest ∧ sqlLike (escapeLike q ++ pattern) rest = true := by
      rw [escapeLike_cons]
      split
      · exact sqlLike_escaped
      · next hplain =>
        obtain ⟨hpercent, hscore⟩ := not_or.1 hplain
        exact sqlLike_plain ⟨hpercent, hscore, Ne.symm hc⟩
    rw [hhead]
    constructor
    · rintro ⟨rest, rfl, hrest⟩
      obtain ⟨rest, rfl, hpattern⟩ := (ih hq).1 hrest
      exact ⟨rest, rfl, hpattern⟩
    · rintro ⟨rest, rfl, hpattern⟩
      exact ⟨q ++ rest, rfl, (ih hq).2 ⟨rest, rfl, hpattern⟩⟩

/-- The pattern of the keyword matches the texts it occurs in. -/
theorem sqlLike_likePattern {q : String} (hq : '\\' ∉ q.toList) (text : List Char) :
    sqlLike (likePattern q) text = true ↔ q.toList <:+: text := by
  unfold likePattern
  rw [List.cons_append, sqlLike_percent]
  constructor
  · rintro ⟨_, ⟨before, rfl⟩, hlike⟩
    obtain ⟨after, rfl, -⟩ := (sqlLike_escapeLike hq).1 hlike
    exact ⟨before, after, List.append_assoc ..⟩
  · rintro ⟨before, after, rfl⟩
    refine ⟨q.toList ++ after, ⟨before, (List.append_assoc ..).symm⟩, ?_⟩
    exact (sqlLike_escapeLike hq).2 ⟨after, rfl, sqlLike_everything after⟩

/-- **The songs of a search.**  A keyword without a backslash finds the songs it occurs in: in
the title, the lyrics or the name of the player. -/
theorem matchesSearch_literal (db : SongDb) {q : String} (hne : q ≠ "") (hq : '\\' ∉ q.toList)
    (song : CheeringSong) : db.matchesSearch (some q) song = true ↔
      (∃ title, song.title = some title ∧ q.toList <:+: title.toList) ∨
      q.toList <:+: song.lyrics.toList ∨
      ∃ player, song.player.bind db.players.find? = some player ∧ q.toList <:+: player.name.toList := by
  have hlike (text : Option String) : isLike text q = true ↔
      ∃ t, text = some t ∧ q.toList <:+: t.toList := by
    unfold isLike
    rw [Option.any_eq_true]
    exact exists_congr fun t => and_congr_right' (sqlLike_likePattern hq t.toList)
  unfold SongDb.matchesSearch
  rw [Option.filter_some, if_pos (decide_eq_true hne), Option.all_some, Bool.or_eq_true,
    Bool.or_eq_true, hlike, hlike, hlike, or_assoc]
  refine or_congr_right (or_congr ⟨?_, fun h => ⟨_, rfl, h⟩⟩ ⟨?_, ?_⟩)
  · rintro ⟨lyrics, hlyrics, h⟩
    exact Option.some.inj hlyrics ▸ h
  · rintro ⟨_, hname, h⟩
    obtain ⟨player, hplayer, rfl⟩ := Option.map_eq_some_iff.1 hname
    exact ⟨player, hplayer, h⟩
  · rintro ⟨player, hplayer, h⟩
    exact ⟨player.name, congrArg (Option.map Player.name) hplayer, h⟩

/-! ## A keyword with a backslash -/

/-- A text the pattern of the keyword matches.  A backslash is gone where it takes the next
character, or the `%` that was to follow; before an escaped `%` or `_` it takes the backslash
in front of it, and lets the wildcard loose. -/
def misread : List Char → List Char
  | [] => []
  | ['\\'] => ['%']
  | '\\' :: '%' :: q => '\\' :: misread q
  | '\\' :: '_' :: q => '\\' :: 'a' :: misread q
  | '\\' :: c :: q => c :: misread q
  | c :: q => c :: misread q

theorem sqlLike_misread (q : List Char) : sqlLike (escapeLike q ++ ['%']) (misread q) = true := by
  fun_induction misread q with
  | case1 => exact sqlLike_everything []
  | case2 => decide
  | case3 q ih =>
    refine sqlLike_escaped.2 ⟨misread q, rfl, ?_⟩
    exact sqlLike_percent.2 ⟨misread q, List.suffix_refl _, ih⟩
  | case4 q ih => exact sqlLike_escaped.2 ⟨'a' :: misread q, rfl, ih⟩
  | case5 c q hpercent hscore ih =>
    rw [escapeLike_cons, escapeLike_cons, if_neg (by decide), if_neg (not_or.2 ⟨hpercent, hscore⟩)]
    exact sqlLike_escaped.2 ⟨misread q, rfl, ih⟩
  | case6 c q hlast hpercent hscore hslash ih =>
    rw [escapeLike_cons]
    split
    · exact sqlLike_escaped.2 ⟨misread q, rfl, ih⟩
    · next hplain =>
      obtain ⟨hne, hne'⟩ := not_or.1 hplain
      have hc : c ≠ '\\' := by
        rintro rfl
        cases q with
        | nil => exact hlast rfl rfl
        | cons d q => exact hslash d q rfl rfl
      exact (sqlLike_plain ⟨hne, hne', hc⟩).2 ⟨misread q, rfl, ih⟩

theorem length_misread_le (q : List Char) : (misread q).length ≤ q.length := by
  fun_induction misread q with
  | case1 | case2 => exact Nat.le_refl _
  | case3 q ih | case4 q ih | case5 c q hpercent hscore ih | case6 c q hlast hpercent hscore hslash ih =>
    simp only [List.length_cons]
    omega

/-- The misreading differs where the first backslash stood. -/
theorem misread_ne {q : List Char} (hq : '\\' ∈ q) : misread q ≠ q := by
  intro he
  fun_induction misread q with
  | case1 => cases hq
  | case2 => exact absurd he (by decide)
  | case3 q ih =>
    have hlength := congrArg List.length he
    have hle := length_misread_le q
    simp only [List.length_cons] at hlength
    omega
  | case4 q ih =>
    obtain ⟨-, hnext⟩ := List.cons.inj he
    exact absurd (List.cons.inj hnext).1 (by decide)
  | case5 c q hpercent hscore ih =>
    have hlength := congrArg List.length he
    have hle := length_misread_le q
    simp only [List.length_cons] at hlength
    omega
  | case6 c q hlast hpercent hscore hslash ih =>
    obtain ⟨-, hrest⟩ := List.cons.inj he
    refine ih ?_ hrest
    rcases List.mem_cons.1 hq with rfl | hq
    · cases q with
      | nil => exact absurd rfl (hlast rfl)
      | cons d q => exact absurd rfl (hslash d q rfl)
    · exact hq

/-- **A search takes its keyword literally** exactly when there is no backslash in it. -/
theorem search_literal_iff (q : String) :
    (∀ t : String, isLike (some t) q = true ↔ q.toList <:+: t.toList) ↔ '\\' ∉ q.toList := by
  constructor
  · intro hliteral hslash
    have hmatch : isLike (some (String.ofList (misread q.toList))) q = true := by
      unfold isLike likePattern
      rw [Option.any_some, String.toList_ofList, List.cons_append]
      exact sqlLike_percent.2 ⟨_, List.suffix_refl _, sqlLike_misread q.toList⟩
    have hoccurs := (hliteral _).1 hmatch
    rw [String.toList_ofList] at hoccurs
    exact misread_ne hslash (hoccurs.eq_of_length_le (length_misread_le q.toList)).symm
  · intro hq t
    unfold isLike
    rw [Option.any_some]
    exact sqlLike_likePattern hq t.toList

/-- The keyword of one backslash finds what ends in a percent sign, and not itself. -/
theorem search_backslash :
    (isLike (some "승률 100%") "\\" = true ∧ ¬ "\\".toList <:+: "승률 100%".toList) ∧
    (isLike (some "\\(^o^)/") "\\" = false ∧ "\\".toList <:+: "\\(^o^)/".toList) := by
  refine ⟨⟨?_, ?_⟩, ?_, ?_⟩ <;> decide

end VictoryFairy
