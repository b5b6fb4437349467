import VictoryFairy.Proofs.InfiniteScroll

/-!
# Progress of a scroll

The cursor of an answer is taken from the songs shown, `hasNextData` from the songs fetched.
The two agree unless nothing was to be shown.

    request_bound       : a cursor that a query takes is a lower bound on the ids, or none
    MakesProgress       : what an answer that promises more has to offer
    scroll_progress_iff : which requests get such an answer
-/

namespace VictoryFairy

open Paging

/-! ## Cursors -/

/-- The lower bound that a cursor sets on the ids. -/
def boundOf (cursor : Option ℚ) : Option Nat :=
  (cursor.filter fun c => 0 < c).map fun c => c.num.toNat

theorem boundOf_ne_zero (cursor : Option ℚ) : boundOf cursor ≠ some 0 := by
  intro h
  obtain ⟨c, hc, hzero⟩ := Option.map_eq_some_iff.1 h
  obtain ⟨-, hpos⟩ := Option.filter_eq_some_iff.1 hc
  have hnum := Rat.num_pos.2 (of_decide_eq_true hpos)
  omega

theorem boundOf_natCast {k : Nat} (hk : 0 < k) : boundOf (some (k : ℚ)) = some k := by
  have hpos : (0 : ℚ) < k := Nat.cast_pos.2 hk
  simp [boundOf, Option.filter, hpos]

section

variable {cursor : Option ℚ}
  (hcursor : ∀ c ∈ SongDb.givenCursor cursor, c.den = 1 ∧ IsInteger c.num)

include hcursor

/-- A cursor of a query is an integer: nothing, `0`, or on one side of it. -/
theorem cursor_cases : cursor = none ∨ cursor = some 0 ∨ (∃ c, cursor = some c ∧ c < 0) ∨
    ∃ k : Nat, cursor = some (k : ℚ) ∧ 0 < k ∧ IsInteger k := by
  cases cursor with
  | none => exact Or.inl rfl
  | some c =>
    refine Or.inr ?_
    rcases lt_trichotomy c 0 with hneg | rfl | hpos
    · exact Or.inr (Or.inl ⟨c, rfl, hneg⟩)
    · exact Or.inl rfl
    · obtain ⟨hden, hinteger⟩ := hcursor c
        (Option.filter_eq_some_iff.2 ⟨rfl, decide_eq_true hpos.ne'⟩)
      have hnum := Rat.num_pos.2 hpos
      have hk : (c.num.toNat : Int) = c.num := Int.toNat_of_nonneg hnum.le
      have hc : c = (c.num.toNat : ℚ) := by
        conv => lhs; rw [← Rat.coe_int_num_of_den_eq_one hden, ← hk]
        rfl
      exact Or.inr (Or.inr ⟨c.num.toNat, congrArg some hc, by omega, hk.symm ▸ hinteger⟩)

theorem afterCursor_bound (id : Nat) :
    SongDb.afterCursor cursor id = decide (After (boundOf cursor) id) := by
  rcases cursor_cases hcursor with rfl | rfl | ⟨c, rfl, hneg⟩ | ⟨k, rfl, hk, -⟩
  · rfl
  · rfl
  · have hlt : c < (id : ℚ) := hneg.trans_le (Nat.cast_nonneg id)
    have hnone : boundOf (some c) = none := by simp [boundOf, Option.filter, not_lt.2 hneg.le]
    rw [hnone]
    simp [SongDb.afterCursor, SongDb.givenCursor, Option.filter, hneg.ne, hlt, After]
  · rw [boundOf_natCast hk]
    have hne : (some k : Option Nat) ≠ some 0 := fun h => hk.ne' (Option.some.inj h)
    exact afterCursor_eq hne id

theorem boundOf_isInteger {k : Nat} (h : boundOf cursor = some k) : IsInteger k := by
  rcases cursor_cases hcursor with rfl | rfl | ⟨c, rfl, hneg⟩ | ⟨k, rfl, hk, hinteger⟩
  · cases h
  · cases h
  · simp [boundOf, Option.filter, not_lt.2 hneg.le] at h
  · rw [boundOf_natCast hk] at h
    exact Option.some.inj h ▸ hinteger

end

section

variable {endpoint : ScrollEndpoint} {userId take : Nat} {db : SongDb} {cursor : Option ℚ}

/-- A query with a cursor it takes is one with the bound. -/
theorem request_bound (hcursor : SongDb.checkPage take cursor = .ok ()) {page : CursorPage} :
    endpoint.request userId take db cursor = .ok page ↔
      endpoint.request userId take db ((boundOf cursor).map Nat.cast) = .ok page := by
  obtain ⟨hgiven, htake⟩ := checkPage_iff.1 hcursor
  have hbound : SongDb.checkPage take ((boundOf cursor).map Nat.cast) = .ok () := by
    refine checkPage_iff.2 ⟨fun q hq => ?_, htake⟩
    obtain ⟨hq, -⟩ := Option.filter_eq_some_iff.1 hq
    obtain ⟨k, hk, rfl⟩ := Option.map_eq_some_iff.1 hq
    exact ⟨Rat.den_natCast k, by rw [Rat.num_natCast]; exact boundOf_isInteger hgiven hk⟩
  have hafter : SongDb.afterCursor cursor =
      SongDb.afterCursor ((boundOf cursor).map Nat.cast) := by
    funext id
    rw [afterCursor_bound hgiven, afterCursor_eq (boundOf_ne_zero cursor)]
  have hmany : ∀ (matching : CheeringSong → Bool) n, db.getMany matching cursor n =
      db.getMany matching ((boundOf cursor).map Nat.cast) n := by
    intro matching n
    unfold SongDb.getMany
    rw [hafter]
  rw [request_iff, request_iff, hcursor, hbound, hmany]

/-- Only the first request of a run can have a cursor that is no id. -/
theorem scroll_bound (hcursor : SongDb.checkPage take cursor = .ok ()) {dbs : List SongDb}
    {pages : List CursorPage} : endpoint.Scroll userId take cursor dbs pages ↔
      endpoint.Scroll userId take ((boundOf cursor).map Nat.cast) dbs pages := by
  constructor
  · intro h
    cases h with
    | stop hpage => exact .stop ((request_bound hcursor).1 hpage)
    | next hpage hmore rest => exact .next ((request_bound hcursor).1 hpage) hmore rest
  · intro h
    cases h with
    | stop hpage => exact .stop ((request_bound hcursor).2 hpage)
    | next hpage hmore rest => exact .next ((request_bound hcursor).2 hpage) hmore rest

/-! ## Progress -/

/-- If more is promised, the next cursor is after the one of the request, and what lies between
the two is what the page shows. -/
def ScrollEndpoint.MakesProgress (endpoint : ScrollEndpoint) (userId : Nat) (db : SongDb)
    (cursor : Option ℚ) (page : CursorPage) : Prop :=
  page.pageMeta.hasNextData = true → ∃ next : Nat, page.pageMeta.cursor = some next ∧
    (∀ old, cursor = some old → old < next) ∧
    ∀ song ∈ endpoint.songs userId db, SongDb.afterCursor cursor song.id = true →
      (SongDb.afterCursor (some (next : ℚ)) song.id = false ↔
        song ∈ page.data.map CheeringSongRow.song)

/-- A client with this first request comes to a last one. -/
def ScrollEndpoint.Ends (endpoint : ScrollEndpoint) (userId take : Nat) (db : SongDb)
    (cursor : Option ℚ) : Prop :=
  ∃ bound, ∀ n pages, endpoint.Scroll userId take cursor (List.replicate n db) pages → n ≤ bound

/-- Nothing is to be shown, and something is there. -/
theorem request_zero {page : CursorPage}
    (hpage : endpoint.request userId 0 db cursor = .ok page) :
    page.pageMeta.cursor = none ∧ (page.pageMeta.hasNextData = true ↔
      ∃ song ∈ endpoint.songs userId db, SongDb.afterCursor cursor song.id = true) := by
  have hcheck := (request_iff.1 hpage).2.1
  have hpaged := request_page (boundOf_ne_zero cursor) ((request_bound hcheck).1 hpage)
  refine ⟨(congrArg Page.cursor hpaged).trans page_zero_cursor, ?_⟩
  have hmore : page.pageMeta.hasNextData =
      (Paging.page CheeringSong.id 0 (boundOf cursor) (endpoint.songs userId db)).hasNextData :=
    congrArg Page.hasNextData hpaged
  rw [hmore, page_hasNextData, List.length_pos_iff_exists_mem]
  refine exists_congr fun song => ?_
  rw [mem_rowsAfter, afterCursor_bound (checkPage_iff.1 hcheck).1, decide_eq_true_iff]

theorem makesProgress_of_pos (htake : 1 ≤ take) (hids : PositiveIds db) {page : CursorPage}
    (hpage : endpoint.request userId take db cursor = .ok page) :
    endpoint.MakesProgress userId db cursor page := by
  intro hmore
  have hcheck := (request_iff.1 hpage).2.1
  have hgiven := (checkPage_iff.1 hcheck).1
  have hpaged := request_page (boundOf_ne_zero cursor) ((request_bound hcheck).1 hpage)
  have hsorted := songs_sorted endpoint userId db
  have hmore' := (congrArg Page.hasNextData hpaged).symm.trans hmore
  obtain ⟨before, last, hdata, hcursor⟩ := exists_cursor htake hmore'
  have hlast : last ∈ endpoint.songs userId db ∧ After (boundOf cursor) last.id :=
    mem_data (hdata ▸ List.mem_append_right before (List.mem_singleton_self last))
  have hpos : 0 < last.id := hids last (mem_songs.1 hlast.1).1
  have hne : some last.id ≠ some 0 := fun h => hpos.ne' (Option.some.inj h)
  refine ⟨last.id, (congrArg Page.cursor hpaged).trans hcursor, ?_, fun song hsong hafter => ?_⟩
  · rintro old rfl
    have hlater : SongDb.afterCursor (some old) last.id = true := by
      rw [afterCursor_bound hgiven]
      exact decide_eq_true hlast.2
    by_cases hzero : old = 0
    · rw [hzero]
      exact Nat.cast_pos.2 hpos
    · simpa [SongDb.afterCursor, SongDb.givenCursor, Option.filter, hzero] using hlater
  · have hshown : page.data.map CheeringSongRow.song =
        (Paging.page CheeringSong.id take (boundOf cursor) (endpoint.songs userId db)).data :=
      congrArg Page.data hpaged
    have hnext := afterCursor_eq hne song.id
    rw [afterCursor_bound hgiven, decide_eq_true_iff] at hafter
    rw [show some (last.id : ℚ) = (some last.id).map Nat.cast from rfl, hnext,
      decide_eq_false_iff_not, hshown, ← hcursor]
    constructor
    · intro hnot
      exact (shown_or_after htake hsorted hmore' hsong hafter).resolve_right hnot
    · intro hmem hlater
      exact lt_irrefl _ ((lt_of_after_cursor htake hsorted hmore' hlater).1 song hmem)

theorem ends_of_pos (htake : 1 ≤ take) (hids : PositiveIds db)
    (hcursor : SongDb.checkPage take cursor = .ok ()) : endpoint.Ends userId take db cursor := by
  refine ⟨(rowsAfter CheeringSong.id (boundOf cursor) (endpoint.songs userId db)).length + 1,
    fun n pages hscroll => ?_⟩
  have hne := boundOf_ne_zero cursor
  have hscan := ((scroll_bound hcursor).1 hscroll).scan (fun d hd => List.eq_of_mem_replicate hd ▸ hids) rfl hne
  rw [List.map_replicate] at hscan
  exact (hscan.fixed htake (songs_sorted endpoint userId db)).1

/-- A client that is promised nothing does not go on. -/
theorem ends_of_last {page : CursorPage} (hpage : endpoint.request userId take db cursor = .ok page)
    (hlast : page.pageMeta.hasNextData = false) : endpoint.Ends userId take db cursor := by
  refine ⟨1, fun n pages hscroll => ?_⟩
  generalize hdbs : List.replicate n db = dbs at hscroll
  cases hscroll with
  | stop => exact (List.length_replicate.symm.trans (congrArg List.length hdbs)).le
  | next hpage' hmore rest =>
    obtain ⟨-, hmem⟩ := List.eq_replicate_iff.1 hdbs.symm
    obtain rfl := hmem _ List.mem_cons_self
    obtain rfl := Except.ok.inj (hpage.symm.trans hpage')
    exact absurd hmore (Bool.eq_false_iff.1 hlast)

/-- With one song to come, the request for no songs is made again and again. -/
theorem not_ends_zero (hids : PositiveIds db) {page : CursorPage}
    (hpage : endpoint.request userId 0 db cursor = .ok page)
    (hsong : ∃ song ∈ endpoint.songs userId db, SongDb.afterCursor cursor song.id = true) :
    ¬ endpoint.Ends userId 0 db cursor := by
  rintro ⟨bound, hbound⟩
  have hne := boundOf_ne_zero cursor
  have hcheck := (request_iff.1 hpage).2.1
  have hgiven := (checkPage_iff.1 hcheck).1
  have hrows : rowsAfter CheeringSong.id (boundOf cursor) (endpoint.songs userId db) ≠ [] := by
    obtain ⟨song, hmem, hafter⟩ := hsong
    rw [afterCursor_bound hgiven, decide_eq_true_iff] at hafter
    exact List.ne_nil_of_mem (mem_rowsAfter.2 ⟨hmem, hafter⟩)
  obtain ⟨ps, hscan⟩ := exists_scan_zero hrows bound
  obtain ⟨pages, hscroll, -⟩ := scroll_of_scan hids hpage hne
    (fun _ hk => boundOf_isInteger hgiven hk) hscan
  exact Nat.not_succ_le_self bound (hbound _ pages ((scroll_bound hcheck).2 hscroll))

end

/-- **Progress.**  An answer makes progress, and its client comes to an end on an unchanged
table, unless no songs were asked for and there is one. -/
theorem scroll_progress_iff (endpoint : ScrollEndpoint) (userId take : Nat) (db : SongDb)
    (hids : PositiveIds db) (cursor : Option ℚ) (page : CursorPage)
    (hpage : endpoint.request userId take db cursor = .ok page) :
    (endpoint.MakesProgress userId db cursor page ↔
      (take = 0 → ∀ song ∈ endpoint.songs userId db, SongDb.afterCursor cursor song.id = false)) ∧
    (endpoint.Ends userId take db cursor ↔
      (take = 0 → ∀ song ∈ endpoint.songs userId db, SongDb.afterCursor cursor song.id = false)) := by
  rcases Nat.eq_zero_or_pos take with rfl | hpos
  · obtain ⟨hcursor, hmore⟩ := request_zero hpage
    have hlast (hnone : ∀ song ∈ endpoint.songs userId db,
        SongDb.afterCursor cursor song.id = false) : page.pageMeta.hasNextData = false := by
      refine Bool.eq_false_iff.2 fun hnext => ?_
      obtain ⟨song, hsong, hafter⟩ := hmore.1 hnext
      exact Bool.eq_false_iff.1 (hnone song hsong) hafter
    refine ⟨⟨fun hprogress _ song hsong => ?_, fun hnone hnext => ?_⟩,
      fun hends _ song hsong => ?_, fun hnone => ends_of_last hpage (hlast (hnone rfl))⟩
    · refine Bool.eq_false_iff.2 fun hafter => ?_
      obtain ⟨next, hnext, -⟩ := hprogress (hmore.2 ⟨song, hsong, hafter⟩)
      rw [hcursor] at hnext
      cases hnext
    · exact absurd hnext (Bool.eq_false_iff.1 (hlast (hnone rfl)))
    · exact Bool.eq_false_iff.2 fun hafter => not_ends_zero hids hpage ⟨song, hsong, hafter⟩ hends
  · refine ⟨⟨fun _ h => absurd h hpos.ne', fun _ => makesProgress_of_pos hpos hids hpage⟩,
      fun _ h => absurd h hpos.ne', fun _ => ends_of_pos hpos hids (request_iff.1 hpage).2.1⟩

/-- The second liked song is still to come, and the cursor is at the first. -/
theorem scroll_progress_liked :
    ∃ page, (ScrollEndpoint.liked "team").request 7 1 likedSongsDb none = .ok page ∧
      page.pageMeta.hasNextData = true ∧ page.pageMeta.cursor = some 1 ∧
      (ScrollEndpoint.liked "team").MakesProgress 7 likedSongsDb none page ∧
      (ScrollEndpoint.liked "team").Ends 7 1 likedSongsDb none := by
  have hids : ∀ song ∈ likedSongsDb.cheeringSongs.rows, 0 < song.id := by decide
  refine ⟨_, rfl, rfl, rfl, ?_⟩
  obtain ⟨hprogress, hends⟩ := scroll_progress_iff (.liked "team") 7 1 likedSongsDb hids none _ rfl
  exact ⟨hprogress.2 (by decide), hends.2 (by decide)⟩

/-- The same client asks for no songs: there are more, and no cursor to get them with. -/
theorem scroll_no_progress :
    ∃ page, (ScrollEndpoint.liked "team").request 7 0 likedSongsDb (some 1) = .ok page ∧
      page.pageMeta.hasNextData = true ∧ page.pageMeta.cursor = none ∧
      ¬ (ScrollEndpoint.liked "team").MakesProgress 7 likedSongsDb (some 1) page := by
  refine ⟨_, rfl, by decide, by decide, fun hprogress => ?_⟩
  obtain ⟨next, hnext, -⟩ := hprogress (by decide)
  cases hnext

end VictoryFairy
