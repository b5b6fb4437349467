import Mathlib.Data.Nat.Cast.Order.Ring
import VictoryFairy.Lib.Paging
import VictoryFairy.Lib.Runs
import VictoryFairy.Model.CheeringSong

/-!
# Infinite scroll

The three endpoints answer with the pages of `Lib.Paging` over the matching songs, and a
client that follows the cursor makes a scan of them.

    request_page : one request is one page
    Scroll.scan  : a run of a client is a scan
    infiniteScroll_complete
                 : nothing comes twice, nothing that stays is lost, and it ends
-/

namespace VictoryFairy

open Paging Runs

/-! ## One request -/

/-- The matching songs in the order of their ids. -/
def ScrollEndpoint.songs (endpoint : ScrollEndpoint) (userId : Nat) (db : SongDb) :
    List CheeringSong :=
  (db.cheeringSongs.rows.insertionSort fun a b => a.id ≤ b.id).filter (endpoint.filter userId db)

def CursorPage.toPage (page : CursorPage) : Page CheeringSong Nat where
  data := page.data.map CheeringSongRow.song
  hasNextData := page.pageMeta.hasNextData
  cursor := page.pageMeta.cursor

/-- The ids a sequence hands out start at one. -/
def PositiveIds (db : SongDb) : Prop := ∀ song ∈ db.cheeringSongs.rows, 0 < song.id

section

variable {endpoint : ScrollEndpoint} {userId take : Nat} {db : SongDb}

theorem mem_songs {song : CheeringSong} : song ∈ endpoint.songs userId db ↔
    song ∈ db.cheeringSongs.rows ∧ endpoint.filter userId db song = true := by
  unfold ScrollEndpoint.songs
  rw [List.mem_filter, List.mem_insertionSort]

theorem songs_sorted (endpoint : ScrollEndpoint) (userId : Nat) (db : SongDb) :
    Sorted CheeringSong.id (endpoint.songs userId db) := by
  have hle : (db.cheeringSongs.rows.insertionSort fun a b => a.id ≤ b.id).Pairwise
      fun a b => a.id ≤ b.id := by
    have : Std.Total fun a b : CheeringSong => a.id ≤ b.id := ⟨fun a b => Nat.le_total a.id b.id⟩
    have : IsTrans CheeringSong fun a b => a.id ≤ b.id := ⟨fun a b c => Nat.le_trans⟩
    exact List.pairwise_insertionSort _ _
  have hne : (db.cheeringSongs.rows.insertionSort fun a b => a.id ≤ b.id).Pairwise
      fun a b => a.id ≠ b.id :=
    (List.pairwise_map.1 db.cheeringSongs.nodup).perm (List.perm_insertionSort _ _).symm Ne.symm
  exact List.Pairwise.sublist List.filter_sublist
    ((hle.and hne).imp fun h => Nat.lt_of_le_of_ne h.1 h.2)

/-- Only a cursor of zero would be taken for none. -/
theorem afterCursor_eq {cursor : Option Nat} (hcursor : cursor ≠ some 0) (id : Nat) :
    SongDb.afterCursor (cursor.map Nat.cast) id = decide (After cursor id) := by
  unfold SongDb.afterCursor SongDb.givenCursor After
  cases cursor with
  | none => simp
  | some c =>
    have hc : c ≠ 0 := fun he => hcursor (he ▸ rfl)
    simp [Option.filter, hc]

theorem getMany_eq {cursor : Option Nat} (hcursor : cursor ≠ some 0) (n : Nat) :
    db.getMany (endpoint.filter userId db) (cursor.map Nat.cast) n =
      (rowsAfter CheeringSong.id cursor (endpoint.songs userId db)).take n := by
  unfold SongDb.getMany rowsAfter ScrollEndpoint.songs
  rw [List.filter_filter]
  refine congrArg (List.take n) (List.filter_congr fun song _ => ?_)
  rw [afterCursor_eq hcursor, Bool.and_comm]

theorem toCursorPage_toPage (fetched : List CheeringSong) :
    (db.toCursorPage userId take fetched).toPage = pageOf CheeringSong.id take fetched := by
  unfold SongDb.toCursorPage CursorPage.toPage pageOf
  dsimp only
  rw [List.map_map, show CheeringSongRow.song ∘ db.loadRow userId = id from rfl, List.map_id]

/-- What a request checks before its page. -/
def ScrollEndpoint.check (endpoint : ScrollEndpoint) (db : SongDb) : Except AppError Unit :=
  match endpoint with
  | search q => q.elim (.ok ()) SongDb.textParameter
  | byTeamAndType teamId type => do
    db.checkTeam teamId
    SongDb.textParameter type
  | liked type => SongDb.textParameter type

/-- Which of the endpoints it is makes no difference beyond the check and the filter. -/
theorem request_iff {cursor : Option ℚ} {page : CursorPage} :
    endpoint.request userId take db cursor = .ok page ↔
      endpoint.check db = .ok () ∧ SongDb.checkPage take cursor = .ok () ∧
        page = db.toCursorPage userId take
          (db.getMany (endpoint.filter userId db) cursor (take + 1)) := by
  have hrequest : endpoint.request userId take db cursor =
      (endpoint.check db >>= fun _ => SongDb.checkPage take cursor >>= fun _ =>
        .ok (db.toCursorPage userId take
          (db.getMany (endpoint.filter userId db) cursor (take + 1)))) := by
    cases endpoint with
    | search q => rfl
    | byTeamAndType teamId type =>
      unfold ScrollEndpoint.request SongDb.findByTeamIdAndTypeWithInfiniteScroll ScrollEndpoint.check
      dsimp only
      rw [bind_assoc]
      rfl
    | liked type => rfl
  rw [hrequest]
  constructor
  · intro h
    obtain ⟨⟨⟩, hcheck, h⟩ := bind_eq_ok.1 h
    obtain ⟨⟨⟩, hpage, h⟩ := bind_eq_ok.1 h
    exact ⟨hcheck, hpage, (Except.ok.inj h).symm⟩
  · rintro ⟨hcheck, hpage, rfl⟩
    exact bind_eq_ok.2 ⟨(), hcheck, bind_eq_ok.2 ⟨(), hpage, rfl⟩⟩

theorem integerParameter_iff {n : ℚ} :
    SongDb.integerParameter n = .ok () ↔ n.den = 1 ∧ IsInteger n.num := by
  unfold SongDb.integerParameter
  split
  · next h =>
    refine ⟨nofun, fun hn => ?_⟩
    obtain ⟨hden, hlo, hhi⟩ := hn
    have hlarge := h.resolve_left (not_not.2 hden)
    omega
  · next h =>
    rw [not_or, not_not] at h
    split
    · next hn => exact ⟨fun _ => ⟨h.1, hn⟩, fun _ => rfl⟩
    · next hn => exact ⟨nofun, fun hc => absurd hc.2 hn⟩

theorem checkPage_iff {cursor : Option ℚ} :
    SongDb.checkPage take cursor = .ok () ↔
      (∀ c ∈ SongDb.givenCursor cursor, c.den = 1 ∧ IsInteger c.num) ∧ take + 1 < 2 ^ 63 := by
  have hcursor : (SongDb.givenCursor cursor).elim (.ok ()) SongDb.integerParameter = .ok () ↔
      ∀ c ∈ SongDb.givenCursor cursor, c.den = 1 ∧ IsInteger c.num := by
    cases SongDb.givenCursor cursor with
    | none => exact iff_of_true rfl nofun
    | some c => exact integerParameter_iff.trans (by simp)
  rw [← hcursor]
  unfold SongDb.checkPage
  constructor
  · intro h
    obtain ⟨⟨⟩, hc, h⟩ := bind_eq_ok.1 h
    refine ⟨hc, ?_⟩
    by_contra hlimit
    rw [if_neg hlimit] at h
    cases h
  · rintro ⟨hc, hlimit⟩
    refine bind_eq_ok.2 ⟨(), hc, ?_⟩
    rw [if_pos hlimit]
    rfl

/-- Whether a request is rejected does not depend on its cursor, if that is an integer of the
column. -/
theorem request_accepted {cursor : Option ℚ} {page : CursorPage}
    (h : endpoint.request userId take db cursor = .ok page) {c : Option Nat}
    (hc : ∀ k, c = some k → IsInteger k) :
    ∃ page', endpoint.request userId take db (c.map Nat.cast) = .ok page' := by
  obtain ⟨hcheck, hpage, -⟩ := request_iff.1 h
  refine ⟨_, request_iff.2 ⟨hcheck, checkPage_iff.2 ⟨fun q hq => ?_, (checkPage_iff.1 hpage).2⟩, rfl⟩⟩
  obtain ⟨hq, -⟩ := Option.filter_eq_some_iff.1 hq
  obtain ⟨k, rfl, rfl⟩ := Option.map_eq_some_iff.1 hq
  exact ⟨Rat.den_natCast k, by rw [Rat.num_natCast]; exact hc k rfl⟩

/-- **One request.**  The answer is the page after the cursor. -/
theorem request_page {cursor : Option Nat} (hcursor : cursor ≠ some 0) {page : CursorPage}
    (h : endpoint.request userId take db (cursor.map Nat.cast) = .ok page) :
    page.toPage = Paging.page CheeringSong.id take cursor (endpoint.songs userId db) := by
  rw [(request_iff.1 h).2.2, toCursorPage_toPage, getMany_eq hcursor]
  rfl

/-- A cursor is the id of a song. -/
theorem page_cursor_ne_zero (hids : PositiveIds db) (cursor : Option Nat) :
    (Paging.page CheeringSong.id take cursor (endpoint.songs userId db)).cursor ≠ some 0 := by
  intro h
  rw [page_cursor] at h
  obtain ⟨song, hlast, hzero⟩ := Option.map_eq_some_iff.1 h
  have hmem := (mem_data (List.mem_of_getLast? hlast)).1
  exact absurd hzero (Nat.ne_of_gt (hids song (mem_songs.1 hmem).1))

theorem page_cursor_isInteger (cursor : Option Nat) {k : Nat}
    (h : (Paging.page CheeringSong.id take cursor (endpoint.songs userId db)).cursor = some k) :
    IsInteger k := by
  rw [page_cursor] at h
  obtain ⟨song, hlast, rfl⟩ := Option.map_eq_some_iff.1 h
  exact db.ids song (mem_songs.1 (mem_data (List.mem_of_getLast? hlast)).1).1

end

/-! ## Runs -/

section

variable {endpoint : ScrollEndpoint} {userId take : Nat}

/-- **A run is a scan** of the matching songs its requests find. -/
theorem ScrollEndpoint.Scroll.scan {cursor : Option ℚ} {dbs : List SongDb} {pages : List CursorPage}
    (h : endpoint.Scroll userId take cursor dbs pages) (hids : ∀ db ∈ dbs, PositiveIds db)
    {c : Option Nat} (hc : cursor = c.map Nat.cast) (hne : c ≠ some 0) :
    Scan CheeringSong.id take c (dbs.map (endpoint.songs userId)) (pages.map CursorPage.toPage) := by
  induction h generalizing c with
  | stop hpage =>
    subst hc
    rw [List.map_singleton, List.map_singleton, request_page hne hpage]
    exact .stop c _
  | next hpage hmore rest ih =>
    next db page dbs pages =>
    subst hc
    have hpaged := request_page hne hpage
    have hcursor : page.pageMeta.cursor =
        (Paging.page CheeringSong.id take c (endpoint.songs userId db)).cursor :=
      congrArg Page.cursor hpaged
    have hrest := ih (fun d hd => hids d (List.mem_cons_of_mem db hd)) rfl
      (hcursor ▸ page_cursor_ne_zero (hids db List.mem_cons_self) c)
    rw [hcursor] at hrest
    rw [List.map_cons, List.map_cons, hpaged]
    exact .next ((congrArg Page.hasNextData hpaged).symm.trans hmore) hrest

/-- On a fixed table every scan is made by a client whose first request is accepted. -/
theorem scroll_of_scan {db : SongDb} (hids : PositiveIds db) {first : Option ℚ} {answer : CursorPage}
    (haccepted : endpoint.request userId take db first = .ok answer) {n : Nat} {c : Option Nat}
    {ps : List (Page CheeringSong Nat)} (hne : c ≠ some 0) (hint : ∀ k, c = some k → IsInteger k)
    (h : Scan CheeringSong.id take c (List.replicate n (endpoint.songs userId db)) ps) :
    ∃ pages, endpoint.Scroll userId take (c.map Nat.cast) (List.replicate n db) pages ∧
      pages.map CursorPage.toPage = ps := by
  induction n generalizing c ps with
  | zero => cases h
  | succ n ih =>
    obtain ⟨page, hpage⟩ := request_accepted haccepted hint
    have hpaged := request_page hne hpage
    rw [List.replicate_succ] at h
    generalize hrest : List.replicate n (endpoint.songs userId db) = rest at h
    cases h with
    | stop =>
      obtain rfl : n = 0 := by simpa using congrArg List.length hrest
      exact ⟨[page], .stop hpage, by rw [List.map_singleton, hpaged]⟩
    | next hmore hscan =>
      rw [← hrest] at hscan
      obtain ⟨pages, hscroll, hpages⟩ := ih (page_cursor_ne_zero hids c)
        (fun _ hk => page_cursor_isInteger c hk) hscan
      refine ⟨page :: pages, .next hpage ?_ ?_, by rw [List.map_cons, hpaged, hpages]⟩
      · exact (congrArg Page.hasNextData hpaged).trans hmore
      · rw [show page.pageMeta.cursor = _ from congrArg Page.cursor hpaged]
        exact hscroll

/-- The songs of the pages, in order. -/
def scrolled (pages : List CursorPage) : List CheeringSong :=
  pages.flatMap fun page => page.data.map CheeringSongRow.song

/-- The client has come to a page that promises nothing. -/
def Ended (pages : List CursorPage) : Prop :=
  ∃ page, pages.getLast? = some page ∧ page.pageMeta.hasNextData = false

theorem shown_toPage (pages : List CursorPage) : shown (pages.map CursorPage.toPage) = scrolled pages :=
  List.flatMap_map ..

theorem finished_toPage {pages : List CursorPage} :
    Finished (pages.map CursorPage.toPage) ↔ Ended pages := by
  unfold Finished Ended
  rw [List.getLast?_map]
  constructor
  · rintro ⟨p, hp, hlast⟩
    obtain ⟨page, hpage, rfl⟩ := Option.map_eq_some_iff.1 hp
    exact ⟨page, hpage, hlast⟩
  · rintro ⟨page, hpage, hlast⟩
    exact ⟨page.toPage, by rw [hpage]; rfl, hlast⟩

end

/-- **Infinite scroll.**  Whatever happens to the tables between two requests, the ids of a run
increase, a page has at most `take` songs, and a song that every request of a finished run finds
is shown.  On fixed tables a run has a bounded number of requests and, unless the first is
rejected, comes to its end with exactly the matching songs. -/
theorem infiniteScroll_complete (endpoint : ScrollEndpoint) (userId take : Nat) (htake : 1 ≤ take) :
    (∀ dbs pages, (∀ db ∈ dbs, PositiveIds db) → endpoint.Scroll userId take none dbs pages →
      ((scrolled pages).map CheeringSong.id).Pairwise (· < ·) ∧
      (∀ page ∈ pages, page.data.length ≤ take) ∧
      (Ended pages → ∀ id, (∀ db ∈ dbs, ∃ song ∈ db.cheeringSongs.rows,
        song.id = id ∧ endpoint.filter userId db song = true) →
          id ∈ (scrolled pages).map CheeringSong.id)) ∧
    (∀ db answer, PositiveIds db → endpoint.request userId take db none = .ok answer →
      (∀ n pages, endpoint.Scroll userId take none (List.replicate n db) pages →
        n ≤ (endpoint.songs userId db).length + 1 ∧
        (Ended pages → scrolled pages = endpoint.songs userId db)) ∧
      ∃ n pages, endpoint.Scroll userId take none (List.replicate n db) pages ∧ Ended pages) := by
  have hnone : rowsAfter CheeringSong.id none = id := by
    funext songs
    exact List.filter_eq_self.2 fun song _ => decide_eq_true fun c hc => by cases hc
  refine ⟨fun dbs pages hids hscroll => ?_, fun db answer hids haccepted => ⟨fun n pages hscroll => ?_, ?_⟩⟩
  · have hscan := hscroll.scan hids (c := none) rfl nofun
    have hsorted : ∀ l ∈ dbs.map (endpoint.songs userId), Sorted CheeringSong.id l := by
      intro l hl
      obtain ⟨db, -, rfl⟩ := List.mem_map.1 hl
      exact songs_sorted endpoint userId db
    refine ⟨?_, fun page hpage => ?_, fun hended id hfound => ?_⟩
    · rw [List.pairwise_map, ← shown_toPage]
      exact (hscan.sorted htake hsorted).1
    · rw [← List.length_map CheeringSongRow.song]
      exact hscan.length_page_le page.toPage (List.mem_map_of_mem hpage)
    · obtain ⟨song, hsong, he⟩ := hscan.complete htake hsorted (finished_toPage.2 hended) (k := id)
        (fun c hc => by cases hc) fun l hl => by
          obtain ⟨db, hdb, rfl⟩ := List.mem_map.1 hl
          obtain ⟨song, hsong, hid, hfilter⟩ := hfound db hdb
          exact ⟨song, mem_songs.2 ⟨hsong, hfilter⟩, hid⟩
      rw [shown_toPage] at hsong
      exact List.mem_map.2 ⟨song, hsong, he⟩
  · have hscan := hscroll.scan (fun d hd => List.eq_of_mem_replicate hd ▸ hids) (c := none) rfl nofun
    rw [List.map_replicate] at hscan
    obtain ⟨hle, hshown⟩ := hscan.fixed htake (songs_sorted endpoint userId db)
    rw [shown_toPage, finished_toPage] at hshown
    rw [hnone] at hle hshown
    exact ⟨hle, hshown⟩
  · obtain ⟨n, ps, hscan, hfinished⟩ := exists_scan htake (songs_sorted endpoint userId db) none
    obtain ⟨pages, hscroll, rfl⟩ := scroll_of_scan hids haccepted (c := none) nofun nofun hscan
    exact ⟨n, pages, hscroll, finished_toPage.1 hfinished⟩

/-- Three songs, two of them liked by the user 7. -/
def likedSongsDb : SongDb where
  teams := twoTeams
  players := .empty
  cheeringSongs :=
    ⟨[⟨3, "team", some "최강", "무적 LG", "c", 1, none⟩, ⟨1, "team", none, "승리", "a", 2, none⟩,
      ⟨2, "team", some "안타", "안타 안타", "b", 1, none⟩], by decide⟩
  likes := ⟨[⟨1, 7, 3⟩, ⟨2, 7, 1⟩, ⟨3, 8, 2⟩], by decide⟩
  ids := by decide

/-- The liked songs come one by one, the older first. -/
theorem infiniteScroll_liked : ∃ n pages,
    (ScrollEndpoint.liked "team").Scroll 7 1 none (List.replicate n likedSongsDb) pages ∧
      Ended pages ∧ (scrolled pages).map CheeringSong.id = [1, 3] := by
  obtain ⟨-, hfixed⟩ := infiniteScroll_complete (.liked "team") 7 1 (by decide)
  have hids : ∀ song ∈ likedSongsDb.cheeringSongs.rows, 0 < song.id := by decide
  obtain ⟨hruns, n, pages, hscroll, hended⟩ := hfixed likedSongsDb _ hids rfl
  refine ⟨n, pages, hscroll, hended, ?_⟩
  rw [(hruns n pages hscroll).2 hended]
  decide

end VictoryFairy
