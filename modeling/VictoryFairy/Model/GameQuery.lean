import VictoryFairy.Model.Schedule

/-!
# What is read from the id of a game

`getGameType` looks at the last character, `groupGamesByTeam` at what lies between the
date and it, `upsertMany` (`deletePreDoubleHeader`) at all but the last.
-/

namespace VictoryFairy

def getGameType (id : String) : Nat :=
  if id.toList.getLast? = some '1' then 1
  else if id.toList.getLast? = some '2' then 2
  else 0

/-- `game.id.slice(8, -1)` -/
def teamKey (id : String) : String := String.ofList (id.toList.drop 8).dropLast

section

variable {α : Type}

/-- `map[key]` with the game pushed; a new key comes last. -/
def pushGroup (map : List (String × List α)) (key : String) (game : α) : List (String × List α) :=
  match map with
  | [] => [(key, [game])]
  | (k, games) :: map =>
    if k = key then (k, games ++ [game]) :: map else (k, games) :: pushGroup map key game

/-- The properties of the record, in order. -/
def groupGamesByTeam (id : α → String) (games : List α) : List (String × List α) :=
  games.foldl (fun map game => pushGroup map (teamKey (id game)) game) []

theorem lookup_pushGroup (map : List (String × List α)) (key k : String) (game : α) :
    ((pushGroup map key game).lookup k).getD [] =
      (map.lookup k).getD [] ++ if key = k then [game] else [] := by
  induction map with
  | nil =>
    unfold pushGroup
    rw [List.lookup_cons]
    by_cases h : key = k
    · simp [h]
    · rw [beq_false_of_ne (Ne.symm h), if_neg h]
      rfl
  | cons entry map ih =>
    obtain ⟨k', games⟩ := entry
    unfold pushGroup
    by_cases hkey : k' = key
    · subst hkey
      rw [if_pos rfl, List.lookup_cons, List.lookup_cons]
      by_cases h : k' = k
      · simp [h]
      · rw [beq_false_of_ne (Ne.symm h), if_neg h, List.append_nil]
    · rw [if_neg hkey, List.lookup_cons, List.lookup_cons]
      by_cases h : k' = k
      · subst h
        simp [Ne.symm hkey]
      · rw [beq_false_of_ne (Ne.symm h)]
        exact ih

/-- A group holds the games with its key, in their order. -/
theorem lookup_groupGamesByTeam (id : α → String) (games : List α) (k : String) :
    ((groupGamesByTeam id games).lookup k).getD [] =
      games.filter fun game => teamKey (id game) = k := by
  have hfold : ∀ (games : List α) (map : List (String × List α)),
      ((games.foldl (fun map game => pushGroup map (teamKey (id game)) game) map).lookup k).getD [] =
        (map.lookup k).getD [] ++ games.filter fun game => teamKey (id game) = k := by
    intro games
    induction games with
    | nil => intro map; simp
    | cons game games ih =>
      intro map
      rw [List.foldl_cons, ih, lookup_pushGroup, List.append_assoc, List.filter_cons]
      by_cases h : teamKey (id game) = k <;> simp [h]
  exact hfold games []

end

end VictoryFairy
