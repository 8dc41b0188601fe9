import GraphQuery.Proofs.Distinct
import GraphQuery.Search.TextSearch

/-!
# Suggestions — the first distinct completions

A word completes what has been typed if it starts with it, in lowercase, and is longer.  The completions of an index
are the distinct words of its texts that do so, in the order in which they first appear (`SearchIndex.completions`).

Suggestions are collected word by word until there are as many as the limit.  What is kept on the way is distinct and
below the limit, so stopping early gives what cutting off all completions would give (`SearchIndex.collect_eq`,
`SearchIndex.suggestions_eq_take`).
-/

namespace GraphQuery
namespace SearchIndex

/-! ## Completions -/

/-- A word that starts with what has been typed and goes on after it. -/
structure Completes (start word : String) : Prop where
  starts : start.toList <+: word.toList
  longer : start.length < word.length

theorem continues_iff {start word : String} : continues start word = true ↔ Completes start word := by
  rw [continues, Bool.and_eq_true, decide_eq_true_iff, Text.startsWith, List.isPrefixOf_iff_prefix]
  exact ⟨fun h => ⟨h.2, h.1⟩, fun h => ⟨h.longer, h.starts⟩⟩

instance (start word : String) : Decidable (Completes start word) := decidable_of_iff _ continues_iff

/-- The distinct words of all texts that complete what has been typed, in the order in which they first appear. -/
def completions (index : SearchIndex) (typed : String) : List String :=
  if typed = "" then []
  else
    let words := (entries index).flatMap fun entry => Text.words entry.text
    (words.filter fun word => Completes (Text.lowercase typed) word).eraseDups

variable {index : SearchIndex} {typed : String}

theorem nodup_completions : (completions index typed).Nodup := by
  rw [completions]
  split
  · exact List.nodup_nil
  · exact Distinct.nodup_eraseDups _

/-! ## Collecting -/

/-- Collecting stops as soon as there is no room left, since nothing that is kept would be dropped again. -/
theorem collect_eq {start : String} {limit : Nat} {kept : List String} (hkept : kept.Nodup)
    (hroom : kept.length < limit) (words : List String) :
    collect start limit kept words = (kept ++ words.filter (continues start)).eraseDups.take limit := by
  induction words generalizing kept with
  | nil =>
      rw [collect, List.filter_nil, List.append_nil, Distinct.eraseDups_of_nodup hkept,
        List.take_of_length_le (Nat.le_of_lt hroom)]
  | cons word rest ih =>
      rw [collect]
      dsimp only
      by_cases hword : continues start word = true
      · rw [if_pos hword, List.filter_cons_of_pos hword]
        by_cases hold : word ∈ kept
        · -- A word that is kept already takes no room.
          rw [if_pos (List.contains_iff_mem.2 hold), if_neg (Nat.not_le.2 hroom), ih hkept hroom,
            Distinct.eraseDups_append_of_nodup hkept, Distinct.eraseDups_append_of_nodup hkept,
            List.filter_cons_of_neg (by simpa using hold)]
        · have hnew : (kept ++ [word]).Nodup :=
            hkept.append (List.nodup_singleton word) (by simpa using hold)
          have hlength : (kept ++ [word]).length = kept.length + 1 := List.length_append
          rw [if_neg (fun h => hold (List.contains_iff_mem.1 h)),
            List.append_cons kept word (rest.filter (continues start))]
          by_cases hfull : limit ≤ (kept ++ [word]).length
          · rw [if_pos hfull, Distinct.eraseDups_append_of_nodup hnew, List.take_append_of_le_length hfull,
              List.take_of_length_le (by omega)]
          · rw [if_neg hfull]
            exact ih hnew (Nat.not_le.1 hfull)
      · rw [if_neg hword, List.filter_cons_of_neg hword]
        exact ih hkept hroom

-- The word that was typed is no completion of itself, and a repeated one takes no slot.
example : collect "gr" 2 [] ["gr", "graph", "a", "graph", "grid", "great"] = ["graph", "grid"] := by
  decide +kernel

/-- Suggestions are the completions up to the limit; a negative limit counts as none. -/
theorem suggestions_eq_take (index : SearchIndex) (typed : String) (limit : Int) :
    suggestions index typed limit = (completions index typed).take (max limit 0).toNat := by
  rw [suggestions, completions]
  by_cases htyped : typed = ""
  · simp [htyped]
  · by_cases hlimit : limit ≤ 0
    · have hnone : max limit 0 = 0 := Int.max_eq_right hlimit
      rw [if_pos (by simp [hlimit]), hnone]
      rfl
    · have hroom : ([] : List String).length < limit.toNat := by
        rw [List.length_nil]
        omega
      have hmax : max limit 0 = limit := by omega
      have hpick : continues (Text.lowercase typed) = fun word => decide (Completes (Text.lowercase typed) word) := by
        funext word
        rw [Bool.eq_iff_iff, continues_iff, decide_eq_true_iff]
      rw [if_neg (by simp [htyped, hlimit]), if_neg htyped, collect_eq List.nodup_nil hroom, hmax, hpick]
      rfl

theorem length_suggestions_le (index : SearchIndex) (typed : String) (limit : Int) :
    ((suggestions index typed limit).length : Int) ≤ max limit 0 := by
  rw [suggestions_eq_take, List.length_take]
  omega

end SearchIndex
end GraphQuery
