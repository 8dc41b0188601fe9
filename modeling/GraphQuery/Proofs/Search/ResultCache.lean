import GraphQuery.Search.Cache
import Mathlib.Data.List.Basic

/-!
# Result cache — what it holds was put there

Putting a value adds its entry, or replaces one of the same key, and may drop others.  So a property of
all entries survives every `put` of an entry that has it (`ResultCache.forall_put`), whatever the capacity
and the fraction that is dropped.
-/

namespace GraphQuery
namespace ResultCache

variable {α : Type}

theorem mem_insertLast {entries : List (String × α)} {key : String} {v : α} {entry : String × α}
    (h : entry ∈ insertLast entries key v) : entry = (key, v) ∨ entry ∈ entries := by
  induction entries with
  | nil =>
      exact Or.inl (List.mem_singleton.1 h)
  | cons first rest ih =>
      rcases first with ⟨k, old⟩
      by_cases hk : k = key
      · subst hk
        simp only [insertLast, if_true, List.mem_cons] at h
        rcases h with h | h
        · exact Or.inl h
        · exact Or.inr (List.mem_cons_of_mem _ h)
      · simp only [insertLast, if_neg hk, List.mem_cons] at h
        rcases h with h | h
        · exact Or.inr (List.mem_cons.2 (Or.inl h))
        · rcases ih h with h | h
          · exact Or.inl h
          · exact Or.inr (List.mem_cons_of_mem _ h)

/-- A put drops entries from the front only. -/
theorem entries_put_suffix (cache : ResultCache α) (key : String) (v : α) :
    (cache.put key v).entries <:+ insertLast cache.entries key v := by
  rw [put]
  split
  · exact List.drop_suffix _ _
  · exact List.suffix_rfl

/-- Every entry after a `put` is the one that was put or was there before. -/
theorem mem_put {cache : ResultCache α} {key : String} {v : α} {entry : String × α}
    (h : entry ∈ (cache.put key v).entries) : entry = (key, v) ∨ entry ∈ cache.entries :=
  mem_insertLast ((entries_put_suffix cache key v).subset h)

theorem forall_put {p : String × α → Prop} {cache : ResultCache α} {key : String} {v : α}
    (hput : p (key, v)) (h : ∀ entry ∈ cache.entries, p entry) :
    ∀ entry ∈ (cache.put key v).entries, p entry := by
  intro entry hentry
  rcases mem_put hentry with rfl | hold
  · exact hput
  · exact h entry hold

theorem mem_of_find? {cache : ResultCache α} {key : String} {v : α} (h : cache.find? key = some v) :
    (key, v) ∈ cache.entries := by
  rw [find?, Option.map_eq_some_iff] at h
  rcases h with ⟨entry, hentry, rfl⟩
  have hkey : entry.1 = key := by simpa using List.find?_some hentry
  rw [← hkey]
  exact List.mem_of_find?_eq_some hentry

/-- Looking a key up changes the counts only. -/
@[simp] theorem get_entries (cache : ResultCache α) (key : String) :
    (cache.get key).1.entries = cache.entries := by
  rw [get]
  split <;> rfl

theorem get_snd (cache : ResultCache α) (key : String) : (cache.get key).2 = cache.find? key := by
  rw [get]
  split <;> simp_all

@[simp] theorem clear_entries (cache : ResultCache α) : cache.clear.entries = [] :=
  rfl

end ResultCache
end GraphQuery
