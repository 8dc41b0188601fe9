import Mathlib.Data.List.Nodup

/-!
# Distinct items — the first occurrences in a list

`List.eraseDups` keeps the first of equal items.  It may be done before or after filtering
(`Distinct.eraseDups_filter`), so the items that it keeps are distinct (`Distinct.nodup_eraseDups`), and an item that
is put in front is moved there from where it was (`Distinct.eraseDups_cons_eq`).  Items that are distinct already stay,
and those that follow them are kept where they are new (`Distinct.eraseDups_append_of_nodup`).
-/

namespace GraphQuery
namespace Distinct

variable {α : Type} [DecidableEq α]

theorem eraseDups_filter (p : α → Bool) (xs : List α) : (xs.filter p).eraseDups = xs.eraseDups.filter p := by
  -- On the length, since erasing goes on with what differs from the first item.
  induction hlength : xs.length using Nat.strongRecOn generalizing xs p with
  | ind n ih =>
      cases xs with
      | nil =>
          simp
      | cons x rest =>
          have hrest : rest.length < n := by
            rw [← hlength]
            exact Nat.lt_succ_self _
          have hothers : (rest.filter fun y => !y == x).length < n :=
            Nat.lt_of_le_of_lt (List.length_filter_le _ _) hrest
          rw [List.eraseDups_cons]
          by_cases hx : p x = true
          · rw [List.filter_cons_of_pos hx, List.eraseDups_cons, List.filter_cons_of_pos hx, List.filter_comm,
              ih _ hothers p _ rfl]
          · rw [List.filter_cons_of_neg hx, List.filter_cons_of_neg hx, ih _ hrest _ _ rfl, ih _ hrest _ _ rfl,
              List.filter_filter]
            refine List.filter_congr fun y _ => ?_
            by_cases hy : y = x
            · simp [hy, hx]
            · simp [hy]

theorem nodup_eraseDups (xs : List α) : xs.eraseDups.Nodup := by
  induction xs with
  | nil =>
      simp
  | cons x rest ih =>
      rw [List.eraseDups_cons, eraseDups_filter]
      refine List.nodup_cons.2 ⟨fun hmem => ?_, ih.filter _⟩
      simpa using (List.mem_filter.1 hmem).2

/-- An item in front is taken from its place among the others. -/
theorem eraseDups_cons_eq (x : α) (xs : List α) : (x :: xs).eraseDups = x :: xs.eraseDups.erase x := by
  rw [List.eraseDups_cons, eraseDups_filter, (nodup_eraseDups xs).erase_eq_filter]
  rfl

theorem eraseDups_of_nodup {xs : List α} (h : xs.Nodup) : xs.eraseDups = xs := by
  induction xs with
  | nil =>
      rfl
  | cons x rest ih =>
      obtain ⟨hx, hrest⟩ := List.nodup_cons.1 h
      rw [eraseDups_cons_eq, ih hrest, List.erase_of_not_mem hx]

/-- Distinct items stay as they are, and what follows them is kept where it is new. -/
theorem eraseDups_append_of_nodup {xs : List α} (h : xs.Nodup) (ys : List α) :
    (xs ++ ys).eraseDups = xs ++ (ys.filter (· ∉ xs)).eraseDups := by
  rw [List.eraseDups_append, eraseDups_of_nodup h]
  simp [List.removeAll]

end Distinct
end GraphQuery
