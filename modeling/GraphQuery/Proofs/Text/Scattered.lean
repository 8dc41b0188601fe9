import GraphQuery.Text.Subsequence

/-!
# Scattered parts — what the greedy scan decides

The scan lets the first character that equals the next wanted one consume it.  Nothing is lost by that: whatever
beginning of the query is a subsequence of the text, the scan has got at least as far (`Text.unmatched_suffix_iff`).
So it leaves nothing of a query exactly if the query's characters occur in the text in order
(`Text.isScattered_iff`).
-/

namespace GraphQuery
namespace Text

theorem unmatched_suffix (query text : List Char) : unmatched query text <:+ query := by
  induction text generalizing query with
  | nil =>
      cases query <;> exact List.suffix_rfl
  | cons c text ih =>
      cases query with
      | nil =>
          exact List.suffix_rfl
      | cons wanted query =>
          rw [unmatched]
          by_cases hc : c = wanted
          · rw [if_pos hc]
            exact (ih query).trans (List.suffix_cons wanted query)
          · rw [if_neg hc]
            exact ih (wanted :: query)

/-- A beginning of the query is a subsequence of the text exactly if the scan gets as far as that. -/
theorem unmatched_suffix_iff {front rest text : List Char} :
    unmatched (front ++ rest) text <:+ rest ↔ front.Sublist text := by
  induction text generalizing front with
  | nil =>
      rw [unmatched, List.sublist_nil]
      constructor
      · intro h
        have hlength := h.length_le
        rw [List.length_append] at hlength
        exact List.eq_nil_of_length_eq_zero (by omega)
      · rintro rfl
        exact List.suffix_rfl
  | cons c text ih =>
      cases front with
      | nil =>
          exact iff_of_true (unmatched_suffix rest (c :: text)) (List.nil_sublist _)
      | cons wanted front =>
          rw [List.cons_append, unmatched]
          by_cases hc : c = wanted
          -- Taking the first occurrence loses nothing: what follows it holds all later ones.
          · subst hc
            rw [if_pos rfl, ih, List.cons_sublist_cons]
          -- Any other character is of no use to the query either.
          · rw [if_neg hc, ← List.cons_append, ih]
            constructor
            · exact fun h => h.cons c
            · intro h
              cases h with
              | cons _ h =>
                  exact h
              | cons_cons _ h =>
                  exact absurd rfl hc

theorem unmatched_eq_nil_iff {query text : List Char} : unmatched query text = [] ↔ query.Sublist text := by
  have h := @unmatched_suffix_iff query [] text
  rwa [List.append_nil, List.suffix_nil] at h

/-- A query is found scattered in a text if it is a subsequence of it. -/
theorem isScattered_iff {text query : String} :
    isScattered text query = true ↔ query.toList.Sublist text.toList := by
  rw [isScattered, List.isEmpty_iff, unmatched_eq_nil_iff]

/-- The scan decides subsequences.  So a text is found in itself, what is found in what is found is found, the empty
query is found everywhere, and what is found stays so when characters are put into the text or taken out of the query,
wherever they stand. -/
theorem isScattered_decides :
    (∀ text query, isScattered text query = true ↔ query.toList.Sublist text.toList) ∧
      (∀ text, isScattered text text = true) ∧
      (∀ text middle query, isScattered text middle = true → isScattered middle query = true →
        isScattered text query = true) ∧
      (∀ text, isScattered text "" = true) ∧
      (∀ text longer query, text.toList.Sublist longer.toList → isScattered text query = true →
        isScattered longer query = true) ∧
      ∀ text query shorter, shorter.toList.Sublist query.toList → isScattered text query = true →
        isScattered text shorter = true := by
  refine ⟨fun _ _ => isScattered_iff, ?_⟩
  simp only [isScattered_iff]
  refine ⟨fun text => List.Sublist.refl _, ?_, fun text => List.nil_sublist _, ?_, ?_⟩
  · intro text middle query hmiddle hquery
    exact hquery.trans hmiddle
  · intro text longer query hlonger hquery
    exact hquery.trans hlonger
  · intro text query shorter hshorter hquery
    exact hshorter.trans hquery

theorem contains_iff {text part : String} : contains text part = true ↔ part.toList <:+: text.toList :=
  hasPart_iff

end Text
end GraphQuery
