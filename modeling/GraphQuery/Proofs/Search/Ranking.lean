import GraphQuery.Proofs.Search.Index

/-!
# Rankings — by descending score, ties as they were

A ranking of items holds them by descending score, and items of equal score in the order they had (`IsRanking`).
There is one ranking of a list and no other (`IsRanking.unique`), and a stable sort finds it
(`isRanking_mergeSort`).

All results of a search are a ranking of the entries that its query hits (`SearchIndex.exists_isRanked`).
-/

namespace GraphQuery

/-! ## Rankings -/

/-- Items by descending score, those of equal score in the order they had. -/
structure IsRanking {α : Type} (score : α → Rat) (xs ranked : List α) : Prop where
  perm : ranked.Perm xs
  descending : ranked.Pairwise fun a b => score b ≤ score a
  stable : ∀ s, ranked.filter (fun a => score a = s) = xs.filter fun a => score a = s

section Ranking

variable {α : Type} {score : α → Rat} {xs ys zs : List α} {y z : α}

/-- A stable sort by score is a ranking. -/
theorem isRanking_mergeSort (score : α → Rat) (xs : List α) :
    IsRanking score xs (xs.mergeSort fun a b => score b ≤ score a) := by
  have htrans : ∀ a b c : α, decide (score b ≤ score a) = true → decide (score c ≤ score b) = true →
      decide (score c ≤ score a) = true := by
    intro a b c hab hbc
    exact decide_eq_true (Rat.le_trans (of_decide_eq_true hbc) (of_decide_eq_true hab))
  have htotal : ∀ a b : α, (decide (score b ≤ score a) || decide (score a ≤ score b)) = true := by
    intro a b
    rw [Bool.or_eq_true, decide_eq_true_iff, decide_eq_true_iff]
    exact Rat.le_total
  refine ⟨List.mergeSort_perm _ _, ?_, fun s => ?_⟩
  · exact (List.pairwise_mergeSort htrans htotal xs).imp fun h => of_decide_eq_true h
  · -- Items of one score are in order as they stand, so the sort leaves them so.
    have hordered : (xs.filter fun a => score a = s).Pairwise fun a b => decide (score b ≤ score a) = true := by
      refine List.pairwise_of_forall_mem_list ?_
      intro a ha b hb
      have hscores : score b = score a :=
        (of_decide_eq_true (List.mem_filter.1 hb).2).trans (of_decide_eq_true (List.mem_filter.1 ha).2).symm
      rw [hscores]
      exact decide_eq_true Rat.le_refl
    have hkept : (xs.filter fun a => score a = s).Sublist
        ((xs.mergeSort fun a b => score b ≤ score a).filter fun a => score a = s) := by
      have hall := (List.sublist_mergeSort htrans htotal hordered List.filter_sublist).filter fun a => score a = s
      rwa [List.filter_filter, funext fun a => Bool.and_self (decide (score a = s))] at hall
    exact (hkept.eq_of_length ((List.mergeSort_perm xs _).filter _).length_eq.symm).symm

theorem le_of_mem_of_descending (h : (z :: zs).Pairwise fun a b => score b ≤ score a) (hy : y ∈ z :: zs) :
    score y ≤ score z := by
  rcases List.mem_cons.1 hy with rfl | hy
  · exact Rat.le_refl
  · exact (List.pairwise_cons.1 h).1 y hy

/-- Of each score the same items. -/
theorem subset_of_filter_eq (h : ∀ s, ys.filter (fun a => score a = s) = zs.filter fun a => score a = s) :
    ys ⊆ zs := by
  intro y hy
  have hmem : y ∈ zs.filter fun a => score a = score y := by
    rw [← h]
    exact List.mem_filter.2 ⟨hy, decide_eq_true rfl⟩
  exact List.mem_of_mem_filter hmem

/-- Lists in descending order that have the same items of each score in the same order are one list. -/
theorem eq_of_filter_eq (hys : ys.Pairwise fun a b => score b ≤ score a)
    (hzs : zs.Pairwise fun a b => score b ≤ score a)
    (h : ∀ s, ys.filter (fun a => score a = s) = zs.filter fun a => score a = s) : ys = zs := by
  induction ys generalizing zs with
  | nil =>
      exact (List.subset_nil.1 (subset_of_filter_eq fun s => (h s).symm)).symm
  | cons y ys ih =>
      cases zs with
      | nil =>
          exact List.subset_nil.1 (subset_of_filter_eq h)
      | cons z zs =>
          -- Each of the first items is somewhere in the other list, so they have one score and come first among its
          -- items in both.
          have hscore : score y = score z :=
            Rat.le_antisymm (le_of_mem_of_descending hzs (subset_of_filter_eq h List.mem_cons_self))
              (le_of_mem_of_descending hys (subset_of_filter_eq (fun s => (h s).symm) List.mem_cons_self))
          have hfirst := h (score z)
          rw [List.filter_cons, List.filter_cons, if_pos (decide_eq_true hscore), if_pos (decide_eq_true rfl)] at hfirst
          obtain ⟨rfl, -⟩ := List.cons.inj hfirst
          have hrest : ∀ s, ys.filter (fun a => score a = s) = zs.filter fun a => score a = s := by
            intro s
            have hs := h s
            rw [List.filter_cons, List.filter_cons] at hs
            split at hs
            · exact (List.cons.inj hs).2
            · exact hs
          exact congrArg (List.cons y) (ih (List.pairwise_cons.1 hys).2 (List.pairwise_cons.1 hzs).2 hrest)

/-- A list has one ranking. -/
theorem IsRanking.unique (hys : IsRanking score xs ys) (hzs : IsRanking score xs zs) : ys = zs :=
  eq_of_filter_eq hys.descending hzs.descending fun s => (hys.stable s).trans (hzs.stable s).symm

/-- What is kept of a ranking is a ranking of what is kept. -/
theorem IsRanking.filter (h : IsRanking score xs ys) (p : α → Bool) : IsRanking score (xs.filter p) (ys.filter p) where
  perm := h.perm.filter p
  descending := h.descending.filter p
  stable s := by
    rw [List.filter_comm, h.stable s, List.filter_comm]

end Ranking

/-! ## What a query hits -/

/-- What a search shows of an entry: the entity, and how relevant the text that is searched is to what is searched
for. -/
def SearchMode.result (mode : SearchMode) (query : String) (entry : IndexEntry) : SearchResult :=
  ⟨entry.entity, relevance (mode.haystack entry) (mode.needle query)⟩

namespace SearchIndex

/-- Whether entries are those of an index that a query hits, ranked by relevance. -/
def IsRanked (index : SearchIndex) (mode : SearchMode) (query : String) (ranked : List IndexEntry) : Prop :=
  IsRanking (fun entry => (mode.result query entry).score.toRat) ((entries index).filter fun entry =>
    mode.IsHit query entry) ranked

/-- All results of a search are those for the ranked entries. -/
theorem exists_isRanked (index : SearchIndex) (mode : SearchMode) (query : String) :
    ∃ ranked, IsRanked index mode query ranked ∧ ranking index mode query = ranked.map (mode.result query) := by
  let hits := (entries index).filter fun entry => mode.IsHit query entry
  have hfound : (entries index).filter (mode.finds query) = hits := by
    refine List.filter_congr ?_
    intro entry _
    rw [Bool.eq_iff_iff, decide_eq_true_iff]
    exact SearchMode.finds_iff
  -- Sorting results is sorting the entries that they are made of.
  have hsorted : (hits.mergeSort fun a b => (mode.result query b).score.toRat ≤ (mode.result query a).score.toRat).map
      (mode.result query) =
        (hits.map (mode.result query)).mergeSort fun a b => b.score.toRat ≤ a.score.toRat :=
    List.map_mergeSort fun _ _ _ _ => rfl
  refine ⟨_, isRanking_mergeSort _ hits, ?_⟩
  rw [ranking, hfound, hsorted]
  rfl

end SearchIndex
end GraphQuery
