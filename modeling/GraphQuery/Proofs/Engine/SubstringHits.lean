import GraphQuery.Proofs.Engine.TextSearch
import GraphQuery.Proofs.Search.Relevance

/-!
# Substring hits — what they are among the results of a fuzzy search

A fuzzy search finds entries whose text contains the query and entries that only hold its characters in order.
The latter have the score zero, so:

- entries that contain the query come first, as long as their length does not cost them all points
  (`Engine.substrings_outrank`);
- an exact search gives what the fuzzy one gives for the entries that contain the query, with the same scores and in
  the same order (`Engine.exactSearch_refines`).
-/

namespace GraphQuery

namespace SearchMode

/-- Whether the text that is searched contains what is searched for. -/
def Contains (mode : SearchMode) (query : String) (entry : IndexEntry) : Prop :=
  (mode.needle query).toList <:+: (mode.haystack entry).toList

instance (mode : SearchMode) (query : String) : DecidablePred (mode.Contains query) :=
  fun _ => decidable_of_iff _ Text.contains_iff

variable {mode : SearchMode} {query : String} {entry : IndexEntry}

/-- What an exact search hits are the entries that contain the query, of those that the fuzzy search hits. -/
theorem isHit_exact_iff :
    IsHit { mode with exact := true } query entry ↔
      mode.Contains query entry ∧ IsHit { mode with exact := false } query entry := by
  constructor
  · rintro ⟨hcovers, hpart⟩
    exact ⟨hpart, hcovers, hpart.sublist⟩
  · rintro ⟨hpart, hcovers, -⟩
    exact ⟨hcovers, hpart⟩

theorem score_eq_zero (h : ¬ mode.Contains query entry) : (mode.result query entry).score = .zero :=
  relevance_eq_zero h

theorem contains_of_score_pos (h : 0 < (mode.result query entry).score.toRat) : mode.Contains query entry := by
  by_contra hpart
  rw [score_eq_zero hpart, Binary64.toRat_zero] at h
  exact lt_irrefl _ h

end SearchMode

namespace SearchIndex

variable {index : SearchIndex} {mode : SearchMode} {query : String} {ranked : List IndexEntry}

/-- Whether entries are shown as hits of an index, those that contain the query before those that do not. -/
structure PutsSubstringsFirst (index : SearchIndex) (mode : SearchMode) (query : String) (shown : List IndexEntry) :
    Prop where
  hits : ∀ entry ∈ shown, entry ∈ entries index ∧ mode.IsHit query entry
  /-- An entry of less than a thousand characters that contains the query has its place before every entry that does
  not contain it. -/
  first : ∀ (i j : Nat) (a b : IndexEntry), shown[i]? = some a → shown[j]? = some b → mode.Contains query a →
    (mode.haystack a).length < 1000 → ¬ mode.Contains query b → i < j
  positive : ∀ entry ∈ shown, 0 < (mode.result query entry).score.toRat → mode.Contains query entry

theorem IsRanked.length_le (h : IsRanked index mode query ranked) : ranked.length ≤ (entries index).length :=
  h.perm.length_eq.le.trans (List.length_filter_le _ _)

theorem IsRanked.putsSubstringsFirst (h : IsRanked index mode query ranked) (n : Nat) :
    PutsSubstringsFirst index mode query (ranked.take n) where
  hits entry hentry := by
    obtain ⟨hmem, hhit⟩ := List.mem_filter.1 (h.perm.mem_iff.1 (List.mem_of_mem_take hentry))
    exact ⟨hmem, of_decide_eq_true hhit⟩
  first i j a b hi hj ha hlength hb := by
    -- Otherwise the entry with a score would not come after the one without.
    by_contra hle
    have hpos : 0 < (mode.result query a).score.toRat := relevance_pos ha hlength
    have hzero : (mode.result query b).score.toRat = 0 := by
      rw [SearchMode.score_eq_zero hb, Binary64.toRat_zero]
    have hless : j < i := by
      refine lt_of_le_of_ne (not_lt.1 hle) ?_
      rintro rfl
      rw [hi] at hj
      cases hj
      exact hb ha
    have hdescending := (h.descending.sublist (List.take_sublist n ranked))
    obtain ⟨hilt, hai⟩ := List.getElem?_eq_some_iff.1 hi
    obtain ⟨hjlt, hbj⟩ := List.getElem?_eq_some_iff.1 hj
    have hscores := List.pairwise_iff_getElem.1 hdescending j i hjlt hilt hless
    rw [hai, hbj, hzero] at hscores
    exact hpos.not_ge hscores
  positive entry _ hpos := SearchMode.contains_of_score_pos hpos

/-- The ranking of an exact search is what the fuzzy ranking has of entries that contain the query. -/
theorem IsRanked.exact (h : IsRanked index { mode with exact := false } query ranked) :
    IsRanked index { mode with exact := true } query (ranked.filter fun entry => mode.Contains query entry) := by
  have hhits : (entries index).filter (fun entry => SearchMode.IsHit { mode with exact := true } query entry) =
      ((entries index).filter fun entry => SearchMode.IsHit { mode with exact := false } query entry).filter
        fun entry => mode.Contains query entry := by
    rw [List.filter_filter]
    refine List.filter_congr fun entry _ => ?_
    rw [← Bool.decide_and]
    exact decide_eq_decide.2 SearchMode.isHit_exact_iff
  rw [IsRanked, hhits]
  exact h.filter _

end SearchIndex

namespace Engine

/-- A text has a score exactly if it contains the query, long texts apart, so a fuzzy search shows the entries that
contain what is searched for before all others. -/
theorem substrings_outrank {query : String} (hquery : query ≠ "") :
    (∀ text : String, ¬ query.toList <:+: text.toList → relevance text query = .zero ∧ exactRelevance text query = 0) ∧
    (∀ text : String, query.toList <:+: text.toList → text.length < 1000 →
      0 < (relevance text query).toRat ∧ 0 < exactRelevance text query) ∧
    ∀ (mode : SearchMode) (limit : Int) (desk : Desk),
      ∃ shown, SearchIndex.PutsSubstringsFirst desk.engine.index mode query shown ∧
        runAt (textSearch (.text query) mode (.int limit)) desk =
          (.ok (shown.map (mode.result query)), recorded desk (.text query)) := by
  refine ⟨fun text h => ⟨relevance_eq_zero h, exactRelevance_eq_zero h⟩,
    fun text h hlength => ⟨relevance_pos h hlength, exactRelevance_pos h hlength⟩, ?_⟩
  intro mode limit desk
  obtain ⟨ranked, hranked, hresults⟩ := SearchIndex.exists_isRanked desk.engine.index mode query
  refine ⟨ranked.take limit.toNat, hranked.putsSubstringsFirst limit.toNat, ?_⟩
  rw [runAt_textSearch hquery, hresults, List.map_take]

/-- A desk with an index of two nodes, of which the first one holds the id of the second one scattered. -/
def scatteredDesk : Desk :=
  { pairDesk with engine := { pairDesk.engine with
      index := SearchIndex.build [SearchIndex.bareNode (.text "n-1"), SearchIndex.bareNode (.text "n1")] [] } }

theorem substrings_outrank_scattered :
    "n1" ≠ "" ∧ ∃ shown, SearchIndex.PutsSubstringsFirst scatteredDesk.engine.index {} "n1" shown ∧
      runAt (textSearch (.text "n1") {} (.int 2)) scatteredDesk =
        (.ok (shown.map (SearchMode.result {} "n1")), recorded scatteredDesk (.text "n1")) :=
  ⟨by decide, (substrings_outrank (by decide)).2.2 {} 2 scatteredDesk⟩

/-- An exact search without an effective limit shows what the fuzzy one shows of entries that contain the query; what
else the fuzzy one shows has the score zero. -/
theorem exactSearch_refines {query : String} (hquery : query ≠ "") (mode : SearchMode) {desk : Desk} {limit : Int}
    (hlimit : (SearchIndex.entries desk.engine.index).length ≤ limit) :
    ∃ shown, SearchIndex.IsRanked desk.engine.index { mode with exact := false } query shown ∧
      runAt (textSearch (.text query) { mode with exact := false } (.int limit)) desk =
        (.ok (shown.map (mode.result query)), recorded desk (.text query)) ∧
      runAt (textSearch (.text query) { mode with exact := true } (.int limit)) desk =
        (.ok ((shown.filter fun entry => mode.Contains query entry).map (mode.result query)),
          recorded desk (.text query)) ∧
      ∀ entry ∈ shown, ¬ mode.Contains query entry → (mode.result query entry).score = .zero := by
  obtain ⟨shown, hshown, hresults⟩ := SearchIndex.exists_isRanked desk.engine.index { mode with exact := false } query
  obtain ⟨other, hother, hresults'⟩ := SearchIndex.exists_isRanked desk.engine.index { mode with exact := true } query
  obtain rfl := hother.unique hshown.exact
  have hlength := hshown.length_le
  have hlength' := hother.length_le
  refine ⟨shown, hshown, ?_, ?_, fun entry _ => SearchMode.score_eq_zero⟩
  · rw [runAt_textSearch hquery, hresults, List.take_of_length_le (by rw [List.length_map]; omega)]
    rfl
  · rw [runAt_textSearch hquery, hresults', List.take_of_length_le (by rw [List.length_map]; omega)]
    rfl

theorem exactSearch_refines_scattered :
    ("n1" ≠ "" ∧ (SearchIndex.entries scatteredDesk.engine.index).length ≤ (2 : Int)) ∧
    ∃ shown, SearchIndex.IsRanked scatteredDesk.engine.index {} "n1" shown ∧
      runAt (textSearch (.text "n1") {} (.int 2)) scatteredDesk =
        (.ok (shown.map (SearchMode.result {} "n1")), recorded scatteredDesk (.text "n1")) ∧
      runAt (textSearch (.text "n1") { exact := true } (.int 2)) scatteredDesk =
        (.ok ((shown.filter fun entry => SearchMode.Contains {} "n1" entry).map (SearchMode.result {} "n1")),
          recorded scatteredDesk (.text "n1")) ∧
      ∀ entry ∈ shown, ¬ SearchMode.Contains {} "n1" entry → (SearchMode.result {} "n1" entry).score = .zero := by
  have hlimit : (SearchIndex.entries scatteredDesk.engine.index).length ≤ (2 : Int) := by
    decide +kernel
  exact ⟨⟨by decide, hlimit⟩, exactSearch_refines (by decide) {} hlimit⟩

end Engine
end GraphQuery
