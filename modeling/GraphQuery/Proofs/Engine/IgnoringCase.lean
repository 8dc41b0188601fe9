import GraphQuery.Proofs.Engine.SubstringHits
import GraphQuery.Proofs.Text.LetterCase

/-!
# Ignoring case — which matches it keeps

Where letter case is ignored, both texts are compared in lowercase.  This keeps every match of a query exactly if the
lowercase of its capital sigmas does not depend on the text (`Engine.ignoringCase_keepsMatches`):

- a fuzzy search keeps its finds exactly if the query has no capital sigma;
- an exact search, and a text criterion, keep theirs exactly if the place where the query is looked for settles the
  lowercase of the query.
-/

namespace GraphQuery

/-! ## Text criteria -/

namespace Filter

variable {place : Text.Place} {text value haystack needle : String}

/-- The operator that looks for a text at a place. -/
def operatorOf : Text.Place → String
  | .whole => "equals"
  | .start => "startsWith"
  | .finish => "endsWith"
  | .inside => "contains"

/-- The criterion that a text has a value at a place. -/
def textCriterion (place : Text.Place) (value : String) (caseSensitive : Bool) : Value :=
  .mapping [("value", .text value), ("operator", .text (operatorOf place)), ("case_sensitive", .bool caseSensitive)]

theorem textTest_iff :
    textTest (.text (operatorOf place)) haystack needle = true ↔ place.Holds haystack.toList needle.toList := by
  cases place with
  | whole =>
      rw [Text.Place.holds_whole_iff, String.toList_inj]
      exact beq_iff_eq
  | start =>
      rw [Text.Place.holds_start_iff]
      exact List.isPrefixOf_iff_prefix
  | finish =>
      rw [Text.Place.holds_finish_iff]
      exact List.isSuffixOf_iff_suffix
  | inside =>
      rw [Text.Place.holds_inside_iff]
      exact Text.contains_iff

theorem toList_lowercase (text : String) : (Text.lowercase text).toList = Text.lowerList text.toList := by
  rw [Text.lowercase, String.toList_ofList]

/-- A criterion compares the texts as they are, or both in lowercase. -/
theorem meetsText_textCriterion (htext : text ≠ "") (caseSensitive : Bool) :
    meetsText (some text) (textCriterion place value caseSensitive) =
      if caseSensitive then .ok (textTest (.text (operatorOf place)) text value)
      else .ok (textTest (.text (operatorOf place)) (Text.lowercase text) (Text.lowercase value)) := by
  have hentries : meetsText (some text) (textCriterion place value caseSensitive) =
      meetsTextEntries text
        [("value", .text value), ("operator", .text (operatorOf place)), ("case_sensitive", .bool caseSensitive)] := by
    rw [meetsText]
    split
    · next hempty => exact absurd hempty htext
    · rfl
  rw [hentries]
  cases place <;> rfl

theorem meetsText_empty (criterion : Value) (h : criterion.isTruthy = true) :
    meetsText (some "") criterion = .ok false := by
  show Except.ok (!criterion.isTruthy) = .ok false
  rw [h, Bool.not_true]

/-- A criterion keeps every text that it accepts when case is ignored exactly if its place settles the lowercase of its
value. -/
theorem keepsTexts_iff :
    (∀ text : String, meetsText (some text) (textCriterion place value true) = .ok true →
      meetsText (some text) (textCriterion place value false) = .ok true) ↔ place.Settles value.toList := by
  have hmeets : ∀ text, text ≠ "" →
      ((meetsText (some text) (textCriterion place value true) = .ok true →
        meetsText (some text) (textCriterion place value false) = .ok true) ↔
      (place.Holds text.toList value.toList →
        place.Holds (Text.lowerList text.toList) (Text.lowerList value.toList))) := by
    intro text htext
    rw [meetsText_textCriterion htext, meetsText_textCriterion htext, if_pos rfl, if_neg Bool.false_ne_true,
      Except.ok.injEq, Except.ok.injEq, textTest_iff, textTest_iff, toList_lowercase, toList_lowercase]
  rw [← Text.Place.holds_lowerList_iff]
  constructor
  · intro h chars hholds
    by_cases hempty : chars = []
    · -- Only the empty part is part of the empty text.
      subst hempty
      have hvalue : value.toList = [] := List.sublist_nil.1 hholds.sublist
      rw [hvalue] at hholds ⊢
      exact hholds
    · have htext : String.ofList chars ≠ "" := by
        intro heq
        exact hempty (by simpa using congrArg String.toList heq)
      have hkept := (hmeets _ htext).1 (h (String.ofList chars))
      rw [String.toList_ofList] at hkept
      exact hkept hholds
  · intro h text
    by_cases htext : text = ""
    · subst htext
      rw [meetsText_empty _ rfl]
      intro hfalse
      cases hfalse
    · exact (hmeets text htext).2 (h text.toList)

end Filter

/-! ## Searches -/

namespace SearchMode

/-- Whether a search that is exact or not finds characters in a text. -/
def Finds (exact : Bool) (text wanted : List Char) : Prop := if exact then wanted <:+: text else wanted.Sublist text

theorem Finds.sublist {exact : Bool} {text wanted : List Char} (h : Finds exact text wanted) : wanted.Sublist text := by
  cases exact with
  | false =>
      exact h
  | true =>
      exact List.IsInfix.sublist h

/-- A search keeps what it finds when all is in lowercase exactly if the lowercase of the query does not depend on the
text: as a contiguous part of it, or scattered in it. -/
theorem finds_lowerList_iff {exact : Bool} {wanted : List Char} :
    (∀ text, Finds exact text wanted → Finds exact (Text.lowerList text) (Text.lowerList wanted)) ↔
      if exact then Text.Place.inside.Settles wanted else 'Σ' ∉ wanted := by
  cases exact with
  | false =>
      exact Text.sublist_lowerList_iff
  | true =>
      rw [if_pos rfl, ← Text.Place.holds_lowerList_iff]
      refine forall_congr' fun text => ?_
      rw [Text.Place.holds_inside_iff, Text.Place.holds_inside_iff]
      exact Iff.rfl

theorem isHit_ofEntity_iff {mode : SearchMode} {query : String} {x : Entity} :
    mode.IsHit query (IndexEntry.ofEntity x) ↔
      mode.covers x.kind = true ∧
        if mode.caseSensitive then Finds mode.exact x.rawText.toList query.toList
        else Finds mode.exact (Text.lowerList x.rawText.toList) (Text.lowerList query.toList) := by
  rw [IsHit]
  refine and_congr_right fun _ => ?_
  cases hcase : mode.caseSensitive with
  | false =>
      simp only [haystack, needle, hcase, Bool.false_eq_true, if_false, IndexEntry.ofEntity, Filter.toList_lowercase]
      exact Iff.rfl
  | true =>
      simp only [haystack, needle, hcase, if_true, IndexEntry.ofEntity]
      exact Iff.rfl

end SearchMode

namespace SearchIndex

theorem mem_entities_ranking {index : SearchIndex} {mode : SearchMode} {query : String} {x : Entity} :
    x ∈ (ranking index mode query).map (·.entity) ↔
      ∃ entry ∈ entries index, mode.IsHit query entry ∧ entry.entity = x := by
  obtain ⟨ranked, hranked, hresults⟩ := exists_isRanked index mode query
  rw [hresults, List.map_map, List.mem_map]
  refine exists_congr fun entry => ?_
  rw [hranked.perm.mem_iff, List.mem_filter, decide_eq_true_iff, and_assoc]
  exact Iff.rfl

/-- The graph of one node whose id is a text. -/
def lone (text : String) : Snapshot := ⟨[bareNode (.text text)], []⟩

theorem entries_build_lone (text : String) :
    entries (build (lone text).nodes (lone text).edges) = [IndexEntry.ofEntity (.node (bareNode (.text text)))] :=
  rfl

theorem hasTexts_lone (text : String) : (lone text).HasTexts :=
  List.forall_mem_singleton.2 rfl

theorem rawText_bareNode {text : String} (h : text ≠ "") : (Entity.node (bareNode (.text text))).rawText = text := by
  have hparts : (Entity.node (bareNode (.text text))).textParts = [text] := by
    show ["", "", text].filter (· ≠ "") ++ [] = [text]
    simp [h]
  rw [Entity.rawText, hparts]
  exact String.intercalate_singleton

end SearchIndex

namespace Engine

/-- Builds the index of a graph and searches it. -/
def searchAnew (graph : Snapshot) (query : String) (mode : SearchMode) (limit : Int) : EngineM (List SearchResult) := do
  buildIndex graph.nodes graph.edges
  textSearch (.text query) mode (.int limit)

/-- Whether all that a search finds when letter case is minded it also finds when case is ignored, whatever graph is
searched, if its entities have texts, as long as the limit does not cut anything off. -/
def KeepsFinds (desk : Desk) (query : String) (exact : Bool) : Prop :=
  ∀ (graph : Snapshot) (mode : SearchMode) (limit : Int), graph.HasTexts → mode.exact = exact →
    (SearchIndex.entries (SearchIndex.build graph.nodes graph.edges)).length ≤ limit →
      ∃ minded ignored,
        (runAt (searchAnew graph query { mode with caseSensitive := true } limit) desk).1 = .ok minded ∧
        (runAt (searchAnew graph query { mode with caseSensitive := false } limit) desk).1 = .ok ignored ∧
        minded.map (·.entity) ⊆ ignored.map (·.entity)

/-- A search that is not cut off shows the entities of the graph that are indexed and hit. -/
theorem exists_searchAnew {query : String} (hquery : query ≠ "") {graph : Snapshot} (htexts : graph.HasTexts)
    (mode : SearchMode) {limit : Int}
    (hlimit : (SearchIndex.entries (SearchIndex.build graph.nodes graph.edges)).length ≤ limit) (desk : Desk) :
    ∃ results, (runAt (searchAnew graph query mode limit) desk).1 = .ok results ∧
      ∀ x, x ∈ results.map (·.entity) ↔
        IndexEntry.ofEntity x ∈ SearchIndex.entries (SearchIndex.build graph.nodes graph.edges) ∧
          mode.IsHit query (IndexEntry.ofEntity x) := by
  have hrun : (runAt (searchAnew graph query mode limit) desk).1 =
      .ok ((SearchIndex.build graph.nodes graph.edges).ranking mode query) := by
    obtain ⟨ranked, hranked, hresults⟩ :=
      SearchIndex.exists_isRanked (SearchIndex.build graph.nodes graph.edges) mode query
    have hlength := hranked.length_le
    rw [searchAnew, runAt_bind, runAt_buildIndex_of_hasTexts htexts]
    show (runAt (textSearch (.text query) mode (.int limit)) _).1 = _
    rw [runAt_textSearch hquery]
    show Except.ok (((SearchIndex.build graph.nodes graph.edges).ranking mode query).take limit.toNat) = _
    rw [hresults, List.take_of_length_le (by rw [List.length_map]; omega)]
  refine ⟨_, hrun, fun x => ?_⟩
  rw [SearchIndex.mem_entities_ranking]
  constructor
  · rintro ⟨entry, hentry, hhit, rfl⟩
    rw [← SearchIndex.eq_ofEntity_of_mem_build hentry]
    exact ⟨hentry, hhit⟩
  · rintro ⟨hentry, hhit⟩
    exact ⟨_, hentry, hhit, rfl⟩

theorem length_entries_lone (text : String) :
    (SearchIndex.entries (SearchIndex.build (SearchIndex.lone text).nodes (SearchIndex.lone text).edges)).length ≤
      (1 : Int) := by
  rw [SearchIndex.entries_build_lone]
  rfl

/-- A search of a graph whose only node has a text as its id finds the node exactly if it finds the query in the
text. -/
theorem exists_searchAnew_lone {query text : String} (hquery : query ≠ "") (htext : text ≠ "")
    (exact caseSensitive : Bool) (desk : Desk) :
    ∃ results, (runAt (searchAnew (SearchIndex.lone text) query { exact, caseSensitive } 1) desk).1 = .ok results ∧
      (.node (SearchIndex.bareNode (.text text)) ∈ results.map (·.entity) ↔
        if caseSensitive then SearchMode.Finds exact text.toList query.toList
        else SearchMode.Finds exact (Text.lowerList text.toList) (Text.lowerList query.toList)) := by
  obtain ⟨results, hrun, hshown⟩ :=
    exists_searchAnew hquery (SearchIndex.hasTexts_lone text) { exact, caseSensitive } (length_entries_lone text) desk
  refine ⟨results, hrun, ?_⟩
  rw [hshown, SearchIndex.entries_build_lone, SearchMode.isHit_ofEntity_iff, SearchIndex.rawText_bareNode htext,
    and_iff_right (List.mem_singleton_self _)]
  exact and_iff_right rfl

/-- A search keeps its finds exactly if the lowercase of the query does not depend on the text. -/
theorem keepsFinds_iff {query : String} (hquery : query ≠ "") {desk : Desk} {exact : Bool} :
    KeepsFinds desk query exact ↔
      if exact then Text.Place.inside.Settles query.toList else 'Σ' ∉ query.toList := by
  rw [← SearchMode.finds_lowerList_iff]
  constructor
  · intro h chars hfinds
    have htext : String.ofList chars ≠ "" := by
      intro hempty
      have hchars : chars = [] := by simpa using congrArg String.toList hempty
      rw [hchars] at hfinds
      exact hquery (String.toList_eq_nil_iff.1 (List.sublist_nil.1 hfinds.sublist))
    -- The text as the id of a node is all there is to search.
    obtain ⟨_, hrun, hfound⟩ := exists_searchAnew_lone hquery htext exact true desk
    obtain ⟨_, hrun', hfound'⟩ := exists_searchAnew_lone hquery htext exact false desk
    obtain ⟨minded, ignored, hminded, hignored, hkept⟩ :=
      h _ { exact } 1 (SearchIndex.hasTexts_lone _) rfl (length_entries_lone _)
    obtain rfl := Except.ok.inj (hminded.symm.trans hrun)
    obtain rfl := Except.ok.inj (hignored.symm.trans hrun')
    rw [if_pos rfl, String.toList_ofList] at hfound
    rw [if_neg Bool.false_ne_true, String.toList_ofList] at hfound'
    exact hfound'.1 (hkept (hfound.2 hfinds))
  · intro h graph mode limit htexts hexact hlimit
    obtain ⟨minded, hrun, hshown⟩ := exists_searchAnew hquery htexts { mode with caseSensitive := true } hlimit desk
    obtain ⟨ignored, hrun', hshown'⟩ := exists_searchAnew hquery htexts { mode with caseSensitive := false } hlimit desk
    refine ⟨minded, ignored, hrun, hrun', fun x hx => ?_⟩
    obtain ⟨hentry, hhit⟩ := (hshown x).1 hx
    obtain ⟨hcovers, hfinds⟩ := SearchMode.isHit_ofEntity_iff.1 hhit
    rw [if_pos rfl] at hfinds
    refine (hshown' x).2 ⟨hentry, SearchMode.isHit_ofEntity_iff.2 ⟨hcovers, ?_⟩⟩
    rw [if_neg Bool.false_ne_true]
    subst hexact
    exact h _ hfinds

/-- Ignoring case keeps every match of a query exactly if the lowercase of the query does not depend on the text that it
is looked for in.  Without a capital sigma it depends on none. -/
theorem ignoringCase_keepsMatches {query : String} (hquery : query ≠ "") (desk : Desk) :
    (KeepsFinds desk query false ↔ 'Σ' ∉ query.toList) ∧
    (KeepsFinds desk query true ↔ Text.Place.inside.Settles query.toList) ∧
    ∀ (place : Text.Place) (value : String),
      ((∀ text : String, Filter.meetsText (some text) (Filter.textCriterion place value true) = .ok true →
        Filter.meetsText (some text) (Filter.textCriterion place value false) = .ok true) ↔
          place.Settles value.toList) ∧
      ('Σ' ∉ value.toList → place.Settles value.toList) :=
  ⟨keepsFinds_iff hquery, keepsFinds_iff hquery, fun _ _ => ⟨Filter.keepsTexts_iff, Text.Place.settles_of_not_mem⟩⟩

/-- The sigma of this query stands between letters, so no text turns it into a final one unless it takes it apart. -/
theorem ignoringCase_keepsMatches_innerSigma :
    "ΟΣΟ" ≠ "" ∧ KeepsFinds pairDesk "ΟΣΟ" true ∧ ¬ KeepsFinds pairDesk "ΟΣΟ" false := by
  obtain ⟨hfuzzy, hexact, -⟩ := ignoringCase_keepsMatches (by decide : "ΟΣΟ" ≠ "") pairDesk
  refine ⟨by decide, hexact.2 ⟨fun _ => ?_, fun _ => ?_⟩, mt hfuzzy.1 (by decide)⟩
  · decide +kernel
  · decide +kernel

/-- A sigma that ends a word has another lowercase than a sigma by itself, so it is found only when letter case is
minded. -/
theorem finalSigma_lost :
    (Filter.meetsText (some "ΑΣ") (Filter.textCriterion .inside "Σ" true) = .ok true ∧
      Filter.meetsText (some "ΑΣ") (Filter.textCriterion .inside "Σ" false) = .ok false) ∧
    "Σ" ≠ "" ∧ ¬ KeepsFinds pairDesk "Σ" false ∧ ¬ KeepsFinds pairDesk "Σ" true := by
  refine ⟨⟨?_, ?_⟩, by decide, ?_, ?_⟩
  · rw [Filter.meetsText_textCriterion (by decide), if_pos rfl, Except.ok.injEq]
    decide +kernel
  · rw [Filter.meetsText_textCriterion (by decide), if_neg Bool.false_ne_true, Except.ok.injEq]
    decide +kernel
  · rw [keepsFinds_iff (by decide), if_neg Bool.false_ne_true]
    decide
  · rw [keepsFinds_iff (by decide), if_pos rfl]
    intro hsettles
    exact absurd (hsettles.before rfl) (by decide +kernel)

end Engine
end GraphQuery
