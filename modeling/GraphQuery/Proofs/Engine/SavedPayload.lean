import GraphQuery.Engine.SavedSearch
import GraphQuery.Proofs.Filter.Payload
import GraphQuery.Proofs.Graph.Document
import GraphQuery.Proofs.Json.ShortIntegers
import Mathlib.Data.Set.Insert

/-!
# Saved searches as text — read back as they were written

Saved searches are written in one place and read in another, and each place finds a room of its own on the stack
(`Runtime`).  Filters can be kept in a store by the calls of some places if they are a finite JSON object with short
integers only, which has a plain form and is neither too deep to be written nor to be read in any of these places
(`Fields.IsStorable`).  Plain saved searches are named by distinct texts, and have such filters and valid times
(`SavedSearches.IsPlain`).  They have a text, and it is read as these searches in each of the places
(`SavedSearches.IsPlain.exists_serialize`).
-/

namespace GraphQuery

/-- What the library that checks the records is relied on for: times are read as they are written, and finite JSON is
left as it is.  And an empty object is never too deep to be read. -/
structure Runtime.IsFaithful (runtime : Runtime) : Prop where
  times : ReadsTimes runtime.time
  plain : KeepsFiniteJson runtime.dump
  room : 0 < runtime.reads

theorem Runtime.isFaithful_usual : usual.IsFaithful := ⟨readsTimes_usual, Fields.keepsFiniteJson_plain, by decide⟩

variable {places : Set Runtime} {runtime : Runtime}

/-- Whether filters can be kept in a store by the calls of some places: they are made of finite JSON values in which
integers do not have too many digits, and they are not nested too deep for any of the places. -/
structure Fields.IsStorable (places : Set Runtime) (filters : Fields) : Prop where
  finite : (Value.mapping filters).IsFiniteJson
  integers : (Value.mapping filters).HasShortIntegers
  dumped : ∀ runtime ∈ places, ∃ plain, runtime.dump filters = .ok plain
  written : ∀ runtime ∈ places, runtime.writes (.mapping filters) = true
  /-- Two objects stand around the filters in a payload. -/
  read : ∀ runtime ∈ places, 2 + (Value.mapping filters).openDepth ≤ runtime.reads

/-- Storable filters are their own plain form. -/
theorem Fields.IsStorable.dump_eq {filters : Fields} (h : filters.IsStorable places) (hplace : runtime ∈ places)
    (hfaithful : runtime.IsFaithful) : runtime.dump filters = .ok filters := by
  obtain ⟨plain, hplain⟩ := h.dumped runtime hplace
  obtain rfl := hfaithful.plain filters h.finite plain hplain
  exact hplain

/-! ## Records -/

namespace SavedSearch

/-- Whether a saved search has storable filters and valid times. -/
structure IsPlain (places : Set Runtime) (s : SavedSearch) : Prop where
  filters : s.filters.IsStorable places
  created : s.created.IsValid
  lastUsed : s.lastUsed.IsValid

/-- What is stored for a saved search whose filters are their own plain form. -/
def stored (s : SavedSearch) : Value :=
  .mapping
    [("filters", .mapping s.filters), ("created", .text s.created.zuluText),
      ("last_used", .text s.lastUsed.zuluText)]

variable {s : SavedSearch}

theorem IsPlain.entry_eq (h : s.IsPlain places) (hplace : runtime ∈ places) (hfaithful : runtime.IsFaithful) :
    SavedSearches.entry runtime.dump s = .ok s.stored := by
  rw [SavedSearches.entry, h.filters.dump_eq hplace hfaithful]
  rfl

/-- A plain saved search is read back from what is stored for it. -/
theorem IsPlain.savedSearch_stored (h : s.IsPlain places) {time : Value → Checked Timestamp} (htime : ReadsTimes time)
    (now : Timestamp) : Check.savedSearch time now s.stored = .ok s := by
  have hcreated : time (.text s.created.zuluText) = .ok s.created := htime.zuluText h.created
  have hlastUsed : time (.text s.lastUsed.zuluText) = .ok s.lastUsed := htime.zuluText h.lastUsed
  rw [stored, Check.savedSearch]
  simp [Check.field, Fields.get?, Check.mapping, hcreated, hlastUsed, Checked.under]

theorem IsPlain.isJson_stored (h : s.IsPlain places) : s.stored.IsJson := by
  have hnames : ["filters", "created", "last_used"].Nodup := by
    decide
  refine .mapping hnames ?_
  intro entry hentry
  simp only [List.mem_cons, List.not_mem_nil, or_false] at hentry
  rcases hentry with rfl | rfl | rfl
  · exact h.filters.finite.isJson
  · exact .text _
  · exact .text _

theorem IsPlain.hasShortIntegers_stored (h : s.IsPlain places) : s.stored.HasShortIntegers := by
  refine Value.hasShortIntegers_mapping.2 ?_
  intro entry hentry
  simp only [List.mem_cons, List.not_mem_nil, or_false] at hentry
  rcases hentry with rfl | rfl | rfl
  · exact h.filters.integers
  · rintro n ⟨⟩
  · rintro n ⟨⟩

theorem openDepth_stored (s : SavedSearch) : s.stored.openDepth = 1 + (Value.mapping s.filters).openDepth := by
  simp [stored, Value.openDepth, Value.entriesOpenDepth]

end SavedSearch

/-! ## Searches by name -/

namespace SavedSearches

/-- Whether saved searches are plain and named by distinct texts. -/
def IsPlain (places : Set Runtime) (searches : SavedSearches) : Prop :=
  EntryName.NamedByTexts (SavedSearch.IsPlain places) searches

variable {searches : SavedSearches}

theorem insert_eq_put (searches : SavedSearches) (name : EntryName) (s : SavedSearch) :
    searches.insert name s = EntryName.put searches name s := by
  induction searches with
  | nil =>
      rfl
  | cons entry rest ih =>
      rw [insert, EntryName.put, ih]

theorem IsPlain.insert (h : searches.IsPlain places) (name : String) {s : SavedSearch} (hs : s.IsPlain places) :
    (searches.insert (.text name) s).IsPlain places := by
  rw [insert_eq_put]
  exact h.put name hs

/-- Searches stay plain when one of them is stamped with the time of its use. -/
theorem IsPlain.stamp (h : searches.IsPlain places) {name : EntryName} {s : SavedSearch}
    (hget : searches.get? name = some s) {now : Timestamp} (hnow : now.IsValid) :
    (searches.insert name { s with lastUsed := now }).IsPlain places := by
  obtain ⟨entry, hfind, rfl⟩ := Option.map_eq_some_iff.1 hget
  have hplain := h.each entry (List.mem_of_find?_eq_some hfind)
  have hname : (entry.1 == name) = true := by
    simpa using List.find?_some hfind
  have hknown : EntryName.isKnown searches name = true :=
    List.any_eq_true.2 ⟨entry, List.mem_of_find?_eq_some hfind, hname⟩
  rw [insert_eq_put]
  exact h.put_known hknown ⟨hplain.filters, hplain.created, hnow⟩

theorem IsPlain.erase (h : searches.IsPlain places) (name : EntryName) : (searches.erase name).IsPlain places :=
  h.filter _

/-- What is stored for the searches, by their names. -/
def fieldsOf (searches : SavedSearches) : Fields := searches.map fun entry => (entry.1.label, entry.2.stored)

theorem IsPlain.mapM_entry (h : searches.IsPlain places) (hplace : runtime ∈ places)
    (hfaithful : runtime.IsFaithful) :
    (searches.mapM fun (name, s) => return (name, ← entry runtime.dump s)) =
      (.ok (searches.map fun entry => (entry.1, entry.2.stored)) : Outcome (List (EntryName × Value))) := by
  refine Outcome.mapM_eq_ok fun (name, s) hs => ?_
  have hentry : entry runtime.dump s = .ok s.stored := (h.each (name, s) hs).entry_eq hplace hfaithful
  dsimp only
  rw [hentry]
  rfl

/-- A table of texts and the mapping with these names have one text. -/
theorem IsPlain.serialize_eq (h : searches.IsPlain places) (hplace : runtime ∈ places)
    (hfaithful : runtime.IsFaithful) :
    searches.serialize runtime =
      (Json.write .stored (.mapping (fieldsOf searches))).mapError (Failure.ofRefusal .mismatch) := by
  have hrows : ((searches.map fun entry => (entry.1, entry.2.stored)).map fun row => (row.1.value, row.2)) =
      Value.rowsOf (fieldsOf searches) := by
    rw [Value.rowsOf, fieldsOf, List.map_map, List.map_map]
    refine List.map_congr_left fun entry hentry => ?_
    obtain ⟨s, hs⟩ := h.names entry hentry
    simp only [Function.comp, hs]
    rfl
  have hwrite : Json.write .stored (.table (Value.rowsOf (fieldsOf searches))) =
      Json.write .stored (.mapping (fieldsOf searches)) := by
    rw [Json.write, Json.write, Json.chars, Json.chars, Json.rowChars_rowsOf]
  have hroom : (searches.all fun entry => runtime.writes (.mapping entry.2.filters)) = true :=
    List.all_eq_true.2 fun entry hentry => (h.each entry hentry).filters.written runtime hplace
  rw [serialize, h.mapM_entry hplace hfaithful, ← hwrite, ← hrows]
  show (if (searches.all fun entry => runtime.writes (.mapping entry.2.filters)) = true then _ else _) = _
  exact if_pos hroom

theorem IsPlain.isJson_fieldsOf (h : searches.IsPlain places) : (Value.mapping (fieldsOf searches)).IsJson := by
  refine .mapping ?_ ?_
  · have hnames : Fields.names (fieldsOf searches) = searches.map fun entry => entry.1.label := by
      simp [Fields.names, fieldsOf]
    rw [hnames]
    exact EntryName.NamedByTexts.nodup_labels h
  · rw [fieldsOf, List.forall_mem_map]
    exact fun entry hentry => (h.each entry hentry).isJson_stored

theorem IsPlain.ofEntries?_fieldsOf (h : searches.IsPlain places) {time : Value → Checked Timestamp}
    (htime : ReadsTimes time) (now : Timestamp) : ofEntries? time now (fieldsOf searches) = some searches := by
  induction searches with
  | nil =>
      rfl
  | cons entry rest ih =>
      obtain ⟨name, s⟩ := entry
      obtain ⟨⟨t, rfl⟩, hs, hrest⟩ := EntryName.NamedByTexts.of_cons h
      show ofEntries? time now ((EntryName.label (.text t), s.stored) :: fieldsOf rest) = _
      rw [ofEntries?, hs.savedSearch_stored htime, ih hrest]
      rfl

/-- Plain searches are read without going too deep. -/
theorem IsPlain.openDepth_fieldsOf_le (h : searches.IsPlain places) (hplace : runtime ∈ places)
    (hfaithful : runtime.IsFaithful) : (Value.mapping (fieldsOf searches)).openDepth ≤ runtime.reads := by
  have hentries : Value.entriesOpenDepth (fieldsOf searches) ≤ runtime.reads - 1 := by
    rw [Value.entriesOpenDepth_le_iff, fieldsOf, List.forall_mem_map]
    intro entry hentry
    have hread := (h.each entry hentry).filters.read runtime hplace
    rw [SavedSearch.openDepth_stored]
    omega
  rw [Value.openDepth]
  exact Nat.add_le_of_le_sub' hfaithful.room hentries

/-- Plain searches have a text, and they are read back from it as they are, in whatever places. -/
theorem IsPlain.exists_serialize (h : searches.IsPlain places) (hfaithful : ∀ runtime ∈ places, runtime.IsFaithful)
    (hplace : runtime ∈ places) :
    ∃ text, searches.serialize runtime = .ok text ∧
      ∀ other ∈ places, ∀ now, parse other.reader now text = .ok searches := by
  have hshort : (Value.mapping (fieldsOf searches)).HasShortIntegers := by
    rw [Value.hasShortIntegers_mapping, fieldsOf, List.forall_mem_map]
    exact fun entry hentry => (h.each entry hentry).hasShortIntegers_stored
  obtain ⟨text, htext⟩ : ∃ text, Json.write .stored (.mapping (fieldsOf searches)) = .ok text := by
    rw [Json.write, Outcome.exists_map_eq_ok_iff]
    exact (Json.exists_chars_iff h.isJson_fieldsOf).2 hshort
  refine ⟨text, ?_, fun other hother now => ?_⟩
  · rw [h.serialize_eq hplace (hfaithful runtime hplace), htext]
    rfl
  · have hroom := h.openDepth_fieldsOf_le hother (hfaithful other hother)
    have hread : other.reader.document text = .ok (.mapping (fieldsOf searches)) :=
      (Json.parse_write h.isJson_fieldsOf htext other.reads).trans (Json.inRoom_of_le hroom _)
    -- An empty text would be taken for no saved searches at all.
    have hne : text ≠ "" := by
      rintro rfl
      exact Json.parse_empty_ne_ok _ _ hread
    have hentries : ofEntries? other.reader.time now (fieldsOf searches) = some searches :=
      h.ofEntries?_fieldsOf (hfaithful other hother).times now
    rw [parse, if_neg hne, hread]
    dsimp only
    rw [hentries]

end SavedSearches
end GraphQuery
