import GraphQuery.Proofs.Filter.Commit
import GraphQuery.Proofs.Filter.Payload
import GraphQuery.Proofs.Json.ShortIntegers

/-!
# Export — which sets can be written, and what an import makes of their text

Plain sets have a text if there is room to make it and no integer in them has too many digits
(`FilterSets.exists_serializeAt_iff`).  Where there is a text and room to read it, an import undoes the export: it
gives the same sets in the same order, marked as imported, and these have the same text again
(`FilterShelf.import_undoes_export`).
-/

namespace GraphQuery

/-! ## Sets -/

namespace FilterSetRecord

/-- All integers of the exported form stand in the configuration. -/
theorem IsPlain.hasShortIntegers_exported {r : FilterSetRecord} (h : r.IsPlain) :
    r.exported.HasShortIntegers ↔ r.config.HasShortIntegers := by
  have hupdated : (timeOrNull r.updated).HasShortIntegers := by
    cases r.updated <;> rintro n ⟨⟩
  have hactive : (Value.bool r.active).HasShortIntegers := by
    rintro n ⟨⟩
  have hcreated : (Value.text r.created.text).HasShortIntegers := by
    rintro n ⟨⟩
  rw [h.exported_eq, Value.hasShortIntegers_mapping]
  simp [hactive, hcreated, hupdated]

end FilterSetRecord

namespace FilterSets

variable {sets : FilterSets} {runtime : Runtime}

/-- Whether sets keep within the limits of a text: there is room to copy and to write each configuration, and no
integer has too many digits. -/
structure FitText (sets : FilterSets) (runtime : Runtime) : Prop where
  room : ∀ entry ∈ sets, runtime.copies entry.2.config = true ∧ runtime.writes entry.2.config = true
  integers : ∀ entry ∈ sets, entry.2.config.HasShortIntegers

theorem fit_iff : sets.fit runtime = true ↔
    ∀ entry ∈ sets, runtime.copies entry.2.config = true ∧ runtime.writes entry.2.config = true := by
  simp only [fit, List.all_eq_true, Bool.and_eq_true]

/-- Where sets have a text, there is room for it, and it is the same wherever it is made. -/
theorem serializeAt_eq_ok_iff {text : String} :
    sets.serializeAt runtime = .ok text ↔ sets.fit runtime = true ∧ sets.serialize = .ok text := by
  rw [serializeAt]
  split_ifs with hfit
  · rw [hfit]
    exact (and_iff_right rfl).symm
  · exact ⟨nofun, fun h => absurd h.1 hfit⟩

/-- Plain sets have a text, if there is room for it, exactly if their integers are short. -/
theorem exists_serialize_iff (h : sets.IsPlain) :
    (∃ text, sets.serialize = .ok text) ↔ ∀ entry ∈ sets, entry.2.config.HasShortIntegers := by
  rw [h.serialize_eq, Outcome.exists_mapError_eq_ok_iff, Json.write, Outcome.exists_map_eq_ok_iff,
    Json.exists_chars_iff h.isJson_fieldsOf, Value.hasShortIntegers_mapping, fieldsOf, List.forall_mem_map]
  exact forall₂_congr fun entry hentry => (h.records entry hentry).hasShortIntegers_exported

/-- Plain sets have a text exactly if they keep within its limits. -/
theorem exists_serializeAt_iff (h : sets.IsPlain) :
    (∃ text, sets.serializeAt runtime = .ok text) ↔ sets.FitText runtime := by
  simp only [serializeAt_eq_ok_iff, exists_and_left, exists_serialize_iff h, fit_iff]
  exact ⟨fun hfits => ⟨hfits.1, hfits.2⟩, fun hfits => ⟨hfits.room, hfits.integers⟩⟩

theorem fit_importedAt (now : Timestamp) (sets : FilterSets) (runtime : Runtime) :
    (sets.importedAt now).fit runtime = sets.fit runtime := by
  rw [fit, fit, importedAt, List.all_map]
  rfl

/-- That sets have been imported does not show in their text. -/
theorem serialize_importedAt (now : Timestamp) (sets : FilterSets) :
    (sets.importedAt now).serialize = sets.serialize := by
  have hexported : (sets.importedAt now).exported = sets.exported := by
    rw [exported, exported, importedAt, List.map_map]
    rfl
  have hkeys : ((sets.importedAt now).any fun entry => entry.2.config.hasLongKey) =
      sets.any fun entry => entry.2.config.hasLongKey := by
    rw [importedAt, List.any_map]
    rfl
  rw [serialize, serialize, hexported, hkeys]

end FilterSets

namespace FilterShelf

/-- Sets that have a text are written, unless the store refuses. -/
theorem exists_written {shelf : FilterShelf} (hstore : shelf.store.all (!·.refuses)) {sets : FilterSets}
    {text : String} (htext : sets.serializeAt shelf.runtime = .ok text) : ∃ store, shelf.written sets = .ok store := by
  rw [written]
  cases hkept : shelf.store with
  | none =>
      exact ⟨none, rfl⟩
  | some store =>
      have haccepts : store.refuses = false := by simpa [hkept] using hstore
      rw [htext]
      simp only [bind, Except.bind, Store.write, haccepts, Bool.false_eq_true, if_false]
      exact ⟨_, rfl⟩

/-- An import undoes an export.  Plain sets that keep within the limits of a text have one.  Wherever it is read, it is
read as these sets, marked as imported, or there is no room for the lists and objects in it.  And once it has been
imported where there are no sets, it is exported again wherever there is room for it. -/
theorem import_undoes_export {sets : FilterSets} (hplain : sets.IsPlain) (runtime : Runtime) :
    ((∃ text, sets.serializeAt runtime = .ok text) ↔ sets.FitText runtime) ∧
    ∀ text, sets.serializeAt runtime = .ok text → ∀ now,
      (∀ reading : Runtime, ReadsTimes reading.time →
        FilterSets.parse now (.text text) reading.reader =
          if sets.exported.openDepth ≤ reading.reads then .ok (sets.importedAt now) else .error .nestedTooDeep) ∧
      ∀ graph shelf, shelf.sets = [] → shelf.store.all (!·.refuses) → ReadsTimes shelf.runtime.time →
        sets.exported.openDepth ≤ shelf.runtime.reads → sets.fit shelf.runtime = true →
          let after := (runAt (importSets now graph (.text text)) shelf).2
          after.sets = sets.importedAt now ∧
            ∀ again, sets.fit again = true → (runAt exportText { after with runtime := again }).1 = .ok text := by
  refine ⟨FilterSets.exists_serializeAt_iff hplain, ?_⟩
  intro text hexport now
  obtain ⟨-, htext⟩ := FilterSets.serializeAt_eq_ok_iff.1 hexport
  refine ⟨fun reading htime => FilterSets.parse_serialize hplain htext htime now, ?_⟩
  intro graph shelf hempty hstore htime hroom hfit
  have hparse := FilterSets.parse_serialize hplain htext htime now
  rw [if_pos hroom] at hparse
  -- Merged into no sets, the imported ones are all there is, and they are written as the original ones were.
  have hmerged : shelf.sets.merge (sets.importedAt now) = sets.importedAt now := by
    rw [hempty]
    exact (hplain.importedAt now).merge_nil
  have himported : ∀ again : Runtime, sets.fit again = true → (sets.importedAt now).serializeAt again = .ok text := by
    intro again hagain
    rw [FilterSets.serializeAt_eq_ok_iff, FilterSets.fit_importedAt, FilterSets.serialize_importedAt]
    exact ⟨hagain, htext⟩
  obtain ⟨store, hwritten⟩ := exists_written hstore (himported shelf.runtime hfit)
  have hstaged : shelf.staged now (.text text) = .ok (sets.importedAt now, store) := by
    simp only [staged, hparse, bind, Except.bind, hmerged, hwritten]
    rfl
  rw [runAt_importSets, hstaged]
  refine ⟨hmerged, fun again hagain => ?_⟩
  show (shelf.sets.merge (sets.importedAt now)).serializeAt again = .ok text
  rw [hmerged, himported again hagain]

/-- Empty lists inside one another. -/
def nested : Nat → Value
  | 0 => .list []
  | depth + 1 => .list [nested depth]

theorem copyDepth_nested (depth : Nat) : (nested depth).copyDepth = 2 * depth + 2 := by
  induction depth with
  | zero =>
      rfl
  | succ depth ih =>
      rw [nested, Value.copyDepth, Value.itemsDepth, Value.itemsDepth, ih]
      omega

theorem isJson_nested (depth : Nat) : (nested depth).IsJson := by
  induction depth with
  | zero =>
      exact .list (List.forall_mem_nil _)
  | succ depth ih =>
      exact .list (List.forall_mem_singleton.2 ih)

theorem hasShortIntegers_nested (depth : Nat) : (nested depth).HasShortIntegers := by
  induction depth with
  | zero =>
      exact Value.hasShortIntegers_list.2 (List.forall_mem_nil _)
  | succ depth ih =>
      exact Value.hasShortIntegers_list.2 (List.forall_mem_singleton.2 ih)

/-- The start of a year. -/
def newYear : Timestamp := ⟨⟨2024, 1, 1⟩, 0, 0, 0, 0, some 0⟩

theorem isValid_newYear : newYear.IsValid :=
  ⟨⟨by decide, by decide, by decide, by decide, by decide, by rintro _ ⟨⟩; decide⟩, by decide⟩

/-- A set whose configuration holds nested lists. -/
def nestedSets (depth : Nat) : FilterSets :=
  [(.text "s", ⟨.mapping [("deep", nested depth)], true, newYear, none, none⟩)]

theorem isPlain_nestedSets (depth : Nat) : (nestedSets depth).IsPlain where
  names := List.forall_mem_singleton.2 ⟨"s", rfl⟩
  distinct := List.nodup_singleton _
  records := List.forall_mem_singleton.2
    { config := ⟨_, rfl⟩
      isJson := .mapping (List.nodup_singleton _) (List.forall_mem_singleton.2 (isJson_nested depth))
      created := isValid_newYear
      updated := fun _ h => absurd h (Option.not_mem_none _) }

/-- Some nested lists are exported, imported and exported again. -/
theorem import_undoes_export_nestedSets :
    (nestedSets 3).IsPlain ∧ ∃ text, (nestedSets 3).serializeAt .usual = .ok text ∧
      (∀ now, FilterSets.parse now (.text text) = .ok ((nestedSets 3).importedAt now)) ∧
      ∀ now graph,
        let after := (runAt (importSets now graph (.text text)) emptyShelf).2
        after.sets = (nestedSets 3).importedAt now ∧
          (runAt exportText { after with runtime := .usual }).1 = .ok text := by
  obtain ⟨hwritten, hundone⟩ := import_undoes_export (isPlain_nestedSets 3) .usual
  obtain ⟨text, htext⟩ : ∃ text, (nestedSets 3).serializeAt .usual = .ok text := by
    refine hwritten.2 ⟨List.forall_mem_singleton.2 (by decide), List.forall_mem_singleton.2 ?_⟩
    exact Value.hasShortIntegers_mapping.2 (List.forall_mem_singleton.2 (hasShortIntegers_nested 3))
  have hroom : (nestedSets 3).exported.openDepth ≤ Runtime.usual.reads := by decide
  refine ⟨isPlain_nestedSets 3, text, htext, fun now => ?_, fun now graph => ?_⟩
  · exact ((hundone text htext now).1 .usual Runtime.readsTimes_usual).trans (if_pos hroom)
  · obtain ⟨hsets, hagain⟩ :=
      (hundone text htext now).2 graph emptyShelf rfl rfl Runtime.readsTimes_usual hroom (by decide)
    exact ⟨hsets, hagain .usual (by decide)⟩

/-- Lists may be nested so deep that a set with them has no text. -/
theorem serialize_nested_too_deep :
    (nestedSets 600).IsPlain ∧ ¬ ∃ text, (nestedSets 600).serializeAt .usual = .ok text := by
  refine ⟨isPlain_nestedSets 600, ?_⟩
  rw [FilterSets.exists_serializeAt_iff (isPlain_nestedSets 600)]
  intro hfits
  have hcopies := (List.forall_mem_singleton.1 hfits.room).1
  simp [Runtime.usual, Value.copyDepth, Value.entriesDepth, copyDepth_nested, Json.nestingLimit] at hcopies

end FilterShelf
end GraphQuery
