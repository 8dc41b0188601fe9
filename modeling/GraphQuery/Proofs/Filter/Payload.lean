import GraphQuery.Proofs.Json.RoundTrip
import GraphQuery.Proofs.Time.TimeText
import GraphQuery.Proofs.Value.NamedByTexts

/-!
# Filter sets as text — read back as they were written

Plain filter sets are named by distinct texts and have JSON objects as configurations and valid times
(`FilterSets.IsPlain`).  Of the library that reads times it is relied on that the texts of valid times are read as
these times, and that nothing else than valid times is read (`ReadsTimes`):

- plain sets that are written are read back as they are, marked as imported, where there is room for reading them
  (`FilterSets.parse_serialize`);
- what is read from any payload is plain (`FilterSets.isPlain_of_parse`);
- sets stay plain when one is set or erased and when plain ones are merged into them.
-/

namespace GraphQuery

/-- What is relied on of how times are read: valid times are read back from the texts that are made for them, and
only valid times are read from JSON values. -/
structure ReadsTimes (time : Value → Checked Timestamp) : Prop where
  text : ∀ {t : Timestamp}, t.IsValid → time (.text t.text) = .ok t
  zuluText : ∀ {t : Timestamp}, t.IsValid → time (.text t.zuluText) = .ok t
  isValid : ∀ {v : Value} {t : Timestamp}, v.IsJson → time v = .ok t → t.IsValid

/-- A JSON value is no day as such. -/
theorem Value.IsJson.ne_date {v : Value} (hv : v.IsJson) (d : Date) : v ≠ .date d := by
  rintro rfl
  cases hv

theorem Check.readsTimes_time : ReadsTimes Check.time where
  text := time_text
  zuluText := time_zuluText
  isValid := fun hv h => isValid_of_time hv.ne_date h

theorem Runtime.readsTimes_usual : ReadsTimes usual.time := Check.readsTimes_time

/-! ## Copies -/

namespace Value

theorem IsJson.isTest_eq_false {v : Value} (h : v.IsJson) : v.isTest = false := by
  cases h <;> rfl

theorem portableItems_of_forall {items : List Value} (h : ∀ x ∈ items, x.portable = x) :
    portableItems items = items := by
  induction items with
  | nil =>
      rfl
  | cons x xs ih =>
      rw [portableItems, h x List.mem_cons_self, ih fun y hy => h y (List.mem_cons_of_mem _ hy)]

theorem portableEntries_of_forall {entries : Fields}
    (h : ∀ entry ∈ entries, entry.2.isTest = false ∧ entry.2.portable = entry.2) :
    portableEntries entries = entries := by
  induction entries with
  | nil =>
      rfl
  | cons entry rest ih =>
      have hentry := h entry List.mem_cons_self
      rw [portableEntries, hentry.1, if_neg Bool.false_ne_true, hentry.2,
        ih fun other hother => h other (List.mem_cons_of_mem _ hother)]

/-- A JSON value is its own copy. -/
theorem IsJson.portable_eq {v : Value} (h : v.IsJson) : v.portable = v := by
  induction h with
  | null => rfl
  | bool b => rfl
  | int n => rfl
  | float canonical => rfl
  | text s => rfl
  | list _ ih =>
      rw [portable, portableItems_of_forall ih]
  | mapping _ hentries ih =>
      rw [portable, portableEntries_of_forall fun entry h => ⟨(hentries entry h).isTest_eq_false, ih entry h⟩]

theorem itemsHaveLongKey_of_forall {items : List Value} (h : ∀ x ∈ items, x.hasLongKey = false) :
    itemsHaveLongKey items = false := by
  induction items with
  | nil =>
      rfl
  | cons x xs ih =>
      obtain ⟨hx, hxs⟩ := List.forall_mem_cons.1 h
      rw [itemsHaveLongKey, hx, ih hxs]
      rfl

theorem entriesHaveLongKey_of_forall {entries : Fields} (h : ∀ entry ∈ entries, entry.2.hasLongKey = false) :
    entriesHaveLongKey entries = false := by
  induction entries with
  | nil =>
      rfl
  | cons entry rest ih =>
      obtain ⟨hentry, hrest⟩ := List.forall_mem_cons.1 h
      rw [entriesHaveLongKey, hentry, ih hrest]
      rfl

/-- The keys of a JSON value are texts. -/
theorem IsJson.hasLongKey_eq_false {v : Value} (h : v.IsJson) : v.hasLongKey = false := by
  induction h with
  | null | bool b | int n | float canonical | text s =>
      rfl
  | list _ ih =>
      rw [hasLongKey, itemsHaveLongKey_of_forall ih]
  | mapping _ _ ih =>
      rw [hasLongKey, entriesHaveLongKey_of_forall ih]

/-- Named values open as many lists and objects at once as the deepest of them does. -/
theorem entriesOpenDepth_le_iff {entries : Fields} {limit : Nat} :
    entriesOpenDepth entries ≤ limit ↔ ∀ entry ∈ entries, entry.2.openDepth ≤ limit := by
  induction entries with
  | nil =>
      simp [entriesOpenDepth]
  | cons entry rest ih =>
      rw [entriesOpenDepth, max_le_iff, ih, List.forall_mem_cons]

/-- The rows of a table whose keys are the given names. -/
def rowsOf (entries : Fields) : List (Value × Value) := entries.map fun entry => (.text entry.1, entry.2)

theorem rowsOpenDepth_rowsOf (entries : Fields) : rowsOpenDepth (rowsOf entries) = entriesOpenDepth entries := by
  induction entries with
  | nil =>
      rfl
  | cons entry rest ih =>
      rw [entriesOpenDepth, ← ih]
      rfl

theorem openDepth_table_rowsOf (entries : Fields) :
    (table (rowsOf entries)).openDepth = (mapping entries).openDepth := by
  rw [openDepth, openDepth, rowsOpenDepth_rowsOf]

end Value

/-- A table whose keys are texts is written as the mapping with these names is. -/
theorem Json.rowChars_rowsOf (style : Json.Style) (depth : Nat) (entries : Fields) :
    Json.rowChars style depth (Value.rowsOf entries) = Json.memberChars style depth entries := by
  induction entries with
  | nil =>
      rfl
  | cons entry rest ih =>
      rw [Json.memberChars, ← ih]
      rfl

/-! ## Records -/

/-- Whether a set has a JSON object as its configuration and valid times. -/
structure FilterSetRecord.IsPlain (r : FilterSetRecord) : Prop where
  config : ∃ fields, r.config = .mapping fields
  isJson : r.config.IsJson
  created : r.created.IsValid
  updated : ∀ t ∈ r.updated, t.IsValid

namespace FilterSetRecord

/-- The set as it is once it has been read from a payload. -/
def importedAt (now : Timestamp) (r : FilterSetRecord) : FilterSetRecord := { r with imported := some now }

/-- The exported form of a plain set holds the configuration as it is. -/
theorem IsPlain.exported_eq {r : FilterSetRecord} (h : r.IsPlain) :
    r.exported = .mapping
      [("config", r.config), ("active", .bool r.active), ("created", .text r.created.text),
        ("updated", timeOrNull r.updated)] := by
  rw [exported, h.isJson.portable_eq]

theorem IsPlain.isJson_exported {r : FilterSetRecord} (h : r.IsPlain) : r.exported.IsJson := by
  have hupdated : (timeOrNull r.updated).IsJson := by
    cases r.updated with
    | none => exact .null
    | some t => exact .text _
  have hnames : ["config", "active", "created", "updated"].Nodup := by
    decide
  rw [h.exported_eq]
  refine .mapping hnames ?_
  intro entry hentry
  simp only [List.mem_cons, List.not_mem_nil, or_false] at hentry
  rcases hentry with rfl | rfl | rfl | rfl
  · exact h.isJson
  · exact .bool _
  · exact .text _
  · exact hupdated

/-- The exported form of a set is one level deeper than its configuration. -/
theorem IsPlain.openDepth_exported {r : FilterSetRecord} (h : r.IsPlain) :
    r.exported.openDepth = 1 + r.config.openDepth := by
  have hupdated : (timeOrNull r.updated).openDepth = 0 := by
    cases r.updated <;> rfl
  rw [h.exported_eq]
  simp [Value.openDepth, Value.entriesOpenDepth, hupdated]

/-- The text of a time is not empty. -/
theorem isTruthy_timeText (t : Timestamp) : (Value.text t.text).isTruthy = true := by
  have hne : t.text ≠ "" := by
    intro h
    have hchars := Timestamp.toList_text t
    rw [h] at hchars
    exact absurd (congrArg List.length hchars) (by simp [Timestamp.wallChars])
  simpa [Value.isTruthy] using hne

/-- A plain set is read back from its exported form. -/
theorem IsPlain.ofEntry_exported {r : FilterSetRecord} (h : r.IsPlain) {time : Value → Checked Timestamp}
    (htime : ReadsTimes time) (now : Timestamp) : ofEntry? time now r.exported = some (r.importedAt now) := by
  rcases r with ⟨config, active, created, updated, imported⟩
  obtain ⟨fields, hfields⟩ : ∃ fields, config = .mapping fields := h.config
  subst hfields
  have hconfig : (if (Value.mapping fields).isTruthy then Check.mapping (.mapping fields) else .ok []) =
      .ok fields := by
    cases fields with
    | nil => rfl
    | cons entry rest => rfl
  have hcreated : time (.text created.text) = .ok created := htime.text h.created
  have hupdated : (if (timeOrNull updated).isTruthy then (time (timeOrNull updated)).map some
      else .ok none) = .ok updated := by
    cases updated with
    | none =>
        rfl
    | some t =>
        have ht : time (.text t.text) = .ok t := htime.text (h.updated t rfl)
        rw [timeOrNull, isTruthy_timeText, if_pos rfl, ht]
        rfl
  -- An empty configuration and an absent time count as false, and give what they are written for.
  rw [h.exported_eq, ofEntry?]
  simp only [Fields.getD_cons, String.reduceEq, if_true, if_false, hconfig, isTruthy_timeText, hcreated,
    hupdated]
  cases active <;> rfl

/-- What a check gives where a payload has something, and a default where it has nothing. -/
theorem eq_of_checked {α : Type} {given : Bool} {checked : Checked α} {default a : α}
    (h : (if given then checked else .ok default) = .ok a) : checked = .ok a ∨ a = default := by
  split_ifs at h
  · exact Or.inl h
  · exact Or.inr (Except.ok.inj h).symm

theorem isJson_of_mapping {v : Value} {fields : Fields} (hv : v.IsJson) (h : Check.mapping v = .ok fields) :
    (Value.mapping fields).IsJson := by
  cases hv with
  | mapping distinct entries_isJson =>
      cases h
      exact .mapping distinct entries_isJson
  | _ => cases h

/-- A set that an entry of a payload describes is plain. -/
theorem isPlain_of_ofEntry {time : Value → Checked Timestamp} (htime : ReadsTimes time) {now : Timestamp}
    {entry : Value} {r : FilterSetRecord} (hnow : now.IsValid) (hentry : entry.IsJson)
    (h : ofEntry? time now entry = some r) : r.IsPlain := by
  cases hentry with
  | @mapping fields distinct entries_isJson =>
      have hfield := Fields.getD_of_forall .null entries_isJson
      simp only [ ofEntry?] at h
      split at h
      · case h_1 config created updated hconfig hcreated hupdated =>
          cases h
          refine ⟨⟨config, rfl⟩, ?_, ?_, ?_⟩
          -- Each part has been checked, or it was left out and takes a default that is in order.
          · rcases eq_of_checked hconfig with hread | rfl
            · exact isJson_of_mapping (hfield "config") hread
            · exact .mapping List.nodup_nil fun entry hentry => absurd hentry List.not_mem_nil
          · rcases eq_of_checked hcreated with hread | rfl
            · exact htime.isValid (hfield "created") hread
            · exact hnow
          · rcases eq_of_checked hupdated with hread | rfl
            · obtain ⟨t, ht, rfl⟩ := Outcome.exists_of_map_eq_ok hread
              rintro _ ⟨⟩
              exact htime.isValid (hfield "updated") ht
            · rintro _ ⟨⟩
      · cases h
  | _ => cases h

end FilterSetRecord

/-! ## Sets by name -/

/-- Whether filter sets are plain and named by distinct texts. -/
structure FilterSets.IsPlain (sets : FilterSets) : Prop where
  names : ∀ entry ∈ sets, ∃ s, entry.1 = .text s
  distinct : (sets.map (·.1)).Nodup
  records : ∀ entry ∈ sets, entry.2.IsPlain

namespace FilterSets

variable {sets others : FilterSets}

theorem isPlain_iff : sets.IsPlain ↔ EntryName.NamedByTexts FilterSetRecord.IsPlain sets :=
  ⟨fun h => ⟨h.names, h.distinct, h.records⟩, fun h => ⟨h.names, h.distinct, h.each⟩⟩

theorem IsPlain.nil : IsPlain [] := isPlain_iff.2 .nil

/-- The first of plain sets is plain, and so are the others. -/
theorem IsPlain.of_cons {name : EntryName} {r : FilterSetRecord} {rest : FilterSets}
    (h : IsPlain ((name, r) :: rest)) : (∃ s, name = .text s) ∧ r.IsPlain ∧ IsPlain rest := by
  obtain ⟨hname, hr, hrest⟩ := (isPlain_iff.1 h).of_cons
  exact ⟨hname, hr, isPlain_iff.2 hrest⟩

theorem IsPlain.erase (h : sets.IsPlain) (name : EntryName) : (sets.erase name).IsPlain :=
  isPlain_iff.2 ((isPlain_iff.1 h).filter _)

theorem IsPlain.get? (h : sets.IsPlain) {name : EntryName} {r : FilterSetRecord}
    (hget : sets.get? name = some r) : r.IsPlain := by
  obtain ⟨entry, hfind, rfl⟩ := Option.map_eq_some_iff.1 hget
  exact h.records entry (List.mem_of_find?_eq_some hfind)

/-! ### Setting a name -/

theorem insert_eq_put (sets : FilterSets) (name : EntryName) (r : FilterSetRecord) :
    sets.insert name r = EntryName.put sets name r := by
  induction sets with
  | nil =>
      rfl
  | cons entry rest ih =>
      rw [insert, EntryName.put, ih]

/-- A new name comes last. -/
theorem insert_of_not_has {name : EntryName} (h : sets.has name = false) (r : FilterSetRecord) :
    sets.insert name r = sets ++ [(name, r)] :=
  (insert_eq_put sets name r).trans (EntryName.put_of_unknown h r)

theorem insert_of_not_mem (h : ∀ entry ∈ sets, ∃ s, entry.1 = .text s) {name : String}
    (hname : EntryName.text name ∉ sets.map (·.1)) (r : FilterSetRecord) :
    sets.insert (.text name) r = sets ++ [(.text name, r)] := by
  rw [← EntryName.isKnown_text_iff h, Bool.not_eq_true] at hname
  exact insert_of_not_has hname r

/-- Sets stay plain when a plain one is set under a text. -/
theorem IsPlain.insert (h : sets.IsPlain) (name : String) {r : FilterSetRecord} (hr : r.IsPlain) :
    (sets.insert (.text name) r).IsPlain := by
  rw [insert_eq_put]
  exact isPlain_iff.2 ((isPlain_iff.1 h).put name hr)

/-- Sets stay plain when plain ones are merged into them. -/
theorem IsPlain.merge (h : sets.IsPlain) (hothers : others.IsPlain) : (sets.merge others).IsPlain := by
  induction others generalizing sets with
  | nil =>
      exact h
  | cons entry rest ih =>
      obtain ⟨name, r⟩ := entry
      obtain ⟨⟨s, rfl⟩, hr, hrest⟩ := hothers.of_cons
      exact ih (h.insert s hr) hrest

/-- Merging sets with new names puts them at the end, in order. -/
theorem merge_of_isPlain_append (h : IsPlain (sets ++ others)) : sets.merge others = sets ++ others := by
  induction others generalizing sets with
  | nil =>
      exact (List.append_nil sets).symm
  | cons entry rest ih =>
      obtain ⟨name, r⟩ := entry
      obtain ⟨s, rfl⟩ : ∃ s, name = .text s :=
        h.names (name, r) (List.mem_append_right _ List.mem_cons_self)
      have hsplit : sets ++ (EntryName.text s, r) :: rest = sets ++ [(EntryName.text s, r)] ++ rest := by
        simp
      have hnew : EntryName.text s ∉ sets.map (·.1) := by
        intro hmem
        have hdistinct := h.distinct
        rw [List.map_append, List.nodup_append] at hdistinct
        exact hdistinct.2.2 _ hmem _ List.mem_cons_self rfl
      have hfirst : sets.insert (.text s) r = sets ++ [(EntryName.text s, r)] :=
        insert_of_not_mem (fun entry hentry => h.names entry (List.mem_append_left _ hentry)) hnew r
      show (sets.insert (.text s) r).merge rest = _
      rw [hsplit] at h
      rw [hfirst, hsplit, ih h]

/-- Plain sets merged into none are these sets. -/
theorem IsPlain.merge_nil (h : sets.IsPlain) : FilterSets.merge [] sets = sets :=
  @merge_of_isPlain_append [] sets h

/-! ### Writing and reading back -/

/-- The sets as they are once they have been read from a payload. -/
def importedAt (now : Timestamp) (sets : FilterSets) : FilterSets :=
  sets.map fun entry => (entry.1, entry.2.importedAt now)

/-- The exported forms of the sets by their names. -/
def fieldsOf (sets : FilterSets) : Fields := sets.map fun entry => (entry.1.label, entry.2.exported)

theorem IsPlain.exported_eq (h : sets.IsPlain) : sets.exported = .table (Value.rowsOf (fieldsOf sets)) := by
  have hrows : (sets.map fun entry => (entry.1.value, entry.2.exported)) =
      Value.rowsOf (fieldsOf sets) := by
    rw [Value.rowsOf, fieldsOf, List.map_map]
    refine List.map_congr_left ?_
    intro entry hentry
    obtain ⟨s, hs⟩ := h.names entry hentry
    simp only [Function.comp, hs]
    rfl
  rw [exported, hrows]

theorem IsPlain.isJson_fieldsOf (h : sets.IsPlain) : (Value.mapping (fieldsOf sets)).IsJson := by
  refine .mapping ?_ ?_
  · have hnames : Fields.names (fieldsOf sets) = sets.map fun entry => entry.1.label := by
      simp [Fields.names, fieldsOf]
    rw [hnames]
    exact (isPlain_iff.1 h).nodup_labels
  · intro field hfield
    obtain ⟨entry, hentry, rfl⟩ := List.mem_map.1 hfield
    exact (h.records entry hentry).isJson_exported

theorem IsPlain.ofEntries_fieldsOf (h : sets.IsPlain) {time : Value → Checked Timestamp} (htime : ReadsTimes time)
    (now : Timestamp) : ofEntries time now (fieldsOf sets) = .ok (sets.importedAt now) := by
  induction sets with
  | nil =>
      rfl
  | cons entry rest ih =>
      obtain ⟨name, r⟩ := entry
      obtain ⟨⟨s, rfl⟩, hr, hrest⟩ := h.of_cons
      show ofEntries time now ((EntryName.label (.text s), r.exported) :: fieldsOf rest) = _
      rw [ofEntries, hr.ofEntry_exported htime, ih hrest]
      rfl

/-- A table of texts and the mapping with these names have one text. -/
theorem IsPlain.write_exported (h : sets.IsPlain) :
    Json.write .stored sets.exported = Json.write .stored (.mapping (fieldsOf sets)) := by
  rw [h.exported_eq, Json.write, Json.write, Json.chars, Json.chars, Json.rowChars_rowsOf]

/-- Two objects stand around each configuration in the exported form of sets. -/
theorem IsPlain.openDepth_exported_le_iff (h : sets.IsPlain) {limit : Nat} (hlimit : 0 < limit) :
    sets.exported.openDepth ≤ limit ↔ ∀ entry ∈ sets, 2 + entry.2.config.openDepth ≤ limit := by
  have hsplit : sets.exported.openDepth ≤ limit ↔ Value.entriesOpenDepth (fieldsOf sets) ≤ limit - 1 := by
    rw [h.exported_eq, Value.openDepth_table_rowsOf, Value.openDepth]
    omega
  rw [hsplit, Value.entriesOpenDepth_le_iff, fieldsOf, List.forall_mem_map]
  refine forall₂_congr fun entry hentry => ?_
  rw [(h.records entry hentry).openDepth_exported]
  omega

/-- The text of plain sets is that of a mapping with their names. -/
theorem IsPlain.serialize_eq (h : sets.IsPlain) :
    sets.serialize =
      (Json.write .stored (.mapping (fieldsOf sets))).mapError (Failure.ofRefusal .mismatch) := by
  have hkeys : (sets.any fun entry => entry.2.config.hasLongKey) = false :=
    List.any_eq_false.2 fun entry hentry =>
      (Bool.eq_false_iff.1 (h.records entry hentry).isJson.hasLongKey_eq_false)
  rw [serialize, hkeys, if_neg Bool.false_ne_true, h.write_exported]

theorem IsPlain.parse_text (h : sets.IsPlain) {text : String} (hwrite : sets.serialize = .ok text) (room : Nat) :
    Json.parse text room = Json.inRoom sets.exported.openDepth room (.mapping (fieldsOf sets)) := by
  rw [h.serialize_eq] at hwrite
  rw [h.exported_eq, Value.openDepth_table_rowsOf]
  exact Json.parse_write h.isJson_fieldsOf (Outcome.eq_ok_of_mapError_eq_ok hwrite) room

/-- Plain sets are read back from the text that is written for them, marked as imported, where there is room for
the lists and objects in it. -/
theorem parse_serialize (h : sets.IsPlain) {text : String} (hwrite : sets.serialize = .ok text) {runtime : Runtime}
    (htime : ReadsTimes runtime.time) (now : Timestamp) :
    parse now (.text text) runtime.reader =
      if sets.exported.openDepth ≤ runtime.reads then .ok (sets.importedAt now) else .error .nestedTooDeep := by
  have hread : runtime.reader.document text =
      Json.inRoom sets.exported.openDepth runtime.reads (.mapping (fieldsOf sets)) :=
    h.parse_text hwrite runtime.reads
  rw [parse, hread, Json.inRoom]
  split_ifs with hroom
  · exact h.ofEntries_fieldsOf htime now
  · rfl

/-- The text of plain sets is not empty. -/
theorem serialize_ne_empty (h : sets.IsPlain) {text : String} (hwrite : sets.serialize = .ok text) :
    text ≠ "" := by
  rintro rfl
  have hread := h.parse_text hwrite sets.exported.openDepth
  rw [Json.inRoom_of_le (Nat.le_refl _)] at hread
  exact Json.parse_empty_ne_ok _ _ hread

/-- The entries of a payload give sets under their names, in order. -/
theorem names_of_ofEntries {time : Value → Checked Timestamp} {now : Timestamp} {entries : Fields}
    (h : ofEntries time now entries = .ok sets) :
    sets.map (·.1) = (Fields.names entries).map EntryName.text := by
  induction entries generalizing sets with
  | nil =>
      cases h
      rfl
  | cons entry rest ih =>
      obtain ⟨name, v⟩ := entry
      rw [ofEntries] at h
      split at h
      · cases h
      · obtain ⟨others, hothers, rfl⟩ := Outcome.exists_of_map_eq_ok h
        exact congrArg (List.cons _) (ih hothers)

theorem isPlain_of_mem_ofEntries {time : Value → Checked Timestamp} (htime : ReadsTimes time) {now : Timestamp}
    (hnow : now.IsValid) {entries : Fields} (hentries : ∀ entry ∈ entries, entry.2.IsJson)
    (h : ofEntries time now entries = .ok sets) :
    ∀ entry ∈ sets, entry.2.IsPlain := by
  induction entries generalizing sets with
  | nil =>
      cases h
      exact fun _ h => absurd h List.not_mem_nil
  | cons entry rest ih =>
      obtain ⟨name, v⟩ := entry
      rw [ofEntries] at h
      split at h
      · cases h
      · case h_2 r hread =>
          obtain ⟨others, hothers, rfl⟩ := Outcome.exists_of_map_eq_ok h
          refine List.forall_mem_cons.2 ⟨?_, ?_⟩
          · exact FilterSetRecord.isPlain_of_ofEntry htime hnow (hentries (name, v) List.mem_cons_self) hread
          · exact ih (fun other hother => hentries other (List.mem_cons_of_mem _ hother)) hothers

/-- What is read from a payload is plain. -/
theorem isPlain_of_parse {runtime : Runtime} (htime : ReadsTimes runtime.time) {now : Timestamp}
    (hnow : now.IsValid) {payload : Value} (h : parse now payload runtime.reader = .ok sets) : sets.IsPlain := by
  rw [parse.eq_def] at h
  split at h
  · split at h
    · case h_1 entries hread =>
        cases Json.isJson_of_parse hread with
        | mapping distinct entries_isJson =>
            have hnames := names_of_ofEntries h
            refine ⟨?_, ?_, isPlain_of_mem_ofEntries htime hnow entries_isJson h⟩
            · intro entry hentry
              have hmem : entry.1 ∈ sets.map (·.1) := List.mem_map_of_mem hentry
              rw [hnames] at hmem
              obtain ⟨s, -, hs⟩ := List.mem_map.1 hmem
              exact ⟨s, hs.symm⟩
            · rw [hnames]
              exact distinct.map EntryName.text_injective
    · cases h
    · cases h
    · cases h
  · cases h

/-! ### Imported sets -/

theorem IsPlain.importedAt (h : sets.IsPlain) (now : Timestamp) : (sets.importedAt now).IsPlain := by
  have hnames : (sets.importedAt now).map (·.1) = sets.map (·.1) := by
    simp [FilterSets.importedAt]
  refine ⟨?_, hnames ▸ h.distinct, ?_⟩
  · intro entry hentry
    obtain ⟨given, hgiven, rfl⟩ := List.mem_map.1 hentry
    exact h.names given hgiven
  · intro entry hentry
    obtain ⟨given, hgiven, rfl⟩ := List.mem_map.1 hentry
    have hplain := h.records given hgiven
    exact ⟨hplain.config, hplain.isJson, hplain.created, hplain.updated⟩

theorem applyFrom_importedAt (now : Timestamp) (graph : Snapshot) (sets : FilterSets) (part : Snapshot) :
    applyFrom graph (sets.importedAt now) part = applyFrom graph sets part := by
  induction sets generalizing part with
  | nil =>
      rfl
  | cons entry rest ih =>
      obtain ⟨name, r⟩ := entry
      show applyFrom graph ((name, r.importedAt now) :: importedAt now rest) part = _
      rw [applyFrom, applyFrom]
      simp only [ih]
      rfl

/-- That sets have been imported makes no difference to what they leave of a graph. -/
theorem applyAll_importedAt (now : Timestamp) (graph : Snapshot) (sets : FilterSets) :
    (sets.importedAt now).applyAll graph = sets.applyAll graph :=
  applyFrom_importedAt now graph sets graph

end FilterSets
end GraphQuery
