import GraphQuery.Proofs.Filter.Payload
import Mathlib.Data.List.Permutation

/-!
# The format of payloads — which texts give filter sets, and which sets they give

A payload is a JSON object whose entries are objects.  Each field of an entry has its own notion of being left out:

- a configuration that counts as false is empty, and any other must be an object;
- a set is active unless the field is literally false, so null, zero and absence leave it active;
- a time that counts as false takes its default, and any other must be a valid time.

Which texts are JSON documents and which values are valid times is left to the reader (`PayloadReader`); an object
has each of its names once (`PayloadReader.NamesOnce`).

`FilterSetRecord.IsEntry` says which objects are entries, and `FilterSetRecord.Describes` which set each of them
describes.  A text is read as sets exactly if it has this format, the sets are those that its entries describe, in
order, and every other text is refused as a payload (`FilterSets.parse_acceptsFormat`).  A name that a text repeats
stands once among the entries, in its first place and with its last value.
-/

namespace GraphQuery

/-! ## Entries -/

namespace FilterSetRecord

/-- What an optional part comes to: what is read of it where something is given, and a default where nothing is. -/
def IsPart {α : Type} (v : Value) (reads : α → Prop) (default a : α) : Prop :=
  if v.isTruthy then reads a else a = default

/-- Whether the fields of an object are those of an entry. -/
structure IsEntry (time : Value → Checked Timestamp) (fields : Fields) : Prop where
  config : (Fields.getD fields "config").isTruthy = true → ∃ config, Fields.getD fields "config" = .mapping config
  created : (Fields.getD fields "created").isTruthy = true → ∃ t, time (Fields.getD fields "created") = .ok t
  updated : (Fields.getD fields "updated").isTruthy = true → ∃ t, time (Fields.getD fields "updated") = .ok t

/-- Whether a set is the one that the fields of an entry describe, if they are read at a time. -/
structure Describes (time : Value → Checked Timestamp) (now : Timestamp) (fields : Fields) (r : FilterSetRecord) :
    Prop where
  config : ∃ config, r.config = .mapping config ∧
    IsPart (Fields.getD fields "config") (fun config => Fields.getD fields "config" = .mapping config) [] config
  active : r.active = false ↔ Fields.getD fields "active" = .bool false
  created : IsPart (Fields.getD fields "created") (fun t => time (Fields.getD fields "created") = .ok t) now r.created
  updated : IsPart (Fields.getD fields "updated")
    (fun updated => ∃ t, time (Fields.getD fields "updated") = .ok t ∧ updated = some t) none r.updated
  imported : r.imported = some now

/-! ### Reading the parts -/

section Parts

variable {α : Type} {v : Value} {time : Value → Checked Timestamp}

theorem exists_isPart_iff {reads : α → Prop} {default : α} :
    (∃ a, IsPart v reads default a) ↔ (v.isTruthy = true → ∃ a, reads a) := by
  cases hv : v.isTruthy <;> simp [IsPart, hv]

theorem isPart_of_checked {checked : Checked α} {default a : α} :
    (if v.isTruthy then checked else .ok default) = .ok a ↔ IsPart v (fun a => checked = .ok a) default a := by
  rw [IsPart]
  split_ifs
  · rfl
  · exact ⟨fun h => (Except.ok.inj h).symm, fun h => congrArg Except.ok h.symm⟩

theorem isPart_config {fields : Fields} :
    (if v.isTruthy then Check.mapping v else .ok []) = .ok fields ↔
      IsPart v (fun fields => v = .mapping fields) [] fields := by
  have hmapping : ∀ fields, Check.mapping v = .ok fields ↔ v = .mapping fields := by
    intro fields
    cases v <;> simp [Check.mapping, Checked.broken]
  simp only [isPart_of_checked, hmapping]

theorem isPart_updated {updated : Option Timestamp} :
    (if v.isTruthy then (time v).map some else .ok none) = .ok updated ↔
      IsPart v (fun updated => ∃ t, time v = .ok t ∧ updated = some t) none updated := by
  have hmap : ∀ updated, (time v).map some = .ok updated ↔ ∃ t, time v = .ok t ∧ updated = some t := by
    intro updated
    cases time v <;> simp [Except.map, eq_comm]
  simp only [isPart_of_checked, hmap]

theorem active_eq_false_iff :
    (match v with
      | .bool false => false
      | _ => true) = false ↔ v = .bool false := by
  split
  · exact ⟨fun _ => rfl, fun _ => rfl⟩
  · next hother => exact ⟨fun h => absurd h.symm Bool.false_ne_true, fun h => absurd h hother⟩

end Parts

variable {time : Value → Checked Timestamp} {now : Timestamp} {fields : Fields} {r : FilterSetRecord}

/-- An object is read as the set that it describes. -/
theorem ofEntry_eq_some_iff : ofEntry? time now (.mapping fields) = some r ↔ Describes time now fields r := by
  rcases r with ⟨config, active, created, updated, imported⟩
  simp only [ ofEntry?]
  constructor
  · intro h
    split at h
    · next config' created' updated' hconfig hcreated hupdated =>
        cases h
        exact ⟨⟨_, rfl, isPart_config.1 hconfig⟩, active_eq_false_iff, isPart_of_checked.1 hcreated,
          isPart_updated.1 hupdated, rfl⟩
    · cases h
  · rintro ⟨⟨fields', hfields, hconfig⟩, hactive, hcreated, hupdated, himported⟩
    dsimp only at hfields hactive hcreated hupdated himported
    subst hfields himported
    rw [isPart_config.2 hconfig, isPart_of_checked.2 hcreated, isPart_updated.2 hupdated]
    have hsame : (match Fields.getD fields "active" with
        | .bool false => false
        | _ => true) = active := by
      rw [Bool.eq_iff_iff, ← not_iff_not, Bool.not_eq_true, Bool.not_eq_true, active_eq_false_iff, hactive]
    exact congrArg (fun active => some (FilterSetRecord.mk (.mapping fields') active created updated (some now))) hsame

/-- An object describes a set exactly if its fields are those of an entry. -/
theorem exists_describes_iff : (∃ r, Describes time now fields r) ↔ IsEntry time fields := by
  constructor
  · rintro ⟨r, hconfig, -, hcreated, hupdated, -⟩
    obtain ⟨config, -, hconfig⟩ := hconfig
    refine ⟨exists_isPart_iff.1 ⟨config, hconfig⟩, exists_isPart_iff.1 ⟨r.created, hcreated⟩, ?_⟩
    intro hgiven
    obtain ⟨-, t, htime, -⟩ := exists_isPart_iff.1 ⟨r.updated, hupdated⟩ hgiven
    exact ⟨t, htime⟩
  · rintro ⟨hconfig, hcreated, hupdated⟩
    obtain ⟨config, hconfig⟩ := exists_isPart_iff.2 hconfig
    obtain ⟨created, hcreated⟩ := exists_isPart_iff.2 hcreated
    have hsome : (Fields.getD fields "updated").isTruthy = true →
        ∃ updated t, time (Fields.getD fields "updated") = .ok t ∧ updated = some t := by
      intro hgiven
      obtain ⟨t, htime⟩ := hupdated hgiven
      exact ⟨some t, t, htime, rfl⟩
    obtain ⟨updated, hupdated⟩ := exists_isPart_iff.2 hsome
    exact ⟨⟨.mapping config, _, created, updated, some now⟩, ⟨config, rfl, hconfig⟩, active_eq_false_iff, hcreated,
      hupdated, rfl⟩

end FilterSetRecord

/-! ## Payloads -/

/-- Whether objects are read with each of their names once. -/
def PayloadReader.NamesOnce (reader : PayloadReader) : Prop :=
  ∀ (s : String) (entries : Fields), reader.document s = .ok (.mapping entries) → (Fields.names entries).Nodup

theorem Runtime.namesOnce_reader (runtime : Runtime) : runtime.reader.NamesOnce := by
  intro s entries h
  cases Json.isJson_of_parse h with
  | mapping distinct _ => exact distinct

namespace FilterSets

/-- Whether a set is the one that an entry describes, under the entry's name. -/
def IsSetOf (time : Value → Checked Timestamp) (now : Timestamp) (entry : String × Value)
    (set : EntryName × FilterSetRecord) : Prop :=
  set.1 = .text entry.1 ∧ ∃ fields, entry.2 = .mapping fields ∧ set.2.Describes time now fields

/-- Whether a text is a JSON object with the given entries, each of them an object with the fields of an entry. -/
structure IsPayload (reader : PayloadReader) (s : String) (entries : Fields) : Prop where
  parsed : reader.document s = .ok (.mapping entries)
  entries : ∀ entry ∈ entries, ∃ fields, entry.2 = .mapping fields ∧ FilterSetRecord.IsEntry reader.time fields

variable {time : Value → Checked Timestamp} {reader : PayloadReader} {now : Timestamp} {entries : Fields}
  {sets : FilterSets}

theorem isSetOf_iff {name : String} {v : Value} {set : EntryName × FilterSetRecord} :
    IsSetOf time now (name, v) set ↔ set.1 = .text name ∧ FilterSetRecord.ofEntry? time now v = some set.2 := by
  refine and_congr_right fun _ => ?_
  constructor
  · rintro ⟨fields, rfl, hset⟩
    exact FilterSetRecord.ofEntry_eq_some_iff.2 hset
  · intro h
    cases v with
    | mapping fields =>
        exact ⟨fields, rfl, FilterSetRecord.ofEntry_eq_some_iff.1 h⟩
    | _ => cases h

theorem exists_ofEntry_iff {v : Value} :
    (∃ r, FilterSetRecord.ofEntry? time now v = some r) ↔
      ∃ fields, v = .mapping fields ∧ FilterSetRecord.IsEntry time fields := by
  constructor
  · rintro ⟨r, hread⟩
    cases v with
    | mapping fields =>
        exact ⟨fields, rfl, FilterSetRecord.exists_describes_iff.1 ⟨r, FilterSetRecord.ofEntry_eq_some_iff.1 hread⟩⟩
    | _ => cases hread
  · rintro ⟨fields, rfl, hentry⟩
    obtain ⟨r, hset⟩ := FilterSetRecord.exists_describes_iff.2 hentry
    exact ⟨r, FilterSetRecord.ofEntry_eq_some_iff.2 hset⟩

/-- Entries are read as the sets that they describe, each in its place. -/
theorem ofEntries_eq_ok_iff :
    ofEntries time now entries = .ok sets ↔ List.Forall₂ (IsSetOf time now) entries sets := by
  induction entries generalizing sets with
  | nil =>
      rw [ofEntries, List.forall₂_nil_left_iff]
      exact ⟨fun h => (Except.ok.inj h).symm, fun h => congrArg Except.ok h.symm⟩
  | cons entry rest ih =>
      obtain ⟨name, v⟩ := entry
      rw [ofEntries, List.forall₂_cons_left_iff]
      constructor
      · intro h
        split at h
        · cases h
        · next r hread =>
            obtain ⟨others, hothers, rfl⟩ := Outcome.exists_of_map_eq_ok h
            exact ⟨_, others, isSetOf_iff.2 ⟨rfl, hread⟩, ih.1 hothers, rfl⟩
      · rintro ⟨⟨_, r⟩, others, hset, hothers, rfl⟩
        obtain ⟨rfl, hread⟩ := isSetOf_iff.1 hset
        rw [hread, ih.2 hothers]
        rfl

theorem exists_ofEntries_iff :
    (∃ sets, ofEntries time now entries = .ok sets) ↔
      ∀ entry ∈ entries, ∃ fields, entry.2 = .mapping fields ∧ FilterSetRecord.IsEntry time fields := by
  induction entries with
  | nil =>
      exact ⟨fun _ _ h => absurd h List.not_mem_nil, fun _ => ⟨[], rfl⟩⟩
  | cons entry rest ih =>
      obtain ⟨name, v⟩ := entry
      rw [ofEntries, List.forall_mem_cons, ← ih, ← @exists_ofEntry_iff time now]
      cases FilterSetRecord.ofEntry? time now v with
      | none =>
          simp
      | some r =>
          simp [Outcome.exists_map_eq_ok_iff]

/-- Entries that are not read are refused for the first one that is none. -/
theorem ofEntries_refusal {e : Failure} (h : ofEntries time now entries = .error e) :
    ∃ name, e = .payload (.filterSetEntry name) := by
  induction entries with
  | nil =>
      cases h
  | cons entry rest ih =>
      obtain ⟨name, v⟩ := entry
      rw [ofEntries] at h
      split at h
      · exact ⟨name, (Except.error.inj h).symm⟩
      · cases hrest : ofEntries time now rest with
        | ok others =>
            rw [hrest] at h
            cases h
        | error fault =>
            rw [hrest] at h
            cases h
            exact ih hrest

/-- A payload is read by its entries. -/
theorem IsPayload.parse_eq {s : String} (h : IsPayload reader s entries) :
    parse now (.text s) reader = ofEntries reader.time now entries := by
  rw [parse, h.parsed]

/-- A text that is not read is refused as a payload, unless its parts are nested too deep to be read at all. -/
theorem parse_refusal {s : String} {e : Failure} (h : parse now (.text s) reader = .error e) :
    (∃ fault, e = .payload fault) ∨ reader.document s = .error .nestedTooDeep := by
  rw [parse.eq_def] at h
  dsimp only at h
  split at h
  · obtain ⟨name, rfl⟩ := ofEntries_refusal h
    exact Or.inl ⟨_, rfl⟩
  · exact Or.inl ⟨_, (Except.error.inj h).symm⟩
  · next hdeep => exact Or.inr hdeep
  · exact Or.inl ⟨_, (Except.error.inj h).symm⟩

/-- A text gives filter sets exactly if it is a JSON object of entries.  There is one set for each of the names, which
are distinct, in the order of the document, and it is the one that the entry describes.  Any other text is refused as a
payload, if its parts are not nested deeper than it can be read. -/
theorem parse_acceptsFormat (hnames : reader.NamesOnce) (now : Timestamp) (s : String) :
    ((∃ sets, parse now (.text s) reader = .ok sets) ↔ ∃ entries, IsPayload reader s entries) ∧
      (∀ entries, IsPayload reader s entries → ∃ sets, parse now (.text s) reader = .ok sets ∧
        (Fields.names entries).Nodup ∧ List.Forall₂ (IsSetOf reader.time now) entries sets) ∧
      (reader.document s ≠ .error .nestedTooDeep → (¬∃ entries, IsPayload reader s entries) →
        ∃ fault, parse now (.text s) reader = .error (.payload fault)) := by
  have hreads : ∀ entries, IsPayload reader s entries → ∃ sets, parse now (.text s) reader = .ok sets := by
    intro entries h
    rw [h.parse_eq]
    exact exists_ofEntries_iff.2 h.entries
  -- Of the four ways in which a text can be read, only one gives sets.
  have haccepts : (∃ sets, parse now (.text s) reader = .ok sets) → ∃ entries, IsPayload reader s entries := by
    rintro ⟨sets, h⟩
    rw [parse.eq_def] at h
    dsimp only at h
    split at h
    · next entries hparsed => exact ⟨entries, hparsed, exists_ofEntries_iff.1 ⟨sets, h⟩⟩
    · cases h
    · cases h
    · cases h
  refine ⟨⟨haccepts, ?_⟩, ?_, ?_⟩
  · rintro ⟨entries, h⟩
    exact hreads entries h
  · intro entries h
    obtain ⟨sets, hsets⟩ := hreads entries h
    exact ⟨sets, hsets, hnames s entries h.parsed, ofEntries_eq_ok_iff.1 (h.parse_eq ▸ hsets)⟩
  · intro hdepth hnone
    cases hparse : parse now (.text s) reader with
    | ok sets =>
        exact absurd (haccepts ⟨sets, hparse⟩) hnone
    | error e =>
        obtain ⟨fault, rfl⟩ := (parse_refusal hparse).resolve_right hdepth
        exact ⟨fault, rfl⟩

/-! ### Two texts -/

/-- A payload that names one entry twice; the later of the two gives null for all that it has. -/
def namedTwice : String :=
  "\x7b\"x\": \x7b\"active\": false\x7d, \"x\": \x7b\"active\": null, \"config\": null\x7d\x7d"

/-- What the payload holds: the name once, with the later entry. -/
def laterEntry : Fields :=
  [("x", .mapping [("active", .null), ("config", .null)])]

/-- A minute of a day, as a time at which payloads are read. -/
def readAt : Timestamp := ⟨⟨2024, 5, 6⟩, 7, 8, 0, 0, some 0⟩

theorem parse_namedTwice : Json.parse namedTwice = .ok (.mapping laterEntry) := by
  cbv

theorem isPayload_namedTwice : IsPayload Runtime.usual.reader namedTwice laterEntry := by
  refine ⟨parse_namedTwice, List.forall_mem_singleton.2 ⟨_, rfl, ?_⟩⟩
  refine ⟨fun h => ?_, fun h => ?_, fun h => ?_⟩ <;> exact absurd h (by decide)

theorem parse_emptyList : Json.parse "[]" = .ok (.list []) := by
  cbv

theorem not_isPayload_emptyList : ¬∃ entries, IsPayload Runtime.usual.reader "[]" entries := by
  rintro ⟨entries, h⟩
  cases parse_emptyList.symm.trans h.parsed

/-- The payload gives its one set, and a list is refused. -/
theorem parse_acceptsFormat_twoTexts :
    (∃ sets, parse readAt (.text namedTwice) = .ok sets ∧ (Fields.names laterEntry).Nodup ∧
        List.Forall₂ (IsSetOf Check.time readAt) laterEntry sets) ∧
      ∃ fault, parse readAt (.text "[]") = .error (.payload fault) := by
  have hnames := Runtime.usual.namesOnce_reader
  have hdepth : Runtime.usual.reader.document "[]" ≠ .error .nestedTooDeep := by
    intro hdeep
    cases parse_emptyList.symm.trans hdeep
  exact ⟨(parse_acceptsFormat hnames readAt namedTwice).2.1 laterEntry isPayload_namedTwice,
    (parse_acceptsFormat hnames readAt "[]").2.2 hdepth not_isPayload_emptyList⟩

end FilterSets
end GraphQuery
