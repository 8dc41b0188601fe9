import GraphQuery.Proofs.Filter.Commit
import GraphQuery.Proofs.Filter.Payload

/-!
# Plain changes — changes that keep filter sets plain

A change is plain if it names sets by texts and gives JSON objects as configurations, or JSON values as the
arguments that ready-made ones are built from (`SetChange.IsPlain`).  What a plain change makes of plain sets is
plain (`SetChange.isPlain_of_proposed`).
-/

namespace GraphQuery

/-- Whether a value is a JSON object. -/
structure Value.IsObject (v : Value) : Prop where
  isMapping : ∃ fields, v = .mapping fields
  isJson : v.IsJson

/-- Whether a value is a text. -/
def Value.IsText (v : Value) : Prop := ∃ s, v = .text s

theorem Value.IsObject.ofFields {fields : Fields} (distinct : (Fields.names fields).Nodup)
    (entries_isJson : ∀ entry ∈ fields, entry.2.IsJson) : (Value.mapping fields).IsObject :=
  ⟨⟨fields, rfl⟩, .mapping distinct entries_isJson⟩

/-! ## Ready-made sets -/

namespace QuickFilter

/-- An object with one member. -/
theorem isObject_single (name : String) {v : Value} (hv : v.IsJson) :
    (Value.mapping [(name, v)]).IsObject := by
  refine .ofFields (List.nodup_singleton name) ?_
  exact List.forall_mem_singleton.2 hv

/-- An object with two members of different names. -/
theorem isObject_pair {name other : String} (hne : name ≠ other) {v w : Value} (hv : v.IsJson)
    (hw : w.IsJson) : (Value.mapping [(name, v), (other, w)]).IsObject := by
  refine .ofFields (List.nodup_cons.2 ⟨?_, List.nodup_singleton other⟩) ?_
  · exact fun hmem => hne (List.mem_singleton.1 hmem)
  · exact List.forall_mem_cons.2 ⟨hv, List.forall_mem_singleton.2 hw⟩

theorem isObject_forNodes {criteria : Fields} (h : (Value.mapping criteria).IsJson) :
    (forNodes criteria).IsObject :=
  isObject_single "nodes" h

theorem isJson_criterion (operator : String) {v : Value} (hv : v.IsJson) : (criterion operator v).IsJson :=
  (isObject_pair (by decide) (.text operator) hv).isJson

theorem single_text (name : String) (v : Value) : single (.text name) v = .ok (.mapping [(name, v)]) :=
  rfl

end QuickFilter

namespace ReadyMade

open QuickFilter

/-- Whether a ready-made set goes by a text and is built from JSON values. -/
def IsPlain : ReadyMade → Prop
  | ofType types => types.IsJson
  | ofConnections least most => least.IsJson ∧ most.IsJson
  | ofProperty name value operator => name.IsText ∧ value.IsJson ∧ operator.IsJson
  | ofText part field => part.IsJson ∧ field.IsText
  | ofFound _ _ name => name.IsText

theorem isJson_of_mem_iterated {v : Value} (hv : v.IsJson) {items : List Value}
    (h : Snapshot.iterated v = .ok items) : ∀ x ∈ items, x.IsJson := by
  cases hv with
  | text s =>
      cases h
      intro x hx
      obtain ⟨c, -, rfl⟩ := List.mem_map.1 hx
      exact .text _
  | list items_isJson =>
      cases h
      exact items_isJson
  | mapping distinct entries_isJson =>
      cases h
      intro x hx
      obtain ⟨entry, -, rfl⟩ := List.mem_map.1 hx
      exact .text _
  | _ => cases h

theorem isJson_entityId (id : EntityId) : id.toValue.IsJson := by
  cases id with
  | text s => exact .text s
  | int n => exact .int n

/-- A plain ready-made set has a text as its name and a JSON object as its configuration. -/
theorem isObject_of_named {set : ReadyMade} (hset : set.IsPlain) {name config : Value}
    (h : set.named = .ok (name, config)) : name.IsText ∧ config.IsObject := by
  cases set with
  | ofType types =>
      have htypes : ∀ items : List Value, (∀ x ∈ items, x.IsJson) → (byType items).IsObject :=
        fun items hitems => isObject_forNodes (isObject_single "type" (.list hitems)).isJson
      rw [named.eq_def] at h
      simp only at h
      -- A text stands for itself, anything else for its items.
      split at h
      · cases h
        exact ⟨⟨_, rfl⟩, htypes _ (List.forall_mem_singleton.2 (.text _))⟩
      · obtain ⟨items, hitems, h⟩ := Outcome.exists_of_bind_eq_ok h
        cases h
        exact ⟨⟨_, rfl⟩, htypes items (isJson_of_mem_iterated hset hitems)⟩
  | ofConnections least most =>
      rcases hset with ⟨hleast, hmost⟩
      have hbound : (byConnections least).IsObject :=
        isObject_forNodes (isObject_single "connections" (isJson_criterion "gte" hleast)).isJson
      have hrange : (byConnectionRange least most).IsObject := by
        refine isObject_forNodes (isObject_single "connections" (isJson_criterion "between" ?_)).isJson
        exact .list (List.forall_mem_cons.2 ⟨hleast, List.forall_mem_singleton.2 hmost⟩)
      cases hmost <;> cases h
      · exact ⟨⟨_, rfl⟩, hbound⟩
      all_goals exact ⟨⟨_, rfl⟩, hrange⟩
  | ofProperty name value operator =>
      obtain ⟨⟨s, rfl⟩, hvalue, hoperator⟩ := hset
      obtain ⟨shown, -, h⟩ := Outcome.exists_of_bind_eq_ok h
      obtain ⟨config, hconfig, h⟩ := Outcome.exists_of_bind_eq_ok h
      rw [byProperty, single_text] at hconfig
      cases hconfig
      cases h
      have hcriterion : (Value.mapping [("operator", operator), ("value", value)]).IsObject :=
        isObject_pair (by decide) hoperator hvalue
      exact ⟨⟨_, rfl⟩, isObject_forNodes
        (isObject_single "properties" (isObject_single s hcriterion.isJson).isJson).isJson⟩
  | ofText part field =>
      obtain ⟨hpart, s, rfl⟩ := hset
      obtain ⟨config, hconfig, h⟩ := Outcome.exists_of_bind_eq_ok h
      rw [byText, single_text] at hconfig
      cases hconfig
      cases h
      have hcriterion : (Value.mapping [("value", part), ("operator", .text "contains")]).IsObject :=
        isObject_pair (by decide) hpart (.text _)
      exact ⟨⟨_, rfl⟩, isObject_single "nodes" (isObject_single s hcriterion.isJson).isJson⟩
  | ofFound nodes edges given =>
      cases h
      have hids : ∀ {α : Type} (id : α → EntityId) (items : List α),
          (Value.mapping [("id", .list (items.map fun x => (id x).toValue))]).IsJson := by
        intro α id items
        refine (isObject_single "id" (.list ?_)).isJson
        intro v hv
        obtain ⟨x, -, rfl⟩ := List.mem_map.1 hv
        exact isJson_entityId (id x)
      exact ⟨hset, isObject_pair (by decide) (hids (·.id) nodes) (hids (·.id) edges)⟩

end ReadyMade

/-! ## Changes -/

namespace SetChange

/-- Whether a change names sets by texts and gives JSON objects as configurations. -/
def IsPlain : SetChange → Prop
  | create name config => name.IsText ∧ config.IsObject
  | createReady set => set.IsPlain
  | update name config => name.IsText ∧ config.IsObject
  | remove name => name.IsText
  | toggle name _ => name.IsText
  | clearAll => True
  | importSets _ => True

theorem ofArgument_text (s : String) : EntryName.ofArgument (.text s) = .ok (.text s) :=
  rfl

theorem toMapping_mapping (fields : Fields) : (Value.mapping fields).toMapping = .ok (.mapping fields) := by
  rw [Value.toMapping]

variable {now : Timestamp} {sets next : FilterSets}

/-- A new set whose configuration is a JSON object keeps plain sets plain. -/
theorem isPlain_of_withNamed (hnow : now.IsValid) (hsets : sets.IsPlain) {name config : Value}
    (hname : name.IsText) (hconfig : config.IsObject)
    (h : withNamed now sets name config = .ok (some next)) : next.IsPlain := by
  obtain ⟨s, rfl⟩ := hname
  obtain ⟨⟨fields, rfl⟩, hjson⟩ := hconfig
  rw [withNamed, toMapping_mapping] at h
  cases h
  exact hsets.insert s ⟨⟨fields, rfl⟩, hjson, hnow, fun _ h => absurd h (Option.not_mem_none _)⟩

/-- What a plain change makes of plain sets is plain. -/
theorem isPlain_of_proposed {runtime : Runtime} (htime : ReadsTimes runtime.time) (hnow : now.IsValid)
    {change : SetChange} (hchange : change.IsPlain) (hsets : sets.IsPlain)
    (h : change.proposed runtime.reader now sets = .ok (some next)) : next.IsPlain := by
  cases change with
  | create name config =>
      exact isPlain_of_withNamed hnow hsets hchange.1 hchange.2 h
  | createReady set =>
      obtain ⟨⟨name, config⟩, hnamed, h⟩ := Outcome.exists_of_bind_eq_ok h
      have hentry := ReadyMade.isObject_of_named hchange hnamed
      exact isPlain_of_withNamed hnow hsets hentry.1 hentry.2 h
  | update name config =>
      obtain ⟨⟨s, rfl⟩, ⟨fields, rfl⟩, hjson⟩ := hchange
      rw [proposed, ofArgument_text] at h
      simp only [bind, Except.bind] at h
      split at h
      · cases h
      · case h_2 existing hget =>
          cases h
          -- The set keeps its time of creation, which is valid, and is updated now.
          have hexisting := hsets.get? hget
          refine hsets.insert s ⟨⟨fields, rfl⟩, hjson, hexisting.created, ?_⟩
          rintro _ ⟨⟩
          exact hnow
  | remove name =>
      obtain ⟨s, rfl⟩ := hchange
      rw [proposed, ofArgument_text] at h
      obtain ⟨removed, -, heq⟩ := Option.map_eq_some_iff.1 (Except.ok.inj h)
      exact heq ▸ hsets.erase (.text s)
  | toggle name active =>
      obtain ⟨s, rfl⟩ := hchange
      rw [proposed, ofArgument_text] at h
      obtain ⟨existing, hget, heq⟩ := Option.map_eq_some_iff.1 (Except.ok.inj h)
      have hexisting := hsets.get? hget
      exact heq ▸ hsets.insert s
        ⟨hexisting.config, hexisting.isJson, hexisting.created, hexisting.updated⟩
  | clearAll =>
      cases h
      exact .nil
  | importSets payload =>
      obtain ⟨staged, hparse, h⟩ := Outcome.exists_of_bind_eq_ok h
      cases h
      exact hsets.merge (FilterSets.isPlain_of_parse htime hnow hparse)

end SetChange
end GraphQuery
