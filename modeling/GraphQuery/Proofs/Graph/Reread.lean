import GraphQuery.Proofs.Graph.Document

/-!
# Graphs from their documents — what was not null is read back

The document of a node or an edge holds its fields and attributes but for those that are null.  What is read from it
is the entity without these attributes (`Node.reread`, `Edge.reread`): absent fields take their defaults, and names
that are known fields do not stand among the attributes.

- a graph of finite JSON values has a document exactly if its properties and attributes have plain forms
  (`Snapshot.IsFiniteJson.document_of_hasPlainForms`, `Snapshot.hasPlainForms_of_document`);
- the graph is read back from it (`Snapshot.IsFiniteJson.ofDocument_documentOf`).
-/

namespace GraphQuery

/-! ## Fields without nulls -/

namespace Fields

variable {fields : Fields}

theorem nodup_names_withoutNulls (h : (names fields).Nodup) : (names fields.withoutNulls).Nodup :=
  h.sublist (List.filter_sublist.map _)

/-- Among distinct names, one has its value if this is not null, and none otherwise. -/
theorem get?_withoutNulls (hdistinct : (names fields).Nodup) {name : String} {v : Value} (h : (name, v) ∈ fields) :
    get? fields.withoutNulls name = if v.isNull then none else some v := by
  split_ifs with hnull
  · refine get?_of_not_mem fun hmem => ?_
    obtain ⟨entry, hentry, heq⟩ := List.mem_map.1 hmem
    obtain ⟨hin, hkept⟩ := List.mem_filter.1 hentry
    have hsame : some entry.2 = some v := by
      rw [← get?_of_mem hdistinct h, ← get?_of_mem hdistinct hin, heq]
    rw [Option.some.inj hsame, hnull] at hkept
    cases hkept
  · refine get?_of_mem (nodup_names_withoutNulls hdistinct) (List.mem_filter.2 ⟨h, ?_⟩)
    rw [Bool.not_eq_true] at hnull
    rw [hnull]
    rfl

/-- What is true of null need not be asked of the fields that are null. -/
theorem forall_mem_withoutNulls_iff {p : Value → Prop} (hnull : p .null) :
    (∀ entry ∈ fields.withoutNulls, p entry.2) ↔ ∀ entry ∈ fields, p entry.2 := by
  constructor
  · intro h entry hentry
    cases hvalue : entry.2 with
    | null => exact hnull
    | _ => exact hvalue ▸ h entry (List.mem_filter.2 ⟨hentry, by rw [hvalue]; rfl⟩)
  · exact fun h entry hentry => h entry (List.mem_of_mem_filter hentry)

end Fields

theorem Value.IsFiniteJson.withoutNulls {fields : Fields} (h : (Value.mapping fields).IsFiniteJson) :
    (Value.mapping fields.withoutNulls).IsFiniteJson := by
  cases h with
  | mapping distinct each =>
      exact .mapping (Fields.nodup_names_withoutNulls distinct) fun entry hentry =>
        each entry (List.mem_of_mem_filter hentry)

/-! ## Entities -/

namespace Entity

/-- The names of the known fields. -/
def knownNames (x : Entity) : List String := Fields.names x.knownFields

/-- Whether properties and attributes are finite JSON values by distinct names, and no attribute has the name of a
known field. -/
structure IsFiniteJson (x : Entity) : Prop where
  properties : (Value.mapping x.properties).IsFiniteJson
  extras : (Value.mapping x.extras).IsFiniteJson
  others : ∀ entry ∈ x.extras, entry.1 ∉ x.knownNames

/-- Whether properties and attributes have plain forms. -/
structure HasPlainForms (dump : Fields → Outcome Fields) (x : Entity) : Prop where
  properties : ∃ plain, dump x.properties = .ok plain
  extras : ∃ plain, dump x.extras.withoutNulls = .ok plain

/-- A known field holds the properties, or a value without parts. -/
theorem eq_or_isFiniteJson_of_mem_knownFields {x : Entity} {entry : String × Value} (h : entry ∈ x.knownFields) :
    entry = ("properties", .mapping x.properties) ∨ entry.2.IsFiniteJson := by
  have hid : ∀ id : EntityId, id.toValue.IsFiniteJson := by
    intro id
    cases id with
    | text s => exact .text s
    | int n => exact .int n
  have htext : ∀ s : Option String, (textOrNull s).IsFiniteJson := by
    intro s
    cases s with
    | none => exact .null
    | some s => exact .text s
  cases x with
  | node n =>
      simp only [knownFields, List.mem_cons, List.not_mem_nil, or_false] at h
      rcases h with rfl | rfl | rfl | rfl
      · exact Or.inr (hid _)
      · exact Or.inr (htext _)
      · exact Or.inr (htext _)
      · exact Or.inl rfl
  | edge e =>
      simp only [knownFields, List.mem_cons, List.not_mem_nil, or_false] at h
      rcases h with rfl | rfl | rfl | rfl | rfl | rfl
      · exact Or.inr (hid _)
      · exact Or.inr (hid _)
      · exact Or.inr (hid _)
      · exact Or.inr (htext _)
      · exact Or.inr (htext _)
      · exact Or.inl rfl

theorem properties_mem_knownFields (x : Entity) : ("properties", .mapping x.properties) ∈ x.knownFields := by
  cases x <;> simp [knownFields, properties]

theorem nodup_knownNames (x : Entity) : x.knownNames.Nodup := by
  cases x <;> simp [knownNames, knownFields, Fields.names]

/-- The fields of an entity are finite JSON values by distinct names. -/
theorem IsFiniteJson.mapping_fields {x : Entity} (h : x.IsFiniteJson) :
    (Value.mapping x.fields).IsFiniteJson := by
  obtain ⟨hdistinct, heach⟩ := h.extras.of_mapping
  refine .mapping ?_ ?_
  · rw [fields, Fields.names, List.map_append]
    refine List.nodup_append.2 ⟨x.nodup_knownNames, hdistinct, ?_⟩
    rintro name hknown _ hother rfl
    obtain ⟨entry, hentry, rfl⟩ := List.mem_map.1 hother
    exact h.others entry hentry hknown
  · intro entry hentry
    rcases List.mem_append.1 hentry with hknown | hother
    · rcases eq_or_isFiniteJson_of_mem_knownFields hknown with rfl | hfinite
      · exact h.properties
      · exact hfinite
    · exact heach entry hother

/-- The document that an entity has, if it has one. -/
def documentOf (x : Entity) : Value := .mapping x.fields.withoutNulls

theorem withoutNulls_fields (x : Entity) :
    x.knownFields.withoutNulls ++ x.extras.withoutNulls = x.fields.withoutNulls :=
  (List.filter_append _ _).symm

theorem withProperties_self (x : Entity) : x.withProperties x.properties = x := by
  cases x <;> rfl

theorem IsFiniteJson.document_of_hasPlainForms {x : Entity} (h : x.IsFiniteJson) {dump : Fields → Outcome Fields}
    (hdump : KeepsFiniteJson dump) (hplain : x.HasPlainForms dump) : x.document dump = .ok x.documentOf := by
  obtain ⟨properties, hproperties⟩ := hplain.properties
  obtain ⟨extras, hextras⟩ := hplain.extras
  obtain rfl := hdump _ h.properties _ hproperties
  obtain rfl := hdump _ h.extras.withoutNulls _ hextras
  rw [document, hproperties, hextras, documentOf, ← x.withoutNulls_fields]
  show Except.ok (Value.mapping ((x.withProperties x.properties).knownFields.withoutNulls ++ _)) = _
  rw [withProperties_self]

theorem hasPlainForms_of_document {dump : Fields → Outcome Fields} {x : Entity} {document : Value}
    (h : x.document dump = .ok document) : x.HasPlainForms dump := by
  obtain ⟨properties, hproperties, h⟩ := Outcome.exists_of_bind_eq_ok h
  obtain ⟨extras, hextras, -⟩ := Outcome.exists_of_bind_eq_ok h
  exact ⟨⟨properties, hproperties⟩, extras, hextras⟩

/-! ### Reading -/

variable {x : Entity}

theorem IsFiniteJson.get?_documentOf (h : x.IsFiniteJson) {name : String} {v : Value}
    (hmem : (name, v) ∈ x.knownFields) :
    Fields.get? x.fields.withoutNulls name = if v.isNull then none else some v :=
  Fields.get?_withoutNulls h.mapping_fields.of_mapping.1 (List.mem_append_left _ hmem)

theorem IsFiniteJson.field_id (h : x.IsFiniteJson) {name : String} {id : EntityId}
    (hmem : (name, id.toValue) ∈ x.knownFields) :
    Check.field x.fields.withoutNulls name Check.entityId none = .ok id := by
  rw [Check.field.eq_def, h.get?_documentOf hmem]
  cases id <;> rfl

/-- A text that is absent is read as none. -/
theorem IsFiniteJson.field_text (h : x.IsFiniteJson) {name : String} {s : Option String}
    (hmem : (name, textOrNull s) ∈ x.knownFields) :
    Check.field x.fields.withoutNulls name Check.optionalText (some none) = .ok s := by
  rw [Check.field.eq_def, h.get?_documentOf hmem]
  cases s <;> rfl

theorem IsFiniteJson.field_properties (h : x.IsFiniteJson) :
    Check.field x.fields.withoutNulls "properties" Check.mapping (some []) = .ok x.properties := by
  rw [Check.field.eq_def, h.get?_documentOf x.properties_mem_knownFields]
  rfl

/-- What is no known field is an attribute. -/
theorem IsFiniteJson.others_documentOf (h : x.IsFiniteJson) :
    Check.others x.fields.withoutNulls x.knownNames = x.extras.withoutNulls := by
  have hknown : Check.others x.knownFields.withoutNulls x.knownNames = [] := by
    refine List.filter_eq_nil_iff.2 fun entry hentry => ?_
    have hmem : entry.1 ∈ x.knownNames := List.mem_map_of_mem (List.mem_of_mem_filter hentry)
    simp [hmem]
  have hothers : Check.others x.extras.withoutNulls x.knownNames = x.extras.withoutNulls := by
    refine List.filter_eq_self.2 fun entry hentry => ?_
    have hnew := h.others entry (List.mem_of_mem_filter hentry)
    simp [hnew]
  rw [← x.withoutNulls_fields, Check.others, List.filter_append]
  show Check.others x.knownFields.withoutNulls x.knownNames ++ Check.others x.extras.withoutNulls x.knownNames = _
  rw [hknown, hothers, List.nil_append]

/-- Of the known fields, those that are not null have been given. -/
theorem IsFiniteJson.given_documentOf (h : x.IsFiniteJson) :
    Check.given x.fields.withoutNulls x.knownNames = Fields.names x.knownFields.withoutNulls := by
  rw [Check.given, knownNames, Fields.names, List.filter_map]
  refine congrArg (List.map Prod.fst) (List.filter_congr fun entry hentry => ?_)
  rw [Function.comp_apply, Fields.has_eq_isSome, h.get?_documentOf hentry]
  cases entry.2.isNull <;> rfl

end Entity

/-- The node that is read from the document of a node. -/
def Node.reread (n : Node) : Node :=
  { n with
    extras := n.extras.withoutNulls
    given := Fields.names (Entity.node n).knownFields.withoutNulls }

/-- The edge that is read from the document of an edge. -/
def Edge.reread (e : Edge) : Edge :=
  { e with
    extras := e.extras.withoutNulls
    given := Fields.names (Entity.edge e).knownFields.withoutNulls }

/-- A node is read back from its document, without attributes that are null. -/
theorem Check.node_documentOf {n : Node} (h : (Entity.node n).IsFiniteJson) :
    Check.node (Entity.node n).documentOf = .ok n.reread := by
  have hid := h.field_id (show ("id", n.id.toValue) ∈ (Entity.node n).knownFields by simp [Entity.knownFields])
  have hlabel := h.field_text (show ("label", textOrNull n.label) ∈ (Entity.node n).knownFields by
    simp [Entity.knownFields])
  have htype := h.field_text (show ("type", textOrNull n.type) ∈ (Entity.node n).knownFields by
    simp [Entity.knownFields])
  have hknown : ["id", "label", "type", "properties"] = (Entity.node n).knownNames := rfl
  rw [Entity.documentOf, Check.node]
  simp only [hid, hlabel, htype, h.field_properties, hknown, h.others_documentOf, h.given_documentOf]
  rfl

/-- An edge is read back from its document, without attributes that are null. -/
theorem Check.edge_documentOf {e : Edge} (h : (Entity.edge e).IsFiniteJson) :
    Check.edge (Entity.edge e).documentOf = .ok e.reread := by
  have hid := h.field_id (show ("id", e.id.toValue) ∈ (Entity.edge e).knownFields by simp [Entity.knownFields])
  have hsource := h.field_id (show ("source", e.source.toValue) ∈ (Entity.edge e).knownFields by
    simp [Entity.knownFields])
  have htarget := h.field_id (show ("target", e.target.toValue) ∈ (Entity.edge e).knownFields by
    simp [Entity.knownFields])
  have hlabel := h.field_text (show ("label", textOrNull e.label) ∈ (Entity.edge e).knownFields by
    simp [Entity.knownFields])
  have htype := h.field_text (show ("type", textOrNull e.type) ∈ (Entity.edge e).knownFields by
    simp [Entity.knownFields])
  have hknown : ["id", "source", "target", "label", "type", "properties"] = (Entity.edge e).knownNames := rfl
  rw [Entity.documentOf, Check.edge]
  simp only [hid, hsource, htarget, hlabel, htype, h.field_properties, hknown, h.others_documentOf,
    h.given_documentOf]
  rfl

/-! ## Graphs -/

/-- Items that are each accepted are accepted together. -/
theorem Checked.all_eq_ok {α β : Type} {check : Value → Checked β} {form : α → Value} {result : α → β}
    {xs : List α} (h : ∀ x ∈ xs, check (form x) = .ok (result x)) (start : Nat) :
    all check start (xs.map form) = .ok (xs.map result) := by
  induction xs generalizing start with
  | nil =>
      rfl
  | cons x xs ih =>
      obtain ⟨hx, hxs⟩ := List.forall_mem_cons.1 h
      rw [List.map_cons, all, hx, ih hxs]
      rfl

namespace Snapshot

/-- Whether properties and attributes of all nodes and edges are finite JSON values. -/
structure IsFiniteJson (graph : Snapshot) : Prop where
  nodes : ∀ n ∈ graph.nodes, (Entity.node n).IsFiniteJson
  edges : ∀ e ∈ graph.edges, (Entity.edge e).IsFiniteJson

/-- Whether the properties and attributes of all nodes and edges have plain forms. -/
structure HasPlainForms (dump : Fields → Outcome Fields) (graph : Snapshot) : Prop where
  nodes : ∀ n ∈ graph.nodes, (Entity.node n).HasPlainForms dump
  edges : ∀ e ∈ graph.edges, (Entity.edge e).HasPlainForms dump

/-- The document that a graph has, if it has one. -/
def documentOf (graph : Snapshot) : Value :=
  .mapping
    [("nodes", .list (graph.nodes.map fun n => (Entity.node n).documentOf)),
      ("edges", .list (graph.edges.map fun e => (Entity.edge e).documentOf))]

/-- The graph that is read from the document of a graph. -/
def reread (graph : Snapshot) : Snapshot := ⟨graph.nodes.map Node.reread, graph.edges.map Edge.reread⟩

variable {graph : Snapshot}

theorem IsFiniteJson.document_of_hasPlainForms (h : graph.IsFiniteJson) {dump : Fields → Outcome Fields}
    (hdump : KeepsFiniteJson dump) (hplain : graph.HasPlainForms dump) :
    graph.document dump = .ok graph.documentOf := by
  have hnodes := Outcome.mapM_eq_ok fun n hn =>
    (h.nodes n hn).document_of_hasPlainForms hdump (hplain.nodes n hn)
  have hedges := Outcome.mapM_eq_ok fun e he =>
    (h.edges e he).document_of_hasPlainForms hdump (hplain.edges e he)
  rw [document, hnodes, hedges]
  rfl

theorem hasPlainForms_of_document {dump : Fields → Outcome Fields} {document : Value}
    (h : graph.document dump = .ok document) : graph.HasPlainForms dump := by
  rw [Snapshot.document] at h
  obtain ⟨nodes, hnodes, h⟩ := Outcome.exists_of_bind_eq_ok h
  obtain ⟨edges, hedges, -⟩ := Outcome.exists_of_bind_eq_ok h
  constructor
  case nodes =>
    intro n hn
    obtain ⟨v, hv⟩ := Outcome.exists_of_mapM_eq_ok hnodes hn
    exact Entity.hasPlainForms_of_document hv
  case edges =>
    intro e he
    obtain ⟨v, hv⟩ := Outcome.exists_of_mapM_eq_ok hedges he
    exact Entity.hasPlainForms_of_document hv

/-- A graph is read back from its document, without attributes that are null. -/
theorem IsFiniteJson.ofDocument_documentOf (h : graph.IsFiniteJson) :
    ofDocument graph.documentOf = .ok graph.reread := by
  have hnodes : Check.list Check.node (.list (graph.nodes.map fun n => (Entity.node n).documentOf)) =
      .ok (graph.nodes.map Node.reread) :=
    Checked.all_eq_ok (fun n hn => Check.node_documentOf (h.nodes n hn)) 0
  have hedges : Check.list Check.edge (.list (graph.edges.map fun e => (Entity.edge e).documentOf)) =
      .ok (graph.edges.map Edge.reread) :=
    Checked.all_eq_ok (fun e he => Check.edge_documentOf (h.edges e he)) 0
  show (Check.snapshot (.list (graph.nodes.map fun n => (Entity.node n).documentOf))
    (.list (graph.edges.map fun e => (Entity.edge e).documentOf))).toOutcome = _
  rw [Check.snapshot, hnodes, hedges]
  rfl

end Snapshot
end GraphQuery
