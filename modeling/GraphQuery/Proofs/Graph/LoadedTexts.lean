import GraphQuery.Files.GraphFile
import GraphQuery.Proofs.Json.ShortIntegers
import GraphQuery.Proofs.Search.Index

/-!
# Texts of loaded graphs — why none of them is missing

Integers of very many digits are not read, and numbers with a fraction stand for integers of 64 bits only.  So the ids
and the properties of a graph that is read from a text have texts themselves, and the graph can be indexed
(`Snapshot.hasTexts_of_ofText`).
-/

namespace GraphQuery

/-! ## Checked values -/

theorem Checked.eq_ok_of_under {α : Type} {step : PathStep} {checked : Checked α} {x : α}
    (h : under step checked = .ok x) : checked = .ok x := by
  cases checked with
  | ok y =>
      exact h
  | error fs =>
      cases h

theorem Checked.eq_ok_of_toOutcome {α : Type} {checked : Checked α} {x : α} (h : checked.toOutcome = .ok x) :
    checked = .ok x := by
  cases checked with
  | ok y =>
      cases h
      rfl
  | error fs =>
      cases h

theorem Checked.exists_of_all {α : Type} {check : Value → Checked α} {i : Nat} {vs : List Value} {xs : List α}
    (h : all check i vs = .ok xs) : ∀ x ∈ xs, ∃ v ∈ vs, check v = .ok x := by
  fun_induction all check i vs generalizing xs with
  | case1 i =>
      cases h
      exact fun x hx => absurd hx List.not_mem_nil
  | case2 i v rest first more hmore hfirst ih =>
      cases h
      refine List.forall_mem_cons.2 ⟨⟨v, List.mem_cons_self, eq_ok_of_under hfirst⟩, fun x hx => ?_⟩
      obtain ⟨w, hw, hcheck⟩ := ih hmore x hx
      exact ⟨w, List.mem_cons_of_mem _ hw, hcheck⟩
  | case3 =>
      cases h

namespace Check

/-- What has been read of a field is its default, or the field is given and has been checked. -/
theorem eq_default_or_exists_of_field {α : Type} {fields : Fields} {name : String} {check : Value → Checked α}
    {default : Option α} {x : α} (h : field fields name check default = .ok x) :
    default = some x ∨ ∃ v, Fields.get? fields name = some v ∧ check v = .ok x := by
  have hchecked := Checked.eq_ok_of_under h
  cases hget : Fields.get? fields name with
  | some v =>
      rw [hget] at hchecked
      exact Or.inr ⟨v, rfl, hchecked⟩
  | none =>
      rw [hget] at hchecked
      cases default with
      | some y =>
          cases hchecked
          exact Or.inl rfl
      | none =>
          cases hchecked

/-- A floating number stands for integers of 19 digits at most. -/
theorem hasText_of_wholeNumber {x : Binary64} {n : Int} (h : wholeNumber x = .ok n) : (Value.int n).HasText := by
  rw [Value.hasText_int]
  rw [wholeNumber] at h
  split at h
  · cases h
  · split_ifs at h with hden hsize
    · cases h
    · cases h
    · cases h
      have hbound : ∀ {k : Int}, ¬ (k ≤ -(Nat.pow 2 63 : Nat) ∨ (Nat.pow 2 63 : Nat) ≤ k) → k.natAbs < 10 ^ 19 := by
        intro k hk
        norm_num at hk ⊢
        omega
      exact ((Number.length_natDigits_le_iff (by decide)).2 (hbound hsize)).trans (by decide)

theorem hasText_of_entityId {v : Value} (hv : v.HasText) {id : EntityId} (h : entityId v = .ok id) :
    id.toValue.HasText := by
  unfold entityId at h
  cases v with
  | text s =>
      cases h
      rfl
  | int n =>
      cases h
      exact hv
  | bool b =>
      cases h
      cases b <;> decide
  -- The value itself shows no integer here, so the digits are counted anew.
  | float x =>
      simp only at h
      cases hwhole : wholeNumber x with
      | ok n =>
          rw [hwhole] at h
          cases h
          exact hasText_of_wholeNumber hwhole
      | error fs =>
          rw [hwhole] at h
          cases h
  | _ =>
      cases h

section Entities

variable {fields : Fields} (hfields : ∀ entry ∈ fields, entry.2.HasText)

include hfields

theorem hasText_of_id {id : EntityId} (h : field fields "id" entityId none = .ok id) : id.toValue.HasText := by
  rcases eq_default_or_exists_of_field h with hdefault | ⟨v, hget, hchecked⟩
  · cases hdefault
  · exact hasText_of_entityId (Fields.hasText_of_get? hfields hget) hchecked

theorem hasText_of_properties {properties : Fields}
    (h : field fields "properties" mapping (some []) = .ok properties) : ∀ entry ∈ properties, entry.2.HasText := by
  rcases eq_default_or_exists_of_field h with hdefault | ⟨v, hget, hchecked⟩
  · cases hdefault
    exact List.forall_mem_nil _
  · have hv := Fields.hasText_of_get? hfields hget
    cases v with
    | mapping entries =>
        cases hchecked
        exact Value.hasText_mapping.1 hv
    | _ =>
        cases hchecked

end Entities

theorem hasText_of_node {v : Value} (hv : v.HasText) {n : Node} (h : node v = .ok n) : (Entity.node n).HasText := by
  cases v with
  | mapping fields =>
      have hfields := Value.hasText_mapping.1 hv
      rw [node] at h
      simp only at h
      split at h
      · case h_1 id label type properties hid hlabel htype hproperties =>
          cases h
          exact Entity.hasText_iff.2 ⟨hasText_of_id hfields hid, hasText_of_properties hfields hproperties⟩
      · cases h
  | _ =>
      cases h

theorem hasText_of_edge {v : Value} (hv : v.HasText) {e : Edge} (h : edge v = .ok e) : (Entity.edge e).HasText := by
  cases v with
  | mapping fields =>
      have hfields := Value.hasText_mapping.1 hv
      rw [edge] at h
      simp only at h
      split at h
      · case h_1 id source target label type properties hid hsource htarget hlabel htype hproperties =>
          cases h
          exact Entity.hasText_iff.2 ⟨hasText_of_id hfields hid, hasText_of_properties hfields hproperties⟩
      · cases h
  | _ =>
      cases h

/-- Each item of a checked list comes from an item that has a text, if the list has one. -/
theorem exists_of_list {α : Type} {check : Value → Checked α} {v : Value} (hv : v.HasText) {xs : List α}
    (h : list check v = .ok xs) : ∀ x ∈ xs, ∃ item : Value, item.HasText ∧ check item = .ok x := by
  intro x hx
  unfold list at h
  split at h
  · next items hitems =>
      obtain ⟨item, hmem, hchecked⟩ := Checked.exists_of_all h x hx
      exact ⟨item, hv.of_mem_collection? hitems item hmem, hchecked⟩
  · cases h

theorem exists_of_snapshot {nodes edges : Value} {graph : Snapshot} (h : snapshot nodes edges = .ok graph) :
    list node nodes = .ok graph.nodes ∧ list edge edges = .ok graph.edges := by
  unfold snapshot at h
  split at h
  · case h_1 ns es hnodes hedges =>
      cases h
      exact ⟨Checked.eq_ok_of_under hnodes, Checked.eq_ok_of_under hedges⟩
  · cases h

theorem hasTexts_of_snapshot {nodes edges : Value} (hnodes : nodes.HasText) (hedges : edges.HasText)
    {graph : Snapshot} (h : snapshot nodes edges = .ok graph) : graph.HasTexts := by
  obtain ⟨hn, he⟩ := exists_of_snapshot h
  refine List.forall_mem_append.2 ⟨List.forall_mem_map.2 ?_, List.forall_mem_map.2 ?_⟩
  · intro n hmem
    obtain ⟨item, hitem, hchecked⟩ := exists_of_list hnodes hn n hmem
    exact hasText_of_node hitem hchecked
  · intro e hmem
    obtain ⟨item, hitem, hchecked⟩ := exists_of_list hedges he e hmem
    exact hasText_of_edge hitem hchecked

end Check

/-! ## Graphs -/

namespace Snapshot

/-- A graph whose document has a text has texts. -/
theorem hasTexts_of_ofDocument {document : Value} (hdocument : document.HasText) {graph : Snapshot}
    (h : ofDocument document = .ok graph) : graph.HasTexts := by
  cases document with
  | mapping fields =>
      have hfields := Value.hasText_mapping.1 hdocument
      have hgiven : ∀ name, ((Fields.get? fields name).getD (.list [])).HasText := by
        intro name
        cases hget : Fields.get? fields name with
        | none =>
            rfl
        | some v =>
            exact Fields.hasText_of_get? hfields hget
      refine Check.hasTexts_of_snapshot (hgiven "nodes") ?_ (Checked.eq_ok_of_toOutcome h)
      -- The edges are given under one of two names.
      split
      · exact hgiven "links"
      · exact Fields.hasText_getD hfields "edges"
  | _ =>
      cases h

/-- A graph that is read from a text has texts. -/
theorem hasTexts_of_ofText {s : String} {room : Nat} {graph : Snapshot} (h : ofText s room = .ok graph) :
    graph.HasTexts := by
  unfold ofText at h
  split at h
  · next document hparse => exact hasTexts_of_ofDocument (Json.hasText_of_parse hparse) h
  all_goals cases h

end Snapshot

end GraphQuery
