import GraphQuery.Proofs.Filter.Intersection
import GraphQuery.Proofs.Filter.OneByOne
import GraphQuery.Proofs.Outcome

/-!
# Operators on texts — what a criterion on labels takes an operator for

A criterion on a label compares texts by itself.  It knows four of the operators that the other fields have, under
the same names, and takes every other one for `contains`:

- `Operator.inText` is the operator that a text criterion takes another one for;
- `Filter.meetsText_criterion` — a text meets a criterion as that operator says;
- `Filter.GoesBy` says that a criterion on the labels of nodes, and of edges, keeps what an operator asks for.

So a criterion on labels goes by the operator that it names for these four only (`Filter.labels_goBy_inText`).
-/

namespace GraphQuery

open Outcome

/-! ## Names of operators -/

namespace Operator

/-- The operators by their names and symbols. -/
def known : List (String × Operator) := aliases ++ all.map fun op => (op.name, op)

theorem mem_known {name : String} {op : Operator} (h : ofName? name = some op) : (name, op) ∈ known := by
  rw [ofName?] at h
  split at h
  · next key named hfind =>
      cases h
      have hkey : key = name := by simpa using List.find?_some hfind
      exact List.mem_append_left _ (hkey ▸ List.mem_of_find?_eq_some hfind)
  · have hname : op.name = name := by simpa using List.find?_some h
    exact List.mem_append_right _ (List.mem_map.2 ⟨op, mem_all op, congrArg (·, op) hname⟩)

/-- The operators that texts and other fields share. -/
def shared : List Operator := [contains, startsWith, endsWith, regex]

/-- The operator that a text criterion takes another one for. -/
def inText (op : Operator) : Operator := if op ∈ shared then op else contains

/-- The operator that a text criterion knows by a name; `equals` it knows besides. -/
def ofTextName (name : String) : Operator :=
  match name with
  | "startsWith" => startsWith
  | "endsWith" => endsWith
  | "regex" => regex
  | _ => contains

theorem ofTextName_known : ∀ entry ∈ known, entry.1 ≠ "equals" ∧ ofTextName entry.1 = entry.2.inText := by
  decide

end Operator

namespace Filter

open QuickFilter

/-! ## Texts -/

section Texts

variable {text name : String} {v : Value}

/-- Which pattern a message shows does not matter to whether it is found. -/
theorem closed_matchesPattern (ignoreCase : Bool) (shown shown' : Value) (pattern : String)
    (subject : Outcome String) :
    (Operator.matchesPattern ignoreCase shown pattern subject).closed =
      (Operator.matchesPattern ignoreCase shown' pattern subject).closed := by
  unfold Operator.matchesPattern
  cases Pattern.read ignoreCase pattern with
  | error fault =>
      cases fault <;> rfl
  | ok read =>
      cases subject with
      | error e =>
          rfl
      | ok s =>
          change Outcome.closed ((Pattern.occursIn read s).mapError (Operator.patternFailure shown)) =
            Outcome.closed ((Pattern.occursIn read s).mapError (Operator.patternFailure shown'))
          cases Pattern.occursIn read s with
          | error fault =>
              cases fault <;> rfl
          | ok found =>
              rfl

/-- A criterion that names an operator looks for a pattern, or compares the texts in lowercase. -/
theorem meetsTextEntries_criterion (hv : v ≠ .null) :
    meetsTextEntries text [("operator", .text name), ("value", v)] = v.toText >>= fun needle =>
      if name = "regex" then Operator.matchesPattern true (.text needle) needle (.ok text)
      else .ok (textTest (.text name) (Text.lowercase text) (Text.lowercase needle)) := by
  unfold meetsTextEntries
  split
  · next hnull => exact absurd hnull hv
  · refine bind_congr fun needle => ?_
    by_cases hname : name = "regex"
    · subst hname
      rfl
    · rw [if_neg hname]
      dsimp only
      split
      · next heq => exact absurd (Value.text.inj heq) hname
      · rfl

/-- A text meets a criterion as the operator says that text criteria know by its name. -/
theorem meetsText_criterion (htext : text ≠ "") (hv : v ≠ .null) (hname : name ≠ "equals") :
    (meetsText (some text) (criterion name v)).closed = (Operator.ofTextName name).applies (.text text) v := by
  rw [criterion, meetsText_mapping htext, meetsTextEntries_criterion hv]
  -- Both sides ask for the text of the value first.
  cases hneedle : v.toText with
  | error e =>
      fun_cases Operator.ofTextName name with
      | case1 | case2 | case3 | case4 =>
          simp only [Operator.applies, Operator.evaluate, Operator.onTexts, hneedle]
          rfl
  | ok needle =>
      obtain ⟨-, rfl⟩ := Value.toText_eq_ok hneedle
      fun_cases Operator.ofTextName name with
      | case1 | case2 =>
          simp only [Operator.applies, Operator.evaluate, Operator.onTexts, hneedle]
          rfl
      | case3 =>
          simp only [Operator.applies, Operator.evaluate, hneedle]
          exact closed_matchesPattern _ _ _ _ _
      | case4 _ hstart hfinish hregex =>
          have hinside : ∀ haystack needle, textTest (.text name) haystack needle = Text.contains haystack needle := by
            intro haystack needle
            unfold textTest
            split
            · next heq => exact absurd (Value.text.inj heq) hname
            · next heq => exact absurd (Value.text.inj heq) hstart
            · next heq => exact absurd (Value.text.inj heq) hfinish
            · rfl
          simp only [Operator.applies, Operator.evaluate, Operator.onTexts, hneedle, if_neg hregex, hinside]
          rfl

end Texts

/-! ## Labels -/

/-- What is kept of items is what passes and has a label that stands to a value as an operator says. -/
structure KeepsLabelled {α : Type} (label : α → Option String) (passes : α → Prop) (op : Operator) (v : Value)
    (items : List α) (kept : Outcome (List α)) : Prop where
  mem_iff : ∀ left, kept = .ok left → ∀ x, x ∈ left ↔
    x ∈ items ∧ passes x ∧ ∃ text, label x = some text ∧ text ≠ "" ∧ op.applies (.text text) v = .ok true
  /-- A failure is that of the operator on one of the labels. -/
  fails : ∀ e, kept = .error e →
    ∃ x ∈ items, ∃ text, label x = some text ∧ text ≠ "" ∧ op.applies (.text text) v = .error e

/-- The configuration with one criterion for the labels of edges, which have to end in the part that is filtered. -/
def edgeLabels (criterion : Value) : Fields := [("edges", .mapping [("label", criterion)])]

/-- A criterion on labels goes by an operator, whether the labels are those of nodes or of edges. -/
structure GoesBy (graph part : Snapshot) (op : Operator) (v criterion : Value) : Prop where
  nodes : KeepsLabelled (·.label) (fun _ => True) op v part.nodes
    ((Filter.apply graph (.mapping (nodesBy ("label", criterion))) part).map (·.nodes))
  edges : KeepsLabelled (·.label) (fun e => endsAmong part.nodeIds e = true) op v part.edges
    ((Filter.apply graph (.mapping (edgeLabels criterion)) part).map (·.edges))

section Labels

variable {graph part : Snapshot} {name : String} {v : Value} {op : Operator}

/-- Only a label that is not empty can meet the criterion, and only on such a one can it fail. -/
theorem closed_meetsText_iff (hname : Operator.ofName? name = some op) (hv : v ≠ .null) {label : Option String}
    {answer : Outcome Bool} (hanswer : answer ≠ .ok false) :
    (meetsText label (criterion name v)).closed = answer ↔
      ∃ text, label = some text ∧ text ≠ "" ∧ op.inText.applies (.text text) v = answer := by
  obtain ⟨hequals, htextName⟩ := Operator.ofTextName_known _ (Operator.mem_known hname)
  have hunlabelled : ∀ missing : Option String, missing.getD "" = "" →
      (meetsText missing (criterion name v)).closed ≠ answer := by
    intro missing hmissing
    rw [meetsText, hmissing]
    exact hanswer.symm
  cases label with
  | none =>
      exact iff_of_false (hunlabelled _ rfl) (by rintro ⟨text, htext, -⟩; cases htext)
  | some text =>
      by_cases hempty : text = ""
      · refine iff_of_false (hunlabelled _ hempty) ?_
        rintro ⟨other, hother, hne, -⟩
        exact hne (Option.some.inj hother ▸ hempty)
      · rw [meetsText_criterion hempty hv hequals, htextName]
        constructor
        · intro h
          exact ⟨text, rfl, hempty, h⟩
        · rintro ⟨other, hother, -, h⟩
          exact Option.some.inj hother ▸ h

/-- One criterion is met where it is met by itself. -/
theorem meetsEach_singleton (field : String → Value → Outcome Bool) (name : String) (criterion : Value) :
    meetsEach field [(name, criterion)] = (field name criterion).closed := by
  rw [meetsEach]
  split
  · next hmet => exact hmet.symm
  · rfl

theorem nodeAnswer_label (edges : List Edge) (criterion : Value) (n : Node) :
    nodeAnswer edges (nodesBy ("label", criterion)) n = (meetsText n.label criterion).closed :=
  meetsEach_singleton _ _ _

theorem edgeAnswer_label (criterion : Value) (e : Edge) :
    edgeAnswer (edgeLabels criterion) e = (meetsText e.label criterion).closed :=
  meetsEach_singleton _ _ _

/-- What is kept is what passes and meets the criterion, and a failure is that of the criterion. -/
theorem KeepsLabelled.of_meetsText {α : Type} {label : α → Option String} {passes : α → Prop} {items : List α}
    {kept : Outcome (List α)} (hname : Operator.ofName? name = some op) (hv : v ≠ .null)
    (hok : ∀ left, kept = .ok left → ∀ x, x ∈ left ↔
      x ∈ items ∧ passes x ∧ isMet (meetsText (label x) (criterion name v)).closed = true)
    (herror : ∀ e, kept = .error e →
      ∃ x ∈ items, (meetsText (label x) (criterion name v)).closed = .error e) :
    KeepsLabelled label passes op.inText v items kept where
  mem_iff left hleft x := by
    rw [hok left hleft, isMet_eq_true_iff, closed_meetsText_iff hname hv (by simp)]
  fails e he := by
    obtain ⟨x, hx, hfails⟩ := herror e he
    exact ⟨x, hx, (closed_meetsText_iff hname hv (by simp)).1 hfails⟩

theorem keepsLabelled_nodes (graph part : Snapshot) (hname : Operator.ofName? name = some op) (hv : v ≠ .null) :
    KeepsLabelled (·.label) (fun _ => True) op.inText v part.nodes
      ((Filter.apply graph (.mapping (nodesBy ("label", criterion name v))) part).map (·.nodes)) := by
  have hshape : IsObjectShaped (nodesBy ("label", criterion name v)) :=
    ⟨HasObject.of_ne_custom rfl (by simp), Or.inl rfl⟩
  rw [FilterSets.apply_mapping]
  refine .of_meetsText hname hv (fun left hleft n => ?_) (fun e he => ?_)
  · obtain ⟨whole, hwhole, rfl⟩ := exists_of_map_eq_ok hleft
    obtain ⟨rfl, -⟩ := (applyFields_eq_ok_iff hshape).1 hwhole
    rw [← nodeAnswer_label graph.edges, true_and]
    exact List.mem_filter
  · have hraises : RaisesOn graph part (nodesBy ("label", criterion name v)) e := by
      refine raisesOn_of_applyFields_eq_error hshape ?_
      exact eq_error_of_map_eq_error he
    rcases hraises with ⟨n, hn, hfails⟩ | ⟨x, -, hfails⟩
    · exact ⟨n, hn, by rwa [nodeAnswer_label] at hfails⟩
    · cases hfails

theorem keepsLabelled_edges (graph part : Snapshot) (hname : Operator.ofName? name = some op) (hv : v ≠ .null) :
    KeepsLabelled (·.label) (fun e => endsAmong part.nodeIds e = true) op.inText v part.edges
      ((Filter.apply graph (.mapping (edgeLabels (criterion name v))) part).map (·.edges)) := by
  have hshape : IsObjectShaped (edgeLabels (criterion name v)) :=
    ⟨Or.inl rfl, HasObject.of_ne_custom rfl (by simp)⟩
  rw [FilterSets.apply_mapping]
  refine .of_meetsText hname hv (fun left hleft e => ?_) (fun f hf => ?_)
  · obtain ⟨whole, hwhole, rfl⟩ := exists_of_map_eq_ok hleft
    obtain ⟨rfl, -⟩ := (applyFields_eq_ok_iff hshape).1 hwhole
    have hnodes : (narrowed graph (edgeLabels (criterion name v)) part).nodes = part.nodes :=
      List.filter_eq_self.2 fun _ _ => rfl
    have hcascades : cascades (edgeLabels (criterion name v)) = true := rfl
    rw [mem_edges_narrowed_iff, Snapshot.nodeIds, hnodes, edgeAnswer_label]
    exact and_congr_right fun _ => ⟨fun h => ⟨h.2 hcascades, h.1⟩, fun h => ⟨h.2, fun _ => h.1⟩⟩
  · have hraises : RaisesOn graph part (edgeLabels (criterion name v)) f := by
      refine raisesOn_of_applyFields_eq_error hshape ?_
      exact eq_error_of_map_eq_error hf
    rcases hraises with ⟨n, -, hfails⟩ | ⟨e, he, hfails⟩
    · cases hfails
    · exact ⟨e, he, by rwa [edgeAnswer_label] at hfails⟩

/-- The graph of one node with a label. -/
def labelled (label : String) : Snapshot := ⟨[⟨.int 1, some label, none, [], [], []⟩], []⟩

/-- An operator that texts do not share rejects some value which the label contains. -/
theorem exists_rejected (hop : op ∉ Operator.shared) :
    ∃ v, v ≠ .null ∧ isMet (Operator.contains.applies (.text "ab") v) = true ∧
      isMet (op.applies (.text "ab") v) = false := by
  cases op with
  | eq | lte =>
      exact ⟨.text "a", by simp, by decide +kernel, by decide +kernel⟩
  | gte =>
      exact ⟨.text "b", by simp, by decide +kernel, by decide +kernel⟩
  | ne | gt | lt | oneOf | noneOf | between =>
      exact ⟨.text "ab", by simp, by decide +kernel, by decide +kernel⟩
  | contains | startsWith | endsWith | regex =>
      exact absurd (by decide) hop

/-- A criterion that goes by `contains` keeps the node whose label contains the value, so an operator that it goes by
as well accepts that label. -/
theorem GoesBy.accepts {label : String} {c : Value} (hlabel : label ≠ "")
    (hcontains : GoesBy (labelled label) (labelled label) .contains v c)
    (hcontained : Operator.contains.applies (.text label) v = .ok true)
    (h : GoesBy (labelled label) (labelled label) op v c) : op.applies (.text label) v = .ok true := by
  cases hleft : (Filter.apply (labelled label) (.mapping (nodesBy ("label", c))) (labelled label)).map (·.nodes) with
  | error e =>
      obtain ⟨n, hn, text, htext, -, hfails⟩ := hcontains.nodes.fails e hleft
      rcases List.mem_singleton.1 hn with rfl
      cases htext
      rw [hcontained] at hfails
      cases hfails
  | ok left =>
      have hkept := (hcontains.nodes.mem_iff left hleft ⟨.int 1, some label, none, [], [], []⟩).2
        ⟨List.mem_singleton_self _, trivial, label, rfl, hlabel, hcontained⟩
      obtain ⟨-, -, text, htext, -, haccepts⟩ := (h.nodes.mem_iff left hleft _).1 hkept
      exact Option.some.inj htext ▸ haccepts

/-- A criterion that names an operator goes by the one that texts take it for.  On every graph and for every value,
this is the operator itself for the four that texts share, and for no other. -/
theorem labels_goBy_inText (hname : Operator.ofName? name = some op) :
    (∀ graph part v, v ≠ .null → GoesBy graph part op.inText v (criterion name v)) ∧
      ((∀ graph part v, v ≠ .null → GoesBy graph part op v (criterion name v)) ↔ op ∈ Operator.shared) := by
  have hgoes : ∀ graph part v, v ≠ .null → GoesBy graph part op.inText v (criterion name v) :=
    fun graph part v hv => ⟨keepsLabelled_nodes graph part hname hv, keepsLabelled_edges graph part hname hv⟩
  refine ⟨hgoes, fun h => ?_, fun hop => ?_⟩
  · by_contra hop
    obtain ⟨v, hv, hcontained, hrejected⟩ := exists_rejected hop
    have hinText : op.inText = .contains := if_neg hop
    have hcontains := hgoes (labelled "ab") (labelled "ab") v hv
    rw [hinText] at hcontains
    have haccepts := hcontains.accepts (by decide) (isMet_eq_true_iff.1 hcontained) (h _ _ v hv)
    rw [haccepts] at hrejected
    cases hrejected
  · have hinText : op.inText = op := if_pos hop
    rwa [hinText] at hgoes

theorem labels_goBy_inText_symbol :
    Operator.ofName? "=" = some .eq ∧ Value.text "a" ≠ .null ∧
      GoesBy (labelled "ab") (labelled "ab") .contains (.text "a") (criterion "=" (.text "a")) ∧
      ¬ ∀ graph part v, v ≠ .null → GoesBy graph part .eq v (criterion "=" v) := by
  have hname : Operator.ofName? "=" = some .eq := by decide
  have hv : Value.text "a" ≠ .null := by simp
  have hnot : Operator.eq ∉ Operator.shared := by decide
  exact ⟨hname, hv, (labels_goBy_inText hname).1 _ _ _ hv, mt (labels_goBy_inText hname).2.1 hnot⟩

/-- A node labelled `ab` is kept where its label is to equal `a`, and where it is not to equal `ab`. -/
theorem labels_keep_unequal :
    (Filter.apply (labelled "ab") (.mapping (nodesBy ("label", criterion "eq" (.text "a")))) (labelled "ab")).map
        (·.nodeIds) = .ok [.int 1] ∧
      Operator.eq.applies (.text "ab") (.text "a") = .ok false ∧
      (Filter.apply (labelled "ab") (.mapping (nodesBy ("label", criterion "ne" (.text "ab")))) (labelled "ab")).map
        (·.nodeIds) = .ok [.int 1] ∧
      Operator.ne.applies (.text "ab") (.text "ab") = .ok false := by
  refine ⟨rfl, ?_, rfl, ?_⟩
  · cbv
  · cbv

end Labels

end Filter
end GraphQuery
