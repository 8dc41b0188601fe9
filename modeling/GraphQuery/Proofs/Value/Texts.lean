import GraphQuery.Criteria.Comparison
import GraphQuery.Graph.Entity
import GraphQuery.Proofs.Number.DigitText

/-!
# Texts of values — which values have one

A value has a text unless an integer in it has very many digits.  So the parts of a value with a text have texts,
and asking for a text fails in one way only (`Value.toText_eq_error`).
-/

namespace GraphQuery
namespace Value

variable {v : Value}

theorem toText_eq_error {e : Failure} (h : v.toText = .error e) : ¬ v.HasText ∧ e = .longIntegerText := by
  unfold toText at h
  split_ifs at h with hlong
  cases h
  exact ⟨by simp [hlong], rfl⟩

theorem toText_eq_ok {s : String} (h : v.toText = .ok s) : v.HasText ∧ s = v.display := by
  unfold toText at h
  split_ifs at h with hlong
  cases h
  exact ⟨by simpa using hlong, rfl⟩

/-- A fault whose message shows a value counts as not met if the message can be made. -/
theorem closed_showing (v : Value) (fault : CriteriaFault) :
    Outcome.closed (.error (.showing v (.criteria fault))) =
      if v.hasLongInteger then .error .longIntegerText else .ok false := by
  unfold Failure.showing
  split_ifs with hlong
  · rfl
  · rfl

/-! ## Parts -/

theorem anyLongInteger_eq_false_iff {items : List Value} :
    anyLongInteger items = false ↔ ∀ x ∈ items, x.HasText := by
  induction items with
  | nil =>
      exact ⟨fun _ => List.forall_mem_nil _, fun _ => rfl⟩
  | cons x xs ih =>
      rw [List.forall_mem_cons, anyLongInteger, Bool.or_eq_false_iff, ih]

theorem entriesHaveLongInteger_eq_false_iff {entries : Fields} :
    entriesHaveLongInteger entries = false ↔ ∀ entry ∈ entries, entry.2.HasText := by
  induction entries with
  | nil =>
      exact ⟨fun _ => List.forall_mem_nil _, fun _ => rfl⟩
  | cons entry rest ih =>
      rw [List.forall_mem_cons, entriesHaveLongInteger, Bool.or_eq_false_iff, ih]

theorem rowsHaveLongInteger_eq_false_iff {rows : List (Value × Value)} :
    rowsHaveLongInteger rows = false ↔ ∀ row ∈ rows, row.1.HasText ∧ row.2.HasText := by
  induction rows with
  | nil =>
      exact ⟨fun _ => List.forall_mem_nil _, fun _ => rfl⟩
  | cons row rest ih =>
      rw [List.forall_mem_cons, rowsHaveLongInteger, Bool.or_eq_false_iff, Bool.or_eq_false_iff, ih]

theorem hasText_list {items : List Value} : (list items).HasText ↔ ∀ x ∈ items, x.HasText :=
  anyLongInteger_eq_false_iff

theorem hasText_mapping {entries : Fields} : (mapping entries).HasText ↔ ∀ entry ∈ entries, entry.2.HasText :=
  entriesHaveLongInteger_eq_false_iff

theorem hasText_table {rows : List (Value × Value)} :
    (table rows).HasText ↔ ∀ row ∈ rows, row.1.HasText ∧ row.2.HasText :=
  rowsHaveLongInteger_eq_false_iff

theorem hasText_int {n : Int} :
    (int n).HasText ↔ (Number.natDigits n.natAbs).length ≤ Text.integerDigitLimit := by
  rw [HasText, hasLongInteger, decide_eq_false_iff_not, not_lt]

/-- A count has a text unless it is beyond what any memory holds. -/
theorem hasText_natCast {n : Nat} : (int n).HasText ↔ n < 10 ^ Text.integerDigitLimit := by
  rw [hasText_int, Int.natAbs_natCast]
  exact Number.length_natDigits_le_iff (by decide)

theorem HasText.of_mem_collection? (h : v.HasText) {items : List Value} (hv : v.collection? = some items) :
    ∀ x ∈ items, x.HasText := by
  cases v with
  | list _ | tuple _ | set _ _ =>
      cases hv
      exact anyLongInteger_eq_false_iff.1 h
  | _ =>
      cases hv

/-- What a mapping holds under texts are parts of it. -/
theorem HasText.of_mem_textEntries {rows : List (Value × Value)} (h : (table rows).HasText)
    {entry : String × Value} (hentry : entry ∈ textEntries rows) : entry.2.HasText := by
  rw [hasText_table] at h
  fun_induction textEntries rows with
  | case1 =>
      cases hentry
  | case2 key x rest ih =>
      obtain ⟨hfirst, hrest⟩ := List.forall_mem_cons.1 h
      rcases List.mem_cons.1 hentry with rfl | hmem
      · exact hfirst.2
      · exact ih hrest hmem
  | case3 row rest _ ih =>
      exact ih (List.forall_mem_cons.1 h).2 hentry

theorem HasText.of_mem_mapping? (h : v.HasText) {entries : Fields} (hv : v.mapping? = some entries)
    {entry : String × Value} (hentry : entry ∈ entries) : entry.2.HasText := by
  cases v with
  | mapping known =>
      cases hv
      exact hasText_mapping.1 h entry hentry
  | table rows =>
      cases hv
      exact h.of_mem_textEntries hentry
  | _ =>
      cases hv

end Value

/-- What is looked up under a name has a text where all values do, and null has one. -/
theorem Fields.hasText_getD {entries : Fields} (h : ∀ entry ∈ entries, entry.2.HasText) (name : String) :
    (Fields.getD entries name).HasText := by
  rw [Fields.getD, Fields.get?]
  cases hfind : entries.find? (·.1 == name) with
  | none =>
      rfl
  | some entry =>
      exact h entry (List.mem_of_find?_eq_some hfind)

theorem Fields.hasText_of_get? {properties : Fields} (h : ∀ entry ∈ properties, entry.2.HasText) {name : String}
    {v : Value} (hv : Fields.get? properties name = some v) : v.HasText := by
  obtain ⟨entry, hentry, rfl⟩ := Option.map_eq_some_iff.1 hv
  exact h entry (List.mem_of_find?_eq_some hentry)

/-- The value that an operator of a criterion is given is a part of the criterion. -/
theorem Value.HasText.operand {criterion value : Value} {op : Operator} (h : criterion.HasText)
    (hfilter : criterion.operatorFilter? = some (op, value)) : value.HasText := by
  unfold operatorFilter? at hfilter
  split at hfilter
  · next entries hentries =>
      dsimp only at hfilter
      split_ifs at hfilter
      cases hfilter
      exact Fields.hasText_getD (fun entry hentry => h.of_mem_mapping? hentries hentry) "value"
  · cases hfilter

/-! ## Entities -/

namespace Entity

variable {x : Entity}

theorem hasText_iff : x.HasText ↔ x.id.toValue.HasText ∧ ∀ entry ∈ x.properties, entry.2.HasText := by
  rw [HasText, hasLongInteger, Bool.or_eq_false_iff, List.any_eq_false]
  simp only [Bool.not_eq_true]

theorem searchableText_eq_error {e : Failure} (h : x.searchableText = .error e) :
    ¬ x.HasText ∧ e = .longIntegerText := by
  unfold searchableText at h
  split_ifs at h with hlong
  cases h
  exact ⟨by simp [hlong], rfl⟩

theorem searchableText_eq_ok {s : String} (h : x.searchableText = .ok s) : x.HasText ∧ s = x.rawText := by
  unfold searchableText at h
  split_ifs at h with hlong
  cases h
  exact ⟨by simpa using hlong, rfl⟩

end Entity
end GraphQuery
