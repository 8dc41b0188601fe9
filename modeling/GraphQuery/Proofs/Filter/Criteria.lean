import GraphQuery.Filter.Criteria
import GraphQuery.Proofs.Value.Texts
import Mathlib.Data.List.Basic

/-!
# Criteria — what evaluating them can come to

Evaluating a criterion gives a truth value, or fails.  Most failures count as not met.  The others come from
two places only: a search for a pattern that is not malformed, but beyond what can be searched for, and a value
that has no text where one is needed (`Failure.IsLimit`).

- `Filter.patterns` lists the patterns that a criterion on a field looks for;
- `Outcome.IsGuarded` says that an answer fails in one of the two ways, and in the second one only through
  one of some patterns or for want of a text; it holds of every criterion that is no test, with its patterns, and
  texts are there where the item and the criterion have texts;
- `Fields.Meets` says of properties that they meet criteria, each of its name (`Fields.isMet_meet_iff`);
- `Filter.meetsEach` fails in the second way only;
- `Filter.keep` gives exactly the items that pass, or the failure of one of them.
-/

namespace GraphQuery

/-! ## Patterns -/

/-- The pattern that an operator looks for. -/
def Operator.patterns (op : Operator) (value : Value) : List String :=
  match op with
  | .regex => [value.display]
  | _ => []

/-- The pattern that a criterion with an operator looks for. -/
def Value.patterns (criterion : Value) : List String :=
  match criterion.mapping? with
  | some entries =>
    (Operator.resolve (Fields.getD entries "operator")).patterns (Fields.getD entries "value")
  | none => []

/-- The patterns that criteria on properties look for. -/
def Value.propertyPatterns : Value → List String
  | .mapping entries => entries.flatMap fun entry => entry.2.patterns
  | .table rows => rows.flatMap fun row => row.2.patterns
  | _ => []

/-- The patterns that a criterion on a field looks for. -/
def Filter.patterns (name : String) (criterion : Value) : List String :=
  match name with
  | "properties" => criterion.propertyPatterns
  | _ => criterion.patterns

theorem Value.patterns_of_operatorFilter? {criterion value : Value} {op : Operator}
    (h : criterion.operatorFilter? = some (op, value)) : criterion.patterns = op.patterns value := by
  unfold operatorFilter? at h
  split at h
  · next entries hentries =>
      dsimp only at h
      split_ifs at h
      cases h
      rw [patterns, hentries]
  · cases h

/-- A failure at a limit, which does not count as not met: a pattern cannot be searched for, or an integer cannot be
written. -/
def Failure.IsLimit (e : Failure) : Prop :=
  e.countsAsUnmet = false ∧
    ((∃ ignoreCase shown pattern subject,
        Operator.matchesPattern ignoreCase shown pattern (.ok subject) = .error e) ∨
      e = .longIntegerText)

/-- A failure of this kind that one of some patterns has caused, or the lack of a text; `written` says that there is
no such lack. -/
def Failure.IsLimitOf (patterns : List String) (written : Prop) (e : Failure) : Prop :=
  e.countsAsUnmet = false ∧
    ((∃ pattern ∈ patterns, ∃ ignoreCase shown subject,
        Operator.matchesPattern ignoreCase shown pattern (.ok subject) = .error e) ∨
      ¬ written ∧ e = .longIntegerText)

theorem Failure.IsLimitOf.isLimit {patterns : List String} {written : Prop} {e : Failure}
    (h : e.IsLimitOf patterns written) : e.IsLimit := by
  rcases h with ⟨hunmet, ⟨pattern, -, ignoreCase, shown, subject, hfails⟩ | ⟨-, hlong⟩⟩
  · exact ⟨hunmet, Or.inl ⟨ignoreCase, shown, pattern, subject, hfails⟩⟩
  · exact ⟨hunmet, Or.inr hlong⟩

namespace Outcome

/-- Whether an answer is a yes. -/
def isMet (answer : Outcome Bool) : Bool :=
  match answer with
  | .ok b => b
  | .error _ => false

@[simp] theorem isMet_ok (b : Bool) : isMet (.ok b) = b :=
  rfl

theorem isMet_eq_true_iff {answer : Outcome Bool} : isMet answer = true ↔ answer = .ok true := by
  cases answer with
  | ok b =>
      rw [isMet_ok, Except.ok.injEq]
  | error e =>
      exact iff_of_false Bool.false_ne_true (by simp)

/-- A text that is missing only where something is not written. -/
def IsText (written : Prop) (text : Outcome String) : Prop :=
  ∀ e, text = .error e → ¬ written ∧ e = .longIntegerText

/-- An answer that fails only as a criterion may, because one of some patterns cannot be searched for, or because
something is not written. -/
def IsGuarded (patterns : List String) (written : Prop) (answer : Outcome Bool) : Prop :=
  ∀ e, answer = .error e → e.countsAsUnmet = true ∨ e.IsLimitOf patterns written

variable {patterns : List String} {written : Prop}

theorem IsText.ok (s : String) : IsText written (.ok s) := by
  intro e h
  cases h

theorem isText_toText {v : Value} (h : written → v.HasText) : IsText written v.toText := by
  intro e he
  obtain ⟨hmissing, hlong⟩ := Value.toText_eq_error he
  exact ⟨mt h hmissing, hlong⟩

theorem isText_searchableText {x : Entity} (h : written → x.HasText) : IsText written x.searchableText := by
  intro e he
  obtain ⟨hmissing, hlong⟩ := Entity.searchableText_eq_error he
  exact ⟨mt h hmissing, hlong⟩

theorem IsGuarded.ok (b : Bool) : IsGuarded patterns written (.ok b) := by
  intro e h
  cases h

theorem IsGuarded.criteria (fault : CriteriaFault) : IsGuarded patterns written (.error (.criteria fault)) := by
  intro e h
  cases h
  exact Or.inl rfl

theorem IsGuarded.mismatch : IsGuarded patterns written (.error .mismatch) := by
  intro e h
  cases h
  exact Or.inl rfl

/-- A message that shows a value fails where the value has no text. -/
theorem IsGuarded.showing {v : Value} (h : written → v.HasText) (fault : CriteriaFault) :
    IsGuarded patterns written (.error (.showing v (.criteria fault))) := by
  intro e he
  cases he
  unfold Failure.showing
  split_ifs with hlong
  · exact Or.inr ⟨rfl, Or.inr ⟨fun hwritten => Bool.false_ne_true ((h hwritten).symm.trans hlong), rfl⟩⟩
  · exact Or.inl rfl

/-- What is done with a text is not done without one. -/
theorem IsGuarded.bind {text : Outcome String} (h : IsText written text) {f : String → Outcome Bool}
    (hf : ∀ s, IsGuarded patterns written (f s)) : IsGuarded patterns written (text >>= f) := by
  intro e he
  cases text with
  | ok s =>
      exact hf s e he
  | error e' =>
      cases he
      obtain ⟨hmissing, rfl⟩ := h _ rfl
      exact Or.inr ⟨rfl, Or.inr ⟨hmissing, rfl⟩⟩

theorem IsGuarded.map {answer : Outcome Bool} (h : IsGuarded patterns written answer) (f : Bool → Bool) :
    IsGuarded patterns written (answer.map f) := by
  intro e he
  cases answer with
  | ok b =>
      cases he
  | error e' =>
      cases he
      exact h _ rfl

theorem IsGuarded.mono {answer : Outcome Bool} (h : IsGuarded patterns written answer) {more : List String}
    (hmore : patterns ⊆ more) {all : Prop} (hall : all → written) : IsGuarded more all answer := by
  intro e he
  rcases h e he with hmet | ⟨hunmet, ⟨pattern, hpattern, hfails⟩ | ⟨hmissing, hlong⟩⟩
  · exact Or.inl hmet
  · exact Or.inr ⟨hunmet, Or.inl ⟨pattern, hmore hpattern, hfails⟩⟩
  · exact Or.inr ⟨hunmet, Or.inr ⟨mt hall hmissing, hlong⟩⟩

/-- What is left after the failures that count as not met. -/
theorem eq_error_of_closed_eq_error {answer : Outcome Bool} {e : Failure}
    (h : answer.closed = .error e) : answer = .error e ∧ e.countsAsUnmet = false := by
  cases answer with
  | ok b =>
      cases h
  | error e' =>
      rw [closed] at h
      by_cases hunmet : e'.countsAsUnmet = true
      · rw [if_pos hunmet] at h
        cases h
      · rw [if_neg hunmet] at h
        cases h
        exact ⟨rfl, by simpa using hunmet⟩

theorem IsGuarded.isLimitOf_of_closed {answer : Outcome Bool} (h : IsGuarded patterns written answer)
    {e : Failure} (he : answer.closed = .error e) : e.IsLimitOf patterns written := by
  rcases eq_error_of_closed_eq_error he with ⟨herror, hunmet⟩
  rcases h e herror with hmet | hlimit
  · rw [hunmet] at hmet
    cases hmet
  · exact hlimit

theorem IsGuarded.closed {answer : Outcome Bool} (h : IsGuarded patterns written answer) :
    IsGuarded patterns written answer.closed := by
  intro e he
  exact Or.inr (h.isLimitOf_of_closed he)

end Outcome

open Outcome

/-! ## Operators -/

namespace Operator

/-- A search for a pattern fails as a criterion does where the pattern is malformed. -/
theorem isGuarded_matchesPattern {written : Prop} (ignoreCase : Bool) (shown : Value) (pattern : String)
    {subject : Outcome String} (h : IsText written subject) :
    IsGuarded [pattern] written (matchesPattern ignoreCase shown pattern subject) := by
  -- A search in a text that is there.
  have hsearch : ∀ s, IsGuarded [pattern] written (matchesPattern ignoreCase shown pattern (.ok s)) := by
    intro s e he
    by_cases hunmet : e.countsAsUnmet = true
    · exact Or.inl hunmet
    · exact Or.inr
        ⟨by simpa using hunmet, Or.inl ⟨pattern, List.mem_singleton_self _, ignoreCase, shown, s, he⟩⟩
  cases subject with
  | ok s =>
      exact hsearch s
  | error e =>
      intro e' he'
      rw [matchesPattern] at he'
      cases hread : (Pattern.read ignoreCase pattern).mapError (patternFailure shown) with
      | error fault =>
          -- The pattern is not read, whatever it is looked for in.
          refine hsearch "" e' ?_
          rw [matchesPattern, hread]
          rw [hread] at he'
          exact he'
      | ok read =>
          rw [hread] at he'
          cases he'
          obtain ⟨hmissing, rfl⟩ := h e rfl
          exact Or.inr ⟨rfl, Or.inr ⟨hmissing, rfl⟩⟩

variable {patterns : List String} {written : Prop}

theorem isGuarded_ordered (answer : Option Bool) : IsGuarded patterns written (ordered answer) := by
  cases answer with
  | none =>
      exact IsGuarded.mismatch
  | some b =>
      exact IsGuarded.ok b

theorem isGuarded_isMember (op : Operator) (item value : Value) :
    IsGuarded patterns written (isMember op item value) := by
  unfold isMember
  split
  · exact IsGuarded.ok _
  · exact IsGuarded.criteria _

theorem isGuarded_isBetween (item : Value) {value : Value} (h : written → value.HasText) :
    IsGuarded patterns written (isBetween item value) := by
  unfold isBetween
  split
  · split
    · exact IsGuarded.mismatch
    · exact IsGuarded.ok _
    · exact isGuarded_ordered _
  · split
    · exact IsGuarded.mismatch
    · exact IsGuarded.ok _
    · exact isGuarded_ordered _
  · exact IsGuarded.showing h _

theorem isGuarded_onTexts (test : String → String → Bool) {item value : Value} (hitem : written → item.HasText)
    (hvalue : written → value.HasText) : IsGuarded patterns written (onTexts test item value) := by
  unfold onTexts
  split
  · exact IsGuarded.ok _
  · exact .bind (isText_toText hitem) fun _ => .bind (isText_toText hvalue) fun _ => IsGuarded.ok _

/-- A comparison with values that have texts fails as a criterion may, or at a limit of its pattern. -/
theorem isGuarded_evaluate (op : Operator) (item value : Value) :
    IsGuarded (op.patterns value) (item.HasText ∧ value.HasText) (op.evaluate item value) := by
  cases op with
  | eq | ne =>
      exact IsGuarded.ok _
  | gt | gte | lt | lte =>
      exact isGuarded_ordered _
  | oneOf =>
      exact isGuarded_isMember _ _ _
  | noneOf =>
      exact (isGuarded_isMember _ _ _).map _
  | between =>
      exact isGuarded_isBetween _ And.right
  | contains | startsWith | endsWith =>
      exact isGuarded_onTexts _ And.left And.right
  | regex =>
      rw [evaluate.eq_def]
      dsimp only
      split
      · exact IsGuarded.ok _
      · cases hpattern : value.toText with
        | error e =>
            obtain ⟨hmissing, rfl⟩ := Value.toText_eq_error hpattern
            rintro e ⟨⟩
            exact Or.inr ⟨rfl, Or.inr ⟨fun hwritten => hmissing hwritten.2, rfl⟩⟩
        | ok pattern =>
            obtain ⟨-, rfl⟩ := Value.toText_eq_ok hpattern
            exact isGuarded_matchesPattern _ _ _ (isText_toText And.left)

theorem isGuarded_applies (op : Operator) (item value : Value) :
    IsGuarded (op.patterns value) (item.HasText ∧ value.HasText) (op.applies item value) :=
  (isGuarded_evaluate op item value).closed

end Operator

/-! ## Fields -/

theorem Value.isGuarded_meetsLiteral (actual criterion : Value) :
    IsGuarded criterion.patterns (actual.HasText ∧ criterion.HasText) (actual.meetsLiteral criterion) := by
  unfold Value.meetsLiteral
  split
  · next op value hfilter =>
      rw [Value.patterns_of_operatorFilter? hfilter]
      exact (Operator.isGuarded_applies _ _ _).mono (List.Subset.refl _) (And.imp_right fun h => h.operand hfilter)
  · exact IsGuarded.ok _

theorem Value.isGuarded_meets (actual criterion : Value) :
    IsGuarded criterion.patterns (actual.HasText ∧ criterion.HasText) (actual.meets criterion) := by
  unfold Value.meets
  split
  · exact IsGuarded.ok _
  · exact Value.isGuarded_meetsLiteral _ _

/-- A criterion that is a literal fails on no value; one with an operator fails closed. -/
theorem Value.isLimit_of_meetsLiteral {actual criterion : Value} {e : Failure}
    (h : actual.meetsLiteral criterion = .error e) : e.IsLimit := by
  rw [meetsLiteral] at h
  split at h
  · exact ((Operator.isGuarded_evaluate _ _ _).isLimitOf_of_closed h).isLimit
  · cases h

namespace Fields

theorem isGuarded_meetAll (properties : Fields) (entries : List (String × Value)) :
    IsGuarded (entries.flatMap fun entry => entry.2.patterns)
      ((∀ entry ∈ properties, entry.2.HasText) ∧ ∀ entry ∈ entries, entry.2.HasText)
      (meetAll properties entries) := by
  induction entries with
  | nil =>
      exact IsGuarded.ok _
  | cons entry rest ih =>
      rw [meetAll, List.flatMap_cons]
      split
      · exact IsGuarded.ok _
      · next actual hactual =>
          split
          · exact ih.mono (List.subset_append_right _ _) (And.imp_right fun h => (List.forall_mem_cons.1 h).2)
          · refine (Value.isGuarded_meetsLiteral _ _).mono (List.subset_append_left _ _) ?_
            exact And.imp (fun h => hasText_of_get? h hactual) fun h => (List.forall_mem_cons.1 h).1

theorem isGuarded_meetRows (properties : Fields) (rows : List (Value × Value)) :
    IsGuarded (rows.flatMap fun row => row.2.patterns)
      ((∀ entry ∈ properties, entry.2.HasText) ∧ ∀ row ∈ rows, row.2.HasText) (meetRows properties rows) := by
  induction rows with
  | nil =>
      exact IsGuarded.ok _
  | cons row rest ih =>
      rw [meetRows, List.flatMap_cons]
      split
      · exact IsGuarded.ok _
      · next actual hactual =>
          split
          · exact ih.mono (List.subset_append_right _ _) (And.imp_right fun h => (List.forall_mem_cons.1 h).2)
          · obtain ⟨key, -, hget⟩ := Option.bind_eq_some_iff.1 hactual
            refine (Value.isGuarded_meetsLiteral _ _).mono (List.subset_append_left _ _) ?_
            exact And.imp (fun h => hasText_of_get? h hget) fun h => (List.forall_mem_cons.1 h).1

theorem isGuarded_meet (properties : Fields) (criteria : Value) :
    IsGuarded criteria.propertyPatterns ((∀ entry ∈ properties, entry.2.HasText) ∧ criteria.HasText)
      (meet properties criteria) := by
  unfold meet
  split
  · exact (isGuarded_meetAll _ _).mono (List.Subset.refl _) (And.imp_right Value.hasText_mapping.1)
  · refine (isGuarded_meetRows _ _).mono (List.Subset.refl _) (And.imp_right fun h row hrow => ?_)
    exact (Value.hasText_table.1 h row hrow).2
  · exact IsGuarded.ok _

/-- Whether every listed property is there and meets what is asked of it. -/
def Meets (properties criteria : Fields) : Prop :=
  ∀ entry ∈ criteria, ∃ actual, get? properties entry.1 = some actual ∧
    actual.meetsLiteral entry.2 = .ok true

theorem meetAll_eq_true_iff {properties criteria : Fields} :
    meetAll properties criteria = .ok true ↔ properties.Meets criteria := by
  induction criteria with
  | nil =>
      exact ⟨fun _ => List.forall_mem_nil _, fun _ => rfl⟩
  | cons entry rest ih =>
      obtain ⟨key, expected⟩ := entry
      rw [Meets, List.forall_mem_cons, meetAll]
      cases hactual : get? properties key with
      | none =>
          simp
      | some actual =>
          cases hanswer : actual.meetsLiteral expected with
          | error e =>
              simp [hanswer]
          | ok met =>
              cases met with
              | false =>
                  simp [hanswer]
              | true =>
                  simpa [hanswer, Meets] using ih

theorem isMet_meet_iff {properties criteria : Fields} :
    (meet properties (.mapping criteria)).isMet = true ↔ properties.Meets criteria := by
  rw [Outcome.isMet_eq_true_iff, meet, meetAll_eq_true_iff]

/-- Comparing properties fails only where a pattern cannot be searched for, or a value has no text. -/
theorem isLimit_of_meetAll {properties criteria : Fields} {e : Failure}
    (h : meetAll properties criteria = .error e) : e.IsLimit := by
  induction criteria with
  | nil =>
      cases h
  | cons entry rest ih =>
      rw [meetAll] at h
      split at h
      · cases h
      · split at h
        · exact ih h
        · exact Value.isLimit_of_meetsLiteral h

end Fields

/-- Whether the counts of a degree have texts, as all counts of a graph that fits a memory have. -/
structure Degree.HasTexts (degree : Degree) : Prop where
  connections : (Value.int degree.connections).HasText
  ofKind : ∀ kind, (Value.int (degree.ofKind kind)).HasText

/-- Whether the texts of an edge are there, those of its ends included. -/
structure Edge.HasTexts (e : Edge) : Prop where
  whole : (Entity.edge e).HasText
  source : e.source.toValue.HasText
  target : e.target.toValue.HasText

namespace Filter

theorem isGuarded_meetsTextEntries (text : String) (entries : Fields) :
    IsGuarded (Value.mapping entries).patterns (Value.mapping entries).HasText (meetsTextEntries text entries) := by
  have hvalue : (Value.mapping entries).HasText → (Fields.getD entries "value").HasText :=
    fun h => Fields.hasText_getD (Value.hasText_mapping.1 h) "value"
  unfold meetsTextEntries
  split
  · exact IsGuarded.criteria _
  · cases hneedle : (Fields.getD entries "value").toText with
    | error e =>
        obtain ⟨hmissing, rfl⟩ := Value.toText_eq_error hneedle
        rintro e ⟨⟩
        exact Or.inr ⟨rfl, Or.inr ⟨mt hvalue hmissing, rfl⟩⟩
    | ok needle =>
        obtain ⟨-, rfl⟩ := Value.toText_eq_ok hneedle
        dsimp only [bind, Except.bind]
        split
        · next hoperator =>
            -- The operator of a text criterion is named exactly, so it is the one that others go by.
            have hgiven : Fields.getD entries "operator" = .text "regex" := by
              rw [Fields.getD]
              cases hget : Fields.get? entries "operator" with
              | none =>
                  rw [hget] at hoperator
                  exact absurd (Value.text.inj hoperator) (by decide)
              | some operator =>
                  rw [hget] at hoperator
                  exact hoperator
            have hpatterns : (Value.mapping entries).patterns = [(Fields.getD entries "value").display] := by
              rw [Value.patterns, Value.mapping?]
              simp only [hgiven]
              rfl
            rw [hpatterns]
            exact Operator.isGuarded_matchesPattern _ _ _ (IsText.ok _)
        · split
          · exact IsGuarded.ok _
          · exact IsGuarded.ok _

theorem isGuarded_meetsText (text : Option String) (criterion : Value) :
    IsGuarded criterion.patterns criterion.HasText (meetsText text criterion) := by
  unfold meetsText
  split
  · exact IsGuarded.ok _
  · split
    · exact IsGuarded.ok _
    · exact isGuarded_meetsTextEntries _ _
    · exact IsGuarded.ok _

theorem isGuarded_meetsConnections (degree : Degree) (criterion : Value) :
    IsGuarded criterion.patterns (degree.HasTexts ∧ criterion.HasText) (meetsConnections degree criterion) := by
  unfold meetsConnections
  split
  · exact IsGuarded.ok _
  · exact IsGuarded.ok _
  · refine (Operator.isGuarded_applies _ _ _).mono (List.Subset.refl _) ?_
    exact And.imp (·.connections) fun h => Fields.hasText_getD (Value.hasText_mapping.1 h) "value"
  · exact IsGuarded.ok _

/-- A degree criterion without an operator asks for equality, as one without a known name does. -/
theorem resolve_degreeOperator (entries : Fields) :
    Operator.resolve ((Fields.get? entries "operator").getD (.text "eq")) =
      Operator.resolve (Fields.getD entries "operator") := by
  rw [Fields.getD]
  cases Fields.get? entries "operator" with
  | none =>
      decide
  | some operator =>
      rfl

theorem isGuarded_meetsDegree (degree : Degree) (criterion : Value) :
    IsGuarded criterion.patterns (degree.HasTexts ∧ criterion.HasText) (meetsDegree degree criterion) := by
  unfold meetsDegree
  split
  · dsimp only
    rw [resolve_degreeOperator]
    refine (Operator.isGuarded_applies _ _ _).mono (List.Subset.refl _) ?_
    exact And.imp (·.ofKind _) fun h => Fields.hasText_getD (Value.hasText_mapping.1 h) "value"
  · exact IsGuarded.showing And.right _

/-- A custom criterion that is no test is met by every item. -/
theorem isGuarded_meetsCustom {written : Prop} (x : Entity) {criterion : Value}
    (h : ∀ body, criterion ≠ .test body) : IsGuarded criterion.patterns written (meetsCustom x criterion) := by
  unfold meetsCustom
  split
  · exact absurd rfl (h _)
  · exact IsGuarded.ok _

/-- A criterion that is no custom test. -/
def IsPlain (name : String) (criterion : Value) : Prop :=
  name = "custom" → ∀ body, criterion ≠ .test body

theorem hasText_textOrNull (s : Option String) : (textOrNull s).HasText := by
  cases s with
  | none =>
      rfl
  | some t =>
      rfl

theorem isGuarded_sharedField? (x : Entity) {name : String} {criterion : Value}
    (h : IsPlain name criterion) {answer : Outcome Bool}
    (hanswer : sharedField? x name criterion = some answer) :
    IsGuarded (patterns name criterion) (x.HasText ∧ criterion.HasText) answer := by
  -- One case for each field that nodes and edges share.
  unfold sharedField? at hanswer
  split at hanswer <;> cases hanswer
  · exact (Value.isGuarded_meets _ _).mono (List.Subset.refl _) (And.imp_left fun _ => hasText_textOrNull _)
  · exact (isGuarded_meetsText _ _).mono (List.Subset.refl _) And.right
  · exact .bind (isText_searchableText And.left) fun _ =>
      (isGuarded_meetsText _ _).mono (List.Subset.refl _) And.right
  · exact (Value.isGuarded_meets _ _).mono (List.Subset.refl _)
      (And.imp_left fun hx => (Entity.hasText_iff.1 hx).1)
  · exact (Fields.isGuarded_meet _ _).mono (List.Subset.refl _)
      (And.imp_left fun hx => (Entity.hasText_iff.1 hx).2)
  · exact isGuarded_meetsCustom _ (h rfl)

theorem isGuarded_nodeField (degree : Degree) (n : Node) {name : String} {criterion : Value}
    (h : IsPlain name criterion) :
    IsGuarded (patterns name criterion) (((Entity.node n).HasText ∧ degree.HasTexts) ∧ criterion.HasText)
      (nodeField degree n name criterion) := by
  unfold nodeField
  split
  · next answer hanswer =>
      exact (isGuarded_sharedField? _ h hanswer).mono (List.Subset.refl _) (And.imp_left And.left)
  · split
    · exact (isGuarded_meetsConnections _ _).mono (List.Subset.refl _) (And.imp_left And.right)
    · exact (isGuarded_meetsDegree _ _).mono (List.Subset.refl _) (And.imp_left And.right)
    · exact IsGuarded.ok _

theorem isGuarded_edgeField (e : Edge) {name : String} {criterion : Value} (h : IsPlain name criterion) :
    IsGuarded (patterns name criterion) (e.HasTexts ∧ criterion.HasText) (edgeField e name criterion) := by
  unfold edgeField
  split
  · next answer hanswer =>
      exact (isGuarded_sharedField? _ h hanswer).mono (List.Subset.refl _) (And.imp_left (·.whole))
  · split
    · exact (Value.isGuarded_meets _ _).mono (List.Subset.refl _) (And.imp_left (·.source))
    · exact (Value.isGuarded_meets _ _).mono (List.Subset.refl _) (And.imp_left (·.target))
    · exact IsGuarded.ok _

/-! ## Criteria together -/

/-- Criteria fail on an item only where one of their patterns cannot be searched for, or a text is missing. -/
theorem isLimitOf_of_meetsEach {field : String → Value → Outcome Bool} {entries : List (String × Value)}
    {written : String × Value → Prop}
    (hfield : ∀ entry ∈ entries,
      IsGuarded (patterns entry.1 entry.2) (written entry) (field entry.1 entry.2))
    {e : Failure} (h : meetsEach field entries = .error e) :
    ∃ entry ∈ entries, e.IsLimitOf (patterns entry.1 entry.2) (written entry) := by
  induction entries with
  | nil =>
      cases h
  | cons entry rest ih =>
      obtain ⟨hfirst, hrest⟩ := List.forall_mem_cons.1 hfield
      -- The first criterion that is not met ends the evaluation, with its closed answer.
      rw [meetsEach] at h
      split at h
      · obtain ⟨other, hother, hlimit⟩ := ih hrest h
        exact ⟨other, List.mem_cons_of_mem _ hother, hlimit⟩
      · exact ⟨entry, List.mem_cons_self, hfirst.isLimitOf_of_closed h⟩

/-! ## Keeping items -/

variable {α : Type} {check : α → Outcome Bool}

theorem keep_cons_ok {x : α} {xs : List α} {b : Bool} (h : check x = .ok b) :
    keep check (x :: xs) = (keep check xs).map fun rest => if b then x :: rest else rest := by
  rw [keep, h]
  cases keep check xs with
  | ok rest =>
      rfl
  | error e =>
      rfl

/-- The items that pass, in order, if the check answers on every item. -/
theorem keep_eq_ok {xs : List α} (h : ∀ x ∈ xs, ∀ e, check x ≠ .error e) :
    keep check xs = .ok (xs.filter fun x => isMet (check x)) := by
  induction xs with
  | nil =>
      rfl
  | cons x xs ih =>
      have hrest := ih fun y hy => h y (List.mem_cons_of_mem _ hy)
      cases hx : check x with
      | ok b =>
          rw [keep_cons_ok hx, hrest, List.filter_cons, hx]
          rfl
      | error e =>
          exact absurd hx (h x List.mem_cons_self e)

/-- A failure is the failure of the check on one of the items. -/
theorem exists_of_keep_eq_error {xs : List α} {e : Failure} (h : keep check xs = .error e) :
    ∃ x ∈ xs, check x = .error e := by
  induction xs with
  | nil =>
      cases h
  | cons x xs ih =>
      cases hx : check x with
      | ok b =>
          rw [keep_cons_ok hx] at h
          cases hrest : keep check xs with
          | ok rest =>
              rw [hrest] at h
              cases h
          | error e' =>
              rw [hrest] at h
              cases h
              rcases ih hrest with ⟨y, hy, hcheck⟩
              exact ⟨y, List.mem_cons_of_mem _ hy, hcheck⟩
      | error e' =>
          rw [keep, hx] at h
          cases h
          exact ⟨x, List.mem_cons_self, hx⟩

/-- If items are kept at all, the check has answered on every one of them. -/
theorem ne_error_of_keep_eq_ok {xs ys : List α} (h : keep check xs = .ok ys) :
    ∀ x ∈ xs, ∀ e, check x ≠ .error e := by
  induction xs generalizing ys with
  | nil =>
      intro x hx
      exact absurd hx List.not_mem_nil
  | cons y xs ih =>
      cases hy : check y with
      | ok b =>
          rw [keep_cons_ok hy] at h
          cases hrest : keep check xs with
          | ok rest =>
              intro x hx e hcheck
              rcases List.mem_cons.1 hx with rfl | hx
              · rw [hy] at hcheck
                cases hcheck
              · exact ih hrest x hx e hcheck
          | error e =>
              rw [hrest] at h
              cases h
      | error e =>
          rw [keep, hy] at h
          cases h

theorem keep_eq_ok_iff {xs ys : List α} :
    keep check xs = .ok ys ↔
      ys = (xs.filter fun x => isMet (check x)) ∧ ∀ x ∈ xs, ∀ e, check x ≠ .error e := by
  constructor
  · intro h
    have hanswers := ne_error_of_keep_eq_ok h
    rw [keep_eq_ok hanswers] at h
    cases h
    exact ⟨rfl, hanswers⟩
  · rintro ⟨rfl, hanswers⟩
    exact keep_eq_ok hanswers

end Filter
end GraphQuery
