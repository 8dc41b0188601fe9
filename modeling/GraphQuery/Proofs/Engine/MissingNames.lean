import GraphQuery.Proofs.Engine.AdvancedSearch

/-!
# Missing names — a search does not miss a name

A failure that tells of a missing name (`Failure.missing`) comes from looking the name up, and from nothing else.
An advanced search looks up none, so it does not fail this way, whatever its arguments are
(`Engine.missesNoName_advancedSearch`).
-/

namespace GraphQuery

/-- An answer that does not fail because nothing is kept under a name. -/
def Outcome.MissesNoName {α : Type} (answer : Outcome α) : Prop := ∀ name, answer ≠ .error (.missing name)

namespace Outcome.MissesNoName

variable {α β : Type}

theorem ok (a : α) : MissesNoName (.ok a) := by
  rintro name ⟨⟩

theorem mismatch : MissesNoName (.error .mismatch : Outcome α) := by
  rintro name ⟨⟩

theorem bind {answer : Outcome α} {f : α → Outcome β} (h : answer.MissesNoName) (hf : ∀ a, (f a).MissesNoName) :
    (answer >>= f).MissesNoName := by
  cases answer with
  | ok a =>
      exact hf a
  | error e =>
      rintro name ⟨⟩
      exact h name rfl

theorem ite {p : Prop} [Decidable p] {x y : Outcome α} (hx : x.MissesNoName) (hy : y.MissesNoName) :
    (if p then x else y).MissesNoName := by
  split_ifs
  · exact hx
  · exact hy

theorem forM {check : α → Outcome Unit} (h : ∀ x, (check x).MissesNoName) (xs : List α) :
    (forM xs check).MissesNoName := by
  induction xs with
  | nil =>
      exact .ok ()
  | cons x xs ih =>
      rw [List.forM_cons]
      exact .bind (h x) fun _ => ih

/-- What comes from checking fields tells of the fields alone. -/
theorem toOutcome (checked : Checked α) : checked.toOutcome.MissesNoName := by
  cases checked <;> rintro name ⟨⟩

theorem ordered (answer : Option Bool) : (Operator.ordered answer).MissesNoName := by
  cases answer with
  | none => exact mismatch
  | some b => exact ok b

theorem patternFailed (shown : Value) (answer : Except PatternFault α) :
    MissesNoName (answer.mapError (Operator.patternFailure shown)) := by
  cases answer with
  | ok a => exact ok a
  | error fault => cases fault <;> rintro name ⟨⟩

theorem matchesPattern (ignoreCase : Bool) (shown : Value) (pattern subject : String) :
    (Operator.matchesPattern ignoreCase shown pattern (.ok subject)).MissesNoName :=
  .bind (patternFailed shown _) fun _ => .bind (.ok subject) fun _ => patternFailed shown _

end Outcome.MissesNoName

/-! ## Narrowing -/

theorem Failure.IsLimit.ne_missing {e : Failure} (h : e.IsLimit) (name : MissingName) :
    e ≠ .missing name := by
  rintro rfl
  obtain ⟨-, ⟨ignoreCase, shown, pattern, subject, hfails⟩ | hlong⟩ := h
  · exact Outcome.MissesNoName.matchesPattern ignoreCase shown pattern subject name hfails
  · cases hlong

open Outcome.MissesNoName in
theorem Fields.missesNoName_meetRows (properties : Fields) (rows : List (Value × Value)) :
    (meetRows properties rows).MissesNoName := by
  induction rows with
  | nil =>
      exact ok true
  | cons row rest ih =>
      obtain ⟨key, expected⟩ := row
      rw [meetRows]
      split
      · exact ok false
      · split
        · exact ih
        · exact fun name h => (Value.isLimit_of_meetsLiteral h).ne_missing name rfl

theorem Fields.missesNoName_meet (properties : Fields) (criteria : Value) :
    (meet properties criteria).MissesNoName := by
  rw [meet.eq_def]
  split
  · exact fun name h => (isLimit_of_meetAll h).ne_missing name rfl
  · exact missesNoName_meetRows properties _
  · exact .ok false

theorem Filter.missesNoName_keep {α : Type} {check : α → Outcome Bool} (h : ∀ x, (check x).MissesNoName)
    (xs : List α) : (keep check xs).MissesNoName := by
  intro name hfails
  obtain ⟨x, -, hx⟩ := exists_of_keep_eq_error hfails
  exact h x name hx

namespace AdvancedQuery

theorem missesNoName_hasType (types : Value) (type : Option String) : (hasType types type).MissesNoName := by
  rw [hasType.eq_def]
  split
  · split
    · exact .ok _
    · exact .mismatch
  · exact .ok _
  · split
    · exact .ok _
    · exact .mismatch

theorem missesNoName_inRange (least most : Value) (count : Nat) : (inRange least most count).MissesNoName := by
  have hmost : (inRange .null most count).MissesNoName := by
    refine .bind (.ok false) fun tooFew => .ite (.ok false) ?_
    cases most with
    | null => exact .ok true
    | _ => exact .ordered _
  cases least with
  | null => exact hmost
  | _ => exact .bind (.ordered _) fun tooFew => .ite (.ok false) hmost

theorem missesNoName_narrow (q : AdvancedQuery) (graph found : Snapshot) : (q.narrow graph found).MissesNoName := by
  have hkeep : ∀ {α : Type} {p : Prop} [Decidable p] {check : α → Outcome Bool} (xs : List α),
      (∀ x, (check x).MissesNoName) → (if p then Filter.keep check xs else .ok xs).MissesNoName :=
    fun xs h => .ite (Filter.missesNoName_keep h xs) (.ok xs)
  rw [narrow_steps]
  refine .bind (hkeep _ fun n => missesNoName_hasType _ _) fun nodes => ?_
  refine .bind (hkeep _ fun e => missesNoName_hasType _ _) fun edges => ?_
  refine .bind (hkeep _ fun n => Fields.missesNoName_meet _ _) fun nodes => ?_
  refine .bind (hkeep _ fun e => Fields.missesNoName_meet _ _) fun edges => ?_
  refine .bind (.ite (.ok _) ?_) fun nodes => .ok _
  exact Filter.missesNoName_keep (fun n => missesNoName_inRange _ _ _) _

end AdvancedQuery

/-! ## Text search -/

namespace SearchIndex

theorem missesNoName_refusal (mode : SearchMode) (query : Value) (entry : IndexEntry) :
    (refusal mode query entry).MissesNoName := by
  have hkey : Outcome.MissesNoName (.error .noSuchKey : Outcome Unit) := by
    rintro name ⟨⟩
  rw [refusal.eq_def]
  refine .ite .mismatch ?_
  split
  · exact .ite .mismatch (.ok ())
  · exact .ite .mismatch (.ok ())
  · exact .ite (.ok ()) .mismatch
  · exact .ite (.ok ()) hkey
  · exact .ite (.ok ()) hkey
  · exact .mismatch

theorem missesNoName_findings (index : SearchIndex) (mode : SearchMode) (query : Value) :
    (index.findings mode query).MissesNoName := by
  rw [findings.eq_def]
  split
  · exact .ok _
  · refine .ite (by rintro name ⟨⟩) ?_
    exact .bind (.forM (fun entry => missesNoName_refusal mode _ entry) _) fun _ => .ok []

theorem missesNoName_limitCount (limit : Value) : (limitCount limit).MissesNoName := by
  rw [limitCount.eq_def]
  split
  · exact .mismatch
  · refine .ite (.ok 0) ?_
    split
    · exact .ok _
    · exact .ok _
    · exact .mismatch

end SearchIndex

/-! ## The search -/

theorem Snapshot.missesNoName_coerce (v : Value) : (coerce v).MissesNoName := by
  have hiterated : ∀ v, (iterated v).MissesNoName := by
    intro v
    rw [iterated]
    split <;> rintro name ⟨⟩
  rw [coerce.eq_def]
  split
  · exact .toOutcome _
  · refine .bind (hiterated _) fun nodes => .bind (hiterated _) fun edges => ?_
    exact .toOutcome _
  · exact .ok _

theorem Desk.missesNoName_snapshot (desk : Desk) : desk.snapshot.MissesNoName := by
  rw [snapshot]
  split
  · exact .ok _
  · exact Snapshot.missesNoName_coerce _
  · split
    · exact Snapshot.missesNoName_coerce _
    · exact .ok _

namespace Engine

variable {α β : Type}

/-- An operation that does not fail because nothing is kept under a name, wherever it is run. -/
def MissesNoName (x : EngineM α) : Prop := ∀ desk, (runAt x desk).1.MissesNoName

theorem MissesNoName.ofOutcome {answer : Outcome α} (h : answer.MissesNoName) :
    MissesNoName (Engine.ofOutcome answer) :=
  fun _ => h

theorem MissesNoName.pure (a : α) : MissesNoName (Pure.pure a) := fun _ => .ok a

theorem MissesNoName.bind {x : EngineM α} {f : α → EngineM β} (hx : MissesNoName x)
    (hf : ∀ a, MissesNoName (f a)) : MissesNoName (x >>= f) := by
  intro desk name h
  have hfirst := hx desk name
  rw [runAt_bind] at h
  rcases hrun : runAt x desk with ⟨answer, after⟩
  rw [hrun] at h hfirst
  cases answer with
  | ok a =>
      exact hf a after name h
  | error e =>
      exact hfirst (Except.error.inj h ▸ rfl)

theorem MissesNoName.read {f : Desk → EngineM α} (h : ∀ desk, MissesNoName (f desk)) : MissesNoName (get >>= f) :=
  fun desk => h desk desk

theorem missesNoName_snapshot : MissesNoName Engine.snapshot :=
  .read fun desk => .ofOutcome desk.missesNoName_snapshot

theorem missesNoName_textSearch (query : Value) (mode : SearchMode) (limit : Value) :
    MissesNoName (textSearch query mode limit) := by
  rw [textSearch]
  by_cases hquery : query.isTruthy = true
  · simp only [hquery, Bool.not_true, Bool.false_eq_true, if_false]
    refine .read fun desk => ?_
    refine .bind (.ofOutcome (SearchIndex.missesNoName_findings _ _ _)) fun found => ?_
    refine .bind (fun _ => .ok ()) fun _ => ?_
    exact .bind (.ofOutcome (SearchIndex.missesNoName_limitCount _)) fun count => .pure _
  · simp only [hquery, Bool.not_false, if_true]
    exact .pure []

/-- An advanced search does not miss a name. -/
theorem missesNoName_advancedSearch (q : AdvancedQuery) : MissesNoName (advancedSearch q) := by
  rw [advancedSearch]
  refine .bind missesNoName_snapshot fun graph => ?_
  have hnarrow := fun found => MissesNoName.ofOutcome (q.missesNoName_narrow graph found)
  by_cases htext : q.text.isTruthy = true
  · simp only [htext, if_true]
    refine .bind (missesNoName_textSearch _ _ _) fun hits => ?_
    exact .bind (.pure _) hnarrow
  · simp only [htext, Bool.false_eq_true, if_false]
    exact .bind (.pure graph) hnarrow

end Engine
end GraphQuery
