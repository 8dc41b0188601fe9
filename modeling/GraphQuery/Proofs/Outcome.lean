/-!
# Outcomes — what is known of the parts of an answer that is there

An answer that is made of others is there only if these are.
-/

namespace GraphQuery
namespace Outcome

variable {ε α β : Type}

theorem exists_of_map_eq_ok {answer : Except ε α} {f : α → β} {b : β} (h : answer.map f = .ok b) :
    ∃ a, answer = .ok a ∧ f a = b := by
  cases answer with
  | error e =>
      cases h
  | ok a =>
      exact ⟨a, rfl, Except.ok.inj h⟩

theorem eq_error_of_map_eq_error {answer : Except ε α} {f : α → β} {e : ε} (h : answer.map f = .error e) :
    answer = .error e := by
  cases answer with
  | error e' =>
      cases h
      rfl
  | ok a =>
      cases h

/-- What is to hold of the answer, if there is one, can be decided on it. -/
instance decidableForallOk (answer : Except ε α) (p : α → Prop) [DecidablePred p] :
    Decidable (∀ a, answer = .ok a → p a) :=
  match answer with
  | .ok a => decidable_of_iff (p a) ⟨fun h _ heq => Except.ok.inj heq ▸ h, fun h => h a rfl⟩
  | .error _ => isTrue nofun

theorem exists_eq_ok_of_isSome {answer : Except ε α} (h : answer.toOption.isSome = true) :
    ∃ a, answer = .ok a := by
  cases answer with
  | error e =>
      cases h
  | ok a =>
      exact ⟨a, rfl⟩

theorem exists_map_eq_ok_iff {answer : Except ε α} {f : α → β} :
    (∃ b, answer.map f = .ok b) ↔ ∃ a, answer = .ok a := by
  cases answer with
  | error e =>
      exact ⟨by rintro ⟨_, ⟨⟩⟩, by rintro ⟨_, ⟨⟩⟩⟩
  | ok a =>
      exact ⟨fun _ => ⟨a, rfl⟩, fun _ => ⟨f a, rfl⟩⟩

theorem exists_mapError_eq_ok_iff {ε' : Type} {answer : Except ε α} {f : ε → ε'} :
    (∃ a, answer.mapError f = .ok a) ↔ ∃ a, answer = .ok a := by
  cases answer with
  | error e =>
      exact ⟨by rintro ⟨_, ⟨⟩⟩, by rintro ⟨_, ⟨⟩⟩⟩
  | ok a =>
      exact ⟨fun _ => ⟨a, rfl⟩, fun _ => ⟨a, rfl⟩⟩

theorem eq_ok_of_mapError_eq_ok {ε' : Type} {answer : Except ε α} {f : ε → ε'} {a : α}
    (h : answer.mapError f = .ok a) : answer = .ok a := by
  cases answer with
  | error e =>
      cases h
  | ok a' =>
      cases h
      rfl

theorem exists_of_bind_eq_ok {answer : Except ε α} {f : α → Except ε β} {b : β}
    (h : answer >>= f = .ok b) : ∃ a, answer = .ok a ∧ f a = .ok b := by
  cases answer with
  | error e =>
      cases h
  | ok a =>
      exact ⟨a, rfl, h⟩

/-- A list is answered item by item if each item is. -/
theorem mapM_eq_ok {f : α → Except ε β} {g : α → β} {xs : List α} (h : ∀ x ∈ xs, f x = .ok (g x)) :
    xs.mapM f = .ok (xs.map g) := by
  induction xs with
  | nil =>
      rfl
  | cons x xs ih =>
      obtain ⟨hx, hxs⟩ := List.forall_mem_cons.1 h
      rw [List.mapM_cons, hx, ih hxs]
      rfl

theorem exists_of_mapM_eq_ok {f : α → Except ε β} {xs : List α} {ys : List β} (h : xs.mapM f = .ok ys) {x : α}
    (hx : x ∈ xs) : ∃ y, f x = .ok y := by
  induction xs generalizing ys with
  | nil =>
      cases hx
  | cons first rest ih =>
      rw [List.mapM_cons] at h
      obtain ⟨y, hy, h⟩ := exists_of_bind_eq_ok h
      obtain ⟨others, hothers, -⟩ := exists_of_bind_eq_ok h
      rcases List.mem_cons.1 hx with rfl | hmem
      · exact ⟨y, hy⟩
      · exact ih hothers hmem

end Outcome
end GraphQuery
