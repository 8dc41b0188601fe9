import GraphQuery.Graph.Request
import GraphQuery.Proofs.Graph.Neighbors
import Mathlib.Algebra.Order.Ring.Rat
import Mathlib.Data.Rat.Cast.Order
import Mathlib.Data.List.Chain

/-!
# Walks — distances along a step relation, and bounds on the number of steps

The searches are compared with walks, which know nothing of queues.  This file defines

* `Walk step n a b` — `b` can be reached from `a` in exactly `n` steps,
* `IsDistance step n a b` — no walk is shorter than `n`, and one has that length,
* `StepBound` — the bounds that a caller may set: an integer, infinity or none.
-/

namespace GraphQuery

variable {α : Type} {step : α → α → Prop}

/-! ## Walks -/

/-- A walk of a given number of steps. -/
inductive Walk (step : α → α → Prop) : Nat → α → α → Prop where
  | stay (a : α) : Walk step 0 a a
  | onward {n : Nat} {a b c : α} : Walk step n a b → step b c → Walk step (n + 1) a c

namespace Walk

theorem eq_of_zero {a b : α} (h : Walk step 0 a b) : a = b := by
  cases h
  rfl

/-- The last step of a walk that has one. -/
theorem exists_last {n : Nat} {a c : α} (h : Walk step (n + 1) a c) :
    ∃ b, Walk step n a b ∧ step b c := by
  cases h with
  | onward hwalk hstep =>
      exact ⟨_, hwalk, hstep⟩

/-- A chain of ids that each lead to the next is a walk from its first to its last. -/
theorem of_isChain {ids : List α} (hchain : ids.IsChain step) {a b : α}
    (hhead : ids.head? = some a) (hlast : ids.getLast? = some b) :
    Walk step (ids.length - 1) a b := by
  -- The chain without its last id is a walk, and the last id adds a step to it.
  induction ids using List.reverseRecOn generalizing b with
  | nil =>
      simp at hhead
  | append_singleton front c ih =>
      have hc : c = b := by simpa using hlast
      subst hc
      cases hfront : front.getLast? with
      | none =>
          have hnil : front = [] := List.getLast?_eq_none_iff.1 hfront
          subst hnil
          have hca : c = a := by simpa using hhead
          subst hca
          exact Walk.stay c
      | some d =>
          have hne : front ≠ [] := by
            intro hnil
            simp [hnil] at hfront
          have hparts := List.isChain_append.1 hchain
          have hhead' : front.head? = some a := by
            rw [← hhead, List.head?_append_of_ne_nil _ hne]
          have hwalk := ih hparts.1 hhead' hfront
          have hlength : (front ++ [c]).length - 1 = front.length - 1 + 1 := by
            have hpos : 0 < front.length := List.length_pos_iff.2 hne
            simp only [List.length_append, List.length_singleton]
            omega
          rw [hlength]
          exact hwalk.onward (hparts.2.2 d (by simp [hfront]) c (by simp))

end Walk

/-! ## Distances -/

/-- The number of steps of a shortest walk. -/
structure IsDistance (step : α → α → Prop) (n : Nat) (a b : α) : Prop where
  walk : Walk step n a b
  least : ∀ m, Walk step m a b → n ≤ m

namespace IsDistance

theorem unique {m n : Nat} {a b : α} (hm : IsDistance step m a b) (hn : IsDistance step n a b) :
    m = n :=
  Nat.le_antisymm (hm.least n hn.walk) (hn.least m hm.walk)

theorem exists_of_walk {n : Nat} {a b : α} (h : Walk step n a b) :
    ∃ d, d ≤ n ∧ IsDistance step d a b := by
  classical
  have hex : ∃ m, Walk step m a b := ⟨n, h⟩
  refine ⟨Nat.find hex, Nat.find_min' hex h, Nat.find_spec hex, ?_⟩
  intro m hm
  exact Nat.find_min' hex hm

end IsDistance

/-! ## Bounds -/

/-- A bound on the number of steps as a caller sets it. -/
inductive StepBound where
  | count (n : Int)
  | infinite
  | absent
deriving DecidableEq, Repr

namespace StepBound

/-- The bound as an argument. -/
def toValue : StepBound → Value
  | count n => .int n
  | infinite => .float (.infinite false)
  | absent => .null

def limit : StepBound → DepthLimit
  | count n => .ofInt n
  | infinite | absent => .unlimited

/-- Whether so many steps may be taken. -/
def Allows : StepBound → Nat → Prop
  | count n, k => (k : Int) ≤ n
  | infinite, _ | absent, _ => True

theorem ofValue_toValue (bound : StepBound) :
    DepthLimit.ofValue bound.toValue = .ok bound.limit := by
  cases bound <;> rfl

theorem Allows.mono {bound : StepBound} {j k : Nat} (hk : bound.Allows k) (hjk : j ≤ k) :
    bound.Allows j := by
  cases bound with
  | count n =>
      simp only [Allows] at hk ⊢
      omega
  | infinite =>
      trivial
  | absent =>
      trivial

end StepBound

namespace DepthLimit

theorem exact_less_iff {p q : Rat} :
    Extended.less (.exact p) (.exact q) = true ↔ p < q := by
  simp [Extended.less]

theorem exact_atMost_iff {p q : Rat} :
    Extended.atMost (.exact p) (.exact q) = true ↔ p ≤ q := by
  simp [Extended.atMost, Extended.same, Extended.less, le_iff_eq_or_lt]

theorem exceededBy_limit_iff (bound : StepBound) (k : Nat) :
    bound.limit.exceededBy k = true ↔ ¬ bound.Allows k := by
  cases bound with
  | count n =>
      rw [exceededBy, StepBound.limit, Extended.ofInt, exact_less_iff, StepBound.Allows, not_le]
      exact_mod_cast Iff.rfl
  | infinite =>
      simp [exceededBy, StepBound.limit, StepBound.Allows, unlimited, Extended.less]
  | absent =>
      simp [exceededBy, StepBound.limit, StepBound.Allows, unlimited, Extended.less]

theorem not_exceededBy_limit_iff (bound : StepBound) (k : Nat) :
    bound.limit.exceededBy k = false ↔ bound.Allows k := by
  rw [← Bool.not_eq_true, exceededBy_limit_iff, not_not]

theorem reachedBy_limit_iff (bound : StepBound) (k : Nat) :
    bound.limit.reachedBy k = true ↔ ¬ bound.Allows (k + 1) := by
  cases bound with
  | count n =>
      rw [reachedBy, StepBound.limit, Extended.ofInt, exact_atMost_iff, StepBound.Allows, not_le,
        Nat.cast_succ, Int.lt_add_one_iff]
      exact_mod_cast Iff.rfl
  | infinite =>
      simp [reachedBy, StepBound.limit, StepBound.Allows, unlimited, Extended.atMost,
        Extended.same, Extended.less]
  | absent =>
      simp [reachedBy, StepBound.limit, StepBound.Allows, unlimited, Extended.atMost,
        Extended.same, Extended.less]

theorem not_reachedBy_limit_iff (bound : StepBound) (k : Nat) :
    bound.limit.reachedBy k = false ↔ bound.Allows (k + 1) := by
  rw [← Bool.not_eq_true, reachedBy_limit_iff, not_not]

/-- A limit that has a place on the line and lets no step be taken from a depth lies before the
next. -/
theorem exceededBy_succ_of_not_allowsFrom {limit : DepthLimit} (hlimit : limit ≠ .undefined)
    {k : Nat} (h : limit.allowsFrom k = false) : limit.exceededBy (k + 1) = true := by
  cases limit with
  | undefined =>
      exact absurd rfl hlimit
  | below =>
      rfl
  | exact q =>
      have hq : q ≤ (k : Rat) := by
        have hnot : ¬ Extended.less (.exact (k : Rat)) (.exact q) = true := by
          simpa [allowsFrom] using h
        exact not_lt.1 fun hlt => hnot (exact_less_iff.2 hlt)
      rw [exceededBy, exact_less_iff, Nat.cast_succ]
      exact hq.trans_lt (lt_add_one _)
  | above =>
      simp [allowsFrom, Extended.less] at h

theorem exceededBy_mono {limit : DepthLimit} {j k : Nat} (hjk : j ≤ k)
    (h : limit.exceededBy j = true) : limit.exceededBy k = true := by
  cases limit with
  | undefined =>
      simp [exceededBy, Extended.less] at h
  | below =>
      rfl
  | exact q =>
      rw [exceededBy, exact_less_iff] at h ⊢
      exact lt_of_lt_of_le h (by exact_mod_cast hjk)
  | above =>
      simp [exceededBy, Extended.less] at h

theorem reachedBy_mono {limit : DepthLimit} {j k : Nat} (hjk : j ≤ k)
    (h : limit.reachedBy j = true) : limit.reachedBy k = true := by
  cases limit with
  | undefined =>
      simp [reachedBy, Extended.atMost, Extended.same, Extended.less] at h
  | below =>
      rfl
  | exact q =>
      rw [reachedBy, exact_atMost_iff] at h ⊢
      exact le_trans h (by exact_mod_cast hjk)
  | above =>
      simp [reachedBy, Extended.atMost, Extended.same, Extended.less] at h

theorem not_reachedBy_of_le {limit : DepthLimit} {j k : Nat} (hjk : j ≤ k)
    (h : limit.reachedBy k = false) : limit.reachedBy j = false := by
  rw [← Bool.not_eq_true] at h ⊢
  exact mt (reachedBy_mono hjk) h

end DepthLimit

theorem EntityId.lookupKey_toValue (id : EntityId) : Traversal.lookupKey id.toValue = .ok () := by
  cases id <;> rfl

theorem StepBound.limit_ne_undefined (bound : StepBound) : bound.limit ≠ .undefined := by
  cases bound <;> simp [limit, Extended.ofInt, DepthLimit.unlimited]

end GraphQuery
