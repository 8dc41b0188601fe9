import GraphQuery.Proofs.Distinct
import GraphQuery.Search.History
import Mathlib.Data.List.Induction

/-!
# Recent queries — the most recently used, newest first

A history is used by adding queries and clearing it (`HistoryCall`).  After any such run it holds the distinct
queries that are not empty and were added since it was last cleared, those added latest first, as many of them as its
capacity allows (`SearchHistory.queries_areMostRecent`):

- cutting off before a query is moved to the front loses nothing that cutting off after it would keep
  (`SearchHistory.take_cons_erase`), so it does not matter that a history is cut after every step;
- the query that was recorded last is the newest one, so ignoring it leaves the order as it is, also where nothing is
  kept.
-/

namespace GraphQuery

/-! ## Runs -/

/-- A use of a history that changes it. -/
inductive HistoryCall where
  | add (query : String)
  | clear

namespace HistoryCall

def perform (history : SearchHistory) : HistoryCall → SearchHistory
  | add query => history.add (.text query)
  | clear => history.clear

def isClear : HistoryCall → Bool
  | add _ => false
  | clear => true

/-- The query that a call adds; the empty text is none. -/
def query? : HistoryCall → Option String
  | add query => if query = "" then none else some query
  | clear => none

/-- The queries that have been added since the last clearing, the latest first, each as often as it was added. -/
def newestFirst (calls : List HistoryCall) : List String :=
  (calls.reverse.takeWhile fun call => !call.isClear).filterMap query?

variable (calls : List HistoryCall)

@[simp] theorem newestFirst_nil : newestFirst [] = [] :=
  rfl

@[simp] theorem newestFirst_clear : newestFirst (calls ++ [clear]) = [] := by
  simp [newestFirst, isClear]

@[simp] theorem newestFirst_add_empty : newestFirst (calls ++ [add ""]) = newestFirst calls := by
  simp [newestFirst, isClear, query?]

theorem newestFirst_add {query : String} (hquery : query ≠ "") :
    newestFirst (calls ++ [add query]) = query :: newestFirst calls := by
  simp [newestFirst, isClear, query?, hquery]

end HistoryCall

namespace SearchHistory

/-- A history after calls made one after the other. -/
def run (history : SearchHistory) (calls : List HistoryCall) : SearchHistory := calls.foldl HistoryCall.perform history

/-! ## Moving to the front -/

/-- What is cut off before an item is moved to the front would be cut off after it. -/
theorem take_cons_erase {α : Type} [DecidableEq α] (n : Nat) (x : α) (xs : List α) :
    (x :: (xs.take n).erase x).take n = (x :: xs.erase x).take n := by
  cases n with
  | zero =>
      rfl
  | succ n =>
      rw [List.take_succ_cons, List.take_succ_cons]
      congr 1
      induction xs generalizing n with
      | nil =>
          rfl
      | cons y rest ih =>
          rw [List.take_succ_cons]
          by_cases hy : y = x
          · subst hy
            rw [List.erase_cons_head, List.erase_cons_head, List.take_take, Nat.min_self]
          · rw [List.erase_cons_tail (by simpa using hy), List.erase_cons_tail (by simpa using hy)]
            cases n with
            | zero =>
                rfl
            | succ n =>
                rw [List.take_succ_cons, List.take_succ_cons, ih]

theorem truncate_of_nonneg {α : Type} {capacity : Int} (h : 0 ≤ capacity) (xs : List α) :
    truncate capacity xs = xs.take capacity.toNat :=
  if_neg (Int.not_lt.2 h)

/-- A negative capacity keeps nothing, since a history starts with nothing and a single query is dropped. -/
theorem truncate_singleton_of_neg {α : Type} {capacity : Int} (h : capacity < 0) (x : α) :
    truncate capacity [x] = [] := by
  have hnone : [x].length - (-capacity).toNat = 0 := by
    rw [List.length_singleton]
    omega
  rw [truncate, if_pos h, hnone, List.take_zero]

theorem promote_text (query : String) (texts : List String) :
    promote (.text query) (texts.map .text) = (query :: texts.erase query).map .text := by
  have hsame : ∀ s t : String, (Value.text s == Value.text t) = (s == t) := by
    intro s t
    show Value.same (.text s) (.text t) = _
    rw [Value.same]
  rw [promote, List.map_cons]
  congr 1
  induction texts with
  | nil =>
      rfl
  | cons first rest ih =>
      rw [List.map_cons, List.erase_cons, List.erase_cons, hsame]
      split
      · rfl
      · rw [List.map_cons, ih]

/-! ## What a history holds -/

/-- Whether a history holds the most recent of queries that were added, which are given with the latest first. -/
structure HoldsRecent (capacity : Int) (added : List String) (history : SearchHistory) : Prop where
  capacity_eq : history.capacity = capacity
  queries_eq : history.queries = (added.eraseDups.take capacity.toNat).map .text
  last_eq : history.last = .text (added.head?.getD "")

namespace HoldsRecent

variable {capacity : Int} {added : List String} {history : SearchHistory}

theorem withCapacity (capacity : Int) : HoldsRecent capacity [] (.withCapacity capacity) where
  capacity_eq := rfl
  queries_eq := by
    simp [SearchHistory.withCapacity]
  last_eq := rfl

theorem clear (h : HoldsRecent capacity added history) : HoldsRecent capacity [] history.clear where
  capacity_eq := h.capacity_eq
  queries_eq := by
    simp [SearchHistory.clear]
  last_eq := rfl

theorem ignores_iff (h : HoldsRecent capacity added history) {query : String} :
    history.ignores (.text query) = true ↔ query = "" ∨ query = added.head?.getD "" := by
  have hsame : (Value.text query == history.last) = (query == added.head?.getD "") := by
    rw [h.last_eq]
    show Value.same (.text query) (.text _) = _
    rw [Value.same]
  rw [ignores, hsame]
  simp [Value.isTruthy]

/-- Adding a query moves it to the front, whether it is the one recorded last, is held further back, or is new. -/
theorem add (h : HoldsRecent capacity added history) {query : String} (hquery : query ≠ "") :
    HoldsRecent capacity (query :: added) (history.add (.text query)) := by
  by_cases hlast : history.ignores (.text query) = true
  · -- The query is the newest one already, so it has been put in front of itself.
    rw [SearchHistory.add, if_pos hlast]
    cases added with
    | nil =>
        exact absurd (h.ignores_iff.1 hlast) (by simp [hquery])
    | cons newest rest =>
        obtain rfl : query = newest := by simpa [hquery] using h.ignores_iff.1 hlast
        have htwice : (query :: query :: rest).eraseDups = (query :: rest).eraseDups := by
          simp [List.eraseDups_cons]
        exact ⟨h.capacity_eq, htwice ▸ h.queries_eq, h.last_eq⟩
  · rw [SearchHistory.add, if_neg hlast]
    refine ⟨h.capacity_eq, ?_, rfl⟩
    show truncate history.capacity (promote (.text query) history.queries) = _
    rw [h.capacity_eq, h.queries_eq, promote_text, Distinct.eraseDups_cons_eq, ← take_cons_erase]
    by_cases hneg : capacity < 0
    · have hnone : capacity.toNat = 0 := by omega
      rw [hnone, List.take_zero, List.take_zero]
      exact truncate_singleton_of_neg hneg _
    · rw [truncate_of_nonneg (Int.not_lt.1 hneg), List.map_take]

theorem perform (h : HoldsRecent capacity (HistoryCall.newestFirst calls) history) (call : HistoryCall) :
    HoldsRecent capacity (HistoryCall.newestFirst (calls ++ [call])) (call.perform history) := by
  cases call with
  | clear =>
      rw [HistoryCall.newestFirst_clear]
      exact h.clear
  | add query =>
      by_cases hquery : query = ""
      · subst hquery
        rw [HistoryCall.newestFirst_add_empty]
        have hignored : history.ignores (.text "") = true := h.ignores_iff.2 (Or.inl rfl)
        rw [HistoryCall.perform, SearchHistory.add, if_pos hignored]
        exact h
      · rw [HistoryCall.newestFirst_add _ hquery]
        exact h.add hquery

end HoldsRecent

theorem holdsRecent_run (capacity : Int) (calls : List HistoryCall) :
    HoldsRecent capacity (HistoryCall.newestFirst calls) ((withCapacity capacity).run calls) := by
  induction calls using List.reverseRecOn with
  | nil =>
      exact .withCapacity capacity
  | append_singleton calls call ih =>
      rw [run, List.foldl_append]
      exact ih.perform call

/-- A history holds the distinct queries that were added since it was last cleared, the latest first, up to its
capacity; a negative capacity counts as none. -/
theorem queries_areMostRecent (capacity : Int) (calls : List HistoryCall) :
    ∃ recent : List String,
      ((withCapacity capacity).run calls).queries = recent.map .text ∧
        recent = (HistoryCall.newestFirst calls).eraseDups.take (max capacity 0).toNat ∧
        recent.Nodup ∧ (recent.length : Int) ≤ max capacity 0 := by
  have hcapacity : (max capacity 0).toNat = capacity.toNat := by omega
  have hdistinct := Distinct.nodup_eraseDups (HistoryCall.newestFirst calls)
  refine ⟨_, (holdsRecent_run capacity calls).queries_eq, by rw [hcapacity], ?_, ?_⟩
  · exact hdistinct.sublist (List.take_sublist _ _)
  · rw [List.length_take]
    omega

-- The first query is used again, so it is the second one that is cut off.
example :
    ((withCapacity 2).run [.add "a", .add "b", .add "a", .add "", .add "c"]).queries.map Value.text? =
      [some "c", some "a"] := by
  decide +kernel

end SearchHistory
end GraphQuery
