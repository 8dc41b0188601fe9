import GraphQuery.Proofs.Json.RoundTrip
import GraphQuery.Proofs.Value.Texts

/-!
# Short integers — which JSON values have a text

Integers with very many digits are not converted to texts, and nothing else keeps a JSON value from being written:
it has a text exactly if all integers in it are short (`Json.exists_chars_iff`).  Nor are they read, so that all
integers in what is read are short (`Json.readsEach_hasShortIntegers`), and all that is read can be shown
(`Json.hasText_of_parse`).
-/

namespace GraphQuery
namespace Value

/-- Whether an integer stands in a value, at any depth. -/
inductive HoldsInteger (n : Int) : Value → Prop where
  | int : HoldsInteger n (.int n)
  | list {items : List Value} {x : Value} (mem : x ∈ items) (holds : HoldsInteger n x) :
      HoldsInteger n (.list items)
  | mapping {entries : Fields} {entry : String × Value} (mem : entry ∈ entries)
      (holds : HoldsInteger n entry.2) : HoldsInteger n (.mapping entries)

/-- Whether no integer in a value has more digits than are converted. -/
def HasShortIntegers (v : Value) : Prop :=
  ∀ n, v.HoldsInteger n → (Number.natDigits n.natAbs).length ≤ Text.integerDigitLimit

theorem hasShortIntegers_int {n : Int} :
    (Value.int n).HasShortIntegers ↔ (Number.natDigits n.natAbs).length ≤ Text.integerDigitLimit := by
  constructor
  · exact fun h => h n .int
  · rintro h _ ⟨⟩
    exact h

theorem hasShortIntegers_list {items : List Value} :
    (Value.list items).HasShortIntegers ↔ ∀ x ∈ items, x.HasShortIntegers := by
  constructor
  · exact fun h x hx n hn => h n (.list hx hn)
  · rintro h n (_ | ⟨hx, hn⟩ | _)
    exact h _ hx n hn

theorem hasShortIntegers_mapping {entries : Fields} :
    (Value.mapping entries).HasShortIntegers ↔ ∀ entry ∈ entries, entry.2.HasShortIntegers := by
  constructor
  · exact fun h entry hentry n hn => h n (.mapping hentry hn)
  · rintro h n (_ | _ | ⟨hentry, hn⟩)
    exact h _ hentry n hn

/-- The integers of a JSON value decide whether it can be shown, too. -/
theorem IsJson.hasText_iff {v : Value} (hv : v.IsJson) : v.HasText ↔ v.HasShortIntegers := by
  induction hv with
  | null | bool b | float canonical | text s =>
      exact ⟨by rintro - n ⟨⟩, fun _ => rfl⟩
  | int n =>
      rw [hasText_int, hasShortIntegers_int]
  | list _ ih =>
      rw [hasText_list, hasShortIntegers_list]
      exact forall₂_congr ih
  | mapping _ _ ih =>
      rw [hasText_mapping, hasShortIntegers_mapping]
      exact forall₂_congr ih

end Value

namespace Json

variable {style : Style}

theorem exists_integerText_iff {n : Int} :
    (∃ text, integerText n = .ok text) ↔ (Value.int n).HasShortIntegers := by
  rw [Value.hasShortIntegers_int, integerText]
  split_ifs with hlong
  · simp [hlong]
  · simp [not_lt.1 hlong]

theorem exists_itemChars_iff {depth : Nat} {items : List Value} :
    (∃ parts, itemChars style depth items = .ok parts) ↔
      ∀ x ∈ items, ∃ cs, chars style depth x = .ok cs := by
  induction items with
  | nil =>
      exact ⟨fun _ => List.forall_mem_nil _, fun _ => ⟨[], rfl⟩⟩
  | cons x xs ih =>
      rw [List.forall_mem_cons, ← ih]
      constructor
      · rintro ⟨parts, hparts⟩
        obtain ⟨first, more, hx, hxs, -⟩ := itemChars_cons hparts
        exact ⟨⟨first, hx⟩, more, hxs⟩
      · rintro ⟨⟨first, hx⟩, more, hxs⟩
        exact ⟨first :: more, by rw [itemChars, hx, hxs]; rfl⟩

theorem exists_memberChars_iff {depth : Nat} {entries : Fields} :
    (∃ parts, memberChars style depth entries = .ok parts) ↔
      ∀ entry ∈ entries, ∃ cs, chars style depth entry.2 = .ok cs := by
  induction entries with
  | nil =>
      exact ⟨fun _ => List.forall_mem_nil _, fun _ => ⟨[], rfl⟩⟩
  | cons entry rest ih =>
      obtain ⟨name, x⟩ := entry
      rw [List.forall_mem_cons, ← ih]
      constructor
      · rintro ⟨parts, hparts⟩
        obtain ⟨first, more, hx, hxs, -⟩ := memberChars_cons hparts
        exact ⟨⟨first, hx⟩, more, hxs⟩
      · rintro ⟨⟨first, hx⟩, more, hxs⟩
        exact ⟨_, by rw [memberChars, hx, hxs]; rfl⟩

/-- A JSON value has a text exactly if its integers are short. -/
theorem exists_chars_iff {v : Value} (hv : v.IsJson) {depth : Nat} :
    (∃ cs, chars style depth v = .ok cs) ↔ v.HasShortIntegers := by
  -- Only integers can be refused, and they are reached through lists and mappings alone.
  induction hv generalizing depth with
  | null | bool b | float canonical | text s =>
      exact ⟨by rintro - n ⟨⟩, fun _ => ⟨_, rfl⟩⟩
  | int n =>
      rw [chars, Outcome.exists_map_eq_ok_iff, exists_integerText_iff]
  | list _ ih =>
      rw [chars, Outcome.exists_map_eq_ok_iff, exists_itemChars_iff, Value.hasShortIntegers_list]
      exact forall₂_congr fun x hx => ih x hx
  | mapping _ _ ih =>
      rw [chars, Outcome.exists_map_eq_ok_iff, exists_memberChars_iff, Value.hasShortIntegers_mapping]
      exact forall₂_congr fun entry hentry => ih entry hentry

/-! ## What is read -/

theorem hasShortIntegers_of_mem_wordValues {entry : List Char × Value} (h : entry ∈ wordValues) :
    entry.2.HasShortIntegers := by
  simp only [wordValues, List.mem_cons, List.not_mem_nil, or_false] at h
  rcases h with rfl | rfl | rfl | rfl | rfl | rfl <;> rintro n ⟨⟩

theorem isDigit_of_mem_integerDigits {s : List Char} : ∀ c ∈ (integerDigits s).1, c.isDigit = true := by
  fun_cases integerDigits s with
  | case1 rest =>
      exact List.forall_mem_singleton.2 (by decide)
  | case2 s _ =>
      exact fun c => List.mem_takeWhile_imp

/-- An integer is read from no more digits than are converted, and has no more of them. -/
theorem hasShortIntegers_of_number {negative : Bool} {s rest : List Char} {v : Value}
    (h : number negative s = .ok (v, rest)) : v.HasShortIntegers := by
  have hdigits : ∀ {n : Int}, n.natAbs = Number.basicValue (integerDigits s).1 →
      (integerDigits s).1.isEmpty = false → (integerDigits s).1.length ≤ Text.integerDigitLimit →
      (Value.int n).HasShortIntegers := by
    intro n hn hsome hfew
    rw [Value.hasShortIntegers_int, hn]
    exact (Number.length_natDigits_basicValue_le isDigit_of_mem_integerDigits (by simpa using hsome)).trans hfew
  rw [number] at h
  simp only at h
  split_ifs at h with hwhole hinteger hlong hsign
  · cases h
    exact hdigits (by simp) (by simpa using hwhole) (Nat.le_of_not_lt hlong)
  · cases h
    exact hdigits (by simp) (by simpa using hwhole) (Nat.le_of_not_lt hlong)
  · cases h
    rintro n ⟨⟩

theorem hasShortIntegers_of_scalar {s rest : List Char} {v : Value} (h : scalar s = .ok (v, rest)) :
    v.HasShortIntegers := by
  unfold scalar at h
  split at h
  · case h_1 word w hfound =>
      cases h
      exact hasShortIntegers_of_mem_wordValues (List.mem_of_find?_eq_some hfound)
  · split at h
    · split at h
      · cases h
        rintro n ⟨⟩
      · cases h
    · exact hasShortIntegers_of_number h
    · exact hasShortIntegers_of_number h

theorem readsEach_hasShortIntegers : ReadsEach Value.HasShortIntegers where
  scalar := hasShortIntegers_of_scalar
  list := Value.hasShortIntegers_list.2
  mapping := by
    intro xs hxs
    refine Value.hasShortIntegers_mapping.2 fun entry hentry => ?_
    obtain ⟨given, hgiven, hvalue⟩ := Fields.mem_ofEntries hentry
    exact hvalue ▸ hxs given hgiven

theorem hasText_of_parse {s : String} {room : Nat} {v : Value} (h : parse s room = .ok v) : v.HasText :=
  (isJson_of_parse h).hasText_iff.2 (readsEach_hasShortIntegers.of_parse h)

end Json

end GraphQuery
