import GraphQuery.Store.Connection
import Mathlib.Data.List.Basic
import Mathlib.Tactic.SplitIfs

/-!
# Order of keys — bytes in UTF-8 are ordered as code points

The bytes of two different characters differ before either ends, and the smaller code point has the smaller byte
there.  So texts come in the same order by their bytes and by their code points
(`StoreConnection.bytesAtMost_bytes`), and a store in a file lists its keys as one in memory does
(`StoreConnection.keys_eq`).
-/

namespace GraphQuery
namespace StoreConnection

/-! ## Bytes -/

theorem bytesAtMost_cons_iff {a b : Nat} {as bs : List Nat} :
    bytesAtMost (a :: as) (b :: bs) = true ↔ a < b ∨ a = b ∧ bytesAtMost as bs = true := by
  rw [bytesAtMost]
  by_cases h : a = b
  · simp [h]
  · simp [h]

theorem bytesAtMost_append_left (front as bs : List Nat) :
    bytesAtMost (front ++ as) (front ++ bs) = bytesAtMost as bs := by
  induction front with
  | nil =>
      rfl
  | cons a front ih =>
      rw [List.cons_append, List.cons_append, bytesAtMost, if_pos rfl, ih]

/-- The bytes of a code point in UTF-8. -/
def codePointBytes (n : Nat) : List Nat :=
  if n ≤ 0x7f then [n]
  else if n ≤ 0x7ff then [n / 64 + 0xc0, n % 64 + 0x80]
  else if n ≤ 0xffff then [n / 4096 + 0xe0, n / 64 % 64 + 0x80, n % 64 + 0x80]
  else [n / 262144 + 0xf0, n / 4096 % 64 + 0x80, n / 64 % 64 + 0x80, n % 64 + 0x80]

theorem toNat_lt (c : Char) : c.toNat < 0x110000 := by
  rcases c.valid with h | ⟨-, h⟩
  · exact Nat.lt_trans h (by decide)
  · exact h

theorem map_utf8EncodeChar (c : Char) : (String.utf8EncodeChar c).map UInt8.toNat = codePointBytes c.toNat := by
  have hc := toNat_lt c
  have hn : c.val.toNat = c.toNat := rfl
  have hbyte : ∀ m < 256, (UInt8.ofNat m).toNat = m := fun m hm => UInt8.toNat_ofNat_of_lt hm
  rw [String.utf8EncodeChar, codePointBytes]
  simp only [hn]
  split_ifs
  · simp only [List.map_cons, List.map_nil, List.cons.injEq, and_true]
    exact hbyte _ (by omega)
  · simp only [List.map_cons, List.map_nil, List.cons.injEq, and_true]
    refine ⟨(hbyte _ (by omega)).trans (by omega), hbyte _ (by omega)⟩
  · simp only [List.map_cons, List.map_nil, List.cons.injEq, and_true]
    exact ⟨(hbyte _ (by omega)).trans (by omega), hbyte _ (by omega), hbyte _ (by omega)⟩
  · simp only [List.map_cons, List.map_nil, List.cons.injEq, and_true]
    exact ⟨(hbyte _ (by omega)).trans (by omega), hbyte _ (by omega), hbyte _ (by omega), hbyte _ (by omega)⟩

/-- Of two code points the smaller has the smaller bytes, whatever follows them. -/
theorem bytesAtMost_codePointBytes {m n : Nat} (h : m < n) (hn : n < 0x110000) (as bs : List Nat) :
    bytesAtMost (codePointBytes m ++ as) (codePointBytes n ++ bs) = true ∧
      bytesAtMost (codePointBytes n ++ bs) (codePointBytes m ++ as) = false := by
  rw [← Bool.not_eq_true, codePointBytes, codePointBytes]
  split_ifs <;> simp only [List.cons_append, List.nil_append, bytesAtMost_cons_iff] <;> omega

theorem codePointBytes_ne_nil (n : Nat) : codePointBytes n ≠ [] := by
  rw [codePointBytes]
  split_ifs <;> exact List.cons_ne_nil _ _

/-! ## Texts -/

theorem bytesAtMost_flatMap (s t : List Char) :
    bytesAtMost (s.flatMap fun c => codePointBytes c.toNat) (t.flatMap fun c => codePointBytes c.toNat) = true ↔
      ¬ List.Lex (fun a b : Char => a < b) t s := by
  induction s generalizing t with
  | nil =>
      rw [List.flatMap_nil, bytesAtMost]
      exact ⟨fun _ => List.not_lex_nil, fun _ => rfl⟩
  | cons c s ih =>
      cases t with
      | nil =>
          obtain ⟨a, as, hbytes⟩ := List.exists_cons_of_ne_nil (codePointBytes_ne_nil c.toNat)
          rw [List.flatMap_cons, hbytes, List.cons_append, List.flatMap_nil, bytesAtMost]
          exact ⟨by rintro ⟨⟩, fun h => absurd .nil h⟩
      | cons d t =>
          rw [List.flatMap_cons, List.flatMap_cons, List.cons_lex_cons_iff]
          have hlt : ∀ {a b : Char}, a < b ↔ a.toNat < b.toNat := Iff.rfl
          -- Different first characters decide, whatever follows them; equal ones have the same bytes.
          rcases Nat.lt_trichotomy c.toNat d.toNat with hbelow | hequal | habove
          · have hdistinct : d ≠ c := by
              rintro rfl
              exact Nat.lt_irrefl _ hbelow
            rw [(bytesAtMost_codePointBytes hbelow (toNat_lt d) _ _).1]
            simp [hlt, Nat.lt_asymm hbelow, hdistinct]
          · cases Char.toNat_inj.1 hequal
            rw [bytesAtMost_append_left, ih]
            simp [hlt]
          · rw [(bytesAtMost_codePointBytes habove (toNat_lt c) _ _).2]
            simp [hlt, habove]

/-- Texts are ordered by their bytes as by their code points. -/
theorem bytesAtMost_bytes (a b : String) : bytesAtMost (bytes a) (bytes b) = decide (a ≤ b) := by
  have horder : a ≤ b ↔ ¬ List.Lex (fun c d : Char => c < d) b.toList a.toList := Iff.rfl
  rw [Bool.eq_iff_iff, decide_eq_true_eq, horder, ← bytesAtMost_flatMap, bytes, bytes]
  simp only [map_utf8EncodeChar]

/-- An open file lists its keys as a store in memory does. -/
theorem keys_eq (connection : StoreConnection) :
    connection.keys = connection.content.map KeyValues.keys := by
  have horder : (fun a b => bytesAtMost (bytes a) (bytes b)) = fun a b => decide (a ≤ b) :=
    funext₂ bytesAtMost_bytes
  rw [keys, horder]
  cases connection.content <;> rfl

end StoreConnection
end GraphQuery
