import GraphQuery.Graph.Document
import GraphQuery.Proofs.Filter.Export

/-!
# Documents of values — finite JSON values are their own plain forms

A finite JSON value is one that has no infinities and no undefined numbers in it (`Value.IsFiniteJson`).  Its plain
form is this value itself, unless it is nested too deep to have one (`Value.IsFiniteJson.plainAsIs`).  Whatever makes
the plain forms of free-form fields is asked no more than this (`KeepsFiniteJson`).
-/

namespace GraphQuery
namespace Value

/-- Whether a value is one that a JSON text can stand for, with finite numbers only. -/
inductive IsFiniteJson : Value → Prop where
  | null : IsFiniteJson .null
  | bool (b : Bool) : IsFiniteJson (.bool b)
  | int (n : Int) : IsFiniteJson (.int n)
  | float {x : Binary64} (canonical : x.IsCanonical) (finite : x.toRat?.isSome = true) : IsFiniteJson (.float x)
  | text (s : String) : IsFiniteJson (.text s)
  | list {items : List Value} (items_isFiniteJson : ∀ x ∈ items, IsFiniteJson x) : IsFiniteJson (.list items)
  | mapping {entries : Fields} (distinct : (Fields.names entries).Nodup)
      (entries_isFiniteJson : ∀ entry ∈ entries, IsFiniteJson entry.2) : IsFiniteJson (.mapping entries)

theorem IsFiniteJson.isJson {v : Value} (h : v.IsFiniteJson) : v.IsJson := by
  induction h with
  | null => exact .null
  | bool b => exact .bool b
  | int n => exact .int n
  | float canonical _ => exact .float canonical
  | text s => exact .text s
  | list _ ih => exact .list ih
  | mapping distinct _ ih => exact .mapping distinct ih

/-! ## Plain forms -/

/-- The values that are taken as they are, if they are taken at all. -/
def PlainAsIs (x : Value) : Prop := ∀ levels plain, x.plainWithin levels = .ok plain → plain = x

theorem eq_of_plainItems {items : List Value} (h : ∀ x ∈ items, x.PlainAsIs) {levels : Nat} {plain : List Value}
    (hplain : plainItems levels items = .ok plain) : plain = items := by
  induction items generalizing plain with
  | nil =>
      cases hplain
      rfl
  | cons x xs ih =>
      obtain ⟨hx, hxs⟩ := List.forall_mem_cons.1 h
      rw [plainItems] at hplain
      obtain ⟨y, hy, hplain⟩ := Outcome.exists_of_bind_eq_ok hplain
      obtain ⟨ys, hys, hplain⟩ := Outcome.exists_of_bind_eq_ok hplain
      cases hplain
      rw [hx levels y hy, ih hxs hys]

theorem eq_of_plainEntries {entries : Fields} (h : ∀ entry ∈ entries, entry.2.PlainAsIs) {levels : Nat}
    {plain : Fields} (hplain : plainEntries levels entries = .ok plain) : plain = entries := by
  induction entries generalizing plain with
  | nil =>
      cases hplain
      rfl
  | cons entry rest ih =>
      obtain ⟨name, x⟩ := entry
      obtain ⟨hx, hrest⟩ := List.forall_mem_cons.1 h
      rw [plainEntries] at hplain
      obtain ⟨y, hy, hplain⟩ := Outcome.exists_of_bind_eq_ok hplain
      obtain ⟨ys, hys, hplain⟩ := Outcome.exists_of_bind_eq_ok hplain
      cases hplain
      rw [hx levels y hy, ih hrest hys]

/-- A finite JSON value is its own plain form, or it has too many levels. -/
theorem IsFiniteJson.plainAsIs {v : Value} (h : v.IsFiniteJson) : v.PlainAsIs := by
  -- No value has a plain form of no levels; the parts of a list or mapping have one level less to go.
  induction h with
  | null | bool b | int n | text s =>
      rintro (_ | levels) plain ⟨⟩
      rfl
  | float canonical finite =>
      rintro (_ | levels) plain hplain
      · cases hplain
      · rw [plainWithin, if_pos finite] at hplain
        cases hplain
        rfl
  | list _ ih =>
      rintro (_ | levels) plain hplain
      · cases hplain
      · rw [plainWithin] at hplain
        obtain ⟨items, hitems, rfl⟩ := Outcome.exists_of_map_eq_ok hplain
        rw [eq_of_plainItems ih hitems]
  | mapping _ _ ih =>
      rintro (_ | levels) plain hplain
      · cases hplain
      · rw [plainWithin] at hplain
        obtain ⟨entries, hentries, rfl⟩ := Outcome.exists_of_map_eq_ok hplain
        rw [eq_of_plainEntries ih hentries]

/-- The parts of a mapping that is finite JSON. -/
theorem IsFiniteJson.of_mapping {fields : Fields} (h : (Value.mapping fields).IsFiniteJson) :
    (Fields.names fields).Nodup ∧ ∀ entry ∈ fields, entry.2.IsFiniteJson := by
  cases h with
  | mapping distinct each =>
      exact ⟨distinct, each⟩

end Value

/-- Whether fields that are finite JSON are left as they are, if they have a plain form. -/
def KeepsFiniteJson (dump : Fields → Outcome Fields) : Prop :=
  ∀ fields, (Value.mapping fields).IsFiniteJson → ∀ plain, dump fields = .ok plain → plain = fields

theorem Fields.keepsFiniteJson_plain : KeepsFiniteJson Fields.plain := by
  intro fields hfields plain hplain
  obtain ⟨-, heach⟩ := hfields.of_mapping
  exact Value.eq_of_plainEntries (fun entry hentry => (heach entry hentry).plainAsIs) hplain

/-! ## Nested lists -/

namespace FilterShelf

theorem isFiniteJson_nested (depth : Nat) : (nested depth).IsFiniteJson := by
  induction depth with
  | zero =>
      exact .list (List.forall_mem_nil _)
  | succ depth ih =>
      exact .list (List.forall_mem_singleton.2 ih)

theorem isFiniteJson_mapping_nested (name : String) (depth : Nat) :
    (Value.mapping [(name, nested depth)]).IsFiniteJson :=
  .mapping (List.nodup_singleton _) (List.forall_mem_singleton.2 (isFiniteJson_nested depth))

theorem plainWithin_nested {levels depth : Nat} (h : levels ≤ depth) :
    (nested depth).plainWithin levels = .error (.argument .nestedTooFar) := by
  induction levels generalizing depth with
  | zero =>
      rw [Value.plainWithin]
  | succ levels ih =>
      obtain ⟨depth, rfl⟩ := Nat.exists_eq_succ_of_ne_zero (Nat.ne_zero_of_lt h)
      rw [nested, Value.plainWithin, Value.plainItems, ih (Nat.le_of_succ_le_succ h)]
      rfl

/-- Lists that are nested too deep have no plain form. -/
theorem plain_nested_too_deep {depth : Nat} (h : Value.documentLevels ≤ depth) (name : String) :
    Fields.plain [(name, nested depth)] = .error (.argument .nestedTooFar) := by
  rw [Fields.plain, Value.plainEntries, plainWithin_nested h]
  rfl

end FilterShelf
end GraphQuery
