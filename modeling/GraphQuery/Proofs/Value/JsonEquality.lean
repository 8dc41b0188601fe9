import GraphQuery.Criteria.Comparison
import GraphQuery.Proofs.Json.RoundTrip
import Mathlib.Data.List.Perm.Subperm

/-!
# Strict equality — truth values and numbers inside JSON values

Two JSON values are the same if they are equal numbers, or otherwise of one kind and made of the same values
(`Value.SameJson`); a truth value is the same as no number.  Strict equality looks at this distinction once, for the
two values as wholes.  Inside them a truth value counts as zero or one:

- `Value.numbered` puts these numbers in the place of truth values;
- `Value.same_iff` — equality is to be the same with these numbers put in;
- `Operator.eq_comparesOutermost` — so strict equality holds of the same values, and of values that differ inside by
  true and one, or false and zero.
-/

namespace GraphQuery
namespace Value

/-- Two JSON values are the same: equal numbers, truth values or texts, lists item by item, and mappings name by
name. -/
inductive SameJson : Value → Value → Prop where
  | null : SameJson .null .null
  | bool (b : Bool) : SameJson (.bool b) (.bool b)
  | number {x y : Value} {p q : Extended} (left_isBool : x.isBool = false) (right_isBool : y.isBool = false)
      (left : x.number? = some p) (right : y.number? = some q) (same : p.same q = true) : SameJson x y
  | text (s : String) : SameJson (.text s) (.text s)
  | list {xs ys : List Value} (length : xs.length = ys.length)
      (items : ∀ (i : Nat) x y, xs[i]? = some x → ys[i]? = some y → SameJson x y) : SameJson (.list xs) (.list ys)
  | mapping {xs ys : Fields} (names : ∀ name, name ∈ Fields.names xs ↔ name ∈ Fields.names ys)
      (members : ∀ name x y, Fields.get? xs name = some x → Fields.get? ys name = some y → SameJson x y) :
      SameJson (.mapping xs) (.mapping ys)

/-! ## Truth values as numbers -/

mutual

/-- A value with zero and one in the place of the truth values in it. -/
def numbered : Value → Value
  | .bool b => .int (if b then 1 else 0)
  | .list items => .list (numberedItems items)
  | .mapping entries => .mapping (numberedEntries entries)
  | v => v

def numberedItems : List Value → List Value
  | [] => []
  | x :: xs => numbered x :: numberedItems xs

def numberedEntries : List (String × Value) → List (String × Value)
  | [] => []
  | (key, x) :: xs => (key, numbered x) :: numberedEntries xs

end

theorem numberedItems_eq_map (items : List Value) : numberedItems items = items.map numbered := by
  induction items with
  | nil =>
      rfl
  | cons x xs ih =>
      rw [numberedItems, ih, List.map_cons]

theorem numberedEntries_eq_map (entries : Fields) :
    numberedEntries entries = entries.map fun entry => (entry.1, entry.2.numbered) := by
  induction entries with
  | nil =>
      rfl
  | cons entry rest ih =>
      rw [numberedEntries, ih, List.map_cons]

theorem isBool_numbered (v : Value) : v.numbered.isBool = false := by
  cases v <;> rfl

/-- A truth value and its number have one place on the line. -/
theorem number?_numbered (v : Value) : v.numbered.number? = v.number? := by
  cases v <;> rfl

/-! ## The same values -/

section Same

variable {x y : Value} {p : Extended}

theorem sameJson_iff_of_number (hx : x.isBool = false) (hp : x.number? = some p) :
    SameJson x y ↔ y.isBool = false ∧ ∃ q, y.number? = some q ∧ p.same q = true := by
  constructor
  · intro h
    cases h with
    | number _ hy hp' hq hsame =>
        rw [hp] at hp'
        cases hp'
        exact ⟨hy, _, hq, hsame⟩
    | bool b =>
        cases hx
    | _ =>
        cases hp
  · rintro ⟨hy, q, hq, hsame⟩
    exact .number hx hy hp hq hsame

theorem sameJson_null_iff : SameJson .null y ↔ y = .null := by
  constructor
  · intro h
    cases h with
    | null =>
        rfl
    | number _ _ hp _ _ =>
        cases hp
  · rintro rfl
    exact .null

theorem sameJson_text_iff {s : String} : SameJson (.text s) y ↔ y = .text s := by
  constructor
  · intro h
    cases h with
    | text =>
        rfl
    | number _ _ hp _ _ =>
        cases hp
  · rintro rfl
    exact .text s

theorem SameJson.exists_list {xs : List Value} (h : SameJson (.list xs) y) : ∃ ys, y = .list ys := by
  cases h with
  | number _ _ hp _ _ =>
      cases hp
  | list =>
      exact ⟨_, rfl⟩

theorem SameJson.exists_mapping {xs : Fields} (h : SameJson (.mapping xs) y) : ∃ ys, y = .mapping ys := by
  cases h with
  | number _ _ hp _ _ =>
      cases hp
  | mapping =>
      exact ⟨_, rfl⟩

theorem sameJson_list_iff {xs ys : List Value} :
    SameJson (.list xs) (.list ys) ↔
      xs.length = ys.length ∧ ∀ (i : Nat) a b, xs[i]? = some a → ys[i]? = some b → SameJson a b := by
  constructor
  · intro h
    cases h with
    | number _ _ hp _ _ =>
        cases hp
    | list hlength hitems =>
        exact ⟨hlength, hitems⟩
  · rintro ⟨hlength, hitems⟩
    exact .list hlength hitems

theorem sameJson_mapping_iff {xs ys : Fields} :
    SameJson (.mapping xs) (.mapping ys) ↔ (∀ name, name ∈ Fields.names xs ↔ name ∈ Fields.names ys) ∧
      ∀ name a b, Fields.get? xs name = some a → Fields.get? ys name = some b → SameJson a b := by
  constructor
  · intro h
    cases h with
    | number _ _ hp _ _ =>
        cases hp
    | mapping hnames hmembers =>
        exact ⟨hnames, hmembers⟩
  · rintro ⟨hnames, hmembers⟩
    exact .mapping hnames hmembers

/-- Items are the same with numbers put in if each one is. -/
theorem sameJson_numbered_list_iff {xs ys : List Value} :
    SameJson (numbered (.list xs)) (numbered (.list ys)) ↔ xs.length = ys.length ∧
      ∀ (i : Nat) a b, xs[i]? = some a → ys[i]? = some b → SameJson a.numbered b.numbered := by
  rw [numbered, numbered, sameJson_list_iff, numberedItems_eq_map, numberedItems_eq_map, List.length_map,
    List.length_map]
  refine and_congr_right fun _ => forall_congr' fun i => ?_
  rw [List.getElem?_map, List.getElem?_map]
  cases xs[i]? <;> cases ys[i]? <;> simp

/-- Members are the same with numbers put in if each one is. -/
theorem sameJson_numbered_mapping_iff {xs ys : Fields} :
    SameJson (numbered (.mapping xs)) (numbered (.mapping ys)) ↔
      (∀ name, name ∈ Fields.names xs ↔ name ∈ Fields.names ys) ∧
        ∀ name a b, Fields.get? xs name = some a → Fields.get? ys name = some b →
          SameJson a.numbered b.numbered := by
  rw [numbered, numbered, sameJson_mapping_iff, numberedEntries_eq_map, numberedEntries_eq_map, Fields.names_map,
    Fields.names_map]
  refine and_congr_right fun _ => forall_congr' fun name => ?_
  rw [Fields.get?_map, Fields.get?_map]
  cases Fields.get? xs name <;> cases Fields.get? ys name <;> simp

end Same

/-! ## Equality -/

/-- Lists are equal if they have one length and equal items in the same places. -/
theorem sameItems_iff {xs ys : List Value} :
    sameItems xs ys = true ↔ xs.length = ys.length ∧
      ∀ (i : Nat) a b, xs[i]? = some a → ys[i]? = some b → same a b = true := by
  induction xs generalizing ys with
  | nil =>
      cases ys <;> simp [sameItems]
  | cons x xs ih =>
      cases ys with
      | nil =>
          simp [sameItems]
      | cons y ys =>
          rw [sameItems, Bool.and_eq_true, ih, List.length_cons, List.length_cons, Nat.succ_inj]
          constructor
          · rintro ⟨hfirst, hlength, hrest⟩
            refine ⟨hlength, fun i a b ha hb => ?_⟩
            cases i with
            | zero =>
                cases ha
                cases hb
                exact hfirst
            | succ i =>
                exact hrest i a b ha hb
          · rintro ⟨hlength, hitems⟩
            exact ⟨hitems 0 x y rfl rfl, hlength, fun i a b ha hb => hitems (i + 1) a b ha hb⟩

theorem entriesAmong_iff {xs ys : Fields} :
    entriesAmong xs ys = true ↔ ∀ entry ∈ xs, ∃ b, Fields.get? ys entry.1 = some b ∧ same entry.2 b = true := by
  induction xs with
  | nil =>
      simp [entriesAmong]
  | cons entry rest ih =>
      rw [entriesAmong, Bool.and_eq_true, ih, List.forall_mem_cons, Option.any_eq_true]

/-- Mappings of distinct names are equal if they have the same names and equal values under each of them. -/
theorem same_mapping_iff {xs ys : Fields} (hxs : (Fields.names xs).Nodup) (hys : (Fields.names ys).Nodup) :
    same (.mapping xs) (.mapping ys) = true ↔ (∀ name, name ∈ Fields.names xs ↔ name ∈ Fields.names ys) ∧
      ∀ name a b, Fields.get? xs name = some a → Fields.get? ys name = some b → same a b = true := by
  rw [same, Bool.and_eq_true, beq_iff_eq, entriesAmong_iff]
  constructor
  · rintro ⟨hlength, hentries⟩
    have hsubset : Fields.names xs ⊆ Fields.names ys := by
      intro name hname
      obtain ⟨a, ha⟩ := Fields.mem_names_iff.1 hname
      obtain ⟨b, hb, -⟩ := hentries _ (Fields.mem_of_get? ha)
      exact Fields.mem_names_iff.2 ⟨b, hb⟩
    -- There are as many names on both sides, so none is left over.
    have hperm : (Fields.names xs).Perm (Fields.names ys) :=
      (hxs.subperm hsubset).perm_of_length_le (by simp [Fields.names, hlength])
    refine ⟨fun name => hperm.mem_iff, fun name a b ha hb => ?_⟩
    obtain ⟨b', hb', hsame⟩ := hentries _ (Fields.mem_of_get? ha)
    exact Option.some.inj (hb'.symm.trans hb) ▸ hsame
  · rintro ⟨hnames, hmembers⟩
    have hperm : (Fields.names xs).Perm (Fields.names ys) := (List.perm_ext_iff_of_nodup hxs hys).2 hnames
    refine ⟨by simpa [Fields.names] using hperm.length_eq, fun entry hentry => ?_⟩
    obtain ⟨b, hb⟩ := Fields.mem_names_iff.1 ((hnames entry.1).1 (List.mem_map_of_mem hentry))
    exact ⟨b, hb, hmembers entry.1 entry.2 b (Fields.get?_of_mem hxs hentry) hb⟩

variable {x y : Value}

theorem same_iff_of_number {p : Extended} (hp : x.number? = some p) :
    same x y = true ↔ SameJson x.numbered y.numbered := by
  have hsame : same x y = y.number?.any p.same := by
    cases x with
    | bool b | int n | float z =>
        cases hp
        rw [same]
    | _ =>
        cases hp
  rw [hsame, sameJson_iff_of_number (isBool_numbered x) ((number?_numbered x).trans hp), number?_numbered,
    isBool_numbered, Option.any_eq_true]
  exact ⟨fun h => ⟨rfl, h⟩, fun h => h.2⟩

/-- Equality does not tell a truth value from its number, at any depth. -/
theorem same_iff (hx : x.IsJson) (hy : y.IsJson) : same x y = true ↔ SameJson x.numbered y.numbered := by
  induction hx generalizing y with
  | bool b =>
      exact same_iff_of_number rfl
  | int n =>
      exact same_iff_of_number rfl
  | float canonical =>
      exact same_iff_of_number rfl
  | null =>
      show same .null y = true ↔ SameJson .null y.numbered
      rw [sameJson_null_iff]
      cases hy <;> simp [same, isNull, numbered]
  | text s =>
      show same (.text s) y = true ↔ SameJson (.text s) y.numbered
      rw [sameJson_text_iff]
      cases hy with
      | text t =>
          rw [same, beq_iff_eq]
          exact ⟨fun h => h ▸ rfl, fun h => (text.inj h).symm⟩
      | _ =>
          exact iff_of_false (by simp [same]) (by simp [numbered])
  | list hxs ih =>
      cases hy with
      | list hys =>
          rw [same, sameItems_iff, sameJson_numbered_list_iff]
          exact and_congr_right fun _ => forall₅_congr fun i a b ha hb =>
            ih a (List.mem_of_getElem? ha) (hys b (List.mem_of_getElem? hb))
      | _ =>
          exact iff_of_false (by simp [same]) fun h => by simpa [numbered] using h.exists_list
  | mapping hxs _ ih =>
      cases hy with
      | mapping hys hentries =>
          rw [same_mapping_iff hxs hys, sameJson_numbered_mapping_iff]
          exact and_congr_right fun _ => forall₅_congr fun name a b ha hb =>
            ih _ (Fields.mem_of_get? ha) (hentries _ (Fields.mem_of_get? hb))
      | _ =>
          exact iff_of_false (by simp [same]) fun h => by simpa [numbered] using h.exists_mapping

/-! ## The same values and strict equality -/

theorem SameJson.isBool_eq (h : SameJson x y) : x.isBool = y.isBool := by
  cases h with
  | number hx hy _ _ _ =>
      rw [hx, hy]
  | _ =>
      rfl

theorem numbered_of_number {p : Extended} (hx : x.isBool = false) (hp : x.number? = some p) : x.numbered = x := by
  cases x with
  | bool b =>
      cases hx
  | int n | float z =>
      rfl
  | _ =>
      cases hp

/-- The same values stay the same with numbers put in. -/
theorem SameJson.numbered (h : SameJson x y) : SameJson x.numbered y.numbered := by
  induction h with
  | null =>
      exact .null
  | bool b =>
      exact .number rfl rfl rfl rfl (Extended.same_self (by simp [Extended.ofInt]))
  | number hx hy hp hq hsame =>
      rw [numbered_of_number hx hp, numbered_of_number hy hq]
      exact .number hx hy hp hq hsame
  | text s =>
      exact .text s
  | list hlength _ ih =>
      exact sameJson_numbered_list_iff.2 ⟨hlength, ih⟩
  | mapping hnames _ ih =>
      exact sameJson_numbered_mapping_iff.2 ⟨hnames, ih⟩

theorem eq_of_sameJson_numbered_bool {b c : Bool} (h : SameJson (Value.bool b).numbered (Value.bool c).numbered) :
    b = c := by
  obtain ⟨-, q, hq, hsame⟩ := (sameJson_iff_of_number rfl rfl).1 h
  cases hq
  cases b <;> cases c <;> first | rfl | exact absurd hsame (by decide)

/-- Two truth values, or two values without truth values in them, are the same if they are with numbers put in. -/
theorem SameJson.of_numbered (hx : x.isBool = true ∨ x.numbered = x) (hy : y.isBool = true ∨ y.numbered = y)
    (hbool : x.isBool = y.isBool) (h : SameJson x.numbered y.numbered) : SameJson x y := by
  cases hkind : x.isBool with
  | true =>
      obtain ⟨b, rfl⟩ : ∃ b, x = .bool b := by
        cases x <;> first | exact ⟨_, rfl⟩ | cases hkind
      obtain ⟨c, rfl⟩ : ∃ c, y = .bool c := by
        cases y <;> first | exact ⟨_, rfl⟩ | cases hbool
      rw [eq_of_sameJson_numbered_bool h]
      exact .bool c
  | false =>
      rw [← hbool, hkind] at hy
      rw [hkind] at hx
      rwa [hx.resolve_left Bool.false_ne_true, hy.resolve_left Bool.false_ne_true] at h

/-! ## A value and its numbered form -/

theorem IsJson.isJson_numbered (hx : x.IsJson) : x.numbered.IsJson := by
  induction hx with
  | null => exact .null
  | bool b => exact .int _
  | int n => exact .int n
  | float canonical => exact .float canonical
  | text s => exact .text s
  | list _ ih =>
      rw [numbered, numberedItems_eq_map]
      exact .list (List.forall_mem_map.2 ih)
  | mapping hdistinct _ ih =>
      rw [numbered, numberedEntries_eq_map]
      exact .mapping (by rwa [Fields.names_map]) (List.forall_mem_map.2 ih)

theorem IsJson.numbered_numbered (hx : x.IsJson) : x.numbered.numbered = x.numbered := by
  induction hx with
  | list _ ih =>
      rw [numbered, numbered, numberedItems_eq_map, numberedItems_eq_map, List.map_map]
      exact congrArg Value.list (List.map_congr_left ih)
  | mapping _ _ ih =>
      rw [numbered, numbered, numberedEntries_eq_map, numberedEntries_eq_map, List.map_map]
      exact congrArg Value.mapping (List.map_congr_left fun entry hentry => congrArg (entry.1, ·) (ih entry hentry))
  | _ =>
      rfl

/-- A value that is the same with numbers put in has no truth values in it. -/
theorem IsJson.numbered_eq_of_sameJson (hx : x.IsJson) (h : SameJson x x.numbered) : x.numbered = x := by
  induction hx with
  | bool b =>
      cases h.isBool_eq
  | @list xs _ ih =>
      rw [numbered, numberedItems_eq_map] at h ⊢
      have hitems := (sameJson_list_iff.1 h).2
      have hself : ∀ a ∈ xs, a.numbered = id a := by
        intro a ha
        obtain ⟨i, hi⟩ := List.mem_iff_getElem?.1 ha
        exact ih a ha (hitems i a a.numbered hi (by rw [List.getElem?_map, hi, Option.map_some]))
      exact congrArg Value.list ((List.map_congr_left hself).trans (List.map_id xs))
  | @mapping entries hdistinct _ ih =>
      rw [numbered, numberedEntries_eq_map] at h ⊢
      have hmembers := (sameJson_mapping_iff.1 h).2
      have hself : ∀ entry ∈ entries, (entry.1, entry.2.numbered) = id entry := by
        intro entry hentry
        have hget := Fields.get?_of_mem hdistinct hentry
        refine congrArg (entry.1, ·) (ih entry hentry (hmembers entry.1 _ _ hget ?_))
        rw [Fields.get?_map, hget, Option.map_some]
      exact congrArg Value.mapping ((List.map_congr_left hself).trans (List.map_id entries))
  | _ =>
      rfl

end Value

/-! ## Strict equality -/

namespace Operator

open Value

/-- How strict equality compares two JSON values: it keeps truth values apart from numbers for the two as wholes, and
not inside them. -/
structure ComparesOutermost (x y : Value) : Prop where
  answers : ∃ b, Operator.eq.applies x y = .ok b ∧
    (b = true ↔ x.isBool = y.isBool ∧ SameJson x.numbered y.numbered)
  of_same : SameJson x y → Operator.eq.applies x y = .ok true
  /-- Without truth values inside, strict equality holds of the same values and of no others. -/
  iff_same : x.isBool = true ∨ x.numbered = x → y.isBool = true ∨ y.numbered = y →
    (Operator.eq.applies x y = .ok true ↔ SameJson x y)
  /-- A value with truth values inside is not the same as the value with their numbers, and yet strictly equal to it;
  only what is not even equal to itself is not. -/
  mistakes : x.isBool = false → x.numbered ≠ x → Operator.eq.applies x x = .ok true →
    ¬ SameJson x x.numbered ∧ Operator.eq.applies x x.numbered = .ok true
  /-- A property is compared so with a criterion that is a literal. -/
  meet : ∀ properties key, Fields.get? properties key = some x → y.operatorFilter? = none →
    Fields.meet properties (.mapping [(key, y)]) = Operator.eq.applies x y

variable {x y : Value}

theorem strictSame_iff (hx : x.IsJson) (hy : y.IsJson) :
    strictSame x y = true ↔ x.isBool = y.isBool ∧ SameJson x.numbered y.numbered := by
  rw [strictSame, Bool.and_eq_true, beq_iff_eq, same_iff hx hy]

theorem eq_applies (x y : Value) : Operator.eq.applies x y = .ok (strictSame x y) :=
  rfl

theorem eq_applies_iff (hx : x.IsJson) (hy : y.IsJson) :
    Operator.eq.applies x y = .ok true ↔ x.isBool = y.isBool ∧ SameJson x.numbered y.numbered := by
  rw [eq_applies, Except.ok.injEq, strictSame_iff hx hy]

theorem meet_literal {properties : Fields} {key : String} (hget : Fields.get? properties key = some x)
    (hliteral : y.operatorFilter? = none) :
    Fields.meet properties (.mapping [(key, y)]) = Operator.eq.applies x y := by
  rw [Fields.meet, Fields.meetAll, hget, eq_applies]
  simp only [meetsLiteral, hliteral]
  cases strictSame x y with
  | false =>
      rfl
  | true =>
      rfl

/-- Strict equality keeps truth values apart from numbers at the outermost level, and only there. -/
theorem eq_comparesOutermost (hx : x.IsJson) (hy : y.IsJson) : ComparesOutermost x y where
  answers := ⟨strictSame x y, eq_applies x y, strictSame_iff hx hy⟩
  of_same h := (eq_applies_iff hx hy).2 ⟨h.isBool_eq, h.numbered⟩
  iff_same hxs hys := by
    rw [eq_applies_iff hx hy]
    exact ⟨fun h => .of_numbered hxs hys h.1 h.2, fun h => ⟨h.isBool_eq, h.numbered⟩⟩
  mistakes hwhole hinside hself := by
    refine ⟨mt hx.numbered_eq_of_sameJson hinside, ?_⟩
    rw [eq_applies_iff hx hx.isJson_numbered, hx.numbered_numbered, isBool_numbered]
    exact ⟨hwhole, ((eq_applies_iff hx hx).1 hself).2⟩
  meet _ _ hget hliteral := meet_literal hget hliteral

theorem isJson_singleton (hx : x.IsJson) : (Value.list [x]).IsJson :=
  .list (List.forall_mem_singleton.2 hx)

theorem sameJson_singleton_one : SameJson (.list [.int 1]) (.list [.int 1]) := by
  refine .list rfl fun i a b ha hb => ?_
  cases i with
  | zero =>
      cases ha
      cases hb
      exact .number rfl rfl rfl rfl (Extended.same_self (by simp [Extended.ofInt]))
  | succ i =>
      cases ha

theorem eq_comparesOutermost_singleton :
    (Value.list [.bool true]).IsJson ∧ (Value.list [.int 1]).IsJson ∧
      ComparesOutermost (.list [.bool true]) (.list [.int 1]) ∧
      (Value.list [.bool true]).isBool = false ∧ (Value.list [.bool true]).numbered ≠ .list [.bool true] ∧
      Operator.eq.applies (.list [.bool true]) (.list [.bool true]) = .ok true := by
  have htrue : (Value.list [.bool true]).IsJson := isJson_singleton (.bool true)
  have hone : (Value.list [.int 1]).IsJson := isJson_singleton (.int 1)
  refine ⟨htrue, hone, eq_comparesOutermost htrue hone, rfl, ?_, ?_⟩
  · intro h
    cases Value.list.inj h
  · exact (eq_applies_iff htrue htrue).2 ⟨rfl, sameJson_singleton_one⟩

/-- True in a list is not the same as one in a list, and yet strictly equal to it. -/
theorem eq_mixes_inside :
    (Value.list [.bool true]).IsJson ∧ (Value.list [.int 1]).IsJson ∧
      ¬ SameJson (.list [.bool true]) (.list [.int 1]) ∧
      Operator.eq.applies (.list [.bool true]) (.list [.int 1]) = .ok true ∧
      Fields.meet [("flags", .list [.bool true])] (.mapping [("flags", .list [.int 1])]) = .ok true := by
  have htrue : (Value.list [.bool true]).IsJson := isJson_singleton (.bool true)
  have hone : (Value.list [.int 1]).IsJson := isJson_singleton (.int 1)
  have hequal : Operator.eq.applies (.list [.bool true]) (.list [.int 1]) = .ok true :=
    (eq_applies_iff htrue hone).2 ⟨rfl, sameJson_singleton_one⟩
  refine ⟨htrue, hone, ?_, hequal, (meet_literal rfl rfl).trans hequal⟩
  intro h
  cases ((sameJson_list_iff.1 h).2 0 _ _ rfl rfl).isBool_eq

end Operator
end GraphQuery
