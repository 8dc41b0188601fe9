import GraphQuery.Value.Basic
import Mathlib.Data.List.Nodup
import Mathlib.Tactic.SplitIfs

/-!
# Named values — setting names keeps them distinct

A name has the value of its first entry, and of its only one where names are distinct (`Fields.get?_of_mem`).

Setting a name keeps its place or adds it at the end, so names stay distinct, and a list of entries with
distinct names is kept as it is (`Fields.ofEntries_of_nodup`).
-/

namespace GraphQuery
namespace Fields

/-- The value of a name is that of its first entry. -/
theorem getD_cons (name : String) (v : Value) (rest : Fields) (other : String) :
    getD ((name, v) :: rest) other = if name = other then v else getD rest other := by
  by_cases h : name = other <;> simp [getD, get?, h]

/-- What holds of all values and of a missing one holds of the value of each name. -/
theorem getD_of_forall {p : Value → Prop} {fields : Fields} (hnull : p .null) (h : ∀ entry ∈ fields, p entry.2)
    (name : String) : p (getD fields name) := by
  rw [getD, get?]
  cases hfind : fields.find? (·.1 == name) with
  | none =>
      exact hnull
  | some entry =>
      exact h entry (List.mem_of_find?_eq_some hfind)

/-- Among distinct names, each one has its own value. -/
theorem get?_of_mem {fields : Fields} (hdistinct : (names fields).Nodup) {name : String} {v : Value}
    (h : (name, v) ∈ fields) : get? fields name = some v := by
  induction fields with
  | nil =>
      cases h
  | cons entry rest ih =>
      obtain ⟨hnew, hrest⟩ := List.nodup_cons.1 hdistinct
      rcases List.mem_cons.1 h with rfl | hmem
      · simp [get?]
      · have hne : (entry.1 == name) = false := by
          rw [beq_eq_false_iff_ne]
          rintro rfl
          exact hnew (List.mem_map.2 ⟨_, hmem, rfl⟩)
        rw [← ih hrest hmem, get?, get?, List.find?_cons_of_neg (by simpa using hne)]

theorem get?_of_not_mem {fields : Fields} {name : String} (h : name ∉ names fields) : get? fields name = none := by
  rw [get?, Option.map_eq_none_iff, List.find?_eq_none]
  intro entry hentry heq
  exact h (beq_iff_eq.1 heq ▸ List.mem_map_of_mem hentry)

theorem mem_of_get? {fields : Fields} {name : String} {v : Value} (h : get? fields name = some v) :
    (name, v) ∈ fields := by
  obtain ⟨entry, hfind, rfl⟩ := Option.map_eq_some_iff.1 h
  have hname : entry.1 = name := by simpa using List.find?_some hfind
  exact hname ▸ List.mem_of_find?_eq_some hfind

theorem has_eq_isSome (fields : Fields) (name : String) : has fields name = (get? fields name).isSome := by
  rw [Bool.eq_iff_iff, get?, Option.isSome_map, has, List.any_eq_true, List.find?_isSome]

theorem mem_names_iff {fields : Fields} {name : String} : name ∈ names fields ↔ ∃ v, get? fields name = some v := by
  rw [← Option.isSome_iff_exists, ← has_eq_isSome, has, List.any_eq_true, names, List.mem_map]
  exact exists_congr fun entry => and_congr_right fun _ => beq_iff_eq.symm

/-- Values that are replaced in their places keep their names. -/
theorem names_map (f : Value → Value) (fields : Fields) :
    names (fields.map fun entry => (entry.1, f entry.2)) = names fields := by
  simp [names]

theorem get?_map (f : Value → Value) (fields : Fields) (name : String) :
    get? (fields.map fun entry => (entry.1, f entry.2)) name = (get? fields name).map f := by
  induction fields with
  | nil =>
      rfl
  | cons entry rest ih =>
      by_cases hname : entry.1 == name
      · simp [get?, hname]
      · simpa [get?, hname] using ih

theorem insert_of_not_mem {fields : Fields} {name : String} (v : Value) (h : name ∉ names fields) :
    insert fields name v = fields ++ [(name, v)] := by
  induction fields with
  | nil =>
      rfl
  | cons entry rest ih =>
      rcases entry with ⟨key, old⟩
      have hne : (key == name) = false := by
        rw [beq_eq_false_iff_ne]
        rintro rfl
        exact h List.mem_cons_self
      have hrest : name ∉ names rest := fun hmem => h (List.mem_cons_of_mem _ hmem)
      rw [insert, hne, if_neg Bool.false_ne_true, ih hrest]
      rfl

theorem get?_insert (fields : Fields) (name : String) (v : Value) (other : String) :
    get? (insert fields name v) other = if name = other then some v else get? fields other := by
  induction fields with
  | nil =>
      by_cases h : name = other <;> simp [insert, get?, h]
  | cons entry rest ih =>
      rcases entry with ⟨key, old⟩
      by_cases hkey : key = name
      · subst hkey
        by_cases h : key = other <;> simp [insert, get?, h]
      · rw [insert, if_neg (by simpa using hkey)]
        by_cases h : key = other
        · have hne : name ≠ other := fun heq => hkey (h.trans heq.symm)
          simp [get?, h, hne]
        · rw [get?] at ih ⊢
          rw [List.find?_cons_of_neg (by simpa using h), ih]
          simp [get?, h]

theorem getD_insert (fields : Fields) (name : String) (v : Value) (other : String) :
    getD (insert fields name v) other = if name = other then v else getD fields other := by
  rw [getD, get?_insert]
  split
  · rfl
  · rfl

/-- Setting a name keeps names distinct. -/
theorem nodup_names_insert {fields : Fields} (name : String) (v : Value) (h : (names fields).Nodup) :
    (names (insert fields name v)).Nodup := by
  by_cases hmem : name ∈ names fields
  · have hnames : names (insert fields name v) = names fields := by
      clear h
      induction fields with
      | nil =>
          exact absurd hmem List.not_mem_nil
      | cons entry rest ih =>
          rcases entry with ⟨key, old⟩
          by_cases hkey : key == name
          · rw [insert, hkey, if_pos rfl]
            rfl
          · rw [insert, if_neg hkey]
            have hrest : name ∈ names rest := by
              rcases List.mem_cons.1 hmem with heq | hrest
              · exact absurd (beq_iff_eq.2 heq.symm) hkey
              · exact hrest
            exact congrArg (List.cons key) (ih hrest)
    rw [hnames]
    exact h
  · rw [insert_of_not_mem v hmem, names, List.map_append, List.nodup_append]
    refine ⟨h, List.nodup_singleton _, ?_⟩
    intro key hkey other hother heq
    obtain rfl := List.mem_singleton.1 hother
    exact hmem (heq ▸ hkey)

theorem mem_insert {fields : Fields} {name : String} {v : Value} {entry : String × Value}
    (h : entry ∈ insert fields name v) : entry ∈ fields ∨ entry.2 = v := by
  induction fields with
  | nil =>
      exact Or.inr (congrArg Prod.snd (List.mem_singleton.1 h))
  | cons first rest ih =>
      rcases first with ⟨key, old⟩
      rw [insert] at h
      split_ifs at h with hkey
      · rcases List.mem_cons.1 h with rfl | hmem
        · exact Or.inr rfl
        · exact Or.inl (List.mem_cons_of_mem _ hmem)
      · rcases List.mem_cons.1 h with rfl | hmem
        · exact Or.inl List.mem_cons_self
        · rcases ih hmem with hold | hnew
          · exact Or.inl (List.mem_cons_of_mem _ hold)
          · exact Or.inr hnew

/-- Distinct names are kept as they are. -/
theorem ofEntries_of_nodup {entries : Fields} (h : (names entries).Nodup) : ofEntries entries = entries := by
  have hgeneral : ∀ (rest before : Fields), (names (before ++ rest)).Nodup →
      rest.foldl (fun fields entry => insert fields entry.1 entry.2) before = before ++ rest := by
    intro rest
    induction rest with
    | nil =>
        intro before _
        exact (List.append_nil before).symm
    | cons entry rest ih =>
        intro before hnodup
        have hsplit : before ++ entry :: rest = before ++ [entry] ++ rest := by simp
        have hnew : entry.1 ∉ names before := by
          intro hmem
          rw [names, List.map_append, List.nodup_append] at hnodup
          exact hnodup.2.2 _ hmem _ List.mem_cons_self rfl
        rw [List.foldl_cons, insert_of_not_mem entry.2 hnew, hsplit]
        exact ih _ (hsplit ▸ hnodup)
  exact hgeneral entries [] h

theorem nodup_names_ofEntries (entries : Fields) : (names (ofEntries entries)).Nodup := by
  have hgeneral : ∀ (rest before : Fields), (names before).Nodup →
      (names (rest.foldl (fun fields entry => insert fields entry.1 entry.2) before)).Nodup := by
    intro rest
    induction rest with
    | nil =>
        exact fun _ h => h
    | cons entry rest ih =>
        exact fun before h => ih _ (nodup_names_insert entry.1 entry.2 h)
  exact hgeneral entries [] List.nodup_nil

/-- No value is kept that was not given. -/
theorem mem_ofEntries {entries : Fields} {entry : String × Value} (h : entry ∈ ofEntries entries) :
    ∃ given ∈ entries, given.2 = entry.2 := by
  have hgeneral : ∀ (rest before : Fields),
      entry ∈ rest.foldl (fun fields entry => insert fields entry.1 entry.2) before →
        entry ∈ before ∨ ∃ given ∈ rest, given.2 = entry.2 := by
    intro rest
    induction rest with
    | nil =>
        exact fun _ h => Or.inl h
    | cons given rest ih =>
        intro before h
        rcases ih _ h with hbefore | ⟨other, hother, heq⟩
        · rcases mem_insert hbefore with hold | hnew
          · exact Or.inl hold
          · exact Or.inr ⟨given, List.mem_cons_self, hnew.symm⟩
        · exact Or.inr ⟨other, List.mem_cons_of_mem _ hother, heq⟩
  rcases hgeneral entries [] h with hnil | hgiven
  · exact absurd hnil List.not_mem_nil
  · exact hgiven

end Fields

end GraphQuery
