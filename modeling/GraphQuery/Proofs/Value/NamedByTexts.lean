import GraphQuery.Value.EntryName
import Mathlib.Data.List.Nodup
import Mathlib.Tactic.SplitIfs

/-!
# Things named by texts — names stay distinct

What is kept under names is a list of things, each with its name.  If the names are distinct texts
(`NamedByTexts`) then setting a name keeps its place or adds it at the end (`put`), so they stay distinct texts,
and so they do when a name is erased.
-/

namespace GraphQuery
namespace EntryName

variable {α : Type} {p : α → Prop} {entries : List (EntryName × α)}

theorem beq_text (s t : String) : (text s == text t) = (s == t) := by
  show Value.same (.text s) (.text t) = _
  rw [Value.same]

theorem text_injective : Function.Injective text := by
  intro s t h
  exact Value.text.inj (congrArg EntryName.value h)

/-- Sets what a name stands for: a known name keeps its place, and a new one comes last. -/
def put : List (EntryName × α) → EntryName → α → List (EntryName × α)
  | [], name, a => [(name, a)]
  | (key, old) :: rest, name, a => if key == name then (key, a) :: rest else (key, old) :: put rest name a

/-- Whether things are named by distinct texts, and each of them has a property. -/
structure NamedByTexts (p : α → Prop) (entries : List (EntryName × α)) : Prop where
  names : ∀ entry ∈ entries, ∃ s, entry.1 = text s
  distinct : (entries.map (·.1)).Nodup
  each : ∀ entry ∈ entries, p entry.2

/-- Whether something is kept under a name. -/
def isKnown (entries : List (EntryName × α)) (name : EntryName) : Bool := entries.any (·.1 == name)

/-- What is set under a name may be looked at through a function. -/
theorem map_put {β : Type} (f : α → β) (entries : List (EntryName × α)) (name : EntryName) (a : α) :
    (put entries name a).map (fun entry => (entry.1, f entry.2)) =
      put (entries.map fun entry => (entry.1, f entry.2)) name (f a) := by
  induction entries with
  | nil =>
      rfl
  | cons entry rest ih =>
      rw [put, List.map_cons, put]
      split_ifs with hkey
      · rfl
      · rw [List.map_cons, ih]

theorem put_of_unknown {name : EntryName} (h : isKnown entries name = false) (a : α) :
    put entries name a = entries ++ [(name, a)] := by
  induction entries with
  | nil =>
      rfl
  | cons entry rest ih =>
      obtain ⟨hne, hrest⟩ : (entry.1 == name) = false ∧ isKnown rest name = false := Bool.or_eq_false_iff.1 h
      rw [put, hne, if_neg Bool.false_ne_true, ih hrest]
      rfl

/-- A known name keeps its place, and so do the others. -/
theorem names_put_of_known {name : EntryName} (h : isKnown entries name = true) (a : α) :
    (put entries name a).map (·.1) = entries.map (·.1) := by
  induction entries with
  | nil =>
      cases h
  | cons entry rest ih =>
      rw [put]
      split_ifs with hkey
      · rfl
      · exact congrArg (List.cons _) (ih ((Bool.or_eq_true_iff.1 h).resolve_left hkey))

/-- Among texts, a name is known if it is one of them. -/
theorem isKnown_text_iff (h : ∀ entry ∈ entries, ∃ s, entry.1 = text s) {name : String} :
    isKnown entries (text name) = true ↔ text name ∈ entries.map (·.1) := by
  rw [isKnown, List.any_eq_true, List.mem_map]
  refine exists_congr fun entry => and_congr_right fun hentry => ?_
  obtain ⟨s, hs⟩ := h entry hentry
  rw [hs, beq_text, beq_iff_eq]
  exact ⟨congrArg text, fun heq => text_injective heq⟩

theorem mem_put {name : EntryName} {a : α} {entry : EntryName × α} (h : entry ∈ put entries name a) :
    entry ∈ entries ∨ entry.2 = a := by
  induction entries with
  | nil =>
      exact Or.inr (congrArg Prod.snd (List.mem_singleton.1 h))
  | cons first rest ih =>
      rcases first with ⟨key, old⟩
      rw [put] at h
      split_ifs at h with hkey
      · rcases List.mem_cons.1 h with rfl | hmem
        · exact Or.inr rfl
        · exact Or.inl (List.mem_cons_of_mem _ hmem)
      · rcases List.mem_cons.1 h with rfl | hmem
        · exact Or.inl List.mem_cons_self
        · rcases ih hmem with hold | hnew
          · exact Or.inl (List.mem_cons_of_mem _ hold)
          · exact Or.inr hnew

namespace NamedByTexts

theorem nil : NamedByTexts p [] where
  names := fun _ h => absurd h List.not_mem_nil
  distinct := List.nodup_nil
  each := fun _ h => absurd h List.not_mem_nil

/-- The first thing is named by a text, and the others are named by distinct texts. -/
theorem of_cons {name : EntryName} {a : α} {rest : List (EntryName × α)} (h : NamedByTexts p ((name, a) :: rest)) :
    (∃ s, name = text s) ∧ p a ∧ NamedByTexts p rest := by
  have hdistinct : (name :: rest.map (·.1)).Nodup := h.distinct
  refine ⟨h.names (name, a) List.mem_cons_self, h.each (name, a) List.mem_cons_self, ?_⟩
  exact ⟨fun entry hentry => h.names entry (List.mem_cons_of_mem _ hentry), (List.nodup_cons.1 hdistinct).2,
    fun entry hentry => h.each entry (List.mem_cons_of_mem _ hentry)⟩

theorem filter (h : NamedByTexts p entries) (keep : EntryName × α → Bool) :
    NamedByTexts p (entries.filter keep) where
  names := fun entry hentry => h.names entry (List.mem_of_mem_filter hentry)
  distinct := h.distinct.sublist (List.filter_sublist.map _)
  each := fun entry hentry => h.each entry (List.mem_of_mem_filter hentry)

theorem each_put (h : NamedByTexts p entries) (name : EntryName) {a : α} (ha : p a) :
    ∀ entry ∈ EntryName.put entries name a, p entry.2 := by
  intro entry hentry
  rcases mem_put hentry with hold | rfl
  · exact h.each entry hold
  · exact ha

/-- Names stay distinct texts when a known name is set, however it is spelled. -/
theorem put_known (h : NamedByTexts p entries) {name : EntryName} (hname : isKnown entries name = true) {a : α}
    (ha : p a) : NamedByTexts p (EntryName.put entries name a) := by
  have hnames := names_put_of_known hname a
  refine ⟨?_, hnames ▸ h.distinct, h.each_put name ha⟩
  intro entry hentry
  have hmem : entry.1 ∈ entries.map (·.1) := hnames ▸ List.mem_map_of_mem hentry
  obtain ⟨old, hold, heq⟩ := List.mem_map.1 hmem
  exact heq ▸ h.names old hold

/-- Names stay distinct texts when a text is set. -/
theorem put (h : NamedByTexts p entries) (name : String) {a : α} (ha : p a) :
    NamedByTexts p (EntryName.put entries (text name) a) := by
  cases hname : isKnown entries (text name) with
  | true =>
      exact h.put_known hname ha
  | false =>
      -- A new name comes last, and is none of those that there are.
      have heach := h.each_put (text name) ha
      rw [put_of_unknown hname] at heach ⊢
      refine ⟨?_, ?_, heach⟩
      · intro entry hentry
        rcases List.mem_append.1 hentry with hold | hnew
        · exact h.names entry hold
        · exact ⟨name, congrArg Prod.fst (List.mem_singleton.1 hnew)⟩
      · have hnew : text name ∉ entries.map (·.1) := by
          rw [← isKnown_text_iff h.names, hname]
          exact Bool.false_ne_true
        rw [List.map_append, List.nodup_append]
        refine ⟨h.distinct, List.nodup_singleton _, ?_⟩
        intro a ha b hb heq
        have hb : b = text name := List.mem_singleton.1 hb
        exact hnew (hb ▸ heq ▸ ha)

/-- Names that are texts are their own labels. -/
theorem nodup_labels (h : NamedByTexts p entries) : (entries.map fun entry => entry.1.label).Nodup := by
  have hlabels : (entries.map fun entry => entry.1.label) = (entries.map (·.1)).map EntryName.label := by
    rw [List.map_map]
    rfl
  rw [hlabels]
  refine h.distinct.map_on ?_
  intro a ha b hb heq
  obtain ⟨entry, hentry, rfl⟩ := List.mem_map.1 ha
  obtain ⟨other, hother, rfl⟩ := List.mem_map.1 hb
  obtain ⟨s, hs⟩ := h.names entry hentry
  obtain ⟨t, ht⟩ := h.names other hother
  rw [hs, ht] at heq ⊢
  exact congrArg text heq

end NamedByTexts
end EntryName
end GraphQuery
