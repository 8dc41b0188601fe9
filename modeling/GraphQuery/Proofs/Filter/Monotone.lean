import GraphQuery.Proofs.Filter.Action
import GraphQuery.Proofs.Filter.Intersection

/-!
# Views — fewer active sets leave more

What the active sets leave of a graph is a view of it.  A configuration drops items and keeps the others in order
(`Filter.narrowed_isPart`), and it leaves more of more (`Snapshot.IsPart.narrowed`), for a cascade that sees more
nodes drops fewer edges.  So configurations leave more together if some of them are taken out, wherever these stand
(`Filter.composed_anti`):

- a set that is removed or switched off widens the view;
- a set that is switched on narrows it.

A view that widens may show a later set items that it fails on, and is then not there at all
(`FilterShelf.switchOff_fails`).
-/

namespace GraphQuery

open FilterShelf

/-- Some of the nodes and edges of a graph, in the same order. -/
structure Snapshot.IsPart (part whole : Snapshot) : Prop where
  nodes : part.nodes.Sublist whole.nodes
  edges : part.edges.Sublist whole.edges

namespace Snapshot.IsPart

variable {part whole other : Snapshot}

theorem refl (whole : Snapshot) : whole.IsPart whole :=
  ⟨List.Sublist.refl _, List.Sublist.refl _⟩

theorem trans (h : part.IsPart whole) (h' : whole.IsPart other) : part.IsPart other :=
  ⟨h.nodes.trans h'.nodes, h.edges.trans h'.edges⟩

end Snapshot.IsPart

namespace Filter

variable {graph part whole : Snapshot} {configs more : List Fields} {config : Fields}

/-! ## One configuration -/

theorem narrowed_isPart (graph : Snapshot) (config : Fields) (part : Snapshot) :
    (narrowed graph config part).IsPart part where
  nodes := List.filter_sublist
  edges := (keptEdges_sublist _ _ _).trans List.filter_sublist

/-- Edges that have both ends among some nodes have them among more nodes. -/
theorem keptEdges_mono {nodes nodes' : List Node} {edges edges' : List Edge} (hnodes : nodes.Sublist nodes')
    (hedges : edges.Sublist edges') :
    (keptEdges config nodes edges).Sublist (keptEdges config nodes' edges') := by
  rw [keptEdges, keptEdges]
  split
  · have hids : nodes.map (·.id) ⊆ nodes'.map (·.id) := (hnodes.map _).subset
    have hmore : ∀ e, endsAmong (nodes.map (·.id)) e = true → endsAmong (nodes'.map (·.id)) e = true := by
      intro e he
      have hends := endsAmong_iff.1 he
      exact endsAmong_iff.2 ⟨hids hends.1, hids hends.2⟩
    rw [edgesAmong_eq_filter, edgesAmong_eq_filter]
    exact (List.monotone_filter_right edges hmore).trans (hedges.filter _)
  · exact hedges

/-- A configuration leaves more of more. -/
theorem narrowed_mono (h : part.IsPart whole) (graph : Snapshot) (config : Fields) :
    (narrowed graph config part).IsPart (narrowed graph config whole) where
  nodes := h.nodes.filter _
  edges := keptEdges_mono (h.nodes.filter _) (h.edges.filter _)

/-! ## Several configurations -/

/-- What configurations leave together, made one after the other. -/
theorem composed_eq_foldl (graph : Snapshot) (configs : List Fields) :
    composed graph configs = configs.foldl (fun part config => narrowed graph config part) graph := by
  induction configs using List.reverseRecOn with
  | nil =>
      exact composed_nil graph
  | append_singleton configs config ih =>
      rw [composed_concat, ih, List.foldl_append]
      rfl

/-- Fewer configurations leave more of more: each one that is taken out would have dropped something at most. -/
theorem foldl_narrowed_mono (hconfigs : configs.Sublist more) (h : part.IsPart whole) :
    (more.foldl (fun part config => narrowed graph config part) part).IsPart
      (configs.foldl (fun part config => narrowed graph config part) whole) := by
  induction hconfigs generalizing part whole with
  | slnil =>
      exact h
  | cons config _ ih =>
      exact ih ((narrowed_isPart graph config part).trans h)
  | cons_cons config _ ih =>
      exact ih (narrowed_mono h graph config)

theorem composed_anti (hconfigs : configs.Sublist more) :
    (composed graph more).IsPart (composed graph configs) := by
  rw [composed_eq_foldl, composed_eq_foldl]
  exact foldl_narrowed_mono hconfigs (.refl graph)

theorem composed_isPart (graph : Snapshot) (configs : List Fields) : (composed graph configs).IsPart graph := by
  have h : (composed graph configs).IsPart (composed graph []) := composed_anti (List.nil_sublist configs)
  rwa [composed_nil] at h

end Filter

/-! ## Sets taken out and put in -/

namespace FilterSets

/-- A known set stands somewhere, and one that replaces it stands there too. -/
theorem exists_insert_eq {sets : FilterSets} {name : EntryName} {r : FilterSetRecord}
    (h : sets.get? name = some r) :
    ∃ before key after, sets = before ++ (key, r) :: after ∧
      ∀ r', sets.insert name r' = before ++ (key, r') :: after := by
  induction sets with
  | nil =>
      cases h
  | cons entry rest ih =>
      obtain ⟨key, old⟩ := entry
      by_cases hkey : (key == name) = true
      · have hold : old = r := by
          simpa [get?, hkey] using h
        subst hold
        refine ⟨[], key, rest, rfl, fun r' => ?_⟩
        rw [insert, if_pos hkey]
        rfl
      · have hrest : get? rest name = some r := by
          simpa [get?, hkey] using h
        obtain ⟨before, key', after, rfl, hinsert⟩ := ih hrest
        refine ⟨(key, old) :: before, key', after, rfl, fun r' => ?_⟩
        rw [insert, if_neg hkey, hinsert r']
        rfl

/-- A set that is switched off is taken out of the active ones. -/
theorem activeConfigs_switchOff {sets : FilterSets} {name : EntryName} {r : FilterSetRecord}
    (h : sets.get? name = some r) :
    (sets.insert name { r with active := false }).activeConfigs.Sublist sets.activeConfigs := by
  obtain ⟨before, key, after, hsets, hinsert⟩ := exists_insert_eq h
  rw [hinsert, hsets, activeConfigs_append, activeConfigs_append, activeConfigs_cons_of_not_active rfl]
  refine (List.Sublist.refl _).append ?_
  cases hactive : r.active with
  | false =>
      rw [activeConfigs_cons_of_not_active hactive]
  | true =>
      rw [activeConfigs_cons_of_active hactive]
      exact List.sublist_cons_self _ _

/-- A set that is switched on is put in among the active ones. -/
theorem activeConfigs_switchOn {sets : FilterSets} {name : EntryName} {r : FilterSetRecord}
    (h : sets.get? name = some r) :
    sets.activeConfigs.Sublist (sets.insert name { r with active := true }).activeConfigs := by
  obtain ⟨before, key, after, hsets, hinsert⟩ := exists_insert_eq h
  have hon : activeConfigs ((key, { r with active := true }) :: after) =
      (r.config.mapping?).getD [] :: activeConfigs after := activeConfigs_cons_of_active rfl key after
  rw [hinsert, hsets, activeConfigs_append, activeConfigs_append, hon]
  refine (List.Sublist.refl _).append ?_
  cases hactive : r.active with
  | false =>
      rw [activeConfigs_cons_of_not_active hactive]
      exact List.sublist_cons_self _ _
  | true =>
      rw [activeConfigs_cons_of_active hactive]

/-- A set that is removed is taken out of the active ones. -/
theorem activeConfigs_erase (sets : FilterSets) (name : EntryName) :
    (sets.erase name).activeConfigs.Sublist sets.activeConfigs :=
  (List.filter_sublist.filter _).map _

theorem isObjectShaped_erase {sets : FilterSets} (h : ∀ entry ∈ sets, entry.2.IsObjectShaped) (name : EntryName) :
    ∀ entry ∈ (sets.erase name).active, entry.2.IsObjectShaped := by
  intro entry hentry
  exact h entry (List.mem_of_mem_filter (List.mem_of_mem_filter hentry))

/-- A set that is switched keeps its criteria. -/
theorem isObjectShaped_switch {sets : FilterSets} (h : ∀ entry ∈ sets, entry.2.IsObjectShaped) {name : EntryName}
    {r : FilterSetRecord} (hget : sets.get? name = some r) (active : Bool) :
    ∀ entry ∈ FilterSets.active (sets.insert name { r with active }), entry.2.IsObjectShaped := by
  obtain ⟨before, key, after, hsets, hinsert⟩ := exists_insert_eq hget
  intro entry hentry
  have hmem : entry ∈ before ++ (key, { r with active }) :: after := by
    rw [← hinsert]
    exact List.mem_of_mem_filter hentry
  rw [hsets] at h
  rcases List.mem_append.1 hmem with hbefore | htail
  · exact h entry (List.mem_append_left _ hbefore)
  · rcases List.mem_cons.1 htail with rfl | hafter
    · exact h (key, r) (List.mem_append_right _ List.mem_cons_self)
    · exact h entry (List.mem_append_right _ (List.mem_cons_of_mem _ hafter))

end FilterSets

/-! ## Views -/

namespace FilterShelf

/-- What the active sets leave of a graph, or why they leave nothing. -/
def view (shelf : FilterShelf) (graph : Snapshot) : Outcome Snapshot := (runAt (applyAll (.ok graph)) shelf).1

theorem view_isComposition (shelf : FilterShelf) (graph : Snapshot)
    (hshape : ∀ entry ∈ shelf.sets.active, entry.2.IsObjectShaped) :
    Filter.IsComposition graph shelf.sets.activeConfigs (shelf.view graph) := by
  have hview : shelf.view graph = Filter.run graph shelf.sets.activeConfigs := FilterSets.applyAll_eq_run graph hshape
  rw [hview]
  exact Filter.run_isComposition graph (FilterSets.isObjectShaped_of_mem_activeConfigs hshape)

/-- What comes of a call that asks for other sets.  Either these cannot be written, and the call changes nothing; or
they become the current sets, and the call answers their view.  This is there unless a pattern cannot be searched
for or a text is missing, and is then a part of the graph that compares with the view before as it should. -/
def SwitchesTo (shelf : FilterShelf) (graph : Snapshot) (sets : FilterSets) (compares : Snapshot → Snapshot → Prop)
    (result : Outcome (Option Snapshot) × FilterShelf) : Prop :=
  (∃ e, shelf.written sets = .error e ∧ result = (.error e, shelf)) ∨
    ∃ after, after.sets = sets ∧ result = ((after.view graph).map some, after) ∧
      Filter.IsComposition graph sets.activeConfigs (after.view graph) ∧
      ∀ left, after.view graph = .ok left → left.IsPart graph ∧
        ∀ before, shelf.view graph = .ok before → compares before left

/-- A call that commits sets, records what was done to one of them and answers the view switches to the sets. -/
theorem switchesTo_of_commit {shelf : FilterShelf} {graph : Snapshot} {now : Timestamp} {kind : ActionKind}
    {name : String} {config : Value} {sets : FilterSets} {compares : Snapshot → Snapshot → Prop}
    {result : Outcome (Option Snapshot) × FilterShelf}
    (hresult : result = runAt (commit sets >>= fun _ =>
      record now (entryFields kind (.text name) config) >>= fun _ => some <$> applyAll (.ok graph)) shelf)
    (hconfig : ∃ fields, config = .mapping fields) (hold : ∀ entry ∈ shelf.sets.active, entry.2.IsObjectShaped)
    (hnew : ∀ entry ∈ sets.active, entry.2.IsObjectShaped)
    (hcompares : compares (Filter.composed graph shelf.sets.activeConfigs) (Filter.composed graph sets.activeConfigs)) :
    shelf.SwitchesTo graph sets compares result := by
  obtain ⟨fields, rfl⟩ := hconfig
  rcases SetChange.runAt_commit_entry shelf now kind name fields sets (some <$> applyAll (.ok graph)) with
    ⟨e, hrefused, hcall⟩ | ⟨after, hsets, hcall⟩
  · exact Or.inl ⟨e, hrefused, hresult.trans hcall⟩
  · subst hsets
    have hanswer : result = ((after.view graph).map some, after) :=
      hresult.trans (hcall.trans (runAt_map _ _ _))
    have hview : Filter.IsComposition graph after.sets.activeConfigs (after.view graph) :=
      view_isComposition after graph hnew
    refine Or.inr ⟨after, rfl, hanswer, hview, fun left hleft => ?_⟩
    rcases ((hview.ok_iff left).1 hleft).1 with rfl
    refine ⟨Filter.composed_isPart graph _, fun before hbefore => ?_⟩
    rcases (((view_isComposition shelf graph hold).ok_iff before).1 hbefore).1 with rfl
    exact hcompares

/-! ### Calls for a known set -/

section Known

variable {shelf : FilterShelf} {name : String} {r : FilterSetRecord}
  (hknown : shelf.sets.get? (.text name) = some r) (now : Timestamp) (graph : Outcome Snapshot)

include hknown

theorem runAt_remove_known :
    runAt ((SetChange.remove (.text name)).run now graph) shelf =
      runAt (commit (shelf.sets.erase (.text name)) >>= fun _ =>
        record now (entryFields .removed (.text name) r.config) >>= fun _ => some <$> applyAll graph) shelf := by
  have hremove : runAt (remove now graph (.text name)) shelf =
      runAt (commit (shelf.sets.erase (.text name)) >>= fun _ =>
        record now (entryFields .removed (.text name) r.config) >>= fun _ => applyAll graph) shelf := by
    rw [remove, runAt_get_bind]
    simp only [hknown]
    rfl
  show runAt (some <$> remove now graph (.text name)) shelf = _
  rw [runAt_map, hremove, ← runAt_map]
  simp only [map_bind]

/-- Whether a known set is on after a call that switches it. -/
theorem switchesOn_known (active : Value) :
    SetChange.switchesOn shelf.sets (.text name) active = if active.isNull then !r.active else active.isTruthy := by
  have hnamed : SetChange.namedBy? shelf.sets (.text name) = some r := hknown
  rw [SetChange.switchesOn, hnamed]
  rfl

theorem runAt_toggle_known (active : Value) :
    ∃ kind, runAt ((SetChange.toggle (.text name) active).run now graph) shelf =
      runAt (commit (shelf.sets.insert (.text name)
          { r with active := SetChange.switchesOn shelf.sets (.text name) active }) >>= fun _ =>
        record now (entryFields kind (.text name) r.config) >>= fun _ => some <$> applyAll graph) shelf := by
  have htoggle : ∀ asked : Option Bool, runAt (toggle now graph (.text name) asked) shelf =
      runAt (commit (shelf.sets.insert (.text name) { r with active := asked.getD (!r.active) }) >>= fun _ =>
        record now (entryFields (if asked.getD (!r.active) then .activated else .deactivated) (.text name) r.config)
          >>= fun _ => some <$> applyAll graph) shelf := by
    intro asked
    rw [toggle, runAt_get_bind]
    simp only [hknown]
    rfl
  rw [switchesOn_known hknown]
  cases active <;> exact ⟨_, htoggle _⟩

end Known

/-- Removing a known set, or switching it off, gives a view of which the one before is a part.  Switching it on gives
a part of the one before. -/
structure IsMonotoneAt (shelf : FilterShelf) (graph : Snapshot) (now : Timestamp) (name : String)
    (r : FilterSetRecord) : Prop where
  isPart : ∀ before, shelf.view graph = .ok before → before.IsPart graph
  remove : shelf.SwitchesTo graph (shelf.sets.erase (.text name)) (fun before left => before.IsPart left)
    (runAt ((SetChange.remove (.text name)).run now (.ok graph)) shelf)
  switchOff : ∀ active, SetChange.switchesOn shelf.sets (.text name) active = false →
    shelf.SwitchesTo graph (shelf.sets.insert (.text name) { r with active := false })
      (fun before left => before.IsPart left)
      (runAt ((SetChange.toggle (.text name) active).run now (.ok graph)) shelf)
  switchOn : ∀ active, SetChange.switchesOn shelf.sets (.text name) active = true →
    shelf.SwitchesTo graph (shelf.sets.insert (.text name) { r with active := true })
      (fun before left => left.IsPart before)
      (runAt ((SetChange.toggle (.text name) active).run now (.ok graph)) shelf)

/-- Where criteria are objects, the view widens with every set that is taken out and narrows with every one that is
put in, wherever it stands among the others and whether or not they cascade. -/
theorem view_isMonotone (shelf : FilterShelf) (graph : Snapshot) (now : Timestamp)
    (hshape : ∀ entry ∈ shelf.sets, entry.2.IsObjectShaped) {name : String} {r : FilterSetRecord}
    (hknown : shelf.sets.get? (.text name) = some r) : shelf.IsMonotoneAt graph now name r := by
  have hactive : ∀ entry ∈ shelf.sets.active, entry.2.IsObjectShaped :=
    fun entry hentry => hshape entry (List.mem_of_mem_filter hentry)
  have hconfig : ∃ fields, r.config = .mapping fields := by
    obtain ⟨entry, hfind, rfl⟩ := Option.map_eq_some_iff.1 hknown
    obtain ⟨fields, hfields, -⟩ := hshape entry (List.mem_of_find?_eq_some hfind)
    exact ⟨fields, hfields⟩
  have hswitched := fun active => FilterSets.isObjectShaped_switch hshape hknown active
  refine ⟨fun before hbefore => ?_, ?_, fun active hoff => ?_, fun active hon => ?_⟩
  · rcases (((view_isComposition shelf graph hactive).ok_iff before).1 hbefore).1 with rfl
    exact Filter.composed_isPart graph _
  · exact switchesTo_of_commit (runAt_remove_known hknown now (.ok graph)) hconfig hactive
      (FilterSets.isObjectShaped_erase hshape _) (Filter.composed_anti (FilterSets.activeConfigs_erase _ _))
  · obtain ⟨kind, hrun⟩ := runAt_toggle_known hknown now (.ok graph) active
    rw [hoff] at hrun
    exact switchesTo_of_commit hrun hconfig hactive (hswitched false)
      (Filter.composed_anti (FilterSets.activeConfigs_switchOff hknown))
  · obtain ⟨kind, hrun⟩ := runAt_toggle_known hknown now (.ok graph) active
    rw [hon] at hrun
    exact switchesTo_of_commit hrun hconfig hactive (hswitched true)
      (Filter.composed_anti (FilterSets.activeConfigs_switchOn hknown))

/-! ### Two sets, of which the first one is switched off -/

theorem isObjectShaped_of_mem_shelfOf {configs : List (String × Fields)}
    (h : ∀ entry ∈ configs, entry.2 = typeOnly ∨ entry.2 = []) :
    ∀ entry ∈ (shelfOf configs).sets, entry.2.IsObjectShaped := by
  have hactive : (shelfOf configs).sets.active = (shelfOf configs).sets := by
    refine List.filter_eq_self.2 ?_
    intro entry hentry
    rcases List.mem_map.1 hentry with ⟨given, -, rfl⟩
    rfl
  rw [← hactive]
  exact isObjectShaped_shelfOf_typeOnly h

theorem view_isMonotone_typedPair :
    (∀ entry ∈ (shelfOf [("a", typeOnly), ("b", [])]).sets, entry.2.IsObjectShaped) ∧
      ∃ r, (shelfOf [("a", typeOnly), ("b", [])]).sets.get? (.text "a") = some r ∧
        (shelfOf [("a", typeOnly), ("b", [])]).IsMonotoneAt typedPair ⟨⟨2024, 1, 1⟩, 0, 0, 0, 0, some 0⟩ "a" r := by
  have hshape : ∀ entry ∈ (shelfOf [("a", typeOnly), ("b", [])]).sets, entry.2.IsObjectShaped :=
    isObjectShaped_of_mem_shelfOf (by simp)
  have hknown : ∃ r, (shelfOf [("a", typeOnly), ("b", [])]).sets.get? (.text "a") = some r :=
    Option.isSome_iff_exists.1 (by decide +kernel)
  obtain ⟨r, hr⟩ := hknown
  exact ⟨hshape, r, hr, view_isMonotone _ typedPair _ hshape hr⟩

/-- A shelf with a set that keeps the nodes of a type, before one that looks for a pattern in labels. -/
def sheltered (pattern : String) : FilterShelf :=
  { labelShelf pattern with sets := (shelfOf [("a", typeOnly)]).sets ++ (labelShelf pattern).sets }

theorem isObjectShaped_sheltered (pattern : String) :
    ∀ entry ∈ (sheltered pattern).sets, entry.2.IsObjectShaped := by
  intro entry hentry
  rcases List.mem_append.1 hentry with htype | hlabel
  · exact isObjectShaped_of_mem_shelfOf (List.forall_mem_singleton.2 (Or.inl rfl)) entry htype
  · exact isObjectShaped_labelShelf pattern entry hlabel

/-- The set of a type drops the only node, so the pattern is looked for nowhere.  Once that set is switched off,
looking for the pattern fails, and there is no view in which the one before could be. -/
theorem switchOff_fails :
    (∀ entry ∈ (sheltered "a\x7b4294967295\x7d").sets, entry.2.IsObjectShaped) ∧
      (∃ before, (sheltered "a\x7b4294967295\x7d").view (loneNode "a") = .ok before) ∧
      ∀ answer, (runAt ((SetChange.toggle (.text "a") (.bool false)).run ⟨⟨2024, 1, 1⟩, 0, 0, 0, 0, some 0⟩
        (.ok (loneNode "a"))) (sheltered "a\x7b4294967295\x7d")).1 ≠ .ok answer := by
  have hnothing : (sheltered "a\x7b4294967295\x7d").sets.applyAll (loneNode "a") = .ok ⟨[], []⟩ := by cbv
  have hfails : (runAt ((SetChange.toggle (.text "a") (.bool false)).run ⟨⟨2024, 1, 1⟩, 0, 0, 0, 0, some 0⟩
      (.ok (loneNode "a"))) (sheltered "a\x7b4294967295\x7d")).1.isOk = false := by decide +kernel
  refine ⟨isObjectShaped_sheltered _, ⟨_, hnothing⟩, ?_⟩
  intro answer hanswer
  rw [hanswer] at hfails
  cases hfails

end FilterShelf
end GraphQuery
