import GraphQuery.Proofs.Engine.SharedStore

/-!
# Namespaces — engines of different namespaces do not see each other

Engines of different namespaces work at one store.  Whatever the namespaces are, no key of one is a key of another
(`not_mem_spaceKeys_of_ne`), and a call leaves what is stored under all other keys as it is
(`Team.afterCall_confined`).  So each engine goes through a run as it would with a store of its own
(`Team.namespaces_isolate`).
-/

namespace GraphQuery

/-! ## Keys -/

theorem keyFor_filterSets_injective : Function.Injective FilterShelf.keyFor :=
  fun _ _ => (String.append_left_inj _).1

theorem keyFor_savedSearches_injective : Function.Injective SavedSearches.keyFor :=
  fun _ _ => (String.append_left_inj _).1

/-- The two kinds of keys differ in the last letter but one, whatever the namespaces end in. -/
theorem keyFor_filterSets_ne_savedSearches (a b : String) :
    FilterShelf.keyFor a ≠ SavedSearches.keyFor b := by
  intro h
  have hlist := congrArg (fun s => s.toList.reverse) h
  -- Both end in `s`; before it stands `t` in one and `e` in the other.
  simp [FilterShelf.keyFor, SavedSearches.keyFor] at hlist

theorem not_mem_spaceKeys_of_ne {a b : String} (h : a ≠ b) {key : String} (hkey : key ∈ spaceKeys a) :
    key ∉ spaceKeys b := by
  intro hother
  simp only [spaceKeys, List.mem_cons, List.not_mem_nil, or_false] at hkey hother
  rcases hkey with rfl | rfl <;> rcases hother with hother | hother
  · exact h (keyFor_filterSets_injective hother)
  · exact keyFor_filterSets_ne_savedSearches a b hother
  · exact keyFor_filterSets_ne_savedSearches b a hother.symm
  · exact h (keyFor_savedSearches_injective hother)

/-- Texts that agree under some keys agree under them when the same is written to both. -/
theorem KeyValues.keptBySet_sameAt (keys : List String) (key : String) :
    KeptBySet (fun texts texts' => ∀ k ∈ keys, texts.get? k = texts'.get? k) key := by
  intro texts texts' value h k hk
  rw [get?_set, get?_set, h k hk]

namespace Team

variable {ι : Type} [DecidableEq ι]

/-! ## Runs -/

/-- A member is the same at both teams, and the stores hold the same under the keys of its namespace. -/
structure SameFor (spaces : ι → String) (i : ι) (team alone : Team ι) : Prop where
  space : team.space = spaces
  engine : alone.engine i = team.engine i
  texts : ∃ texts own, team.texts = some texts ∧ alone.texts = some own ∧
    ∀ key ∈ spaceKeys (spaces i), texts.get? key = own.get? key

variable {spaces : ι → String} {i : ι} {team alone : Team ι}

/-- A call of the member itself keeps the teams the same for it. -/
theorem SameFor.own (h : SameFor spaces i team alone) {call : TeamCall ι} (hcall : call.member = i) :
    (team.run call).1 = (alone.run call).1 ∧ SameFor spaces i (team.afterCall call) (alone.afterCall call) := by
  subst hcall
  obtain ⟨rfl, hengine, texts, own, htexts, hown, hsame⟩ := h
  obtain ⟨hanswer, hafter, hspace, left, right, hleft, hright, hrelated⟩ := afterCall_matches
    (call.call.relates (fun key _ => KeyValues.keptBySet_sameAt _ key)
      fun key hkey _ _ hrelated => hrelated key hkey)
    hengine htexts hown hsame
  exact ⟨hanswer, hspace, hafter, left, right, hleft, hright, hrelated⟩

/-- A call of another member, of another namespace, is not seen. -/
theorem SameFor.other (h : SameFor spaces i team alone) (hspaces : Function.Injective spaces)
    {call : TeamCall ι} (hcall : call.member ≠ i) : SameFor spaces i (team.afterCall call) alone := by
  obtain ⟨rfl, hengine, texts, own, htexts, hown, hsame⟩ := h
  obtain ⟨after, hafter, hkept, hspace⟩ := afterCall_confined htexts call
  refine ⟨hspace, ?_, after, own, hafter, hown, ?_⟩
  · rw [engine_afterCall_of_ne team hcall]
    exact hengine
  · intro key hkey
    have hforeign : key ∉ spaceKeys (team.space call.member) :=
      not_mem_spaceKeys_of_ne (fun heq => hcall (hspaces heq.symm)) hkey
    rw [hkept key hforeign]
    exact hsame key hkey

/-- Namespaces isolate.  Engines of different namespaces work at one store, in any order of calls.  Then each of
them gives the answers and failures, and ends with the sets, the history and all else that is its own, in memory
and in the store, that it would have with a store of its own that held the same under its keys. -/
theorem namespaces_isolate {team : Team ι} {texts own : KeyValues} (htexts : team.texts = some texts)
    (hspaces : Function.Injective team.space) (i : ι)
    (hown : ∀ key ∈ spaceKeys (team.space i), texts.get? key = own.get? key) (calls : List (TeamCall ι)) :
    let alone : Team ι := { team with texts := some own }
    let mine := calls.filter (·.member = i)
    (transcript calls team).filter (·.1 = i) = transcript mine alone ∧
      (team.afterCalls calls).engine i = (alone.afterCalls mine).engine i ∧
      ∀ key ∈ spaceKeys (team.space i), (team.afterCalls calls).stored key = (alone.afterCalls mine).stored key := by
  intro alone mine
  have hfirst : SameFor team.space i team alone := ⟨rfl, rfl, texts, own, htexts, rfl, hown⟩
  obtain ⟨hseen, hlast⟩ := unseen_of_steps (p := fun _ => True) i (fun _ _ h call _ hcall => h.own hcall)
    (fun _ _ h call _ hcall => h.other hspaces hcall) hfirst (fun _ _ => trivial)
  obtain ⟨left, right, hleft, hright, hsame⟩ := hlast.texts
  refine ⟨hseen, hlast.engine.symm, fun key hkey => ?_⟩
  rw [stored, stored, hleft, hright]
  exact hsame key hkey

/-- Two engines, one of whose namespaces looks like a key of the other's. -/
def lookalikes : Team Bool where
  engine second :=
    Engine.blank 0 { storeNamespace := if second then "a:filter_sets" else "a" } .owned .empty
      (.withCapacity 20)
  texts := some [("a:filter_sets", "\x7b\x7d")]

theorem lookalikes_space_injective : Function.Injective lookalikes.space := by
  intro first second h
  cases first <;> cases second <;> first | rfl | simp [space, lookalikes, Engine.blank] at h

/-- A set and a search of either engine. -/
def lookalikeCalls : List (TeamCall Bool) :=
  let scene : Scene := ⟨Engine.someNoon, .null, [], false, .usual⟩
  [⟨false, scene, .change (.create (.text "x") (.mapping []))⟩,
    ⟨true, scene, .saveSearch (.text "s") (.mapping [])⟩,
    ⟨true, scene, .loadSets⟩,
    ⟨false, scene, .savedSearches⟩]

/-- Even then the second engine does not see the first one. -/
theorem namespaces_isolate_lookalikes :
    Function.Injective lookalikes.space ∧
      (transcript lookalikeCalls lookalikes).filter (·.1 = true) =
        transcript (lookalikeCalls.filter (·.member = true)) { lookalikes with texts := some [] } :=
  ⟨lookalikes_space_injective, (namespaces_isolate rfl lookalikes_space_injective true
    (by decide) lookalikeCalls).1⟩

end Team
end GraphQuery
