import GraphQuery.Proofs.Text.Scattered
import GraphQuery.Text.Lowercase
import Mathlib.Tactic.SplitIfs

/-!
# Letter case — what lowercase keeps of a comparison

The lowercase of a character is the same wherever it stands, the capital sigma apart: it becomes a final sigma at the
end of a word and a small sigma elsewhere.  What is part of a text need not be part of it in lowercase, then.

- A contiguous part stays a part of every text in lowercase exactly if no letter before it or after it would turn a
  small sigma of its lowercase into a final one or the other way (`Text.Place.holds_lowerList_iff`).
- Scattered characters stay scattered in every text exactly if none is a capital sigma
  (`Text.sublist_lowerList_iff`).
-/

namespace GraphQuery
namespace Text

variable {before after s t part : List Char} {c : Char}

/-! ## Word ends -/

/-- What stands nearest decides, unless all of it is looked through; then what follows it does. -/
theorem nextIsCased_append (s : List Char) :
    (∀ t, nextIsCased (s ++ t) = nextIsCased s) ∨
      nextIsCased s = false ∧ ∀ t, nextIsCased (s ++ t) = nextIsCased t := by
  induction s with
  | nil =>
      exact Or.inr ⟨rfl, fun _ => rfl⟩
  | cons c s ih =>
      by_cases hc : isCaseIgnorable c = true
      · have hskip : ∀ t, nextIsCased (c :: t) = nextIsCased t := fun t => by simp [nextIsCased, hc]
        simpa only [List.cons_append, hskip] using ih
      · exact Or.inl fun t => by simp [nextIsCased, hc]

theorem nextIsCased_letter (s : List Char) : nextIsCased ('a' :: s) = true := by
  have hkept : isCaseIgnorable 'a' = false := by
    decide +kernel
  have hcased : isCased 'a' = true := by
    decide +kernel
  simp [nextIsCased, hkept, hcased]

theorem nextIsCased_blank (s : List Char) : nextIsCased (' ' :: s) = false := by
  have hkept : isCaseIgnorable ' ' = false := by
    decide +kernel
  have hcased : isCased ' ' = false := by
    decide +kernel
  simp [nextIsCased, hkept, hcased]

/-- Whether a sigma ends a word between what stands before it, nearest first, and after it. -/
def endsWord (before after : List Char) : Bool := nextIsCased before && !nextIsCased after

theorem endsWord_before_letter (s t : List Char) : endsWord s ('a' :: t) = false := by
  rw [endsWord, nextIsCased_letter, Bool.not_true, Bool.and_false]

theorem endsWord_between (s t : List Char) : endsWord ('a' :: s) (' ' :: t) = true := by
  rw [endsWord, nextIsCased_letter, nextIsCased_blank, Bool.not_false, Bool.and_self]

/-- What ends a word although a letter comes after all the rest ends it without the letter as well. -/
theorem endsWord_of_append_letter (h : endsWord s (t ++ ['a']) = true) : endsWord s t = true := by
  rcases nextIsCased_append t with ht | ⟨-, ht⟩
  · rw [endsWord, ht] at h
    exact h
  · rw [endsWord, ht, nextIsCased_letter, Bool.not_true, Bool.and_false] at h
    cases h

/-- What ends a word still ends it with a letter before all the rest. -/
theorem endsWord_append_letter (h : endsWord s t = true) : endsWord (s ++ ['a']) t = true := by
  rcases nextIsCased_append s with hs | ⟨hnone, -⟩
  · rw [endsWord, hs]
    exact h
  · rw [endsWord, hnone, Bool.false_and] at h
    cases h

/-- If no letter beyond the surroundings of a sigma decides whether it ends a word, then nothing else does. -/
theorem endsWord_steady (hbefore : before = [] ∨ endsWord (s ++ ['a']) t = endsWord s t)
    (hafter : after = [] ∨ endsWord s (t ++ ['a']) = endsWord s t) :
    endsWord (s ++ before) (t ++ after) = endsWord s t := by
  have hnone : nextIsCased [] = false := rfl
  simp only [endsWord] at hbefore hafter ⊢
  rcases nextIsCased_append s with hs | ⟨hs, hs'⟩ <;> rcases nextIsCased_append t with ht | ⟨ht, ht'⟩
  · rw [hs, ht]
  · -- Only what comes after is open, so the sigma ends a word nowhere or nothing comes.
    rw [hs, ht, ht']
    rw [ht', ht, nextIsCased_letter] at hafter
    rcases hafter with rfl | hafter
    · rw [hnone]
    · have hnever : nextIsCased s = false := by simpa using hafter
      rw [hnever]
      rfl
  · rw [hs, hs', ht]
    rw [hs', hs, nextIsCased_letter] at hbefore
    rcases hbefore with rfl | hbefore
    · rw [hnone]
    · have halways : nextIsCased t = true := by simpa using hbefore
      rw [halways, Bool.not_true, Bool.and_false, Bool.and_false]
  · -- A letter before would make it end a word.
    rw [hs, hs']
    rw [hs', hs, ht, nextIsCased_letter] at hbefore
    rcases hbefore with rfl | hbefore
    · rw [hnone]
      rfl
    · simp at hbefore

/-! ## Lowercase between other characters -/

/-- The lowercase of a character that is the same wherever it stands. -/
def lowerAlone (c : Char) : List Char := if c.toNat == 0x130 then ['i', Char.ofNat 0x307] else [lowerChar c]

/-- The lowercase of a character between what stands before it, nearest first, and after it. -/
def lowerAt (before : List Char) (c : Char) (after : List Char) : List Char :=
  if c = 'Σ' then [if endsWord before after then 'ς' else 'σ'] else lowerAlone c

/-- The lowercase of a part between what stands before it, nearest first, and after it. -/
def lowerBetween (before : List Char) : List Char → List Char → List Char
  | [], _ => []
  | c :: part, after => lowerAt before c (part ++ after) ++ lowerBetween (c :: before) part after

theorem lowerFrom_cons (before : List Char) (c : Char) (rest : List Char) :
    lowerFrom before (c :: rest) = lowerAt before c rest ++ lowerFrom (c :: before) rest := by
  rw [lowerFrom, lowerAt]
  by_cases hc : c = 'Σ'
  · subst hc
    rw [if_pos rfl]
    show (if endsWord before rest then ['ς'] else ['σ']) ++ _ = _
    split_ifs <;> rfl
  · have hcode : ¬ c.toNat = 'Σ'.toNat := fun h => hc (Char.toNat_inj.1 h)
    have hsigma : (c.toNat == 0x3a3) = false := beq_eq_false_iff_ne.2 hcode
    simp only [hsigma, hc, Bool.false_eq_true, if_false, lowerAlone]

theorem lowerFrom_append (before s t : List Char) :
    lowerFrom before (s ++ t) = lowerBetween before s t ++ lowerFrom (s.reverse ++ before) t := by
  induction s generalizing before with
  | nil =>
      rfl
  | cons c s ih =>
      rw [List.cons_append, lowerFrom_cons, lowerBetween, ih, List.append_assoc]
      simp

theorem lowerFrom_eq (before s : List Char) : lowerFrom before s = lowerBetween before s [] := by
  have h := lowerFrom_append before s []
  rw [List.append_nil, lowerFrom, List.append_nil] at h
  exact h

theorem lowerAt_of_ne (hc : c ≠ 'Σ') (before after : List Char) : lowerAt before c after = lowerAlone c :=
  if_neg hc

theorem lowerBetween_of_not_mem (h : 'Σ' ∉ part) : lowerBetween before part after = part.flatMap lowerAlone := by
  induction part generalizing before with
  | nil =>
      rfl
  | cons c part ih =>
      obtain ⟨hc, hrest⟩ := not_or.1 (mt List.mem_cons.2 h)
      rw [lowerBetween, lowerAt_of_ne (Ne.symm hc), ih hrest, List.flatMap_cons]

theorem lowerAt_sigma (before after : List Char) :
    lowerAt before 'Σ' after = [if endsWord before after then 'ς' else 'σ'] :=
  if_pos rfl

theorem length_lowerAt (before before' : List Char) (c : Char) (after after' : List Char) :
    (lowerAt before c after).length = (lowerAt before' c after').length := by
  by_cases hc : c = 'Σ'
  · subst hc
    rw [lowerAt_sigma, lowerAt_sigma]
    rfl
  · rw [lowerAt_of_ne hc, lowerAt_of_ne hc]

theorem lowerAt_sigma_inj {before' after' : List Char} :
    lowerAt before 'Σ' after = lowerAt before' 'Σ' after' ↔ endsWord before after = endsWord before' after' := by
  rw [lowerAt_sigma, lowerAt_sigma]
  cases endsWord before after <;> cases endsWord before' after' <;> decide

/-- A part whose lowercase no letter before it or after it would change has this lowercase everywhere. -/
theorem lowerBetween_steady
    (hbefore : before = [] ∨ lowerBetween (s ++ ['a']) part [] = lowerBetween s part [])
    (hafter : after = [] ∨ lowerBetween s part ['a'] = lowerBetween s part []) :
    lowerBetween (s ++ before) part after = lowerBetween s part [] := by
  induction part generalizing s with
  | nil =>
      rfl
  | cons c part ih =>
      simp only [lowerBetween, List.append_nil] at hbefore hafter ⊢
      -- How long the lowercase of a character is does not depend on its place, so the parts agree one by one.
      have hbefore' := hbefore.imp_right fun h => List.append_inj h (length_lowerAt _ _ _ _ _)
      have hafter' := hafter.imp_right fun h => List.append_inj h (length_lowerAt _ _ _ _ _)
      have hrest : lowerBetween (c :: s ++ before) part after = lowerBetween (c :: s) part [] :=
        ih (hbefore'.imp_right And.right) (hafter'.imp_right And.right)
      have hfirst : lowerAt (s ++ before) c (part ++ after) = lowerAt s c part := by
        by_cases hc : c = 'Σ'
        · subst hc
          rw [lowerAt_sigma_inj]
          exact endsWord_steady (hbefore'.imp_right fun h => lowerAt_sigma_inj.1 h.1)
            (hafter'.imp_right fun h => lowerAt_sigma_inj.1 h.1)
        · rw [lowerAt_of_ne hc, lowerAt_of_ne hc]
      rw [hfirst, ← hrest, List.cons_append]

theorem lowerAlone_letter : lowerAlone 'a' = ['a'] := by
  decide +kernel

theorem lowerAlone_blank : lowerAlone ' ' = [' '] := by
  decide +kernel

theorem lowerFrom_letter (before rest : List Char) :
    lowerFrom before ('a' :: rest) = 'a' :: lowerFrom ('a' :: before) rest := by
  rw [lowerFrom_cons, lowerAt_of_ne (by decide), lowerAlone_letter]
  rfl

theorem lowerFrom_blank (before rest : List Char) :
    lowerFrom before (' ' :: rest) = ' ' :: lowerFrom (' ' :: before) rest := by
  rw [lowerFrom_cons, lowerAt_of_ne (by decide), lowerAlone_blank]
  rfl

theorem lowerList_letter_cons (part : List Char) : lowerList ('a' :: part) = 'a' :: lowerBetween ['a'] part [] := by
  rw [lowerList, lowerFrom_letter, lowerFrom_eq]

theorem lowerList_append_letter (part : List Char) :
    lowerList (part ++ ['a']) = lowerBetween [] part ['a'] ++ ['a'] := by
  rw [lowerList, lowerFrom_append, lowerFrom_letter, lowerFrom]

/-! ## Counting sigmas -/

/-- Whether a list holds no more of a letter than another, and fewer unless it is the same list. -/
def NoMoreOf (x : Char) (xs ys : List Char) : Prop := xs.count x ≤ ys.count x ∧ (ys.count x ≤ xs.count x → xs = ys)

section NoMoreOf

variable {x : Char} {xs ys xs' ys' : List Char}

theorem NoMoreOf.refl (x : Char) (xs : List Char) : NoMoreOf x xs xs :=
  ⟨Nat.le_refl _, fun _ => rfl⟩

theorem NoMoreOf.append (h : NoMoreOf x xs ys) (h' : NoMoreOf x xs' ys') : NoMoreOf x (xs ++ xs') (ys ++ ys') := by
  obtain ⟨hle, heq⟩ := h
  obtain ⟨hle', heq'⟩ := h'
  rw [NoMoreOf, List.count_append, List.count_append]
  exact ⟨by omega, fun hmore => by rw [heq (by omega), heq' (by omega)]⟩

end NoMoreOf

section Sigmas

variable {s' t' : List Char}

theorem noMoreOf_lowerAt_final (h : endsWord s t = true → endsWord s' t' = true) (c : Char) :
    NoMoreOf 'ς' (lowerAt s c t) (lowerAt s' c t') := by
  by_cases hc : c = 'Σ'
  · subst hc
    rw [lowerAt_sigma, lowerAt_sigma]
    revert h
    cases endsWord s t <;> cases endsWord s' t' <;> simp [NoMoreOf]
  · rw [lowerAt_of_ne hc, lowerAt_of_ne hc]
    exact NoMoreOf.refl _ _

theorem noMoreOf_lowerAt_small (h : endsWord s' t' = true → endsWord s t = true) (c : Char) :
    NoMoreOf 'σ' (lowerAt s c t) (lowerAt s' c t') := by
  by_cases hc : c = 'Σ'
  · subst hc
    rw [lowerAt_sigma, lowerAt_sigma]
    revert h
    cases endsWord s t <;> cases endsWord s' t' <;> simp [NoMoreOf]
  · rw [lowerAt_of_ne hc, lowerAt_of_ne hc]
    exact NoMoreOf.refl _ _

/-- A letter after a part leaves it no more final sigmas. -/
theorem noMoreOf_final (s part : List Char) : NoMoreOf 'ς' (lowerBetween s part ['a']) (lowerBetween s part []) := by
  induction part generalizing s with
  | nil =>
      exact NoMoreOf.refl _ _
  | cons c part ih =>
      rw [lowerBetween, lowerBetween, List.append_nil]
      exact (noMoreOf_lowerAt_final endsWord_of_append_letter c).append (ih (c :: s))

/-- A letter before a part leaves it no more small sigmas. -/
theorem noMoreOf_small (s part : List Char) :
    NoMoreOf 'σ' (lowerBetween (s ++ ['a']) part []) (lowerBetween s part []) := by
  induction part generalizing s with
  | nil =>
      exact NoMoreOf.refl _ _
  | cons c part ih =>
      rw [lowerBetween, lowerBetween, List.append_nil]
      exact (noMoreOf_lowerAt_small endsWord_append_letter c).append (ih (c :: s))

end Sigmas

/-! ## Contiguous parts -/

/-- Where a part is looked for in a text. -/
inductive Place where
  | whole
  | start
  | finish
  | inside
deriving DecidableEq, Repr

namespace Place

/-- Whether the text may go on before the part. -/
def roomBefore : Place → Bool
  | whole | start => false
  | finish | inside => true

/-- Whether the text may go on after the part. -/
def roomAfter : Place → Bool
  | whole | finish => false
  | start | inside => true

/-- Whether a text has a part at a place. -/
def Holds (place : Place) (text part : List Char) : Prop :=
  ∃ before after, before ++ part ++ after = text ∧ (before = [] ∨ place.roomBefore = true) ∧
    (after = [] ∨ place.roomAfter = true)

/-- Whether a letter put where there is room, before or after a part, leaves the lowercase of the part as it is. -/
structure Settles (place : Place) (part : List Char) : Prop where
  before : place.roomBefore = true → lowerList ('a' :: part) = 'a' :: lowerList part
  after : place.roomAfter = true → lowerList (part ++ ['a']) = lowerList part ++ ['a']

variable {place : Place} {text : List Char}

theorem holds_whole_iff : whole.Holds text part ↔ text = part := by
  constructor
  · rintro ⟨before, after, rfl, rfl | hbefore, rfl | hafter⟩
    · simp
    · cases hafter
    · cases hbefore
    · cases hbefore
  · rintro rfl
    exact ⟨[], [], by simp, Or.inl rfl, Or.inl rfl⟩

theorem holds_start_iff : start.Holds text part ↔ part <+: text := by
  constructor
  · rintro ⟨before, after, h, rfl | hbefore, -⟩
    · exact ⟨after, h⟩
    · cases hbefore
  · rintro ⟨after, h⟩
    exact ⟨[], after, h, Or.inl rfl, Or.inr rfl⟩

theorem holds_finish_iff : finish.Holds text part ↔ part <:+ text := by
  constructor
  · rintro ⟨before, after, h, -, rfl | hafter⟩
    · exact ⟨before, by simpa using h⟩
    · cases hafter
  · rintro ⟨before, h⟩
    exact ⟨before, [], by simpa using h, Or.inr rfl, Or.inl rfl⟩

theorem holds_inside_iff : inside.Holds text part ↔ part <:+: text := by
  constructor
  · rintro ⟨before, after, h, -⟩
    exact ⟨before, after, h⟩
  · rintro ⟨before, after, h⟩
    exact ⟨before, after, h, Or.inr rfl, Or.inr rfl⟩

theorem Holds.sublist (h : place.Holds text part) : part.Sublist text := by
  obtain ⟨before, after, rfl, -⟩ := h
  exact ((List.sublist_append_right before part).trans (List.sublist_append_left _ after))

theorem settles_iff :
    place.Settles part ↔
      (place.roomBefore = true → lowerBetween ['a'] part [] = lowerBetween [] part []) ∧
        (place.roomAfter = true → lowerBetween [] part ['a'] = lowerBetween [] part []) := by
  have hbefore : lowerList ('a' :: part) = 'a' :: lowerList part ↔
      lowerBetween ['a'] part [] = lowerBetween [] part [] := by
    rw [lowerList_letter_cons, lowerList, lowerFrom_eq, List.cons_inj_right]
  have hafter : lowerList (part ++ ['a']) = lowerList part ++ ['a'] ↔
      lowerBetween [] part ['a'] = lowerBetween [] part [] := by
    rw [lowerList_append_letter, lowerList, lowerFrom_eq, List.append_cancel_right_eq]
  constructor
  · rintro ⟨h, h'⟩
    exact ⟨fun hroom => hbefore.1 (h hroom), fun hroom => hafter.1 (h' hroom)⟩
  · rintro ⟨h, h'⟩
    exact ⟨fun hroom => hbefore.2 (h hroom), fun hroom => hafter.2 (h' hroom)⟩

/-- What a text has at a place it has there in lowercase, whatever the text, exactly if the place settles the
lowercase of the part. -/
theorem holds_lowerList_iff :
    (∀ text, place.Holds text part → place.Holds (lowerList text) (lowerList part)) ↔ place.Settles part := by
  rw [settles_iff]
  have hpart : lowerList part = lowerBetween [] part [] := lowerFrom_eq [] part
  constructor
  · intro h
    -- If the letter changed the lowercase, there would be fewer sigmas of one kind than the part has.
    refine ⟨fun hroom => ?_, fun hroom => ?_⟩
    · have hsub := (h ('a' :: part) ⟨['a'], [], by simp, Or.inr hroom, Or.inl rfl⟩).sublist
      have hcount := hsub.count_le 'σ'
      rw [hpart, lowerList_letter_cons, List.count_cons_of_ne (by decide)] at hcount
      exact (noMoreOf_small [] part).2 hcount
    · have hsub := (h (part ++ ['a']) ⟨[], ['a'], by simp, Or.inl rfl, Or.inr hroom⟩).sublist
      have hcount := hsub.count_le 'ς'
      rw [hpart, lowerList_append_letter, List.count_append] at hcount
      exact (noMoreOf_final [] part).2 hcount
  · rintro ⟨hbefore, hafter⟩ text ⟨before, after, rfl, hroom, hroom'⟩
    -- The text in lowercase is that of what comes before, of the part and of what comes after.
    have hsteady : lowerBetween before.reverse part after = lowerBetween [] part [] := by
      refine lowerBetween_steady (s := []) ?_ (hroom'.imp_right hafter)
      exact hroom.imp (fun h => List.reverse_eq_nil_iff.2 h) hbefore
    refine ⟨lowerBetween [] before (part ++ after), lowerFrom (part.reverse ++ before.reverse) after, ?_, ?_, ?_⟩
    · rw [hpart, ← hsteady]
      show _ = lowerFrom [] (before ++ part ++ after)
      rw [List.append_assoc before, lowerFrom_append, lowerFrom_append, List.append_nil, List.append_assoc]
    · refine hroom.imp_left ?_
      rintro rfl
      rfl
    · refine hroom'.imp_left ?_
      rintro rfl
      rfl

/-- A part without a capital sigma has one lowercase everywhere. -/
theorem settles_of_not_mem (h : 'Σ' ∉ part) : place.Settles part := by
  refine settles_iff.2 ⟨fun _ => ?_, fun _ => ?_⟩
  · rw [lowerBetween_of_not_mem h, lowerBetween_of_not_mem h]
  · rw [lowerBetween_of_not_mem h, lowerBetween_of_not_mem h]

end Place

/-! ## Scattered characters -/

/-- Every capital sigma of a part made the end of a word. -/
def ending (part : List Char) : List Char := part.flatMap fun c => if c = 'Σ' then ['a', 'Σ', ' '] else [c]

/-- Every capital sigma of a part made to stand before a letter. -/
def running (part : List Char) : List Char := part.flatMap fun c => if c = 'Σ' then ['Σ', 'a'] else [c]

theorem sublist_flatMap {f : Char → List Char} (h : ∀ c, c ∈ f c) (part : List Char) :
    part.Sublist (part.flatMap f) := by
  induction part with
  | nil =>
      exact List.nil_sublist _
  | cons c part ih =>
      rw [List.flatMap_cons]
      exact (List.singleton_sublist.2 (h c)).append ih

theorem sublist_ending (part : List Char) : part.Sublist (ending part) := by
  refine sublist_flatMap (fun c => ?_) part
  split_ifs with hc
  · simp [hc]
  · exact List.mem_singleton_self c

theorem sublist_running (part : List Char) : part.Sublist (running part) := by
  refine sublist_flatMap (fun c => ?_) part
  split_ifs with hc
  · simp [hc]
  · exact List.mem_singleton_self c

theorem ending_of_ne (hc : c ≠ 'Σ') (part : List Char) : ending (c :: part) = c :: ending part := by
  simp [ending, hc]

theorem running_of_ne (hc : c ≠ 'Σ') (part : List Char) : running (c :: part) = c :: running part := by
  simp [running, hc]

theorem lowerFrom_ending_sigma (before part : List Char) :
    lowerFrom before (ending ('Σ' :: part)) =
      'a' :: 'ς' :: ' ' :: lowerFrom (' ' :: 'Σ' :: 'a' :: before) (ending part) := by
  have hending : ending ('Σ' :: part) = 'a' :: 'Σ' :: ' ' :: ending part := rfl
  rw [hending, lowerFrom_letter, lowerFrom_cons, lowerAt_sigma, endsWord_between, if_pos rfl, lowerFrom_blank]
  rfl

theorem lowerFrom_running_sigma (before part : List Char) :
    lowerFrom before (running ('Σ' :: part)) = 'σ' :: 'a' :: lowerFrom ('a' :: 'Σ' :: before) (running part) := by
  have hrunning : running ('Σ' :: part) = 'Σ' :: 'a' :: running part := rfl
  rw [hrunning, lowerFrom_cons, lowerAt_sigma, endsWord_before_letter, if_neg Bool.false_ne_true, lowerFrom_letter]
  rfl

/-- A capital sigma becomes one sigma or the other. -/
theorem count_lowerAt_sigma (before after : List Char) :
    (lowerAt before 'Σ' after).count 'σ' + (lowerAt before 'Σ' after).count 'ς' = 1 := by
  rw [lowerAt_sigma]
  split_ifs <;> decide

/-- Between them the two texts miss a sigma for every capital one. -/
theorem count_lowerFrom_sigmas (before before' before'' part : List Char) :
    (lowerFrom before (ending part)).count 'σ' + (lowerFrom before' (running part)).count 'ς' + part.count 'Σ' =
      (lowerFrom before'' part).count 'σ' + (lowerFrom before'' part).count 'ς' := by
  induction part generalizing before before' before'' with
  | nil =>
      rfl
  | cons c part ih =>
      by_cases hc : c = 'Σ'
      · subst hc
        have hfirst := count_lowerAt_sigma before'' part
        have hrest := ih (' ' :: 'Σ' :: 'a' :: before) ('a' :: 'Σ' :: before') ('Σ' :: before'')
        -- The first text has a final sigma in its place and the second one a small one, neither of which counts.
        have hending : ('a' :: 'ς' :: ' ' :: lowerFrom (' ' :: 'Σ' :: 'a' :: before) (ending part)).count 'σ' =
            (lowerFrom (' ' :: 'Σ' :: 'a' :: before) (ending part)).count 'σ' := by
          simp
        have hrunning : ('σ' :: 'a' :: lowerFrom ('a' :: 'Σ' :: before') (running part)).count 'ς' =
            (lowerFrom ('a' :: 'Σ' :: before') (running part)).count 'ς' := by
          simp
        rw [lowerFrom_ending_sigma, lowerFrom_running_sigma, hending, hrunning, List.count_cons_self,
          lowerFrom_cons before'', List.count_append, List.count_append]
        omega
      · have hrest := ih (c :: before) (c :: before') (c :: before'')
        rw [ending_of_ne hc, running_of_ne hc, lowerFrom_cons, lowerFrom_cons, lowerFrom_cons, lowerAt_of_ne hc,
          lowerAt_of_ne hc, lowerAt_of_ne hc, List.count_cons_of_ne hc]
        simp only [List.count_append]
        omega

/-- Scattered characters without a capital sigma are scattered in lowercase. -/
theorem sublist_lowerFrom {text : List Char} (h : part.Sublist text) (hsigma : 'Σ' ∉ part)
    (before before' : List Char) :
    (lowerFrom before part).Sublist (lowerFrom before' text) := by
  induction h generalizing before before' with
  | slnil =>
      exact List.nil_sublist _
  | cons c _ ih =>
      rw [lowerFrom_cons before']
      exact (ih hsigma before (c :: before')).trans (List.sublist_append_right _ _)
  | cons_cons c _ ih =>
      obtain ⟨hc, hrest⟩ := not_or.1 (mt List.mem_cons.2 hsigma)
      rw [lowerFrom_cons, lowerFrom_cons, lowerAt_of_ne (Ne.symm hc), lowerAt_of_ne (Ne.symm hc)]
      exact (List.Sublist.refl _).append (ih hrest _ _)

/-- What is scattered in a text is scattered in it in lowercase, whatever the text, exactly if no capital sigma is part
of it. -/
theorem sublist_lowerList_iff :
    (∀ text, part.Sublist text → (lowerList part).Sublist (lowerList text)) ↔ 'Σ' ∉ part := by
  constructor
  · intro h hsigma
    have hending := (h _ (sublist_ending part)).count_le 'σ'
    have hrunning := (h _ (sublist_running part)).count_le 'ς'
    have hcount := count_lowerFrom_sigmas [] [] [] part
    have hpos := List.count_pos_iff.2 hsigma
    simp only [lowerList] at hending hrunning
    omega
  · intro hsigma text hsub
    exact sublist_lowerFrom hsub hsigma [] []

end Text
end GraphQuery
