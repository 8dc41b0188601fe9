import GraphQuery.Proofs.Number.RoundingOrder
import GraphQuery.Proofs.Text.Scattered
import GraphQuery.Search.Score
import Mathlib.Algebra.Group.Action.Defs
import Mathlib.Algebra.Order.BigOperators.Group.List

/-!
# Relevance — what a score tells of a text

The points of a match are those of a contained part, of a prefix, and of the words (`Score.wordBonus`).  Words are
parts of their text, so a text that does not contain the query has no points and the score zero
(`relevance_eq_zero`); one that contains it and is shorter than a thousand characters has a score above zero
(`relevance_pos`).

Of texts of one length, one that starts with the query scores at least what one scores that only contains it, as
long as the words of the other are not worth more than the prefix (`relevance_ofPrefix`).

Scores are computed with a floating tenth for every character; `exactRelevance` reads the tenth exactly.
-/

namespace GraphQuery
namespace Text

/-! ## Words are parts -/

theorem splitBlanks_parts (s : List Char) :
    ∃ piece pieces, splitBlanks s = piece :: pieces ∧ piece <+: s ∧ ∀ p ∈ pieces, p <:+: s := by
  induction s with
  | nil =>
      exact ⟨[], [], rfl, List.prefix_rfl, fun _ h => absurd h List.not_mem_nil⟩
  | cons c rest ih =>
      -- The character may join the first piece, so it matters that this one is a prefix.
      obtain ⟨piece, pieces, hsplit, hfirst, hothers⟩ := ih
      have hrest : rest <:+: c :: rest := (List.suffix_cons c rest).isInfix
      by_cases hblank : isBlank c = true
      · refine ⟨[], piece :: pieces, by simp [splitBlanks, hsplit, hblank], List.nil_prefix, ?_⟩
        exact List.forall_mem_cons.2 ⟨hfirst.isInfix.trans hrest, fun p hp => (hothers p hp).trans hrest⟩
      · refine ⟨c :: piece, pieces, by simp [splitBlanks, hsplit, hblank], ?_, fun p hp => (hothers p hp).trans hrest⟩
        exact List.cons_prefix_cons.2 ⟨rfl, hfirst⟩

theorem infix_of_mem_wordLists {s word : List Char} (h : word ∈ wordLists s) : word <:+: s := by
  obtain ⟨piece, pieces, hsplit, hfirst, hothers⟩ := splitBlanks_parts s
  have hmem := List.mem_of_mem_filter h
  rw [hsplit] at hmem
  rcases List.mem_cons.1 hmem with rfl | hmem
  · exact hfirst.isInfix
  · exact hothers word hmem

theorem length_splitBlanks_le (s : List Char) : (splitBlanks s).length ≤ s.length + 1 := by
  induction s with
  | nil =>
      exact le_rfl
  | cons c rest ih =>
      obtain ⟨piece, pieces, hsplit, -⟩ := splitBlanks_parts rest
      rw [hsplit] at ih
      rw [splitBlanks, hsplit]
      by_cases hblank : isBlank c = true
      · simpa [hblank] using ih
      · simp only [hblank, Bool.false_eq_true, if_false, List.length_cons] at ih ⊢
        omega

theorem length_wordLists_le (s : List Char) : (wordLists s).length ≤ s.length + 1 :=
  (List.length_filter_le _ _).trans (length_splitBlanks_le s)

end Text

namespace Score

variable {text query word : List Char} {p q length : Nat}

/-! ## Points -/

/-- The points of all words of a text. -/
def wordBonus (text query : List Char) : Nat := ((Text.wordLists text).map (wordPoints query)).sum

theorem points_eq (text query : List Char) :
    points text query =
      (if Text.hasPart query text then 100 else 0) + (if query.isPrefixOf text then 50 else 0) +
        wordBonus text query := by
  rw [points, wordBonus, List.sum_eq_foldl]

theorem wordPoints_le (query word : List Char) : wordPoints query word ≤ 100 := by
  rw [wordPoints]
  split_ifs <;> omega

theorem wordPoints_eq_zero (h : ¬ query <:+: word) : wordPoints query word = 0 := by
  have hstart : ¬ query.isPrefixOf word = true := fun hp => h (List.isPrefixOf_iff_prefix.1 hp).isInfix
  have hword : word ≠ query := fun heq => h (heq ▸ List.infix_rfl)
  rw [wordPoints, if_neg hstart, if_neg hword]

theorem wordBonus_eq_zero (h : ¬ query <:+: text) : wordBonus text query = 0 := by
  refine List.sum_eq_zero fun n hn => ?_
  obtain ⟨word, hword, rfl⟩ := List.mem_map.1 hn
  exact wordPoints_eq_zero fun hpart => h (hpart.trans (Text.infix_of_mem_wordLists hword))

theorem wordBonus_le (text query : List Char) : wordBonus text query ≤ 100 * (text.length + 1) := by
  have hwords : wordBonus text query ≤ ((Text.wordLists text).map (wordPoints query)).length • 100 := by
    refine List.sum_le_card_nsmul _ _ fun n hn => ?_
    obtain ⟨word, -, rfl⟩ := List.mem_map.1 hn
    exact wordPoints_le query word
  have hcount := Text.length_wordLists_le text
  rw [List.length_map, smul_eq_mul] at hwords
  omega

theorem points_le (text query : List Char) : points text query ≤ 250 + 100 * text.length := by
  have hwords := wordBonus_le text query
  rw [points_eq]
  split_ifs <;> omega

/-- A text that does not contain the query has no points at all. -/
theorem points_eq_zero (h : ¬ query <:+: text) : points text query = 0 := by
  have hpart : ¬ Text.hasPart query text = true := fun hp => h (Text.hasPart_iff.1 hp)
  have hstart : ¬ query.isPrefixOf text = true := fun hp => h (List.isPrefixOf_iff_prefix.1 hp).isInfix
  rw [points_eq, if_neg hpart, if_neg hstart, wordBonus_eq_zero h]

theorem le_points (h : query <:+: text) : 100 ≤ points text query := by
  rw [points_eq, if_pos (Text.hasPart_iff.2 h)]
  omega

theorem points_of_prefix (h : query <+: text) : points text query = 150 + wordBonus text query := by
  rw [points_eq, if_pos (Text.hasPart_iff.2 h.isInfix), if_pos (List.isPrefixOf_iff_prefix.2 h)]

theorem points_of_infix (h : query <:+: text) (hstart : ¬ query <+: text) :
    points text query = 100 + wordBonus text query := by
  have hfalse : ¬ query.isPrefixOf text = true := fun hp => hstart (List.isPrefixOf_iff_prefix.1 hp)
  rw [points_eq, if_pos (Text.hasPart_iff.2 h), if_neg hfalse]

/-! ## Scores -/

/-- What is taken off for a length, as it is computed. -/
def penalty (length : Nat) : ℚ := (Binary64.mul (.ofNat length) tenth).toRat

theorem toRat_tenth_pos : 0 < tenth.toRat := by
  decide +kernel

theorem penalty_nonneg (length : Nat) : 0 ≤ penalty length :=
  Binary64.toRat_ofRat_nonneg (mul_nonneg (Binary64.toRat_ofNat_nonneg length) toRat_tenth_pos.le)

theorem penalty_mono {length length' : Nat} (h : length ≤ length') (hfits : length' < 2 ^ 70) :
    penalty length ≤ penalty length' := by
  have hsmall : tenth.toRat ≤ 1 := by
    decide +kernel
  refine Binary64.toRat_ofRat_mono ?_ (mul_nonneg (Binary64.toRat_ofNat_nonneg length') toRat_tenth_pos.le) ?_
  · exact mul_le_mul_of_nonneg_right (Binary64.toRat_ofNat_mono h (Binary64.natCast_lt_range hfits)) toRat_tenth_pos.le
  · exact (mul_le_of_le_one_right (Binary64.toRat_ofNat_nonneg length') hsmall).trans_lt
      (Binary64.toRat_ofNat_lt_range hfits)

/-- The score of points at a length, before it is kept from falling below zero. -/
def unclamped (points length : Nat) : Binary64 := .ofRat ((Binary64.ofNat points).toRat - penalty length)

theorem settle_eq (points length : Nat) :
    settle points length = if 0 < (unclamped points length).toRat then unclamped points length else .zero :=
  rfl

theorem toRat_settle (points length : Nat) : (settle points length).toRat = max 0 (unclamped points length).toRat := by
  rw [settle_eq]
  split_ifs with h
  · exact (max_eq_right h.le).symm
  · rw [Binary64.toRat_zero, max_eq_left (not_lt.1 h)]

/-- Without points there is nothing that a penalty could leave. -/
theorem settle_zero (length : Nat) : settle 0 length = .zero := by
  have hnone : (unclamped 0 length).toRat ≤ 0 := by
    have hpoints : (Binary64.ofNat 0).toRat = 0 := by
      decide +kernel
    have hpenalty := penalty_nonneg length
    exact Binary64.toRat_ofRat_nonpos (by linarith)
  rw [settle_eq, if_neg hnone.not_gt]

/-- At one length more points do not score less. -/
theorem toRat_settle_mono (h : p ≤ q) (hq : q < 2 ^ 70) (length : Nat) :
    (settle p length).toRat ≤ (settle q length).toRat := by
  have hpoints := Binary64.toRat_ofNat_mono h (Binary64.natCast_lt_range hq)
  have hlarge := Binary64.toRat_ofNat_lt_range hq
  have hpenalty := penalty_nonneg length
  rw [toRat_settle, toRat_settle]
  -- Rounding keeps the order if the greater difference is not negative; otherwise the lesser score is zero.
  rcases le_or_gt 0 ((Binary64.ofNat q).toRat - penalty length) with hpos | hneg
  · exact max_le_max_left 0 (Binary64.toRat_ofRat_mono (by linarith) hpos (by linarith))
  · have hnone : (unclamped p length).toRat ≤ 0 := Binary64.toRat_ofRat_nonpos (by linarith)
    rw [max_eq_left hnone]
    exact le_max_left _ _

/-- The penalty of less than a thousand characters does not eat up a hundred points. -/
theorem toRat_settle_pos (hp : 100 ≤ p) (hfits : p < 2 ^ 70) (hlength : length < 1000) :
    0 < (settle p length).toRat := by
  have hleast : 0 < (unclamped 100 999).toRat := by
    decide +kernel
  have hdifference : 0 ≤ (Binary64.ofNat 100).toRat - penalty 999 := by
    decide +kernel
  have hpoints := Binary64.toRat_ofNat_mono hp (Binary64.natCast_lt_range hfits)
  have hpenalty := penalty_mono (by omega : length ≤ 999) (by norm_num)
  have hnonneg := penalty_nonneg length
  have hlarge := Binary64.toRat_ofNat_lt_range hfits
  -- The least points and the greatest penalty still leave a score.
  rw [toRat_settle]
  refine lt_max_of_lt_right (hleast.trans_le ?_)
  exact Binary64.toRat_ofRat_mono (by linarith) (by linarith) (by linarith)

end Score

/-! ## Relevance -/

/-- The points of a match less an exact tenth for every character, at least zero. -/
def exactRelevance (text query : String) : ℚ := max 0 (Score.points text.toList query.toList - text.length / 10)

section Relevance

variable {text query t u : String}

theorem relevance_eq_zero (h : ¬ query.toList <:+: text.toList) : relevance text query = .zero := by
  rw [relevance, Score.points_eq_zero h, Score.settle_zero]

theorem exactRelevance_eq_zero (h : ¬ query.toList <:+: text.toList) : exactRelevance text query = 0 := by
  have hlength : (0 : ℚ) ≤ text.length := Nat.cast_nonneg _
  rw [exactRelevance, Score.points_eq_zero h, Nat.cast_zero]
  exact max_eq_left (by linarith)

theorem points_lt (hlength : text.length < 2 ^ 63) : Score.points text.toList query.toList < 2 ^ 70 := by
  have hpoints := Score.points_le text.toList query.toList
  rw [String.length_toList] at hpoints
  omega

theorem relevance_pos (h : query.toList <:+: text.toList) (hlength : text.length < 1000) :
    0 < (relevance text query).toRat :=
  Score.toRat_settle_pos (Score.le_points h) (points_lt (by omega)) hlength

theorem exactRelevance_pos (h : query.toList <:+: text.toList) (hlength : text.length < 1000) :
    0 < exactRelevance text query := by
  have hpoints : (100 : ℚ) ≤ Score.points text.toList query.toList := by exact_mod_cast Score.le_points h
  have hshort : (text.length : ℚ) < 1000 := by exact_mod_cast hlength
  exact lt_max_of_lt_right (by linarith)

/-- Of texts of one length, one that starts with the query scores at least what one scores that only contains it, if
the words of the other are worth at most the 50 points of the prefix more.  With exact tenths this is so only then,
or if the other scores nothing.  (A length that a machine word holds keeps floating points finite.) -/
theorem relevance_ofPrefix (hlength : t.length = u.length) (hstart : query.toList <+: t.toList)
    (hpart : query.toList <:+: u.toList) (hother : ¬ query.toList <+: u.toList) :
    (exactRelevance u query ≤ exactRelevance t query ↔
      Score.wordBonus u.toList query.toList ≤ Score.wordBonus t.toList query.toList + 50 ∨
        exactRelevance u query = 0) ∧
    (t.length < 2 ^ 63 →
      Score.wordBonus u.toList query.toList ≤ Score.wordBonus t.toList query.toList + 50 →
        (relevance u query).toRat ≤ (relevance t query).toRat) := by
  have ht := Score.points_of_prefix hstart
  have hu := Score.points_of_infix hpart hother
  constructor
  · have hwords : Score.wordBonus u.toList query.toList ≤ Score.wordBonus t.toList query.toList + 50 ↔
        (Score.points u.toList query.toList - u.length / 10 : ℚ) ≤
          Score.points t.toList query.toList - t.length / 10 := by
      rw [ht, hu, hlength, sub_le_sub_iff_right, Nat.cast_le]
      omega
    rw [hwords, exactRelevance, exactRelevance, max_eq_left_iff, max_le_iff, and_iff_right (le_max_left _ _),
      le_max_iff, or_comm]
  · intro hfits hwords
    have hpoints : Score.points u.toList query.toList ≤ Score.points t.toList query.toList := by omega
    have hle := Score.toRat_settle_mono hpoints (points_lt hfits) t.length
    rw [relevance, relevance, ← hlength]
    exact hle

theorem relevance_ofPrefix_words :
    ("ra xxxxx".length = "x rax ra".length ∧ "ra".toList <+: "ra xxxxx".toList ∧ "ra".toList <:+: "x rax ra".toList ∧
      ¬ "ra".toList <+: "x rax ra".toList) ∧
    (exactRelevance "x rax ra" "ra" ≤ exactRelevance "ra xxxxx" "ra" ↔
      Score.wordBonus "x rax ra".toList "ra".toList ≤ Score.wordBonus "ra xxxxx".toList "ra".toList + 50 ∨
        exactRelevance "x rax ra" "ra" = 0) ∧
    ("ra xxxxx".length < 2 ^ 63 →
      Score.wordBonus "x rax ra".toList "ra".toList ≤ Score.wordBonus "ra xxxxx".toList "ra".toList + 50 →
        (relevance "x rax ra" "ra").toRat ≤ (relevance "ra xxxxx" "ra").toRat) :=
  ⟨by decide +kernel,
    relevance_ofPrefix (by decide +kernel) (by decide +kernel) (by decide +kernel) (by decide +kernel)⟩

/-- The text that starts with the query scores less than the other, of which a word is the query. -/
theorem prefix_outscored :
    "ra" ≠ "" ∧ "raxx".length = "x ra".length ∧ "ra".toList <+: "raxx".toList ∧ "ra".toList <:+: "x ra".toList ∧
      ¬ "ra".toList <+: "x ra".toList ∧ (relevance "raxx" "ra").toRat < (relevance "x ra" "ra").toRat ∧
      exactRelevance "raxx" "ra" < exactRelevance "x ra" "ra" := by
  decide +kernel

end Relevance
end GraphQuery
