import GraphQuery.Json.Reader
import GraphQuery.Json.Writer
import Mathlib.Tactic.IntervalCases

/-!
# Strings in JSON — read back as they were written

Every character is written as itself or as an escape: by a letter, by one code unit, or by two code units for a
character beyond the first plane (`Json.Escaped`).  Each of these is read as the character, so a string is read
back as it was written, in either style.
-/

namespace GraphQuery
namespace Json

/-! ## Code units -/

theorem hexValue?_digitChar {n : Nat} (h : n < 16) : hexValue? (Nat.digitChar n) = some n := by
  interval_cases n <;> decide

/-- Four hexadecimal digits are read as the code unit they stand for. -/
theorem fourHex?_hexDigits {n : Nat} (h : n < 0x10000) (rest : List Char) :
    fourHex? (Text.hexDigits 4 n ++ rest) = some (n, rest) := by
  have hdigits : Text.hexDigits 4 n = [Nat.digitChar (n / 16 / 16 / 16 % 16),
      Nat.digitChar (n / 16 / 16 % 16), Nat.digitChar (n / 16 % 16), Nat.digitChar (n % 16)] := rfl
  have hvalue : ∀ k : Nat, hexValue? (Nat.digitChar (k % 16)) = some (k % 16) :=
    fun k => hexValue?_digitChar (Nat.mod_lt k (by decide))
  rw [hdigits]
  simp only [List.cons_append, List.nil_append, fourHex?, hvalue, Option.bind_eq_bind,
    Option.bind_some, Option.some.injEq, Prod.mk.injEq, and_true]
  omega

/-- Code points of characters leave out the surrogates. -/
theorem not_surrogate (c : Char) : c.toNat < 0xd800 ∨ 0xe000 ≤ c.toNat ∧ c.toNat < 0x110000 := by
  have hvalid : c.toNat.isValidChar := c.valid
  rcases hvalid with h | h
  · exact Or.inl h
  · exact Or.inr ⟨h.1, h.2⟩

theorem joinUnits_toNat (c : Char) (rest : List Char) : joinUnits c.toNat rest = (c, rest) := by
  have hc := not_surrogate c
  have hhigh : (decide (0xd800 ≤ c.toNat) && decide (c.toNat < 0xdc00)) = false := by
    rw [Bool.and_eq_false_iff, decide_eq_false_iff_not, decide_eq_false_iff_not]
    omega
  have hlow : (decide (0xdc00 ≤ c.toNat) && decide (c.toNat < 0xe000)) = false := by
    rw [Bool.and_eq_false_iff, decide_eq_false_iff_not, decide_eq_false_iff_not]
    omega
  unfold joinUnits
  rw [hhigh, hlow, Char.ofNat_toNat]
  rfl

/-- The two code units of a character beyond the first plane are joined again. -/
theorem joinUnits_pair {c : Char} (hc : 0x10000 ≤ c.toNat) (rest : List Char) :
    joinUnits (0xd800 + (c.toNat - 0x10000) / 0x400)
        (unitEscape (0xdc00 + (c.toNat - 0x10000) % 0x400) ++ rest) = (c, rest) := by
  have hrange := not_surrogate c
  have hhigh : (decide (0xd800 ≤ 0xd800 + (c.toNat - 0x10000) / 0x400) &&
      decide (0xd800 + (c.toNat - 0x10000) / 0x400 < 0xdc00)) = true := by
    rw [Bool.and_eq_true, decide_eq_true_iff, decide_eq_true_iff]
    omega
  have hlow : (decide (0xdc00 ≤ 0xdc00 + (c.toNat - 0x10000) % 0x400) &&
      decide (0xdc00 + (c.toNat - 0x10000) % 0x400 < 0xe000)) = true := by
    rw [Bool.and_eq_true, decide_eq_true_iff, decide_eq_true_iff]
    omega
  have hunit : 0xdc00 + (c.toNat - 0x10000) % 0x400 < 0x10000 := by omega
  have hjoined : 0x10000 + (0xd800 + (c.toNat - 0x10000) / 0x400 - 0xd800) * 0x400 +
      (0xdc00 + (c.toNat - 0x10000) % 0x400 - 0xdc00) = c.toNat := by omega
  unfold joinUnits
  rw [hhigh, if_pos rfl, unitEscape]
  simp only [List.cons_append, fourHex?_hexDigits hunit, hlow, if_true, hjoined, Char.ofNat_toNat]

/-! ## Characters -/

/-- A character of which the escape by number has been read is the next one of the string. -/
theorem stringBody_unit {fuel unit : Nat} {c : Char} {rest after body tail : List Char}
    (hunit : unit < 0x10000) (hjoin : joinUnits unit rest = (c, after))
    (hrest : stringBody fuel after = some (body, tail)) :
    stringBody (fuel + 1) (unitEscape unit ++ rest) = some (c :: body, tail) := by
  rw [unitEscape, List.cons_append, List.cons_append, stringBody]
  simp only [Char.reduceEq, if_false, Char.reduceToNat, Nat.reduceLT, if_true,
    fourHex?_hexDigits hunit, hjoin, hrest, Option.bind_eq_bind, Option.bind_some]

/-- A character with an escape of its own is read back. -/
theorem stringBody_plain {fuel : Nat} {e c : Char} {rest body tail : List Char} (he : e ≠ 'u')
    (hplain : plainEscape? e = some c) (hrest : stringBody fuel rest = some (body, tail)) :
    stringBody (fuel + 1) ('\\' :: e :: rest) = some (c :: body, tail) := by
  rw [stringBody]
  · simp only [Char.reduceEq, if_false, Char.reduceToNat, Nat.reduceLT, if_true, hplain, hrest,
      Option.bind_eq_bind, Option.bind_some]
  · exact he

/-- A character that stands for itself is read back. -/
theorem stringBody_self {fuel : Nat} {c : Char} {rest body tail : List Char} (hquote : c ≠ '"')
    (hcontrol : ¬ c.toNat < 0x20) (hslash : c ≠ '\\')
    (hrest : stringBody fuel rest = some (body, tail)) :
    stringBody (fuel + 1) (c :: rest) = some (c :: body, tail) := by
  rw [stringBody.eq_def]
  simp only [hquote, hcontrol, hslash, if_false, hrest, Option.bind_eq_bind, Option.bind_some]

theorem eq_of_toNat_eq {c : Char} {n : Nat} (h : c.toNat = n) : c = Char.ofNat n := by
  rw [← h, Char.ofNat_toNat]

/-- The ways in which a character is written: by a letter, as itself, by its code unit or by two of them. -/
inductive Escaped (c : Char) : List Char → Prop where
  | letter {e : Char} (notUnit : e ≠ 'u') (meaning : plainEscape? e = some c) : Escaped c ['\\', e]
  | itself (quote : c ≠ '"') (control : ¬ c.toNat < 0x20) (slash : c ≠ '\\') : Escaped c [c]
  | unit (small : c.toNat < 0x10000) : Escaped c (unitEscape c.toNat)
  | pair (large : 0x10000 ≤ c.toNat) :
      Escaped c (unitEscape (0xd800 + (c.toNat - 0x10000) / 0x400) ++
        unitEscape (0xdc00 + (c.toNat - 0x10000) % 0x400))

theorem escaped_escapedChar (basicOnly : Bool) (c : Char) : Escaped c (escapedChar basicOnly c) := by
  unfold escapedChar
  -- Seven characters have a letter of their own; the others are escaped by their number, if at all.
  by_cases hquote : c = '"'
  · rw [if_pos hquote, hquote]
    exact .letter (by decide) rfl
  rw [if_neg hquote]
  by_cases hslash : c = '\\'
  · rw [if_pos hslash, hslash]
    exact .letter (by decide) rfl
  rw [if_neg hslash]
  by_cases hnewline : c = '\n'
  · rw [if_pos hnewline, hnewline]
    exact .letter (by decide) rfl
  rw [if_neg hnewline]
  by_cases hreturn : c = '\r'
  · rw [if_pos hreturn, hreturn]
    exact .letter (by decide) rfl
  rw [if_neg hreturn]
  by_cases htab : c = '\t'
  · rw [if_pos htab, htab]
    exact .letter (by decide) rfl
  rw [if_neg htab]
  by_cases hback : c.toNat = 8
  · rw [if_pos hback, eq_of_toNat_eq hback]
    exact .letter (by decide) rfl
  rw [if_neg hback]
  by_cases hfeed : c.toNat = 12
  · rw [if_pos hfeed, eq_of_toNat_eq hfeed]
    exact .letter (by decide) rfl
  rw [if_neg hfeed]
  by_cases hcontrol : c.toNat < 0x20
  · rw [if_pos hcontrol]
    exact .unit (by omega)
  rw [if_neg hcontrol]
  split
  · exact .itself hquote hcontrol hslash
  by_cases hunit : c.toNat < 0x10000
  · rw [if_pos hunit]
    exact .unit hunit
  · rw [if_neg hunit]
    exact .pair (not_lt.1 hunit)

/-- A character is read back from each way in which it is written. -/
theorem Escaped.stringBody_append {c : Char} {cs : List Char} (h : Escaped c cs) {fuel : Nat}
    {rest body tail : List Char} (hrest : stringBody fuel rest = some (body, tail)) :
    stringBody (fuel + 1) (cs ++ rest) = some (c :: body, tail) := by
  cases h with
  | letter notUnit meaning =>
      exact stringBody_plain notUnit meaning hrest
  | itself quote control slash =>
      exact stringBody_self quote control slash hrest
  | unit small =>
      exact stringBody_unit small (joinUnits_toNat c rest) hrest
  | pair large =>
      have hrange := not_surrogate c
      rw [List.append_assoc]
      exact stringBody_unit (by omega) (joinUnits_pair large rest) hrest

theorem Escaped.ne_nil {c : Char} {cs : List Char} (h : Escaped c cs) : cs ≠ [] := by
  cases h <;> exact List.cons_ne_nil _ _

/-! ## Strings -/

/-- The characters of a string are read back up to the closing quote. -/
theorem stringBody_flatMap (basicOnly : Bool) {fuel : Nat} (cs rest : List Char)
    (hfuel : cs.length < fuel) :
    stringBody fuel (cs.flatMap (escapedChar basicOnly) ++ '"' :: rest) = some (cs, rest) := by
  induction cs generalizing fuel with
  | nil =>
      rcases fuel with _ | fuel
      · exact absurd hfuel (Nat.not_lt_zero _)
      · rfl
  | cons c cs ih =>
      rcases fuel with _ | fuel
      · exact absurd hfuel (Nat.not_lt_zero _)
      · rw [List.flatMap_cons, List.append_assoc]
        exact (escaped_escapedChar basicOnly c).stringBody_append (ih (by simpa using hfuel))

theorem length_le_length_flatMap (basicOnly : Bool) (cs : List Char) :
    cs.length ≤ (cs.flatMap (escapedChar basicOnly)).length := by
  induction cs with
  | nil =>
      exact le_rfl
  | cons c cs ih =>
      have hpos := List.length_pos_iff.2 (escaped_escapedChar basicOnly c).ne_nil
      rw [List.flatMap_cons, List.length_append, List.length_cons]
      omega

/-- A string is read back after its opening quote, whatever follows it. -/
theorem stringBody_text (basicOnly : Bool) (s : String) (rest : List Char) :
    ∃ more, stringText basicOnly s ++ rest = '"' :: more ∧
      stringBody (more.length + 1) more = some (s.toList, rest) := by
  refine ⟨s.toList.flatMap (escapedChar basicOnly) ++ '"' :: rest, ?_, ?_⟩
  · rw [stringText]
    simp only [List.cons_append, List.append_assoc, List.nil_append]
  · refine stringBody_flatMap basicOnly s.toList rest ?_
    have hlength := length_le_length_flatMap basicOnly s.toList
    rw [List.length_append]
    omega

theorem scalar_stringText (basicOnly : Bool) (s : String) (rest : List Char) :
    scalar (stringText basicOnly s ++ rest) = .ok (.text s, rest) := by
  obtain ⟨more, hsplit, hread⟩ := stringBody_text basicOnly s rest
  have hword : wordValues.find? (fun entry => entry.1.isPrefixOf ('"' :: more)) = none := by
    simp [wordValues, List.isPrefixOf]
  unfold scalar
  rw [hsplit, hword]
  simp only [hread, String.ofList_toList]

/-- A member name is read back with the colon and the blanks after it. -/
theorem memberName_stringText (basicOnly : Bool) (s : String) (rest : List Char) :
    memberName (stringText basicOnly s ++ ':' :: rest) = .ok (s, skipSpace rest) := by
  obtain ⟨more, hsplit, hread⟩ := stringBody_text basicOnly s (':' :: rest)
  have hcolon : skipSpace (':' :: rest) = ':' :: rest := rfl
  rw [hsplit, memberName, hread]
  simp only [hcolon, String.ofList_toList]

end Json
end GraphQuery
