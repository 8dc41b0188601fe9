import GraphQuery.Proofs.Json.RoundTrip

/-!
# Line ends — a JSON text has no carriage returns

Characters that end lines are escaped in strings, and a text with one item a line ends its lines with line feeds.
So no carriage return stands in a text that is written for a JSON value (`Json.unreturned_chars`), and nothing is lost
where line ends of all kinds are read as line feeds.
-/

namespace GraphQuery
namespace Json

open Number

/-- Whether no carriage return stands among characters. -/
def Unreturned (cs : List Char) : Prop := ∀ c ∈ cs, c ≠ '\r'

namespace Unreturned

theorem nil : Unreturned [] := fun _ h => absurd h List.not_mem_nil

theorem cons {c : Char} {cs : List Char} (hc : c ≠ '\r') (h : Unreturned cs) : Unreturned (c :: cs) :=
  List.forall_mem_cons.2 ⟨hc, h⟩

theorem of_contains_eq_false {cs : List Char} (h : cs.contains '\r' = false) : Unreturned cs := by
  rintro c hc rfl
  rw [List.contains_iff_mem.2 hc] at h
  cases h

theorem append {cs ds : List Char} (h : Unreturned cs) (h' : Unreturned ds) : Unreturned (cs ++ ds) :=
  List.forall_mem_append.2 ⟨h, h'⟩

theorem replicate (n : Nat) {c : Char} (hc : c ≠ '\r') : Unreturned (List.replicate n c) := by
  intro d hd
  rw [List.eq_of_mem_replicate hd]
  exact hc

theorem of_isDigit {cs : List Char} (h : ∀ c ∈ cs, c.isDigit = true) : Unreturned cs := by
  rintro c hc rfl
  exact absurd (h _ hc) (by decide)

theorem intercalate {between : List Char} (h : Unreturned between) {parts : List (List Char)}
    (hparts : ∀ part ∈ parts, Unreturned part) : Unreturned (between.intercalate parts) := by
  induction parts with
  | nil =>
      exact nil
  | cons part rest ih =>
      obtain ⟨hpart, hrest⟩ := List.forall_mem_cons.1 hparts
      cases rest with
      | nil =>
          rw [List.intercalate_singleton]
          exact hpart
      | cons next rest =>
          rw [List.intercalate_cons_cons]
          exact (hpart.append h).append (ih hrest)

end Unreturned

/-! ## Strings -/

theorem unreturned_hexDigits (width n : Nat) : Unreturned (Text.hexDigits width n) := by
  induction width generalizing n with
  | zero =>
      exact .nil
  | succ width ih =>
      have hdigit : ∀ d < 16, Nat.digitChar d ≠ '\r' := by
        decide
      exact (ih _).append (.cons (hdigit _ (Nat.mod_lt _ (by decide))) .nil)

theorem unreturned_unitEscape (unit : Nat) : Unreturned (unitEscape unit) :=
  .cons (by decide) (.cons (by decide) (unreturned_hexDigits 4 unit))

/-- In each way in which a character is written, a carriage return is escaped. -/
theorem Escaped.unreturned {c : Char} {cs : List Char} (h : Escaped c cs) : Unreturned cs := by
  cases h with
  | letter notUnit meaning =>
      refine .cons (by decide) (.cons ?_ .nil)
      rintro rfl
      cases meaning
  | itself quote control slash =>
      refine .cons ?_ .nil
      rintro rfl
      exact control (by decide)
  | unit small =>
      exact unreturned_unitEscape _
  | pair large =>
      exact (unreturned_unitEscape _).append (unreturned_unitEscape _)

theorem unreturned_stringText (basicOnly : Bool) (s : String) : Unreturned (stringText basicOnly s) := by
  have hbody : Unreturned (s.toList.flatMap (escapedChar basicOnly)) := by
    intro c hc
    obtain ⟨given, -, hgiven⟩ := List.mem_flatMap.1 hc
    exact (escaped_escapedChar basicOnly given).unreturned c hgiven
  exact .cons (by decide) (hbody.append (.cons (by decide) .nil))

/-! ## Numbers -/

theorem unreturned_signText (negative : Bool) : Unreturned (signText negative) := by
  cases negative with
  | false => exact .nil
  | true => exact .cons (by decide) .nil

theorem unreturned_integerText {n : Int} {text : String} (hwrite : integerText n = .ok text) :
    Unreturned text.toList := by
  rw [integerText] at hwrite
  split_ifs at hwrite with hlong
  cases hwrite
  rw [toList_intText, signChars_eq]
  exact (unreturned_signText _).append (.of_isDigit fun c hc => isDigit_of_mem_natDigits hc)

theorem NumberParts.IsDecimal.unreturned_text {p : NumberParts} (h : p.IsDecimal) : Unreturned p.text := by
  have hfraction : Unreturned (fractionText p.fraction) := by
    rw [fractionText]
    split_ifs
    · exact .nil
    · exact .cons (by decide) (.of_isDigit h.isDigit)
  have hexponent : Unreturned (p.exponent.elim [] (exponentText 2)) := by
    cases p.exponent with
    | none =>
        exact .nil
    | some x =>
        have hsign : (if x < 0 then '-' else '+') ≠ '\r' := by
          split_ifs <;> decide
        exact .cons (by decide) (.cons hsign (.of_isDigit fun c hc => isDigit_of_mem_padLeft hc))
  exact ((Unreturned.of_isDigit h.isWhole.isDigit).append hfraction).append hexponent

theorem unreturned_binary64Text {x : Binary64} (hx : x.IsCanonical) : Unreturned (binary64Text x) := by
  cases x with
  | nan =>
      exact .of_contains_eq_false (by decide)
  | infinite negative =>
      cases negative <;> exact .of_contains_eq_false (by decide)
  | finite negative m e =>
      obtain ⟨p, hdecimal, htext, -⟩ := exists_parts_binary64Text hx
      rw [htext]
      exact (unreturned_signText negative).append hdecimal.unreturned_text

/-! ## Values -/

variable {style : Style}

theorem unreturned_newLine (style : Style) (depth : Nat) : Unreturned (style.newLine depth) := by
  rw [Style.newLine]
  split
  · exact .nil
  · exact .cons (by decide) (.replicate _ (by decide))

theorem unreturned_separator (style : Style) (depth : Nat) : Unreturned (style.separator depth) := by
  rw [Style.separator]
  split
  · exact .cons (by decide) (.cons (by decide) .nil)
  · exact .cons (by decide) (unreturned_newLine style depth)

theorem unreturned_bracketed {depth : Nat} {opening closing : Char} (hopening : opening ≠ '\r')
    (hclosing : closing ≠ '\r') {parts : List (List Char)} (hparts : ∀ part ∈ parts, Unreturned part) :
    Unreturned (bracketed style depth opening closing parts) := by
  rw [bracketed]
  split_ifs
  · exact .cons hopening (.cons hclosing .nil)
  · refine .append (.append (.append (.cons hopening (unreturned_newLine _ _)) ?_) (unreturned_newLine _ _))
      (.cons hclosing .nil)
    exact (unreturned_separator _ _).intercalate hparts

theorem unreturned_itemChars {depth : Nat} {items : List Value} {parts : List (List Char)}
    (hwrite : itemChars style depth items = .ok parts)
    (hitems : ∀ x ∈ items, ∀ cs, chars style depth x = .ok cs → Unreturned cs) :
    ∀ part ∈ parts, Unreturned part := by
  induction items generalizing parts with
  | nil =>
      cases hwrite
      exact List.forall_mem_nil _
  | cons x xs ih =>
      obtain ⟨cs, more, hx, hxs, rfl⟩ := itemChars_cons hwrite
      obtain ⟨hfirst, hrest⟩ := List.forall_mem_cons.1 hitems
      exact List.forall_mem_cons.2 ⟨hfirst cs hx, ih hxs hrest⟩

theorem unreturned_memberChars {depth : Nat} {entries : Fields} {parts : List (List Char)}
    (hwrite : memberChars style depth entries = .ok parts)
    (hentries : ∀ entry ∈ entries, ∀ cs, chars style depth entry.2 = .ok cs → Unreturned cs) :
    ∀ part ∈ parts, Unreturned part := by
  induction entries generalizing parts with
  | nil =>
      cases hwrite
      exact List.forall_mem_nil _
  | cons entry rest ih =>
      obtain ⟨cs, more, hx, hxs, rfl⟩ := memberChars_cons hwrite
      obtain ⟨hfirst, hrest⟩ := List.forall_mem_cons.1 hentries
      refine List.forall_mem_cons.2 ⟨?_, ih hxs hrest⟩
      exact (unreturned_stringText _ _).append (.cons (by decide) (.cons (by decide) (hfirst cs hx)))

/-- No carriage return stands in the text of a JSON value. -/
theorem unreturned_chars {v : Value} (hv : v.IsJson) {depth : Nat} {cs : List Char}
    (hwrite : chars style depth v = .ok cs) : Unreturned cs := by
  induction hv generalizing depth cs with
  | null =>
      cases hwrite
      exact .of_contains_eq_false (by decide)
  | bool b =>
      cases hwrite
      cases b <;> exact .of_contains_eq_false (by decide)
  | int n =>
      rw [chars] at hwrite
      obtain ⟨text, hinteger, rfl⟩ := Outcome.exists_of_map_eq_ok hwrite
      exact unreturned_integerText hinteger
  | float canonical =>
      cases hwrite
      exact unreturned_binary64Text canonical
  | text s =>
      cases hwrite
      exact unreturned_stringText _ s
  | list _ ih =>
      rw [chars] at hwrite
      obtain ⟨parts, hparts, rfl⟩ := Outcome.exists_of_map_eq_ok hwrite
      refine unreturned_bracketed (by decide) (by decide) ?_
      exact unreturned_itemChars hparts fun x hx cs hcs => ih x hx hcs
  | mapping _ _ ih =>
      rw [chars] at hwrite
      obtain ⟨parts, hparts, rfl⟩ := Outcome.exists_of_map_eq_ok hwrite
      refine unreturned_bracketed (by decide) (by decide) ?_
      exact unreturned_memberChars hparts fun entry hentry cs hcs => ih entry hentry hcs

end Json
end GraphQuery
