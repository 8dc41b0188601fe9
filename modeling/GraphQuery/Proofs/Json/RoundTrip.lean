import GraphQuery.Filter.Payload
import GraphQuery.Proofs.Outcome
import GraphQuery.Proofs.Json.NumberText
import GraphQuery.Proofs.Json.StringText
import GraphQuery.Proofs.Value.Fields
import GraphQuery.Value.Depth

/-!
# Values in JSON — what is written is read back, and what is read is a JSON value

JSON values are null, truth values, integers, canonical floating numbers, texts, lists of JSON values and
mappings of distinct names to JSON values (`Value.IsJson`):

- a JSON value that is written is read back as it is, whatever the style, where there is room for the lists and
  objects in it, and refused as nested too deep where there is not (`Json.parse_write`);
- what is read from any text is a JSON value (`Json.isJson_of_parse`).
-/

namespace GraphQuery

/-- Whether a value is one that a JSON text can stand for. -/
inductive Value.IsJson : Value → Prop where
  | null : IsJson .null
  | bool (b : Bool) : IsJson (.bool b)
  | int (n : Int) : IsJson (.int n)
  | float {x : Binary64} (canonical : x.IsCanonical) : IsJson (.float x)
  | text (s : String) : IsJson (.text s)
  | list {items : List Value} (items_isJson : ∀ x ∈ items, IsJson x) : IsJson (.list items)
  | mapping {entries : Fields} (distinct : (Fields.names entries).Nodup)
      (entries_isJson : ∀ entry ∈ entries, IsJson entry.2) : IsJson (.mapping entries)

namespace Json

/-! ## Blanks between parts -/

theorem skipSpace_append {blanks : List Char} (h : ∀ c ∈ blanks, isSpace c = true) (s : List Char) :
    skipSpace (blanks ++ s) = skipSpace s := List.dropWhile_append_of_pos h

theorem skipSpace_cons {c : Char} (h : isSpace c = false) (s : List Char) :
    skipSpace (c :: s) = c :: s := by
  rw [skipSpace, List.dropWhile_cons_of_neg (by rw [h]; exact Bool.false_ne_true)]

theorem isSpace_of_mem_newLine {style : Style} {depth : Nat} {c : Char} (h : c ∈ style.newLine depth) :
    isSpace c = true := by
  rw [Style.newLine] at h
  split at h
  · cases h
  · rcases List.mem_cons.1 h with rfl | h
    · rfl
    · rw [List.eq_of_mem_replicate h]
      rfl

theorem skipSpace_newLine (style : Style) (depth : Nat) (s : List Char) :
    skipSpace (style.newLine depth ++ s) = skipSpace s :=
  skipSpace_append (fun _ h => isSpace_of_mem_newLine h) s

/-- Items are separated by a comma and blanks. -/
theorem exists_separator (style : Style) (depth : Nat) :
    ∃ blanks, style.separator depth = ',' :: blanks ∧ ∀ c ∈ blanks, isSpace c = true := by
  rw [Style.separator]
  split
  · exact ⟨[' '], rfl, List.forall_mem_singleton.2 rfl⟩
  · exact ⟨style.newLine depth, rfl, fun _ h => isSpace_of_mem_newLine h⟩

theorem endsNumber_cons {c : Char} (s : List Char)
    (h : c.isDigit = false ∧ c ≠ '.' ∧ c ≠ 'e' ∧ c ≠ 'E') : EndsNumber (c :: s) := by
  intro d hd
  cases hd
  exact h

/-- No number goes on after the end of the last item. -/
theorem endsNumber_newLine (style : Style) (depth : Nat) {closing : Char} (s : List Char)
    (h : closing.isDigit = false ∧ closing ≠ '.' ∧ closing ≠ 'e' ∧ closing ≠ 'E') :
    EndsNumber (style.newLine depth ++ closing :: s) := by
  rw [Style.newLine]
  split
  · exact endsNumber_cons s h
  · exact endsNumber_cons _ (by decide)

/-! ## Room -/

/-- What is read where there is room for it, and a failure where there is not. -/
def inRoom {α : Type} (depth room : Nat) (read : α) : Except Fault α :=
  if depth ≤ room then .ok read else .error .nestedTooDeep

section Room

variable {α β : Type} {depth room : Nat}

theorem inRoom_zero (room : Nat) (read : α) : inRoom 0 room read = .ok read := if_pos room.zero_le

theorem inRoom_of_le (h : depth ≤ room) (read : α) : inRoom depth room read = .ok read := if_pos h

theorem inRoom_of_lt (h : room < depth) (read : α) : inRoom depth room read = .error .nestedTooDeep :=
  if_neg (Nat.not_le_of_lt h)

theorem inRoom_map (depth room : Nat) (read : α) (f : α → β) :
    (inRoom depth room read).map f = inRoom depth room (f read) := by
  unfold inRoom
  split_ifs <;> rfl

/-- Where there is room for one part, the room for both is that for the other. -/
theorem inRoom_max_of_le (h : depth ≤ room) (other : Nat) (read : α) :
    inRoom (max depth other) room read = inRoom other room read := by
  simp only [inRoom, Nat.max_le, h, true_and]

/-- One level more needs room for one more. -/
theorem inRoom_succ (depth room : Nat) (read : α) :
    inRoom (1 + depth) (room + 1) read = inRoom depth room read := by
  have hsucc : 1 + depth ≤ room + 1 ↔ depth ≤ room := by omega
  simp only [inRoom, hsucc]

end Room

/-! ## Reading values back -/

/-- Whether a text starts as values do: not with a blank, and not with the end of a list. -/
def StartsValue (cs : List Char) : Prop := ∃ c more, cs = c :: more ∧ isSpace c = false ∧ c ≠ ']'

/-- Whether a text is read as a value with enough fuel, as far as there is room, whatever follows it. -/
structure ReadsAs (cs : List Char) (v : Value) : Prop where
  starts : StartsValue cs
  read : ∀ {fuel room : Nat} {rest : List Char}, 2 * cs.length ≤ fuel → EndsNumber rest →
    value fuel room (cs ++ rest) = inRoom v.openDepth room (v, rest)

theorem StartsValue.append {cs : List Char} (h : StartsValue cs) (s : List Char) :
    StartsValue (cs ++ s) := by
  rcases h with ⟨c, more, rfl, hspace, hclose⟩
  exact ⟨c, more ++ s, rfl, hspace, hclose⟩

theorem StartsValue.skipSpace_eq {cs : List Char} (h : StartsValue cs) : skipSpace cs = cs := by
  rcases h with ⟨c, more, rfl, hspace, -⟩
  exact skipSpace_cons hspace _

/-- Parts with separators start as the first one does. -/
theorem StartsValue.intercalate {cs : List Char} (h : StartsValue cs) (between : List Char)
    (parts : List (List Char)) : StartsValue (between.intercalate (cs :: parts)) := by
  rcases parts with _ | ⟨next, parts⟩
  · rw [List.intercalate_singleton]
    exact h
  · rw [List.intercalate_cons_cons, List.append_assoc]
    exact h.append _

theorem StartsValue.length_pos {cs : List Char} (h : StartsValue cs) : 0 < cs.length := by
  rcases h with ⟨c, more, rfl, -, -⟩
  exact Nat.succ_pos _

/-- A text that starts with no bracket and is read by itself is read as a value. -/
theorem ReadsAs.of_scalar {cs : List Char} {v : Value} {c : Char} {more : List Char} (hcs : cs = c :: more)
    (hflat : v.openDepth = 0) (hstart : isSpace c = false ∧ c ≠ ']' ∧ c ≠ '[' ∧ c ≠ '\x7b')
    (hread : ∀ rest, EndsNumber rest → scalar (cs ++ rest) = .ok (v, rest)) : ReadsAs cs v where
  starts := ⟨c, more, hcs, hstart.1, hstart.2.1⟩
  read := by
    intro fuel room rest hfuel hrest
    have hscalar := hread rest hrest
    rw [hflat, inRoom_zero]
    rw [hcs, List.cons_append] at hscalar ⊢
    rcases fuel with _ | fuel
    · rw [hcs] at hfuel
      simp at hfuel
    · rw [value.eq_def]
      simp only
      split
      · case h_1 heq =>
          exact absurd (List.cons.inj heq).1 hstart.2.2.1
      · case h_2 heq =>
          exact absurd (List.cons.inj heq).1 hstart.2.2.2
      · case h_3 heq =>
          exact absurd (List.cons.inj heq).1 hstart.2.2.1
      · case h_4 heq =>
          exact absurd (List.cons.inj heq).1 hstart.2.2.2
      · exact hscalar

/-- Numbers start with no blank and no bracket. -/
theorem starts_of_startsNumber {c : Char} (h : startsNumber c = true) :
    isSpace c = false ∧ c ≠ ']' ∧ c ≠ '[' ∧ c ≠ '\x7b' := by
  have hne : ∀ d : Char, startsNumber d = false → c ≠ d := by
    rintro d hd rfl
    exact Bool.false_ne_true (hd.symm.trans h)
  refine ⟨?_, hne _ rfl, hne _ rfl, hne _ rfl⟩
  simp [isSpace, hne ' ' rfl, hne '\t' rfl, hne '\n' rfl, hne '\r' rfl]

/-! ### Lists and mappings -/

/-- What stands between brackets around parts that are not empty. -/
theorem bracketed_eq {style : Style} {depth : Nat} {opening closing : Char} {parts : List (List Char)}
    (h : parts ≠ []) :
    bracketed style depth opening closing parts =
      opening :: (style.newLine (depth + 1) ++
        ((style.separator (depth + 1)).intercalate parts ++ (style.newLine depth ++ [closing]))) := by
  rw [bracketed, List.isEmpty_eq_false_iff.2 h, if_neg Bool.false_ne_true]
  simp

/-- The lengths of parts altogether. -/
def totalLength (parts : List (List Char)) : Nat := (parts.map List.length).sum

theorem totalLength_le_intercalate (between : List Char) (parts : List (List Char)) :
    totalLength parts ≤ (between.intercalate parts).length := by
  induction parts with
  | nil =>
      exact Nat.le_refl 0
  | cons part rest ih =>
      rcases rest with _ | ⟨next, rest⟩
      · simp [totalLength]
      · rw [List.intercalate_cons_cons]
        simp only [totalLength, List.map_cons, List.sum_cons, List.length_append] at ih ⊢
        omega

theorem itemChars_cons {style : Style} {depth : Nat} {x : Value} {xs : List Value}
    {parts : List (List Char)} (h : itemChars style depth (x :: xs) = .ok parts) :
    ∃ cs more, chars style depth x = .ok cs ∧ itemChars style depth xs = .ok more ∧
      parts = cs :: more := by
  rw [itemChars] at h
  obtain ⟨cs, hx, h⟩ := Outcome.exists_of_bind_eq_ok h
  obtain ⟨more, hxs, h⟩ := Outcome.exists_of_bind_eq_ok h
  exact ⟨cs, more, hx, hxs, (Except.ok.inj h).symm⟩

theorem memberChars_cons {style : Style} {depth : Nat} {name : String} {x : Value} {xs : Fields}
    {parts : List (List Char)} (h : memberChars style depth ((name, x) :: xs) = .ok parts) :
    ∃ cs more, chars style depth x = .ok cs ∧ memberChars style depth xs = .ok more ∧
      parts = (stringText style.basicOnly name ++ ':' :: ' ' :: cs) :: more := by
  rw [memberChars] at h
  obtain ⟨cs, hx, h⟩ := Outcome.exists_of_bind_eq_ok h
  obtain ⟨more, hxs, h⟩ := Outcome.exists_of_bind_eq_ok h
  exact ⟨cs, more, hx, hxs, (Except.ok.inj h).symm⟩

/-- What cannot be read as the first item of a list ends the list. -/
theorem items_error {fuel room : Nat} {s : List Char} {e : Fault} (h : value fuel room s = .error e) :
    items (fuel + 1) room s = .error e := by
  rw [items, h]
  rfl

/-- The first item of a list has been read and a comma comes next. -/
theorem items_comma {fuel room : Nat} {s rest : List Char} {x : Value}
    (h : value fuel room s = .ok (x, ',' :: rest)) :
    items (fuel + 1) room s =
      (items fuel room (skipSpace rest)).map fun read => (x :: read.1, read.2) := by
  have hcomma : skipSpace (',' :: rest) = ',' :: rest := rfl
  rw [items, h]
  simp only [bind, Except.bind, hcomma]
  cases items fuel room (skipSpace rest) with
  | error e =>
      rfl
  | ok read =>
      rfl

/-- The last item of a list has been read. -/
theorem items_close {fuel room : Nat} {s after rest : List Char} {x : Value}
    (h : value fuel room s = .ok (x, after)) (hafter : skipSpace after = ']' :: rest) :
    items (fuel + 1) room s = .ok ([x], rest) := by
  rw [items, h]
  simp only [bind, Except.bind, hafter]

theorem members_error {fuel room : Nat} {s between : List Char} {name : String} {e : Fault}
    (hname : memberName s = .ok (name, between)) (h : value fuel room between = .error e) :
    members (fuel + 1) room s = .error e := by
  rw [members, hname]
  simp only [bind, Except.bind, h]

theorem members_comma {fuel room : Nat} {s between rest : List Char} {name : String} {x : Value}
    (hname : memberName s = .ok (name, between)) (h : value fuel room between = .ok (x, ',' :: rest)) :
    members (fuel + 1) room s =
      (members fuel room (skipSpace rest)).map fun read => ((name, x) :: read.1, read.2) := by
  have hcomma : skipSpace (',' :: rest) = ',' :: rest := rfl
  rw [members, hname]
  simp only [bind, Except.bind, h, hcomma]
  cases members fuel room (skipSpace rest) with
  | error e =>
      rfl
  | ok read =>
      rfl

theorem members_close {fuel room : Nat} {s between after rest : List Char} {name : String} {x : Value}
    (hname : memberName s = .ok (name, between)) (h : value fuel room between = .ok (x, after))
    (hafter : skipSpace after = '\x7d' :: rest) :
    members (fuel + 1) room s = .ok ([(name, x)], rest) := by
  rw [members, hname]
  simp only [bind, Except.bind, h, hafter]

/-- After the first of several parts come a comma and blanks, and then the other parts. -/
theorem exists_afterComma (style : Style) (depth : Nat) (part : List Char) {next : List Char}
    (more : List (List Char)) (closing : List Char) (hstarts : StartsValue next) :
    ∃ after, (style.separator depth).intercalate (part :: next :: more) ++ closing = part ++ ',' :: after ∧
      skipSpace after = (style.separator depth).intercalate (next :: more) ++ closing := by
  obtain ⟨blanks, hseparator, hblanks⟩ := exists_separator style depth
  have htail := hstarts.intercalate (style.separator depth) more
  refine ⟨blanks ++ ((style.separator depth).intercalate (next :: more) ++ closing), ?_, ?_⟩
  · rw [List.intercalate_cons_cons]
    generalize (style.separator depth).intercalate (next :: more) = tail
    rw [hseparator]
    simp
  · rw [skipSpace_append hblanks]
    exact (htail.append closing).skipSpace_eq

/-- The items of a list are read back up to the closing bracket, as far as there is room for each of them. -/
theorem items_itemChars {style : Style} {depth : Nat} {x : Value} {xs : List Value}
    {parts : List (List Char)} (hwrite : itemChars style depth (x :: xs) = .ok parts)
    (hread : ∀ y ∈ x :: xs, ∀ cs, chars style depth y = .ok cs → ReadsAs cs y) {fuel room : Nat}
    (hfuel : 2 * totalLength parts + 1 ≤ fuel) {closing : List Char} (hends : EndsNumber closing)
    {rest : List Char} (hclosing : skipSpace closing = ']' :: rest) :
    items fuel room ((style.separator depth).intercalate parts ++ closing) =
      inRoom (Value.itemsOpenDepth (x :: xs)) room (x :: xs, rest) := by
  induction xs generalizing x parts fuel with
  | nil =>
      obtain ⟨cs, more, hx, hnil, rfl⟩ := itemChars_cons hwrite
      cases hnil
      have hxread := hread x List.mem_cons_self cs hx
      rw [List.intercalate_singleton]
      rcases fuel with _ | fuel
      · omega
      · have hlength : totalLength [cs] = cs.length := by simp [totalLength]
        have hvalue : value fuel room (cs ++ closing) = inRoom x.openDepth room (x, closing) :=
          hxread.read (by omega) hends
        rw [Value.itemsOpenDepth, Value.itemsOpenDepth, Nat.max_zero]
        rcases Nat.lt_or_ge room x.openDepth with hdeep | hfits
        · rw [inRoom_of_lt hdeep] at hvalue ⊢
          exact items_error hvalue
        · rw [inRoom_of_le hfits] at hvalue ⊢
          exact items_close hvalue hclosing
  | cons next xs ih =>
      obtain ⟨cs, more, hx, hxs, rfl⟩ := itemChars_cons hwrite
      obtain ⟨cs', more', hnext, -, rfl⟩ := itemChars_cons hxs
      have hxread := hread x List.mem_cons_self cs hx
      have hnextread := hread next (List.mem_cons_of_mem _ List.mem_cons_self) cs' hnext
      have hpos := hxread.starts.length_pos
      have hlength : totalLength (cs :: cs' :: more') = cs.length + totalLength (cs' :: more') := by
        simp [totalLength]
      rcases fuel with _ | fuel
      · omega
      -- The rest is shorter by this item, whose text is not empty, so the remaining fuel is enough for it.
      have hrest : items fuel room ((style.separator depth).intercalate (cs' :: more') ++ closing) =
          inRoom (Value.itemsOpenDepth (next :: xs)) room (next :: xs, rest) :=
        ih hxs (fun y hy => hread y (List.mem_cons_of_mem _ hy)) (by omega)
      obtain ⟨after, htext, hskip⟩ := exists_afterComma style depth cs more' closing hnextread.starts
      have hcomma : value fuel room (cs ++ ',' :: after) = inRoom x.openDepth room (x, ',' :: after) :=
        hxread.read (by omega) (endsNumber_cons _ (by decide))
      rw [htext, Value.itemsOpenDepth]
      rcases Nat.lt_or_ge room x.openDepth with hdeep | hfits
      · rw [inRoom_of_lt hdeep] at hcomma
        rw [items_error hcomma, inRoom_of_lt (Nat.lt_of_lt_of_le hdeep (Nat.le_max_left _ _))]
      · rw [inRoom_of_le hfits] at hcomma
        rw [items_comma hcomma, hskip, hrest, inRoom_map, inRoom_max_of_le hfits]

/-- A member name with its colon and blank is read back. -/
theorem memberName_part (basicOnly : Bool) (name : String) {cs : List Char} (hstarts : StartsValue cs)
    (after : List Char) :
    memberName (stringText basicOnly name ++ ':' :: ' ' :: cs ++ after) = .ok (name, cs ++ after) := by
  have hblank : skipSpace (' ' :: (cs ++ after)) = cs ++ after := (hstarts.append after).skipSpace_eq
  have hread := memberName_stringText basicOnly name (' ' :: (cs ++ after))
  rw [hblank] at hread
  rw [← hread]
  simp

/-- The members of an object are read back up to the closing brace, as far as there is room for each of them. -/
theorem members_memberChars {style : Style} {depth : Nat} {entry : String × Value} {xs : Fields}
    {parts : List (List Char)} (hwrite : memberChars style depth (entry :: xs) = .ok parts)
    (hread : ∀ y ∈ entry :: xs, ∀ cs, chars style depth y.2 = .ok cs → ReadsAs cs y.2) {fuel room : Nat}
    (hfuel : 2 * totalLength parts + 1 ≤ fuel) {closing : List Char} (hends : EndsNumber closing)
    {rest : List Char} (hclosing : skipSpace closing = '\x7d' :: rest) :
    members fuel room ((style.separator depth).intercalate parts ++ closing) =
      inRoom (Value.entriesOpenDepth (entry :: xs)) room (entry :: xs, rest) := by
  induction xs generalizing entry parts fuel with
  | nil =>
      rcases entry with ⟨name, x⟩
      obtain ⟨cs, more, hx, hnil, rfl⟩ := memberChars_cons hwrite
      cases hnil
      have hxread : ReadsAs cs x := hread (name, x) List.mem_cons_self cs hx
      rw [List.intercalate_singleton]
      rcases fuel with _ | fuel
      · omega
      · have hlength : cs.length < totalLength [stringText style.basicOnly name ++ ':' :: ' ' :: cs] := by
          simp [totalLength]
          omega
        have hname := memberName_part style.basicOnly name hxread.starts closing
        have hvalue : value fuel room (cs ++ closing) = inRoom x.openDepth room (x, closing) :=
          hxread.read (by omega) hends
        rw [Value.entriesOpenDepth, Value.entriesOpenDepth, Nat.max_zero]
        rcases Nat.lt_or_ge room x.openDepth with hdeep | hfits
        · rw [inRoom_of_lt hdeep] at hvalue ⊢
          exact members_error hname hvalue
        · rw [inRoom_of_le hfits] at hvalue ⊢
          exact members_close hname hvalue hclosing
  | cons next xs ih =>
      rcases entry with ⟨name, x⟩
      rcases next with ⟨name', x'⟩
      obtain ⟨cs, more, hx, hxs, rfl⟩ := memberChars_cons hwrite
      obtain ⟨cs', more', -, -, rfl⟩ := memberChars_cons hxs
      have hxread : ReadsAs cs x := hread (name, x) List.mem_cons_self cs hx
      set part := stringText style.basicOnly name ++ ':' :: ' ' :: cs with hpart
      set part' := stringText style.basicOnly name' ++ ':' :: ' ' :: cs'
      have hlength : totalLength (part :: part' :: more') = part.length + totalLength (part' :: more') := by
        simp [totalLength]
      have hlonger : cs.length < part.length := by
        rw [hpart]
        simp
        omega
      rcases fuel with _ | fuel
      · omega
      -- The rest is shorter by the name and the value, so the remaining fuel is enough for it.
      have hrest : members fuel room ((style.separator depth).intercalate (part' :: more') ++ closing) =
          inRoom (Value.entriesOpenDepth ((name', x') :: xs)) room ((name', x') :: xs, rest) :=
        ih hxs (fun y hy => hread y (List.mem_cons_of_mem _ hy)) (by omega)
      have hstarts : StartsValue part' := ⟨'"', _, rfl, rfl, by decide⟩
      obtain ⟨after, htext, hskip⟩ := exists_afterComma style depth part more' closing hstarts
      have hname := memberName_part style.basicOnly name hxread.starts (',' :: after)
      have hcomma : value fuel room (cs ++ ',' :: after) = inRoom x.openDepth room (x, ',' :: after) :=
        hxread.read (by omega) (endsNumber_cons _ (by decide))
      rw [htext, Value.entriesOpenDepth]
      rcases Nat.lt_or_ge room x.openDepth with hdeep | hfits
      · rw [inRoom_of_lt hdeep] at hcomma
        rw [members_error hname hcomma, inRoom_of_lt (Nat.lt_of_lt_of_le hdeep (Nat.le_max_left _ _))]
      · rw [inRoom_of_le hfits] at hcomma
        rw [members_comma hname hcomma, hskip, hrest, inRoom_map, inRoom_max_of_le hfits]

theorem value_openList {fuel room : Nat} {rest : List Char} (hstarts : StartsValue (skipSpace rest)) :
    value (fuel + 1) (room + 1) ('[' :: rest) =
      (items fuel room (skipSpace rest)).map fun read => (.list read.1, read.2) := by
  rcases hstarts with ⟨c, more, hrest, -, hc⟩
  rw [value, hrest]
  split
  · case h_1 heq =>
      exact absurd (List.cons.inj heq).1 hc
  · rfl

theorem value_openObject {fuel room : Nat} {rest : List Char} {c : Char} {more : List Char}
    (hrest : skipSpace rest = c :: more) (hc : c ≠ '\x7d') :
    value (fuel + 1) (room + 1) ('\x7b' :: rest) =
      (members fuel room (skipSpace rest)).map fun read =>
        (.mapping (Fields.ofEntries read.1), read.2) := by
  rw [value, hrest]
  split
  · case h_1 heq =>
      exact absurd (List.cons.inj heq).1 hc
  · rfl

/-! ### Values -/

/-- Brackets around parts: what stands after the opening one. -/
theorem exists_afterOpening (style : Style) (depth : Nat) (opening closing : Char) {first : List Char}
    (more : List (List Char)) (hstarts : StartsValue first) (rest : List Char) :
    ∃ after, bracketed style depth opening closing (first :: more) ++ rest = opening :: after ∧
      skipSpace after = (style.separator (depth + 1)).intercalate (first :: more) ++
        (style.newLine depth ++ closing :: rest) := by
  have htail := hstarts.intercalate (style.separator (depth + 1)) more
  refine ⟨style.newLine (depth + 1) ++ ((style.separator (depth + 1)).intercalate (first :: more) ++
    (style.newLine depth ++ closing :: rest)), ?_, ?_⟩
  · rw [bracketed_eq (List.cons_ne_nil _ _)]
    simp
  · rw [skipSpace_newLine]
    exact (htail.append _).skipSpace_eq

theorem totalLength_le_bracketed (style : Style) (depth : Nat) (opening closing : Char)
    {parts : List (List Char)} (h : parts ≠ []) :
    totalLength parts + 2 ≤ (bracketed style depth opening closing parts).length := by
  have hparts := totalLength_le_intercalate (style.separator (depth + 1)) parts
  rw [bracketed_eq h]
  simp only [List.length_cons, List.length_append, List.length_nil]
  omega

theorem readsAs_list {style : Style} {depth : Nat} {xs : List Value} {cs : List Char}
    (hwrite : chars style depth (.list xs) = .ok cs)
    (hread : ∀ y ∈ xs, ∀ cs, chars style (depth + 1) y = .ok cs → ReadsAs cs y) :
    ReadsAs cs (.list xs) := by
  rw [chars] at hwrite
  rcases xs with _ | ⟨x, xs⟩
  · cases hwrite
    refine ⟨⟨'[', _, rfl, rfl, by decide⟩, ?_⟩
    intro fuel room rest hfuel _
    rcases fuel with _ | fuel
    · simp [bracketed] at hfuel
    cases room <;> rfl
  · obtain ⟨parts, hparts, rfl⟩ := Outcome.exists_of_map_eq_ok hwrite
    obtain ⟨first, more, hx, -, rfl⟩ := itemChars_cons hparts
    have hstarts := (hread x List.mem_cons_self first hx).starts
    have hlength := totalLength_le_bracketed style depth '[' ']' (List.cons_ne_nil first more)
    refine ⟨⟨'[', _, bracketed_eq (List.cons_ne_nil _ _), rfl, by decide⟩, ?_⟩
    intro fuel room rest hfuel _
    rcases fuel with _ | fuel
    · omega
    obtain ⟨after, htext, hskip⟩ := exists_afterOpening style depth '[' ']' more hstarts rest
    rw [Value.openDepth]
    rcases room with _ | room
    -- There is no room to open anything.
    · rw [htext, inRoom_of_lt (by omega)]
      rfl
    have hopen : StartsValue (skipSpace after) := by
      rw [hskip]
      exact (hstarts.intercalate _ _).append _
    -- The closing bracket stands on a line of its own, which reads as space and ends a number before it.
    have hitems : items fuel room ((style.separator (depth + 1)).intercalate (first :: more) ++
        (style.newLine depth ++ ']' :: rest)) =
          inRoom (Value.itemsOpenDepth (x :: xs)) room (x :: xs, rest) :=
      items_itemChars hparts hread (by omega) (endsNumber_newLine style depth rest (by decide))
        (skipSpace_newLine style depth (']' :: rest))
    rw [htext, value_openList hopen, hskip, hitems, inRoom_map, inRoom_succ]

theorem readsAs_mapping {style : Style} {depth : Nat} {xs : Fields} {cs : List Char}
    (hdistinct : (Fields.names xs).Nodup) (hwrite : chars style depth (.mapping xs) = .ok cs)
    (hread : ∀ y ∈ xs, ∀ cs, chars style (depth + 1) y.2 = .ok cs → ReadsAs cs y.2) :
    ReadsAs cs (.mapping xs) := by
  rw [chars] at hwrite
  rcases xs with _ | ⟨⟨name, x⟩, xs⟩
  · cases hwrite
    refine ⟨⟨'\x7b', _, rfl, rfl, by decide⟩, ?_⟩
    intro fuel room rest hfuel _
    rcases fuel with _ | fuel
    · simp [bracketed] at hfuel
    cases room <;> rfl
  · obtain ⟨parts, hparts, rfl⟩ := Outcome.exists_of_map_eq_ok hwrite
    obtain ⟨first, more, -, -, rfl⟩ := memberChars_cons hparts
    set part := stringText style.basicOnly name ++ ':' :: ' ' :: first with hpart
    have hstarts : StartsValue part := ⟨'"', _, rfl, rfl, by decide⟩
    have hlength := totalLength_le_bracketed style depth '\x7b' '\x7d' (List.cons_ne_nil part more)
    refine ⟨⟨'\x7b', _, bracketed_eq (List.cons_ne_nil _ _), rfl, by decide⟩, ?_⟩
    intro fuel room rest hfuel _
    rcases fuel with _ | fuel
    · omega
    obtain ⟨after, htext, hskip⟩ := exists_afterOpening style depth '\x7b' '\x7d' more hstarts rest
    rw [Value.openDepth]
    rcases room with _ | room
    · rw [htext, inRoom_of_lt (by omega)]
      rfl
    obtain ⟨tail, hquote⟩ : ∃ tail, skipSpace after = '"' :: tail := by
      rw [hskip, hpart]
      rcases more with _ | ⟨next, more⟩
      · exact ⟨_, rfl⟩
      · rw [List.intercalate_cons_cons]
        exact ⟨_, rfl⟩
    have hmembers : members fuel room ((style.separator (depth + 1)).intercalate (part :: more) ++
        (style.newLine depth ++ '\x7d' :: rest)) =
          inRoom (Value.entriesOpenDepth ((name, x) :: xs)) room ((name, x) :: xs, rest) :=
      members_memberChars hparts hread (by omega) (endsNumber_newLine style depth rest (by decide))
        (skipSpace_newLine style depth ('\x7d' :: rest))
    -- The names are distinct, so no entry is overwritten by one that is read later.
    rw [htext, value_openObject hquote (by decide), hskip, hmembers, inRoom_map, inRoom_succ]
    exact congrArg (fun fields => inRoom _ room (Value.mapping fields, rest))
      (Fields.ofEntries_of_nodup hdistinct)

/-- A JSON value is read back from each text that is written for it. -/
theorem readsAs_chars {style : Style} {v : Value} (hv : v.IsJson) {depth : Nat} {cs : List Char}
    (hwrite : chars style depth v = .ok cs) : ReadsAs cs v := by
  induction hv generalizing depth cs with
  | null =>
      cases hwrite
      exact ReadsAs.of_scalar rfl rfl (by decide) fun rest _ => rfl
  | bool b =>
      cases hwrite
      cases b <;> exact ReadsAs.of_scalar rfl rfl (by decide) fun rest _ => rfl
  | int n =>
      rw [chars] at hwrite
      obtain ⟨text, hinteger, rfl⟩ := Outcome.exists_of_map_eq_ok hwrite
      obtain ⟨c, more, htext, hc⟩ := exists_integerText_eq_cons hinteger
      exact ReadsAs.of_scalar htext rfl (starts_of_startsNumber hc) fun rest hrest =>
        scalar_integerText hinteger hrest
  | float canonical =>
      cases hwrite
      obtain ⟨c, more, htext, hc⟩ := exists_binary64Text_eq_cons canonical
      exact ReadsAs.of_scalar htext rfl (starts_of_startsNumber hc) fun rest hrest =>
        scalar_binary64Text canonical hrest
  | text s =>
      cases hwrite
      exact ReadsAs.of_scalar rfl rfl (by decide) fun rest _ => scalar_stringText _ s rest
  | list _ ih =>
      exact readsAs_list hwrite fun y hy cs hcs => ih y hy hcs
  | mapping distinct _ ih =>
      exact readsAs_mapping distinct hwrite fun y hy cs hcs => ih y hy hcs

/-- A text that is written for a JSON value is read as this value, where there is room for it. -/
theorem parse_write {style : Style} {v : Value} {text : String} (hv : v.IsJson)
    (hwrite : write style v = .ok text) (room : Nat) : parse text room = inRoom v.openDepth room v := by
  obtain ⟨cs, hchars, rfl⟩ := Outcome.exists_of_map_eq_ok hwrite
  have hreads := readsAs_chars hv hchars
  have hend : EndsNumber [] := fun c hc => absurd hc (Option.not_mem_none c)
  have hvalue : value (2 * cs.length + 2) room (cs ++ []) = inRoom v.openDepth room (v, []) :=
    hreads.read (Nat.le_add_right (2 * cs.length) 2) hend
  rw [List.append_nil] at hvalue
  rw [parse, String.toList_ofList, hreads.starts.skipSpace_eq, hvalue]
  rcases Nat.lt_or_ge room v.openDepth with hdeep | hfits
  · rw [inRoom_of_lt hdeep, inRoom_of_lt hdeep]
    rfl
  · rw [inRoom_of_le hfits, inRoom_of_le hfits]
    rfl

/-- An empty text holds no value. -/
theorem parse_empty_ne_ok (room : Nat) (v : Value) : parse "" room ≠ .ok v := by
  intro h
  cases room <;> cases h

/-! ## What is read -/

theorem isJson_of_mem_wordValues {entry : List Char × Value} (h : entry ∈ wordValues) :
    entry.2.IsJson := by
  simp only [wordValues, List.mem_cons, List.not_mem_nil, or_false] at h
  rcases h with rfl | rfl | rfl | rfl | rfl | rfl
  · exact .null
  · exact .bool true
  · exact .bool false
  · exact .float trivial
  · exact .float trivial
  · exact .float trivial

theorem isJson_of_number {negative : Bool} {s rest : List Char} {v : Value}
    (h : number negative s = .ok (v, rest)) : v.IsJson := by
  rw [number] at h
  simp only at h
  split_ifs at h with hwhole hinteger hlong hsign
  · cases h
    exact .int _
  · cases h
    exact .int _
  · cases h
    exact .float (Binary64.isCanonical_ofDecimal _ _ _)

theorem isJson_of_scalar {s rest : List Char} {v : Value} (h : scalar s = .ok (v, rest)) : v.IsJson := by
  unfold scalar at h
  split at h
  · case h_1 word w hfound =>
      cases h
      exact isJson_of_mem_wordValues (List.mem_of_find?_eq_some hfound)
  · split at h
    · split at h
      · cases h
        exact .text _
      · cases h
    · exact isJson_of_number h
    · exact isJson_of_number h

/-- Whether values without parts have a property as they are read, and lists and objects have it with their parts. -/
structure ReadsEach (P : Value → Prop) : Prop where
  scalar : ∀ {s rest v}, Json.scalar s = .ok (v, rest) → P v
  list : ∀ {xs}, (∀ x ∈ xs, P x) → P (.list xs)
  mapping : ∀ {xs : Fields}, (∀ entry ∈ xs, P entry.2) → P (.mapping (Fields.ofEntries xs))

namespace ReadsEach

variable {P : Value → Prop}

theorem of_value (hP : ReadsEach P) {fuel : Nat}
    (hitems : ∀ {room s xs rest}, items fuel room s = .ok (xs, rest) → ∀ x ∈ xs, P x)
    (hmembers : ∀ {room s xs rest}, members fuel room s = .ok (xs, rest) → ∀ entry ∈ xs, P entry.2)
    {room : Nat} {s rest : List Char} {v : Value} (h : value (fuel + 1) room s = .ok (v, rest)) : P v := by
  unfold value at h
  split at h
  · cases h
  · cases h
  · split at h
    · cases h
      exact hP.list fun x hx => absurd hx List.not_mem_nil
    · obtain ⟨⟨xs, after⟩, hread, heq⟩ := Outcome.exists_of_map_eq_ok h
      cases heq
      exact hP.list (hitems hread)
  · split at h
    · cases h
      exact hP.mapping fun entry hentry => absurd hentry List.not_mem_nil
    · obtain ⟨⟨xs, after⟩, hread, heq⟩ := Outcome.exists_of_map_eq_ok h
      cases heq
      exact hP.mapping (hmembers hread)
  · exact hP.scalar h

theorem of_items {fuel : Nat}
    (hvalue : ∀ {room s v rest}, value fuel room s = .ok (v, rest) → P v)
    (hitems : ∀ {room s xs rest}, items fuel room s = .ok (xs, rest) → ∀ x ∈ xs, P x)
    {room : Nat} {s rest : List Char} {xs : List Value} (h : items (fuel + 1) room s = .ok (xs, rest)) :
    ∀ x ∈ xs, P x := by
  rw [items] at h
  obtain ⟨⟨x, after⟩, hx, h⟩ := Outcome.exists_of_bind_eq_ok h
  simp only at h
  split at h
  · cases h
    exact List.forall_mem_singleton.2 (hvalue hx)
  · obtain ⟨⟨more, tail⟩, hmore, h⟩ := Outcome.exists_of_bind_eq_ok h
    cases h
    exact List.forall_mem_cons.2 ⟨hvalue hx, hitems hmore⟩
  · cases h

theorem of_members {fuel : Nat}
    (hvalue : ∀ {room s v rest}, value fuel room s = .ok (v, rest) → P v)
    (hmembers : ∀ {room s xs rest}, members fuel room s = .ok (xs, rest) → ∀ entry ∈ xs, P entry.2)
    {room : Nat} {s rest : List Char} {xs : Fields} (h : members (fuel + 1) room s = .ok (xs, rest)) :
    ∀ entry ∈ xs, P entry.2 := by
  rw [members] at h
  obtain ⟨⟨name, between⟩, -, h⟩ := Outcome.exists_of_bind_eq_ok h
  simp only at h
  obtain ⟨⟨x, after⟩, hx, h⟩ := Outcome.exists_of_bind_eq_ok h
  simp only at h
  split at h
  · cases h
    exact List.forall_mem_singleton.2 (hvalue hx)
  · obtain ⟨⟨more, tail⟩, hmore, h⟩ := Outcome.exists_of_bind_eq_ok h
    cases h
    exact List.forall_mem_cons.2 ⟨hvalue hx, hmembers hmore⟩
  · cases h

/-- What is read with any fuel has the property. -/
theorem of_read (hP : ReadsEach P) (fuel : Nat) :
    (∀ {room s v rest}, value fuel room s = .ok (v, rest) → P v) ∧
      (∀ {room s xs rest}, items fuel room s = .ok (xs, rest) → ∀ x ∈ xs, P x) ∧
      ∀ {room s xs rest}, members fuel room s = .ok (xs, rest) → ∀ entry ∈ xs, P entry.2 := by
  induction fuel with
  | zero =>
      refine ⟨?_, ?_, ?_⟩
      · intro room s v rest h
        cases h
      · intro room s xs rest h
        cases h
      · intro room s xs rest h
        cases h
  | succ fuel ih =>
      rcases ih with ⟨hvalue, hitems, hmembers⟩
      exact ⟨hP.of_value hitems hmembers, of_items hvalue hitems, of_members hvalue hmembers⟩

/-- What is read from a text has the property. -/
theorem of_parse (hP : ReadsEach P) {s : String} {room : Nat} {v : Value} (h : parse s room = .ok v) : P v := by
  rw [parse] at h
  obtain ⟨⟨read, rest⟩, hread, h⟩ := Outcome.exists_of_bind_eq_ok h
  simp only at h
  split_ifs at h
  cases h
  exact (hP.of_read _).1 hread

end ReadsEach

theorem readsEach_isJson : ReadsEach Value.IsJson where
  scalar := isJson_of_scalar
  list := .list
  mapping := by
    intro xs hxs
    -- A name that is given twice is kept once, with a value that has been read for it.
    refine .mapping (Fields.nodup_names_ofEntries xs) fun entry hentry => ?_
    obtain ⟨given, hgiven, hvalue⟩ := Fields.mem_ofEntries hentry
    exact hvalue ▸ hxs given hgiven

/-- What is read from a text is a JSON value. -/
theorem isJson_of_parse {s : String} {room : Nat} {v : Value} (h : parse s room = .ok v) : v.IsJson :=
  readsEach_isJson.of_parse h

end Json
end GraphQuery
