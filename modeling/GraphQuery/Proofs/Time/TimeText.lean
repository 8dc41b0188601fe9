import GraphQuery.Proofs.Number.DigitText
import GraphQuery.Proofs.Time.Calendar
import GraphQuery.Time.Check

/-!
# Times in texts — read back as they were written

A reading is in order if its date is one of the calendar and its parts are in their ranges
(`Timestamp.IsReading`).  Such a reading is read back from its text (`Timestamp.iso?_text`), and what is read
from a document in any form is such a reading (`Check.isValid_of_time`).
-/

namespace GraphQuery
namespace Timestamp

open Number

/-- Whether the parts of a reading are in their ranges. -/
structure IsReading (t : Timestamp) : Prop where
  date : t.date.isValid = true
  hour : t.hour ≤ 23
  minute : t.minute ≤ 59
  second : t.second ≤ 59
  micro : t.micro < 1000000
  offset : ∀ minutes ∈ t.offset, minutes.natAbs < 1440

/-- Whether a reading is one that documents hold: it is in order and not in the year 0. -/
structure IsValid (t : Timestamp) : Prop extends IsReading t where
  year : t.date.year ≠ 0

/-! ## Parts -/

/-- The digits of a number of fixed width. -/
def paddedChars (width n : Nat) : List Char := padLeft width '0' (natDigits n)

theorem toList_padded (width n : Nat) : (Date.padded width n).toList = paddedChars width n :=
  String.toList_ofList

theorem fixedDigits?_paddedChars {width n : Nat} (hwidth : 0 < width) (hn : n < 10 ^ width)
    (rest : List Char) : fixedDigits? width (paddedChars width n ++ rest) = some (n, rest) := by
  have hlength := length_padLeft hwidth hn
  have hdigits : (padLeft width '0' (natDigits n)).all Char.isDigit = true :=
    List.all_eq_true.2 fun c hc => isDigit_of_mem_padLeft hc
  rw [fixedDigits?, paddedChars, List.take_append_of_le_length hlength.ge, List.take_of_length_le hlength.le,
    List.drop_append_of_le_length hlength.ge, List.drop_of_length_le hlength.le, hdigits,
    basicValue_padLeft]
  simp [hlength]

/-! ## Dates -/

/-- The characters of a date. -/
def dateChars (d : Date) : List Char :=
  paddedChars 4 d.year ++ '-' :: (paddedChars 2 d.month ++ '-' :: paddedChars 2 d.day)

theorem toList_dateText (d : Date) : d.text.toList = dateChars d := by
  simp [Date.text, dateChars, toList_padded]

theorem daysInMonth_le (year month : Nat) : Date.daysInMonth year month ≤ 31 := by
  unfold Date.daysInMonth
  split
  · split_ifs <;> omega
  all_goals omega

theorem date?_dateChars {d : Date} (hd : d.isValid = true) (rest : List Char) :
    date? (dateChars d ++ rest) = some (d, rest) := by
  -- A day of the calendar has at most four, two and two digits.
  have hparts := hd
  simp only [Date.isValid, Bool.and_eq_true, decide_eq_true_eq] at hparts
  rcases hparts with ⟨⟨⟨⟨hyear, -⟩, hmonth⟩, -⟩, hday⟩
  have hlongest := daysInMonth_le d.year d.month
  have hreadYear := fixedDigits?_paddedChars (n := d.year) (by decide : 0 < 4) (by omega)
    ('-' :: (paddedChars 2 d.month ++ '-' :: (paddedChars 2 d.day ++ rest)))
  have hreadMonth := fixedDigits?_paddedChars (n := d.month) (by decide : 0 < 2) (by omega)
    ('-' :: (paddedChars 2 d.day ++ rest))
  have hreadDay := fixedDigits?_paddedChars (n := d.day) (by decide : 0 < 2) (by omega) rest
  rw [date?, dateChars]
  simp only [List.append_assoc, List.cons_append, hreadYear, hreadMonth, hreadDay, skip?,
    Option.bind_eq_bind, Option.bind_some, if_true, hd]

/-! ## Offsets -/

/-- The characters of an offset from UTC; none for a reading without a time zone. -/
def offsetChars : Option Int → List Char
  | none => []
  | some minutes =>
    (if minutes < 0 then '-' else '+') :: (paddedChars 2 (minutes.natAbs / 60) ++
      ':' :: paddedChars 2 (minutes.natAbs % 60))

theorem offset?_offsetChars {offset : Option Int} (h : ∀ minutes ∈ offset, minutes.natAbs < 1440) :
    offset? (offsetChars offset) = some offset := by
  cases offset with
  | none =>
      rfl
  | some minutes =>
      have hrange : minutes.natAbs < 1440 := h minutes rfl
      have hhours := fixedDigits?_paddedChars (n := minutes.natAbs / 60) (by decide : 0 < 2) (by omega)
        (':' :: paddedChars 2 (minutes.natAbs % 60))
      have hminutes := fixedDigits?_paddedChars (n := minutes.natAbs % 60) (by decide : 0 < 2) (by omega) []
      rw [List.append_nil] at hminutes
      have hwest : offsetSign? (if minutes < 0 then '-' else '+') = some (decide (minutes < 0)) := by
        split_ifs with hneg
        · simp only [hneg, decide_true]
          rfl
        · simp only [hneg, decide_false]
          rfl
      have hZ : (if minutes < 0 then '-' else '+') ≠ 'Z' := by
        split_ifs <;> decide
      have hz : (if minutes < 0 then '-' else '+') ≠ 'z' := by
        split_ifs <;> decide
      have htotal : 60 * (minutes.natAbs / 60) + minutes.natAbs % 60 = minutes.natAbs :=
        Nat.div_add_mod _ _
      have hfits : ¬ 1440 ≤ minutes.natAbs := not_le.2 hrange
      have hpart : ¬ 59 < minutes.natAbs % 60 := by omega
      -- The sign decides how the text is read, and only whether the hours count down.
      rw [offsetChars]
      generalize (if minutes < 0 then '-' else '+') = sign at hwest hZ hz
      rw [offset?.eq_def]
      split
      · case h_1 heq =>
          cases heq
      · case h_2 heq =>
          exact absurd (List.cons.inj heq).1 hZ
      · case h_3 heq =>
          exact absurd (List.cons.inj heq).1 hz
      · case h_4 heq =>
          cases heq
          simp only [hwest, hhours, hminutes, htotal, hfits, hpart, Option.bind_eq_bind, Option.bind_some,
            List.isEmpty_nil, Bool.not_true, decide_false, Bool.or_self, Bool.false_eq_true, if_false,
            decide_eq_true_eq, Option.some.injEq]
          split_ifs <;> omega

/-! ## Times of day -/

/-- Whether neither digits nor a fraction go on into what follows the seconds of a time. -/
def EndsSeconds (ending : List Char) : Prop :=
  ∀ c ∈ ending.head?, c.isDigit = false ∧ c ≠ '.' ∧ c ≠ ','

/-- An offset starts with a sign. -/
theorem endsSeconds_offsetChars (offset : Option Int) : EndsSeconds (offsetChars offset) := by
  intro c h
  cases offset with
  | none =>
      cases h
  | some minutes =>
      rw [offsetChars] at h
      obtain rfl := Option.some.inj h
      split_ifs <;> decide

/-- The characters of seconds, with a fraction if it is not zero. -/
def secondChars (second micro : Nat) : List Char :=
  paddedChars 2 second ++ (if micro = 0 then [] else '.' :: paddedChars 6 micro)

theorem seconds?_secondChars {second micro : Nat} (hsecond : second ≤ 59) (hmicro : micro < 1000000)
    {rest : List Char} (hends : EndsSeconds rest) :
    seconds? (secondChars second micro ++ rest) = some (second, micro, rest) := by
  rw [secondChars, List.append_assoc]
  have hread := fun after => fixedDigits?_paddedChars (n := second) (by decide : 0 < 2) (by omega) after
  rw [seconds?]
  simp only [hread, Option.bind_eq_bind, Option.bind_some]
  -- Without a fraction the offset comes next, which does not look like one.
  by_cases hzero : micro = 0
  · rw [if_pos hzero, List.nil_append]
    rcases rest with _ | ⟨c, rest⟩
    · rw [hzero]
    · have hc := hends c rfl
      simp only [hc.2.1, hc.2.2, decide_false, Bool.or_self, Bool.false_eq_true, if_false, hzero]
  · have hdigits : ∀ c ∈ paddedChars 6 micro, c.isDigit = true := fun c hc => isDigit_of_mem_padLeft hc
    have hstops : StopsDigits rest := fun c hc => (hends c hc).1
    have hlength : (paddedChars 6 micro).length = 6 := length_padLeft (by decide) hmicro
    have htake := takeWhile_isDigit hdigits hstops
    have hdrop := dropWhile_isDigit hdigits hstops
    have hne : (paddedChars 6 micro).isEmpty = false := List.isEmpty_eq_false_iff.2 (padLeft_ne_nil _ _)
    rw [if_neg hzero, List.cons_append]
    simp only [htake, hdrop, hne, decide_true, Bool.true_or, if_true, Bool.false_eq_true, if_false]
    rw [List.take_append_of_le_length hlength.ge, List.take_of_length_le hlength.le, paddedChars,
      basicValue_padLeft]

/-! ## Readings -/

/-- The characters of a reading without its offset. -/
def wallChars (t : Timestamp) : List Char :=
  dateChars t.date ++ 'T' :: (paddedChars 2 t.hour ++ ':' :: (paddedChars 2 t.minute ++
    ':' :: secondChars t.second t.micro))

theorem toList_wallText (t : Timestamp) : t.wallText.toList = wallChars t := by
  have hfraction : (if t.micro = 0 then "" else "." ++ Date.padded 6 t.micro).toList =
      if t.micro = 0 then [] else '.' :: paddedChars 6 t.micro := by
    split_ifs with hzero
    · rfl
    · simp [toList_padded]
  rw [wallText]
  simp [hfraction, toList_dateText, toList_padded, secondChars, wallChars]

theorem toList_text (t : Timestamp) : t.text.toList = wallChars t ++ offsetChars t.offset := by
  rw [text, String.toList_append, toList_wallText]
  cases t.offset with
  | none =>
      simp [offsetChars]
  | some minutes =>
      by_cases hneg : minutes < 0 <;> simp [offsetText, offsetChars, toList_padded, hneg]

/-- A reading in order is read back from its characters and any that stand for its offset. -/
theorem iso?_wallChars {t : Timestamp} (h : t.IsReading) {ending : List Char} (hends : EndsSeconds ending)
    (hoffset : offset? ending = some t.offset) : iso? (wallChars t ++ ending) = some t := by
  have hdate := date?_dateChars h.date ('T' :: (paddedChars 2 t.hour ++ ':' :: (paddedChars 2 t.minute ++
    ':' :: (secondChars t.second t.micro ++ ending))))
  have hhour := fixedDigits?_paddedChars (n := t.hour) (by decide : 0 < 2) (by have := h.hour; omega)
    (':' :: (paddedChars 2 t.minute ++ ':' :: (secondChars t.second t.micro ++ ending)))
  have hminute := fixedDigits?_paddedChars (n := t.minute) (by decide : 0 < 2)
    (by have := h.minute; omega) (':' :: (secondChars t.second t.micro ++ ending))
  have hseconds := seconds?_secondChars h.second h.micro hends
  have hseparator : ['T', 't', ' ', '_'].contains 'T' = true := rfl
  simp only [wallChars, List.append_assoc, List.cons_append]
  rw [iso?, hdate]
  simp only [Option.bind_eq_bind, Option.bind_some, hseparator, Bool.not_true, Bool.false_eq_true,
    if_false, hhour, skip?, if_true, hminute, hseconds, hoffset, not_lt.2 h.hour,
    not_lt.2 h.minute, not_lt.2 h.second, decide_false, Bool.or_self]

/-- A reading in order is read back from its text. -/
theorem iso?_text {t : Timestamp} (h : t.IsReading) : iso? t.text.toList = some t := by
  rw [toList_text]
  exact iso?_wallChars h (endsSeconds_offsetChars _) (offset?_offsetChars h.offset)

/-- It is read back from the text in which UTC is a single letter, too. -/
theorem iso?_zuluText {t : Timestamp} (h : t.IsReading) : iso? t.zuluText.toList = some t := by
  rw [zuluText]
  split_ifs with hutc
  · have hends : EndsSeconds ['Z'] := by
      rintro _ ⟨⟩
      decide
    have hoffset : offset? ['Z'] = some t.offset := congrArg some hutc.symm
    rw [String.toList_append, toList_wallText]
    exact iso?_wallChars h hends hoffset
  · exact iso?_text h

/-! ## What is read -/

theorem isReading_ofDate {d : Date} (h : d.isValid = true) : (ofDate d).IsReading where
  date := h
  hour := Nat.zero_le _
  minute := Nat.zero_le _
  second := Nat.zero_le _
  micro := Nat.zero_lt_succ _
  offset := fun _ h => absurd h (Option.not_mem_none _)

theorem isValid_of_date? {s rest : List Char} {d : Date} (h : date? s = some (d, rest)) :
    d.isValid = true := by
  rw [date?] at h
  simp only [Option.bind_eq_bind, Option.bind_eq_some_iff] at h
  obtain ⟨⟨year, s₁⟩, -, s₂, -, ⟨month, s₃⟩, -, s₄, -, ⟨day, s₅⟩, -, h⟩ := h
  simp only [Option.ite_none_right_eq_some] at h
  rcases h with ⟨hvalid, heq⟩
  cases heq
  exact hvalid

theorem micro_lt_of_seconds? {s rest : List Char} {second micro : Nat}
    (h : seconds? s = some (second, micro, rest)) : micro < 1000000 := by
  rw [seconds?] at h
  simp only [Option.bind_eq_bind, Option.bind_eq_some_iff] at h
  obtain ⟨⟨n, after⟩, -, h⟩ := h
  simp only at h
  split at h
  · case h_1 c more =>
      split_ifs at h with hpoint hnone
      · cases h
        -- Six digits of the fraction are taken, with zeros if there are fewer.
        have hdigits : ∀ c ∈ (more.takeWhile Char.isDigit ++ List.replicate 6 '0').take 6,
            c.isDigit = true := by
          intro c hc
          rcases List.mem_append.1 (List.mem_of_mem_take hc) with hc | hc
          · exact List.mem_takeWhile_imp hc
          · rw [List.eq_of_mem_replicate hc]
            decide
        have hlength : ((more.takeWhile Char.isDigit ++ List.replicate 6 '0').take 6).length = 6 := by
          simp
        have hlt := basicValue_lt hdigits
        rw [hlength] at hlt
        exact hlt
      · cases h
        decide
  · cases h
    decide

theorem natAbs_lt_of_offset? {s : List Char} {offset : Option Int} (h : offset? s = some offset) :
    ∀ minutes ∈ offset, minutes.natAbs < 1440 := by
  rw [offset?.eq_def] at h
  split at h
  · cases h
    exact fun _ h => absurd h (Option.not_mem_none _)
  · cases h
    rintro _ ⟨⟩
    decide
  · cases h
    rintro _ ⟨⟩
    decide
  · simp only [Option.bind_eq_bind, Option.bind_eq_some_iff] at h
    obtain ⟨west, -, ⟨hours, s₁⟩, -, ⟨minutes, s₂⟩, -, h⟩ := h
    simp only [Option.ite_none_left_eq_some] at h
    rcases h with ⟨hrange, heq⟩
    cases heq
    rintro _ ⟨⟩
    simp only [Bool.or_eq_true, decide_eq_true_eq, not_or] at hrange
    split_ifs <;> omega

theorem isReading_of_iso? {s : List Char} {t : Timestamp} (h : iso? s = some t) : t.IsReading := by
  rw [iso?] at h
  simp only [Option.bind_eq_bind, Option.bind_eq_some_iff] at h
  obtain ⟨⟨date, rest⟩, hdate, h⟩ := h
  simp only at h
  split at h
  · cases h
    exact isReading_ofDate (isValid_of_date? hdate)
  · simp only [Option.ite_none_left_eq_some, Option.bind_eq_some_iff] at h
    obtain ⟨-, ⟨hour, s₁⟩, -, s₂, -, ⟨minute, s₃⟩, -, h⟩ := h
    -- The seconds may be left out, with all that follows them.
    have hparts : ∃ second micro offset s₄, micro < 1000000 ∧ offset? s₄ = some offset ∧
        (if (decide (23 < hour) || decide (59 < minute) || decide (59 < second)) = true then none
          else some (⟨date, hour, minute, second, micro, offset⟩ : Timestamp)) = some t := by
      simp only at h
      split at h
      · simp only [Option.bind_eq_some_iff] at h
        obtain ⟨⟨second, micro, s₄⟩, hseconds, offset, hoffset, h⟩ := h
        exact ⟨second, micro, offset, s₄, micro_lt_of_seconds? hseconds, hoffset, h⟩
      · simp only [Option.bind_some, Option.bind_eq_some_iff] at h
        obtain ⟨offset, hoffset, h⟩ := h
        exact ⟨0, 0, offset, _, Nat.zero_lt_succ _, hoffset, h⟩
    obtain ⟨second, micro, offset, s₄, hmicro, hoffset, h⟩ := hparts
    rw [Option.ite_none_left_eq_some] at h
    rcases h with ⟨hrange, heq⟩
    cases heq
    simp only [Bool.or_eq_true, decide_eq_true_eq, not_or, not_lt] at hrange
    exact ⟨isValid_of_date? hdate, hrange.1.1, hrange.1.2, hrange.2, hmicro,
      natAbs_lt_of_offset? hoffset⟩

theorem isReading_of_ofEpoch? {seconds : Int} {micros : Nat} {t : Timestamp}
    (h : ofEpoch? seconds micros = some t) : t.IsReading := by
  rw [ofEpoch?] at h
  simp only at h
  generalize seconds + micros / 1000000 + epochSeconds = total at h
  split_ifs at h with hrange
  cases h
  simp only [Bool.or_eq_true, decide_eq_true_eq, not_or, not_lt, not_le] at hrange
  refine ⟨Date.isValid_ofDays ?_, ?_, ?_, ?_, ?_, ?_⟩
  · omega
  · simp only
    omega
  · simp only
    omega
  · simp only
    omega
  · exact Nat.mod_lt _ (by decide)
  · rintro _ ⟨⟩
    decide

theorem isReading_of_ofCount? {count : Int} {t : Timestamp} (h : ofCount? count = some t) :
    t.IsReading := by
  rw [ofCount?] at h
  split_ifs at h with hsize
  · exact isReading_of_ofEpoch? h
  · exact isReading_of_ofEpoch? h

theorem isReading_of_ofBinary64? {x : Binary64} {t : Timestamp} (h : ofBinary64? x = some t) :
    t.IsReading := by
  rw [ofBinary64?, Option.bind_eq_some_iff] at h
  obtain ⟨q, -, h⟩ := h
  simp only at h
  generalize (if q < 0 then _ else _ : ℚ) = size at h
  split_ifs at h with hsize
  · exact isReading_of_ofEpoch? h
  · exact isReading_of_ofEpoch? h

theorem isReading_of_ofText? {s : String} {t : Timestamp} (h : ofText? s = some t) : t.IsReading := by
  rw [ofText?] at h
  split at h
  · case h_1 t' hiso =>
      cases h
      exact isReading_of_iso? hiso
  · rw [ofNumberText?] at h
    simp only at h
    split at h
    · rw [Option.ite_none_left_eq_some] at h
      exact isReading_of_ofCount? h.2
    · rw [Option.bind_eq_some_iff] at h
      obtain ⟨d, -, h⟩ := h
      exact isReading_of_ofBinary64? h
    · cases h

end Timestamp

namespace Check

open Timestamp

/-- What has been read is accepted unless it is in the year 0. -/
theorem isValid_of_accepted {t t' : Timestamp} {rule : FieldRule} (ht : t.IsReading)
    (h : (if t.date.year = 0 then Checked.broken rule else .ok t) = .ok t') : t'.IsValid := by
  split_ifs at h with hyear
  · cases h
  · obtain rfl := Except.ok.inj h
    exact ⟨ht, hyear⟩

/-- What a document gives as a time is a valid reading, unless it is a day as such. -/
theorem isValid_of_time {v : Value} {t : Timestamp} (hv : ∀ d, v ≠ .date d) (h : time v = .ok t) :
    t.IsValid := by
  cases v with
  | text s =>
      rw [time] at h
      simp only at h
      split at h
      · case h_1 read hread =>
          exact isValid_of_accepted (isReading_of_ofText? hread) h
      · cases h
  | int n =>
      rw [time] at h
      simp only at h
      split_ifs at h with hlarge
      · cases h
      · split at h
        · case h_1 read hread =>
            exact isValid_of_accepted (isReading_of_ofCount? hread) h
        · cases h
  | float x =>
      rw [time] at h
      simp only at h
      split at h
      · case h_1 read hread =>
          exact isValid_of_accepted (isReading_of_ofBinary64? hread) h
      · cases h
  | date d =>
      exact absurd rfl (hv d)
  | null => cases h
  | bool b => cases h
  | list items => cases h
  | tuple items => cases h
  | set frozen items => cases h
  | mapping entries => cases h
  | table entries => cases h
  | record attributes => cases h
  | test body => cases h

theorem time_of_iso? {s : String} {t : Timestamp} (hyear : t.date.year ≠ 0)
    (hread : Timestamp.iso? s.toList = some t) : time (.text s) = .ok t := by
  rw [time, Timestamp.ofText?, hread]
  exact if_neg hyear

/-- A valid reading is read back from its text. -/
theorem time_text {t : Timestamp} (h : t.IsValid) : time (.text t.text) = .ok t :=
  time_of_iso? h.year (iso?_text h.toIsReading)

theorem time_zuluText {t : Timestamp} (h : t.IsValid) : time (.text t.zuluText) = .ok t :=
  time_of_iso? h.year (iso?_zuluText h.toIsReading)

end Check
end GraphQuery
