import Mathlib.Algebra.Group.Nat.Defs
import Transactor.Instant.Text

namespace Transactor.Instant

open Transactor.Text

/-- Nothing but decimal digits, and at least one. -/
structure Digits (ds : List Char) : Prop where
  digit : ∀ c ∈ ds, isDigit c = true
  ne_nil : ds ≠ []

theorem toNat_of_isDigit {c : Char} (h : isDigit c = true) : 48 ≤ c.toNat ∧ c.toNat ≤ 57 := by
  rw [isDigit, Bool.and_eq_true, decide_eq_true_eq, decide_eq_true_eq] at h
  exact ⟨h.1, h.2⟩

theorem not_isBlank_of_isDigit {c : Char} (h : isDigit c = true) : isBlank c = false := by
  have hc := toNat_of_isDigit h
  simp only [isBlank, Bool.or_eq_false_iff, Bool.and_eq_false_iff, decide_eq_false_iff_not,
    beq_eq_false_iff_ne]
  omega

theorem Digits.cons {ds : List Char} (h : Digits ds) :
    ∃ c ds', ds = c :: ds' ∧ isBlank c = false ∧ c ≠ '-' ∧ c ≠ '+' := by
  cases ds with
  | nil => exact absurd rfl h.ne_nil
  | cons c ds =>
    have hc := h.digit c List.mem_cons_self
    refine ⟨c, ds, rfl, not_isBlank_of_isDigit hc, ?_, ?_⟩
    · rintro rfl
      exact absurd hc (by decide)
    · rintro rfl
      exact absurd hc (by decide)

theorem Digits.trimStart_append {ds : List Char} (h : Digits ds) (rest : List Char) :
    trimStart (ds ++ rest) = ds ++ rest := by
  obtain ⟨c, ds, rfl, hc, -, -⟩ := h.cons
  exact trimStart_cons_of_not_blank hc

theorem toList_padded (width n : Nat) :
    (padded width n).toList =
      List.replicate (width - (Nat.toDigits 10 n).length) '0' ++ Nat.toDigits 10 n :=
  String.toList_ofList

theorem digits_padded (width n : Nat) : Digits (padded width n).toList := by
  rw [toList_padded]
  constructor
  · intro c hc
    rcases List.mem_append.mp hc with hc | hc
    · rw [List.eq_of_mem_replicate hc]
      rfl
    · have hdigit := Nat.isDigit_of_mem_toDigits (by decide) (by decide) hc
      rw [Char.isDigit, Bool.and_eq_true, decide_eq_true_eq, decide_eq_true_eq] at hdigit
      rw [isDigit, Bool.and_eq_true, decide_eq_true_eq, decide_eq_true_eq]
      exact hdigit
  · exact List.append_ne_nil_of_right_ne_nil _ Nat.toDigits_ne_nil

theorem length_padded {width n : Nat} (hwidth : 0 < width) (h : n < 10 ^ width) :
    (padded width n).toList.length = width := by
  have hle := (Nat.length_toDigits_le_iff (by decide : 1 < 10) hwidth).mpr h
  rw [toList_padded, List.length_append, List.length_replicate]
  omega

theorem valueOf_eq_ofDigitChars (ds : List Char) : valueOf ds = Nat.ofDigitChars 10 ds 0 := by
  rw [valueOf, Nat.ofDigitChars_eq_foldl]
  congr 1
  funext n c
  rw [Nat.mul_comm, digitValue]

theorem valueOf_padded (width n : Nat) : valueOf (padded width n).toList = n := by
  rw [valueOf_eq_ofDigitChars, toList_padded, Nat.ofDigitChars_append,
    Nat.ofDigitChars_replicate_zero, Nat.mul_zero, Nat.ofDigitChars_ten_toDigits]

theorem Digits.takeWhile_take {ds rest : List Char} {width : Nat} (h : Digits ds)
    (hlength : ds.length ≤ width)
    (hend : ds.length = width ∨ ∀ c ∈ rest.head?, isDigit c = false) :
    ((ds ++ rest).take width).takeWhile isDigit = ds := by
  rw [List.take_append, List.take_of_length_le hlength, List.takeWhile_append_of_pos h.digit]
  have hstop : (rest.take (width - ds.length)).takeWhile isDigit = [] := by
    rcases hend with rfl | hend
    · rw [Nat.sub_self, List.take_zero, List.takeWhile_nil]
    · cases rest with
      | nil => rw [List.take_nil, List.takeWhile_nil]
      | cons c rest =>
        have hc : ¬ isDigit c = true := by rw [hend c rfl]; decide
        cases width - ds.length with
        | zero => rfl
        | succ k => rw [List.take_succ_cons, List.takeWhile_cons_of_neg hc]
  rw [hstop, List.append_nil]

theorem Digits.readNumber_append {ds rest : List Char} {width : Nat} (h : Digits ds)
    (hlength : ds.length ≤ width)
    (hend : ds.length = width ∨ ∀ c ∈ rest.head?, isDigit c = false) :
    readNumber width (ds ++ rest) = some (valueOf ds, rest) := by
  simp only [readNumber, h.takeWhile_take hlength hend, List.drop_left,
    List.isEmpty_eq_false_iff.mpr h.ne_nil, Bool.false_eq_true, ↓reduceIte]

theorem readPart_padded {n : Nat} (h : n < 100) (rest : List Char) :
    readPart ((padded 2 n).toList ++ rest) = some (n, rest) := by
  have hds := digits_padded 2 n
  have hlength : (padded 2 n).toList.length = 2 := length_padded (by decide) h
  rw [readPart, hds.trimStart_append, hds.readNumber_append (Nat.le_of_eq hlength) (.inl hlength),
    valueOf_padded]

theorem readMark_cons {c : Char} (h : isBlank c = false) (rest : List Char) :
    readMark c (c :: rest) = some rest := by
  rw [readMark, trimStart_cons_of_not_blank h]
  exact if_pos rfl

theorem readNumber_signed (n : Nat) (rest : List Char) :
    readNumber ((padded 4 n).toList ++ '-' :: rest).length ((padded 4 n).toList ++ '-' :: rest) =
      some (n, '-' :: rest) := by
  have hlength : (padded 4 n).toList.length ≤ ((padded 4 n).toList ++ '-' :: rest).length := by
    rw [List.length_append]
    exact Nat.le_add_right _ _
  have hend : ∀ c ∈ ('-' :: rest).head?, isDigit c = false := by
    rintro c ⟨⟩
    rfl
  rw [(digits_padded 4 n).readNumber_append hlength (.inr hend), valueOf_padded]

theorem readYear_padded {n : Nat} (h : n < 10000) (rest : List Char) :
    readYear ((padded 4 n).toList ++ '-' :: rest) = some ((n : Int), '-' :: rest) := by
  have hds := digits_padded 4 n
  have hlength : (padded 4 n).toList.length = 4 := length_padded (by decide) h
  have hread : readNumber 4 ((padded 4 n).toList ++ '-' :: rest) = some (n, '-' :: rest) := by
    rw [hds.readNumber_append (Nat.le_of_eq hlength) (.inl hlength), valueOf_padded]
  obtain ⟨c, ds, heq, hblank, hminus, hplus⟩ := hds.cons
  rw [heq, List.cons_append] at hread ⊢
  rw [readYear, trimStart_cons_of_not_blank hblank]
  split
  · rename_i hhead
    exact absurd (List.cons.inj hhead).1 hminus
  · rename_i hhead
    exact absurd (List.cons.inj hhead).1 hplus
  · rw [hread, Option.map_some]

theorem toList_marked {mark : String} {c : Char} (h : mark.toList = [c]) (s : String)
    (rest : List Char) : (mark ++ s).toList ++ rest = c :: (s.toList ++ rest) := by
  rw [String.toList_append, h]
  rfl

theorem readYear_text (year : Int) (rest : List Char) :
    readYear ((yearText year).toList ++ '-' :: rest) = some (year, '-' :: rest) := by
  by_cases hneg : year < 0
  · have hyear : -(year.natAbs : Int) = year := by omega
    rw [yearText, if_pos hneg, toList_marked (c := '-') rfl, readYear,
      trimStart_cons_of_not_blank (by decide)]
    simp only [readNumber_signed, Option.map_some, hyear]
  · have hyear : (year.natAbs : Int) = year := by omega
    by_cases hfour : year ≤ 9999
    · rw [yearText, if_neg hneg, if_pos hfour, readYear_padded (by omega), hyear]
    · rw [yearText, if_neg hneg, if_neg hfour, toList_marked (c := '+') rfl, readYear,
        trimStart_cons_of_not_blank (by decide)]
      simp only [readNumber_signed, Option.map_some, hyear]

theorem readFraction_padded {width n : Nat} (hwidth : 0 < width) (hnine : width ≤ 9)
    (h : n < 10 ^ width) (rest : List Char) :
    readFraction ('.' :: ((padded width n).toList ++ 'Z' :: rest)) =
      some (n * 10 ^ (9 - width), 'Z' :: rest) := by
  have hds := digits_padded width n
  have hlength : (padded width n).toList.length = width := length_padded hwidth h
  have hend : ∀ c ∈ ('Z' :: rest).head?, isDigit c = false := by
    rintro c ⟨⟩
    rfl
  have htake := hds.takeWhile_take (Nat.le_trans (Nat.le_of_eq hlength) hnine) (.inr hend)
  have hnext : isDigit 'Z' = false := rfl
  simp only [readFraction, htake, List.isEmpty_eq_false_iff.mpr hds.ne_nil, Bool.false_eq_true,
    ↓reduceIte, valueOf_padded, hlength, List.drop_left', List.dropWhile_cons, hnext, Nat.pow_eq]

theorem readFraction_text {nano : Nat} (h : nano < nanosPerSecond) (rest : List Char) :
    readFraction ((fractionText nano).toList ++ 'Z' :: rest) = some (nano, 'Z' :: rest) := by
  rw [nanosPerSecond] at h
  by_cases hzero : nano = 0
  · rw [hzero]
    rfl
  by_cases hmilli : nano % 1000000 = 0
  · have hnano : nano / 1000000 * 10 ^ (9 - 3) = nano := by omega
    rw [fractionText, if_neg hzero, if_pos hmilli, toList_marked (c := '.') rfl,
      readFraction_padded (by decide) (by decide) (by omega), hnano]
  by_cases hmicro : nano % 1000 = 0
  · have hnano : nano / 1000 * 10 ^ (9 - 6) = nano := by omega
    rw [fractionText, if_neg hzero, if_neg hmilli, if_pos hmicro, toList_marked (c := '.') rfl,
      readFraction_padded (by decide) (by decide) (by omega), hnano]
  · rw [fractionText, if_neg hzero, if_neg hmilli, if_neg hmicro, toList_marked (c := '.') rfl,
      readFraction_padded (by decide) (by decide) (by omega), Nat.sub_self, Nat.pow_zero,
      Nat.mul_one]

theorem daysInMonth_le (year : Int) (month : Nat) : daysInMonth year month ≤ 31 := by
  unfold daysInMonth
  repeat' split
  all_goals decide

theorem readDate_text (d : Date) (rest : List Char) :
    readDate ((yearText d.year).toList ++ '-' :: ((padded 2 d.month).toList ++
      '-' :: ((padded 2 d.day).toList ++ rest))) = some (d, rest) := by
  have hhyphen : isBlank '-' = false := rfl
  have hmonth : d.month < 100 := by have := d.month_mem; omega
  have hday : d.day < 100 := by
    have := Nat.le_trans d.day_mem.2 (daysInMonth_le d.year d.month)
    omega
  simp only [readDate, readYear_text, readMark_cons hhyphen, readPart_padded hmonth,
    readPart_padded hday, Date.ofParts?_parts, Option.bind_eq_bind, Option.bind_some,
    Option.pure_def]

theorem readTime_text {hour minute second nano : Nat} (hhour : hour < 100) (hminute : minute < 100)
    (hsecond : second < 100) (hnano : nano < nanosPerSecond) (rest : List Char) :
    readTime ((padded 2 hour).toList ++ ':' :: ((padded 2 minute).toList ++
      ':' :: ((padded 2 second).toList ++ ((fractionText nano).toList ++ 'Z' :: rest)))) =
      some ((hour, minute, second, nano), 'Z' :: rest) := by
  have hcolon : isBlank ':' = false := rfl
  simp only [readTime, readMark_cons hcolon, readPart_padded hhour, readPart_padded hminute,
    readPart_padded hsecond, readFraction_text hnano, Option.bind_eq_bind, Option.bind_some,
    Option.pure_def]

/-- The second 60 that a leap second shows leads back to it. -/
theorem ofParts?_shown (t : Instant) :
    ofParts? t.date t.hour t.minute t.shownSecond (t.nano % nanosPerSecond) = some t := by
  have hnano : t.nano % nanosPerSecond < nanosPerSecond := Nat.mod_lt _ (by decide)
  have hlt := t.nano_lt
  rw [ofParts?, dif_pos ⟨t.hour_lt, t.minute_lt, hnano⟩]
  by_cases hleap : nanosPerSecond ≤ t.nano
  · have hsecond := t.leap hleap
    have hshown : t.shownSecond = 60 := by rw [shownSecond, if_pos hleap, hsecond]
    have hrest : t.nano % nanosPerSecond + nanosPerSecond = t.nano := by
      rw [Nat.mod_eq_sub_mod hleap, Nat.mod_eq_of_lt (by omega)]
      omega
    simp only [hshown, Nat.lt_irrefl, ↓reduceDIte, ↓reduceIte, hrest, ← hsecond]
  · have hshown : t.shownSecond = t.second := if_neg hleap
    simp only [hshown, t.second_lt, ↓reduceDIte, Nat.mod_eq_of_lt (Nat.lt_of_not_le hleap)]

theorem toList_text (t : Instant) :
    t.text.toList = (yearText t.date.year).toList ++ '-' :: ((padded 2 t.date.month).toList ++
      '-' :: ((padded 2 t.date.day).toList ++ 'T' :: ((padded 2 t.hour).toList ++
      ':' :: ((padded 2 t.minute).toList ++ ':' :: ((padded 2 t.shownSecond).toList ++
      ((fractionText (t.nano % nanosPerSecond)).toList ++ ['Z'])))))) := by
  simp [text]

/-- An instant is read back from its text. -/
theorem parse?_text (t : Instant) : parse? t.text = some t := by
  have hhour : t.hour < 100 := by have := t.hour_lt; omega
  have hminute : t.minute < 100 := by have := t.minute_lt; omega
  have hsecond : t.shownSecond < 100 := by
    have := t.second_lt
    unfold shownSecond
    split <;> omega
  have hnano : t.nano % nanosPerSecond < nanosPerSecond := Nat.mod_lt _ (by decide)
  have hseparator (s : List Char) : readSeparator ('T' :: s) = some s := rfl
  have htrim : trimStart ['Z'] = ['Z'] := rfl
  have hoffset : readOffset ['Z'] = some (0, []) := rfl
  have hend : trimStart [] = [] := rfl
  rw [parse?, toList_text]
  simp only [ofChars?, readDate_text, hseparator, readTime_text hhour hminute hsecond hnano, htrim,
    hoffset, hend, List.isEmpty_nil, ↓reduceIte, ofParts?_shown, ofLocal?_zero,
    Option.bind_eq_bind, Option.bind_some]

end Transactor.Instant
