import Mathlib.Algebra.Group.Nat.Defs
import VaultRing.Timestamp.Reading

namespace VaultRing

namespace Text

variable {width n : Nat}

theorem decimal_digits (width n : Nat) : decimal (digits 10 width n) = n := by
  have hchars : ∀ ds : List Char, decimal ds = Nat.ofDigitChars 10 ds 0 := fun ds => by
    simp only [decimal, decimalValue, Nat.ofDigitChars, Nat.mul_comm 10]
    rfl
  rw [hchars, digits, padLeft, Nat.ofDigitChars_append, Nat.ofDigitChars_replicate_zero,
    Nat.mul_zero, Nat.ofDigitChars_toDigits (by decide) (by decide)]

theorem isDigit_of_mem_digits {c : Char} (h : c ∈ digits 10 width n) : c.isDigit = true := by
  rcases List.mem_append.mp h with hz | hd
  · rw [List.eq_of_mem_replicate hz]
    rfl
  · exact Nat.isDigit_of_mem_toDigits (by decide) (by decide) hd

theorem le_length_digits (width n : Nat) : width ≤ (digits 10 width n).length := by
  rw [digits, padLeft, List.length_append, List.length_replicate]
  omega

theorem length_digits (hw : 0 < width) (h : n < 10 ^ width) :
    (digits 10 width n).length = width := by
  have hle := (Nat.length_toDigits_le_iff (by decide) hw).mpr h
  rw [digits, padLeft, List.length_append, List.length_replicate]
  omega

end Text

namespace Timestamp

variable {rest : List Char} {w n : Nat} {c : Char}

section Digits

theorem exists_digits_eq_cons (hw : 0 < w) : ∃ d ds, digits w n = d :: ds ∧ d.isDigit = true := by
  have hlen : w ≤ (digits w n).length := Text.le_length_digits w n
  obtain ⟨d, ds, h⟩ := List.exists_cons_of_length_pos (Nat.lt_of_lt_of_le hw hlen)
  exact ⟨d, ds, h, Text.isDigit_of_mem_digits (h ▸ List.mem_cons_self)⟩

theorem digits_ne_nil (hw : 0 < w) (n : Nat) : digits w n ≠ [] := by
  obtain ⟨d, ds, h, -⟩ := exists_digits_eq_cons (n := n) hw
  rw [h]
  exact List.cons_ne_nil d ds

def Ends (room : Nat) (rest : List Char) : Prop := room = 0 ∨ ∀ c ∈ rest.head?, c.isDigit = false

theorem takeWhile_take_eq_nil {room : Nat} (h : Ends room rest) :
    (rest.take room).takeWhile Char.isDigit = [] := by
  cases rest with
  | nil => simp
  | cons c rest =>
    cases room with
    | zero => rfl
    | succ room =>
      have hc : c.isDigit = false := h.resolve_left (Nat.succ_ne_zero room) c rfl
      rw [List.take_succ_cons, List.takeWhile_cons_of_neg (by simp [hc])]

theorem number_all_digits {width : Nat} {ds : List Char} (hne : ds ≠ [])
    (hds : ∀ c ∈ ds, c.isDigit = true) (hle : ds.length ≤ width)
    (he : Ends (width - ds.length) rest) :
    number width (ds ++ rest) = .ok (Text.decimal ds, rest) := by
  obtain ⟨d, ds', rfl⟩ := List.exists_cons_of_ne_nil hne
  have htake : ((d :: ds' ++ rest).take width).takeWhile Char.isDigit = d :: ds' := by
    rw [List.take_append, List.take_of_length_le hle, List.takeWhile_append_of_pos hds,
      takeWhile_take_eq_nil he, List.append_nil]
  have hnumber : number width (d :: ds' ++ rest) =
      .ok (Text.decimal (((d :: ds' ++ rest).take width).takeWhile Char.isDigit),
        (d :: ds' ++ rest).drop
          (((d :: ds' ++ rest).take width).takeWhile Char.isDigit).length) := by
    simp [number, hds d (by simp)]
  rw [hnumber, htake, List.drop_left]

theorem number_digits {width : Nat} (hw : 0 < w) (hn : n < 10 ^ w) (hle : w ≤ width)
    (he : Ends (width - w) rest) : number width (digits w n ++ rest) = .ok (n, rest) := by
  have hlen : (digits w n).length = w := Text.length_digits hw hn
  have hnumber : number width (digits w n ++ rest) = .ok (Text.decimal (digits w n), rest) :=
    number_all_digits (digits_ne_nil hw n) (fun _ hc => Text.isDigit_of_mem_digits hc)
      (by rwa [hlen]) (by rwa [hlen])
  rwa [digits, Text.decimal_digits] at hnumber

theorem longNumber_digits (hw : 0 < w) (hc : c.isDigit = false) :
    longNumber (digits w n ++ c :: rest) = .ok (n, c :: rest) := by
  have hends : Ends ((digits w n ++ c :: rest).length - (digits w n).length) (c :: rest) :=
    .inr (by simpa using hc)
  have hnumber := number_all_digits (digits_ne_nil hw n)
    (fun _ hc => Text.isDigit_of_mem_digits hc) (by simp) hends
  rwa [longNumber, digits, Text.decimal_digits] at *

end Digits

section Marks

theorem isBlank_of_isDigit (h : c.isDigit = true) : isBlank c = false := by
  simp only [Char.isDigit, Bool.and_eq_true, decide_eq_true_eq] at h
  have hlow : 48 ≤ c.toNat := h.1
  have hhigh : c.toNat ≤ 57 := h.2
  simp only [isBlank, Bool.or_eq_false_iff, Bool.and_eq_false_iff, decide_eq_false_iff_not,
    beq_eq_false_iff_ne]
  omega

theorem skipBlanks_cons (h : isBlank c = false) (rest : List Char) :
    skipBlanks (c :: rest) = c :: rest := by
  rw [skipBlanks, List.dropWhile_cons_of_neg (by simp [h])]

theorem skipBlanks_digits (hw : 0 < w) (rest : List Char) :
    skipBlanks (digits w n ++ rest) = digits w n ++ rest := by
  obtain ⟨d, ds, h, hd⟩ := exists_digits_eq_cons (n := n) hw
  rw [h]
  exact skipBlanks_cons (isBlank_of_isDigit hd) _

theorem bounded_digits {low high : Nat} (hlow : low ≤ n) (hhigh : n ≤ high) (h : high < 100)
    (rest : List Char) : bounded low high (digits 2 n ++ rest) = .ok (n, rest) := by
  have hnumber : number 2 (digits 2 n ++ rest) = .ok (n, rest) :=
    number_digits (by decide) (by omega) (by decide) (.inl rfl)
  rw [bounded, skipBlanks_digits (by decide), hnumber]
  exact if_pos ⟨hlow, hhigh⟩

theorem mark_cons (h : isBlank c = false) (rest : List Char) : mark c (c :: rest) = .ok rest := by
  rw [mark, skipBlanks_cons h]
  exact if_pos rfl

end Marks

section Year

theorem signedYear_digits (h : n < 10000) (rest : List Char) :
    signedYear (digits 4 n ++ rest) = .ok ((n : Int), rest) := by
  have hnumber : number 4 (digits 4 n ++ rest) = .ok (n, rest) :=
    number_digits (by decide) h (by decide) (.inl rfl)
  obtain ⟨d, ds, hds, hd⟩ := exists_digits_eq_cons (w := 4) (n := n) (by decide)
  rw [signedYear, skipBlanks_digits (by decide)]
  rw [hds] at hnumber ⊢
  split
  · rename_i heq
    obtain rfl := (List.cons.inj heq).1
    exact absurd hd (by decide)
  · rename_i heq
    obtain rfl := (List.cons.inj heq).1
    exact absurd hd (by decide)
  · rw [hnumber]
    rfl

theorem signedYear_yearText (y : Int) (rest : List Char) :
    signedYear (yearText y ++ '-' :: rest) = .ok (y, '-' :: rest) := by
  have hlong : longNumber (digits 4 y.natAbs ++ '-' :: rest) = .ok (y.natAbs, '-' :: rest) :=
    longNumber_digits (by decide) rfl
  unfold yearText
  split
  · rename_i hy
    have hyear := signedYear_digits (n := y.toNat) (by omega) ('-' :: rest)
    rwa [Int.toNat_of_nonneg hy.1] at hyear
  split
  · have habs : -(y.natAbs : Int) = y := by omega
    change (longNumber (digits 4 y.natAbs ++ '-' :: rest)).map _ = _
    rw [hlong]
    simp only [Except.map, habs]
  · have habs : (y.natAbs : Int) = y := by omega
    change (longNumber (digits 4 y.natAbs ++ '-' :: rest)).map _ = _
    rw [hlong]
    simp only [Except.map, habs]

theorem bounds_of_isDate {year : Int} {month day : Nat} (h : Date.isDate year month day = true) :
    Date.leastYear ≤ year ∧ year ≤ Date.greatestYear ∧ (1 ≤ month ∧ month ≤ 12) ∧
      1 ≤ day ∧ day ≤ 31 := by
  simp only [Date.isDate, Bool.and_eq_true, decide_eq_true_eq] at h
  obtain ⟨⟨⟨⟨⟨hleast, hgreatest⟩, hm⟩, hm'⟩, hd⟩, hd'⟩ := h
  have hdays : Date.daysIn year month ≤ 31 := by
    unfold Date.daysIn
    split <;> split <;> decide
  exact ⟨hleast, hgreatest, ⟨hm, hm'⟩, hd, Nat.le_trans hd' hdays⟩

theorem year_yearText (d : Date) (rest : List Char) :
    year (yearText d.year ++ '-' :: rest) = .ok (d.year, '-' :: rest) := by
  obtain ⟨hleast, hgreatest, -⟩ := bounds_of_isDate d.valid
  unfold Date.leastYear at hleast
  unfold Date.greatestYear at hgreatest
  rw [year, signedYear_yearText]
  exact if_pos ⟨by omega, by omega⟩

end Year

section Fraction

theorem fraction_digits (hw : 0 < w) (hn : n < 10 ^ w) (hle : w ≤ 9) (hc : c.isDigit = false)
    (rest : List Char) :
    fraction ('.' :: (digits w n ++ c :: rest)) = .ok (n * Nat.pow 10 (9 - w), c :: rest) := by
  have hnumber : number 9 (digits w n ++ c :: rest) = .ok (n, c :: rest) :=
    number_digits hw hn hle (.inr (by simpa using hc))
  have hlen : (digits w n ++ c :: rest).length - (c :: rest).length = w := by
    rw [List.length_append, Nat.add_sub_cancel, digits, Text.length_digits hw hn]
  simp only [fraction, hnumber, Except.map, hlen]
  rw [List.dropWhile_cons_of_neg (by simp [hc])]

theorem fraction_fractionText (hn : n < 1000000000) (rest : List Char) :
    fraction (fractionText n ++ 'Z' :: rest) = .ok (n, 'Z' :: rest) := by
  unfold fractionText
  split
  · rename_i h
    rw [h]
    rfl
  split
  · rename_i h
    have hthree := fraction_digits (w := 3) (n := n / 1000000) (c := 'Z') (by decide) (by omega)
      (by decide) rfl rest
    have hall : n / 1000000 * Nat.pow 10 (9 - 3) = n :=
      Nat.div_mul_cancel (Nat.dvd_of_mod_eq_zero h)
    rwa [hall] at hthree
  split
  · rename_i h
    have hsix := fraction_digits (w := 6) (n := n / 1000) (c := 'Z') (by decide) (by omega)
      (by decide) rfl rest
    have hall : n / 1000 * Nat.pow 10 (9 - 6) = n := Nat.div_mul_cancel (Nat.dvd_of_mod_eq_zero h)
    rwa [hall] at hsix
  · have hnine := fraction_digits (w := 9) (n := n) (c := 'Z') (by decide) hn (by decide) rfl rest
    have hall : n * Nat.pow 10 (9 - 9) = n := Nat.mul_one n
    rwa [hall] at hnine

end Fraction

theorem moved_zero (t : Timestamp) : moved t 0 = .ok t := by
  have hh := t.hour.isLt
  have hm := t.minute.isLt
  let clock := t.hour.val * 60 + t.minute.val
  have htotal : (t.hour.val : Int) * 60 + t.minute.val - 0 = clock := by omega
  have hsame : ¬ (clock : Int) < 0 ∧ ¬ 1440 ≤ (clock : Int) := by omega
  have hclock : ((clock : Int) % 1440).toNat = clock := by omega
  have hhour : Fin.ofNat 24 (clock / 60) = t.hour := Fin.ext (by simp only [Fin.ofNat]; omega)
  have hminute : Fin.ofNat 60 (clock % 60) = t.minute := Fin.ext (by simp only [Fin.ofNat]; omega)
  simp only [moved, htotal, if_neg hsame.1, if_neg hsame.2, hclock, hhour, hminute]

theorem ofChars_write (t : Timestamp) : ofChars t.write = .ok t := by
  obtain ⟨-, -, hmonth, hday⟩ := bounds_of_isDate t.date.valid
  have hdate : Date.of? t.date.year t.date.month t.date.day = some t.date := dif_pos t.date.valid
  have htext : t.write = yearText t.date.year ++ '-' :: (digits 2 t.date.month ++
      '-' :: (digits 2 t.date.day ++ 'T' :: (digits 2 t.hour.val ++ ':' :: (digits 2 t.minute.val ++
        ':' :: (digits 2 t.second.val ++ (fractionText t.nanos.val ++ ['Z'])))))) := by
    simp [write]
  have hhyphen : isBlank '-' = false := rfl
  have hcolon : isBlank ':' = false := rfl
  have hmark : offset (skipBlanks ['Z']) = .ok (0, []) := rfl
  have hend : skipBlanks [] = [] := rfl
  rw [htext]
  simp only [ofChars, bind, Except.bind, year_yearText, mark_cons hhyphen, mark_cons hcolon,
    bounded_digits hmonth.1 hmonth.2 (by decide), bounded_digits hday.1 hday.2 (by decide),
    bounded_digits (Nat.zero_le t.hour.val) (Nat.le_of_lt_succ t.hour.isLt) (by decide),
    bounded_digits (Nat.zero_le t.minute.val) (Nat.le_of_lt_succ t.minute.isLt) (by decide),
    bounded_digits (Nat.zero_le t.second.val) (Nat.le_of_lt_succ t.second.isLt) (by decide),
    fraction_fractionText t.nanos.isLt, dateMark, hmark, hend, hdate, Fin.ofNat_val_eq_self,
    moved_zero]
  rfl

@[simp] theorem ofText_text (t : Timestamp) : ofText t.text = .ok t := by
  rw [ofText, text, String.toList_ofList]
  exact ofChars_write t

end Timestamp

end VaultRing
