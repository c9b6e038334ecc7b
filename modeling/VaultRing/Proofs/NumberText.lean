import VaultRing.Proofs.ShortestDecimal
import VaultRing.Proofs.TimestampText

namespace VaultRing

namespace Text

variable {n : Nat}

theorem decimal_toDigits (n : Nat) : decimal (Nat.toDigits 10 n) = n := by
  simpa [digits, padLeft] using decimal_digits 0 n

theorem decimal_append (xs ys : List Char) :
    decimal (xs ++ ys) = ys.foldl (fun n d => n * 10 + decimalValue d) (decimal xs) := by
  rw [decimal, decimal, List.foldl_append]

theorem decimal_zeros (count : Nat) (ds : List Char) :
    decimal (List.replicate count '0' ++ ds) = decimal ds := by
  induction count with
  | zero => rfl
  | succ count ih => exact ih

theorem decimal_append_zeros (ds : List Char) (count : Nat) :
    decimal (ds ++ List.replicate count '0') = decimal ds * 10 ^ count := by
  induction count with
  | zero => simp
  | succ count ih =>
    rw [List.replicate_succ', ← List.append_assoc, decimal_append, ih]
    simp [decimalValue, pow_succ, Nat.mul_assoc]

end Text

namespace Binary64

variable {ds es rest : List Char}

theorem takeDigits_append (hds : ∀ c ∈ ds, c.isDigit = true)
    (hrest : ∀ c ∈ rest.head?, c.isDigit = false) (value count : Nat) :
    takeDigits value count (ds ++ rest) =
      (ds.foldl (fun n d => n * 10 + Text.decimalValue d) value, count + ds.length, rest) := by
  induction ds generalizing value count with
  | nil =>
    cases rest with
    | nil => rfl
    | cons c rest => simp [takeDigits, hrest c rfl]
  | cons c ds ih =>
    obtain ⟨hc, hds⟩ := List.forall_mem_cons.mp hds
    rw [List.cons_append, takeDigits, if_pos hc, ih hds, List.foldl_cons, List.length_cons]
    congr 2
    omega

theorem takeDigits_decimal (hds : ∀ c ∈ ds, c.isDigit = true)
    (hrest : ∀ c ∈ rest.head?, c.isDigit = false) :
    takeDigits 0 0 (ds ++ rest) = (Text.decimal ds, ds.length, rest) := by
  rw [takeDigits_append hds hrest, Nat.zero_add]
  rfl

theorem unsigned_whole (hds : ∀ c ∈ ds, c.isDigit = true) (hne : ds ≠ []) (tail : List Char)
    (htail : ∀ c ∈ tail.head?, c.isDigit = false ∧ c ≠ '.') :
    unsigned? (ds ++ tail) =
      (exponentPart tail).map fun e => Magnitude.ofDecimal (Text.decimal ds) e := by
  have hcount : ds.length ≠ 0 := mt List.length_eq_zero_iff.mp hne
  rw [unsigned?, takeDigits_decimal hds fun c hc => (htail c hc).1]
  dsimp only
  split
  · rename_i rest
    exact absurd rfl (htail '.' rfl).2
  · simp [hcount]

theorem unsigned_point (hds : ∀ c ∈ ds, c.isDigit = true) (hne : ds ≠ [])
    (hes : ∀ c ∈ es, c.isDigit = true) (tail : List Char)
    (htail : ∀ c ∈ tail.head?, c.isDigit = false) :
    unsigned? (ds ++ '.' :: (es ++ tail)) =
      (exponentPart tail).map fun e =>
        Magnitude.ofDecimal (Text.decimal (ds ++ es)) (e - es.length) := by
  have hcount : ds.length ≠ 0 := mt List.length_eq_zero_iff.mp hne
  rw [unsigned?, takeDigits_decimal hds (by intro c hc; cases hc; rfl)]
  dsimp only
  split
  · rename_i behind heq
    rw [← (List.cons.inj heq).2, takeDigits_append hes htail, ← Text.decimal_append]
    simp [hcount]
  · rename_i hother
    exact absurd rfl (hother _)

theorem signed_digit {d : Char} (hd : d.isDigit = true) (ds : List Char) :
    signed (d :: ds) = (false, d :: ds) := by
  unfold signed
  split
  · rename_i heq
    rw [(List.cons.inj heq).1] at hd
    exact absurd hd (by decide)
  · rename_i heq
    rw [(List.cons.inj heq).1] at hd
    exact absurd hd (by decide)
  · rfl

inductive Sign : List Char → Bool → Prop where
  | minus : Sign ['-'] true
  | plus : Sign ['+'] false
  | none : Sign [] false

theorem exponentPart_digits (hds : ∀ c ∈ ds, c.isDigit = true) (hne : ds ≠ []) {mark : List Char}
    {negative : Bool} (hmark : Sign mark negative) :
    exponentPart ('e' :: (mark ++ ds)) =
      some (if negative then -(Text.decimal ds : Int) else Text.decimal ds) := by
  have hend : ∀ c ∈ ([] : List Char).head?, c.isDigit = false := nofun
  have hread := takeDigits_decimal hds hend
  rw [List.append_nil] at hread
  obtain ⟨d, es, rfl⟩ := List.exists_cons_of_ne_nil hne
  have hsigned : signed (mark ++ d :: es) = (negative, d :: es) := by
    cases hmark with
    | minus => rfl
    | plus => rfl
    | none => exact signed_digit (hds d List.mem_cons_self) es
  rw [exponentPart, if_pos (.inl rfl), hsigned]
  dsimp only
  rw [hread]
  rfl

end Binary64

namespace Layout

open Binary64 Fraction

variable {digits : Nat} {exponent : Int}

/-- What is read has the value of what has been written. -/
def ReadsAs (cs : List Char) (digits : Nat) (exponent : Int) : Prop :=
  ∃ d k, unsigned? cs = some (Magnitude.ofDecimal d k) ∧ 0 < d ∧ min exponent (-1) ≤ k ∧
    (ofScientific d k).value = (ofScientific digits exponent).value

section Forms

variable {ds es : List Char} {lead : Int}

theorem forall_zeros (n : Nat) : ∀ c ∈ List.replicate n '0', c.isDigit = true := by
  intro c hc
  rw [List.eq_of_mem_replicate hc]
  rfl

theorem forall_zero : ∀ c ∈ ['0'], c.isDigit = true := List.forall_mem_singleton.mpr rfl

theorem readsAs_cut (hds : ∀ c ∈ ds, c.isDigit = true) (hne : ds ≠ [])
    (hes : ∀ c ∈ es, c.isDigit = true) (hpos : 0 < Text.decimal (ds ++ es))
    (hexponent : exponent = -(es.length : Int)) :
    ReadsAs (ds ++ '.' :: es) (Text.decimal (ds ++ es)) exponent := by
  have hread := unsigned_point hds hne hes [] (fun c hc => nomatch hc)
  rw [List.append_nil, exponentPart, Option.map_some, zero_sub, ← hexponent] at hread
  exact ⟨_, _, hread, hpos, min_le_left _ _, rfl⟩

theorem readsAs_filled (hds : ∀ c ∈ ds, c.isDigit = true) (hpos : 0 < Text.decimal ds) (zeros : Nat)
    (wholePoint : Bool) :
    ReadsAs (ds ++ List.replicate zeros '0' ++ if wholePoint then ['.', '0'] else [])
      (Text.decimal ds) zeros := by
  have hne : ds ++ List.replicate zeros '0' ≠ [] := by
    rw [Ne, List.append_eq_nil_iff, not_and_or]
    left
    rintro rfl
    exact absurd hpos (by decide)
  have hall := List.forall_mem_append.mpr ⟨hds, forall_zeros zeros⟩
  split
  · have hread := unsigned_point hall hne forall_zero [] (fun c hc => nomatch hc)
    have hdecimal : Text.decimal (ds ++ List.replicate zeros '0' ++ ['0']) =
        Text.decimal ds * 10 ^ zeros * 10 := by
      rw [Text.decimal_append, Text.decimal_append_zeros]
      rfl
    rw [List.append_nil, exponentPart, Option.map_some, hdecimal] at hread
    refine ⟨_, _, hread, by positivity, by simp, ?_⟩
    rw [value_ofScientific, value_ofScientific, zpow_natCast]
    push_cast
    norm_num
    ring
  · have hread := unsigned_whole hall hne [] (fun c hc => nomatch hc)
    rw [exponentPart, Option.map_some, Text.decimal_append_zeros] at hread
    refine ⟨_, _, hread, by positivity, by simp, ?_⟩
    rw [value_ofScientific, value_ofScientific, zpow_natCast]
    push_cast
    rw [mul_one]

variable (hds : ∀ c ∈ ds, c.isDigit = true) (hpos : 0 < Text.decimal ds)
  (hlead : lead = exponent + (ds.length - 1 : Nat))

include hpos in
theorem digits_ne_nil : ds ≠ [] := by
  rintro rfl
  exact absurd hpos (by decide)

include hds hpos hlead in
theorem readsAs_point (l : Layout) : ReadsAs (l.point ds lead) (Text.decimal ds) exponent := by
  have hne := digits_ne_nil hpos
  have hlength := List.length_pos_iff.mpr hne
  unfold point
  split
  · have hdecimal : Text.decimal (['0'] ++ (List.replicate (-lead - 1).toNat '0' ++ ds)) =
        Text.decimal ds :=
      (Text.decimal_zeros 1 _).trans (Text.decimal_zeros _ ds)
    have hplaces : exponent = -((List.replicate (-lead - 1).toNat '0' ++ ds).length : Int) := by
      rw [List.length_append, List.length_replicate]
      omega
    have hread := readsAs_cut forall_zero (List.cons_ne_nil _ _)
      (List.forall_mem_append.mpr ⟨forall_zeros (-lead - 1).toNat, hds⟩) (hdecimal ▸ hpos) hplaces
    rwa [hdecimal] at hread
  · dsimp only
    split
    · have hexponent : exponent = (lead.toNat + 1 - ds.length : Nat) := by omega
      rw [hexponent]
      exact readsAs_filled hds hpos _ l.wholePoint
    · have hcut := List.take_append_drop (lead.toNat + 1) ds
      have hplaces : exponent = -((ds.drop (lead.toNat + 1)).length : Int) := by
        rw [List.length_drop]
        omega
      have hread := readsAs_cut (fun c hc => hds c (List.mem_of_mem_take hc)) (by simp [hne])
        (fun c hc => hds c (List.mem_of_mem_drop hc)) (hcut.symm ▸ hpos) hplaces
      rwa [hcut] at hread

def exponentText (l : Layout) (lead : Int) : List Char :=
  'e' :: ((if lead < 0 then ['-'] else if l.plusSign then ['+'] else []) ++
    Text.digits 10 l.exponentWidth lead.natAbs)

theorem exponentPart_exponentText (l : Layout) (lead : Int) :
    exponentPart (l.exponentText lead) = some lead := by
  have hmark : Sign (if lead < 0 then ['-'] else if l.plusSign then ['+'] else [])
      (decide (lead < 0)) := by
    split
    · rename_i hneg
      rw [decide_eq_true hneg]
      exact .minus
    · rename_i hneg
      rw [decide_eq_false hneg]
      split
      · exact .plus
      · exact .none
  have hplaces : Text.digits 10 l.exponentWidth lead.natAbs ≠ [] := by
    simp [Text.digits, Text.padLeft]
  rw [exponentText, exponentPart_digits (fun c hc => Text.isDigit_of_mem_digits hc) hplaces hmark,
    Text.decimal_digits]
  by_cases hneg : lead < 0
  · rw [decide_eq_true hneg, if_pos rfl, ← Int.eq_neg_natAbs_of_nonpos hneg.le]
  · rw [decide_eq_false hneg, if_neg Bool.false_ne_true, Int.natAbs_of_nonneg (Int.not_lt.mp hneg)]

include hds hpos hlead in
theorem readsAs_scientific (l : Layout) :
    ReadsAs (l.scientific ds lead) (Text.decimal ds) exponent := by
  have hne := digits_ne_nil hpos
  have hlength := List.length_pos_iff.mpr hne
  have htail : ∀ c ∈ (l.exponentText lead).head?, c.isDigit = false ∧ c ≠ '.' := by
    intro c hc
    cases hc
    decide
  have hwritten : l.scientific ds lead = ds.take 1 ++
      ((if ds.length ≤ 1 then [] else '.' :: ds.drop 1) ++ l.exponentText lead) := by
    simp only [scientific, exponentText, List.append_assoc, List.cons_append]
  rw [hwritten]
  split
  · rename_i hone
    have hread := unsigned_whole hds hne _ htail
    have hsame : lead = exponent := by omega
    rw [exponentPart_exponentText, Option.map_some, hsame] at hread
    rw [List.take_of_length_le hone, List.nil_append]
    exact ⟨_, _, hsame ▸ hread, hpos, min_le_left _ _, rfl⟩
  · have htake : ∀ c ∈ ds.take 1, c.isDigit = true := fun c hc => hds c (List.mem_of_mem_take hc)
    have hdrop : ∀ c ∈ ds.drop 1, c.isDigit = true := fun c hc => hds c (List.mem_of_mem_drop hc)
    have hread := unsigned_point htake (by simp [hne]) hdrop _ fun c hc => (htail c hc).1
    have hsame : lead - (ds.drop 1).length = exponent := by
      rw [List.length_drop]
      omega
    rw [exponentPart_exponentText, Option.map_some, hsame, List.take_append_drop] at hread
    exact ⟨_, _, hread, hpos, min_le_left _ _, rfl⟩

end Forms

theorem readsAs_write (l : Layout) (exponent : Int) (h : 0 < digits) :
    ReadsAs (l.write digits exponent) digits exponent := by
  have hds : ∀ c ∈ Nat.toDigits 10 digits, c.isDigit = true :=
    fun c hc => Nat.isDigit_of_mem_toDigits (by decide) (by decide) hc
  have hdecimal := Text.decimal_toDigits digits
  have hpos : 0 < Text.decimal (Nat.toDigits 10 digits) := by rwa [hdecimal]
  rw [write]
  split
  · have hread : ReadsAs _ _ exponent := readsAs_point hds hpos rfl l
    rwa [hdecimal] at hread
  · have hread : ReadsAs _ _ exponent := readsAs_scientific hds hpos rfl l
    rwa [hdecimal] at hread

section Characters

def isNumeral (c : Char) : Bool := c.isDigit || c == '.' || c == 'e' || c == '-' || c == '+'

structure Numeral (cs : List Char) : Prop where
  first : ∃ c ds, cs = c :: ds ∧ c.isDigit = true
  all : ∀ c ∈ cs, isNumeral c = true

theorem isNumeral_of_isDigit {c : Char} (h : c.isDigit = true) : isNumeral c = true := by
  simp [isNumeral, h]

theorem numeral_append {ds cs : List Char} (hds : ∀ c ∈ ds, c.isDigit = true) (hne : ds ≠ [])
    (hcs : ∀ c ∈ cs, isNumeral c = true) : Numeral (ds ++ cs) := by
  obtain ⟨d, es, rfl⟩ := List.exists_cons_of_ne_nil hne
  refine ⟨⟨d, es ++ cs, rfl, hds d List.mem_cons_self⟩, ?_⟩
  exact List.forall_mem_append.mpr ⟨fun c hc => isNumeral_of_isDigit (hds c hc), hcs⟩

theorem numeral_toDigits (n : Nat) : Numeral (Nat.toDigits 10 n) := by
  have h : Numeral (Nat.toDigits 10 n ++ []) := numeral_append
    (fun c hc => Nat.isDigit_of_mem_toDigits (by decide) (by decide) hc) (by simp)
    (fun c hc => nomatch hc)
  rwa [List.append_nil] at h

variable {ds : List Char} (hds : ∀ c ∈ ds, c.isDigit = true) (hne : ds ≠ [])

include hds hne in
theorem numeral_point (l : Layout) (lead : Int) : Numeral (l.point ds lead) := by
  unfold point
  split
  · change Numeral (['0'] ++ ('.' :: (List.replicate (-lead - 1).toNat '0' ++ ds)))
    refine numeral_append forall_zero (List.cons_ne_nil _ _) ?_
    refine List.forall_mem_cons.mpr ⟨rfl, List.forall_mem_append.mpr ⟨?_, ?_⟩⟩
    · exact fun c hc => isNumeral_of_isDigit (forall_zeros _ c hc)
    · exact fun c hc => isNumeral_of_isDigit (hds c hc)
  · dsimp only
    split
    · rw [List.append_assoc]
      refine numeral_append hds hne (List.forall_mem_append.mpr ⟨?_, ?_⟩)
      · exact fun c hc => isNumeral_of_isDigit (forall_zeros _ c hc)
      · split
        · exact List.forall_mem_cons.mpr ⟨rfl, List.forall_mem_singleton.mpr rfl⟩
        · exact fun c hc => nomatch hc
    · refine numeral_append (fun c hc => hds c (List.mem_of_mem_take hc)) (by simp [hne]) ?_
      refine List.forall_mem_cons.mpr ⟨rfl, fun c hc => ?_⟩
      exact isNumeral_of_isDigit (hds c (List.mem_of_mem_drop hc))

include hds hne in
theorem numeral_scientific (l : Layout) (lead : Int) : Numeral (l.scientific ds lead) := by
  unfold scientific
  simp only [List.append_assoc, List.cons_append]
  refine numeral_append (fun c hc => hds c (List.mem_of_mem_take hc)) (by simp [hne])
    (List.forall_mem_append.mpr ⟨?_, List.forall_mem_cons.mpr ⟨rfl, ?_⟩⟩)
  · split
    · exact fun c hc => nomatch hc
    · refine List.forall_mem_cons.mpr ⟨rfl, fun c hc => ?_⟩
      exact isNumeral_of_isDigit (hds c (List.mem_of_mem_drop hc))
  · refine List.forall_mem_append.mpr ⟨?_, fun c hc => ?_⟩
    · split
      · exact List.forall_mem_singleton.mpr rfl
      · split
        · exact List.forall_mem_singleton.mpr rfl
        · exact fun c hc => nomatch hc
    · exact isNumeral_of_isDigit (Text.isDigit_of_mem_digits hc)

theorem numeral_write (l : Layout) (digits : Nat) (exponent : Int) :
    Numeral (l.write digits exponent) := by
  have hds : ∀ c ∈ Nat.toDigits 10 digits, c.isDigit = true :=
    fun c hc => Nat.isDigit_of_mem_toDigits (by decide) (by decide) hc
  have hne : Nat.toDigits 10 digits ≠ [] := by simp
  rw [write]
  split
  · exact numeral_point hds hne l _
  · exact numeral_scientific hds hne l _

end Characters

end Layout

namespace Binary64

open Magnitude

variable {m : Nat} {q : Int}

theorem ofText_of_numeral {cs : List Char} (h : Layout.Numeral cs) :
    ofText? cs = (unsigned? cs).map fun x => ⟨false, x⟩ := by
  obtain ⟨c, ds, rfl, hc⟩ := h.first
  rw [ofText?, signed_digit hc]

/-- Whole numbers are read as the nearest double. -/
theorem ofText_toDigits {n : Nat} (hn : n < 2 ^ 64) :
    ofText? (Nat.toDigits 10 n) = some (ofNat n) := by
  have hdigits : ∀ c ∈ Nat.toDigits 10 n, c.isDigit = true :=
    fun c hc => Nat.isDigit_of_mem_toDigits (by decide) (by decide) hc
  have hread := unsigned_whole hdigits (by simp) [] (fun c hc => nomatch hc)
  have hdecimal : Magnitude.ofDecimal n 0 = Magnitude.nearest (Fraction.ofNat n) := by
    rcases Nat.eq_zero_or_pos n with rfl | hpos
    · rfl
    · have hvalue : (Fraction.ofScientific n 0).value < 10 ^ 200 := by
        have hcast : (n : ℚ) < 2 ^ 64 := by exact_mod_cast hn
        rw [Fraction.value_ofScientific, zpow_zero, mul_one]
        exact hcast.trans (by norm_num)
      have hfraction : Fraction.ofScientific n 0 = Fraction.ofNat n := by
        simp [Fraction.ofScientific, Fraction.mul, Fraction.ofNat, Fraction.power]
      rw [ofDecimal_eq hpos (by decide) hvalue, hfraction]
  rw [List.append_nil, exponentPart, Option.map_some, Text.decimal_toDigits, hdecimal] at hread
  rw [ofText_of_numeral (Layout.numeral_toDigits n), hread]
  rfl

theorem text_eq (l : Layout) (h : Normal m q) (hlow : -150 ≤ q) (hhigh : q ≤ 48) :
    ∃ d k, (text l ⟨false, .finite m q⟩).toList = l.write d k ∧ 0 < d ∧ -48 ≤ k ∧
      readsBack m q (Fraction.ofScientific d k) = true := by
  obtain ⟨d, k, hshortest, hd, hk, hback⟩ := shortest_readsBack l.tie h hlow hhigh
  obtain ⟨d', k', htrim, hd', hk', hvalue⟩ := trimZeros_value d k 20 hd
  refine ⟨d', k', ?_, hd', by omega, ?_⟩
  · have hm : m ≠ 0 := h.pos.ne'
    simp only [text, Bool.false_and, Bool.false_eq_true, ↓reduceIte, hm, hshortest, htrim,
      String.toList_ofList]
  · rwa [readsBack_congr h.pos (Fraction.den_ofScientific d' k') (Fraction.den_ofScientific d k)
      hvalue]

/-- The text of a double is read as this double. -/
theorem ofText_text (l : Layout) (h : Normal m q) (hlow : -150 ≤ q) (hhigh : q ≤ 48) :
    ofText? (text l ⟨false, .finite m q⟩).toList = some ⟨false, .finite m q⟩ := by
  obtain ⟨d, k, htext, hd, hk, hback⟩ := text_eq l h hlow hhigh
  obtain ⟨d', k', hread, hd', hk', hvalue⟩ := Layout.readsAs_write l k hd
  have hback' : readsBack m q (Fraction.ofScientific d' k') = true := by
    rwa [readsBack_congr h.pos (Fraction.den_ofScientific d' k') (Fraction.den_ofScientific d k)
      hvalue]
  rw [htext, ofText_of_numeral (Layout.numeral_write l d k), hread,
    ofDecimal_of_readsBack h hhigh hd' (by omega) hback']
  rfl

theorem numeral_text (l : Layout) (h : Normal m q) (hlow : -150 ≤ q) (hhigh : q ≤ 48) :
    Layout.Numeral (text l ⟨false, .finite m q⟩).toList := by
  obtain ⟨d, k, htext, -, -, -⟩ := text_eq l h hlow hhigh
  rw [htext]
  exact Layout.numeral_write l d k

end Binary64

end VaultRing
