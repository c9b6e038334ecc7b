import VaultRing.Proofs.PercentText
import VaultRing.Proofs.TextDecoding
import VaultRing.Url.Form

namespace VaultRing.Url.Form

def spaced (c : Char) : Char := if c = '+' then ' ' else c

def unescaped (cs : List Char) : String := Text.decode (percentDecode (cs.map spaced))

def field (part : List Char) : String × String :=
  (unescaped (part.takeWhile (· ≠ '=')), unescaped ((part.dropWhile (· ≠ '=')).drop 1))

/-- Ampersands part the fields; where there is nothing between two, there is no field. -/
def fields (query : List Char) : List (String × String) :=
  ((query.splitOn '&').filter (!·.isEmpty)).map field

section Bytes

variable {b : UInt8} {mark : Char}

theorem hexDigit_ne (hmark : mark.isAlphanum = false) : ∀ n < 16, hexDigit n ≠ mark := by
  have hdigits : ∀ n < 16, (hexDigit n).isAlphanum = true := by decide
  intro n hn h
  have hdigit := hdigits n hn
  rw [h, hmark] at hdigit
  cases hdigit

theorem notMem_escapedByte (b : UInt8) (hmark : mark.isAlphanum = false) (hpercent : mark ≠ '%') :
    mark ∉ escapedByte b := by
  obtain ⟨hhigh, hlow⟩ := digits_lt b
  simp [escapedByte, hpercent, (hexDigit_ne hmark _ hhigh).symm, (hexDigit_ne hmark _ hlow).symm]

theorem spaced_of_ne {c : Char} (h : c ≠ '+') : spaced c = c := if_neg h

theorem map_spaced {cs : List Char} (h : '+' ∉ cs) : cs.map spaced = cs := by
  have hkept : ∀ c ∈ cs, spaced c = id c := by
    intro c hc
    apply spaced_of_ne
    rintro rfl
    exact h hc
  rw [List.map_congr_left hkept, List.map_id]

theorem plain_lt (h : isPlain b = true) : b.toNat < 128 := by
  simpa using (Bool.and_eq_true_iff.mp h).1

/-- A byte that stands for itself is none of the marks that an encoded text has a meaning for. -/
theorem plain_ne (h : isPlain b = true) (hmark : isPlain (UInt8.ofNat mark.toNat) = false) :
    Char.ofNat b.toNat ≠ mark := by
  rintro rfl
  have hb := plain_lt h
  have hvalid : b.toNat.isValidChar := .inl (by omega)
  have hbyte : (Char.ofNat b.toNat).toNat = b.toNat := by
    rw [Char.ofNat, dif_pos hvalid]
    rfl
  rw [hbyte, UInt8.ofNat_toNat, h] at hmark
  cases hmark

theorem utf8_plain (h : isPlain b = true) : String.utf8EncodeChar (Char.ofNat b.toNat) = [b] := by
  have hb := plain_lt h
  have hvalid : b.toNat.isValidChar := .inl (by omega)
  have hval : (Char.ofNat b.toNat).val.toNat = b.toNat := by
    rw [Char.ofNat, dif_pos hvalid]
    rfl
  rw [String.utf8EncodeChar.eq_1, hval, if_pos (by omega), UInt8.ofNat_toNat]

theorem percentDecode_encodeByte (b : UInt8) (rest : List Char) :
    percentDecode ((encodeByte b).map spaced ++ rest) = b :: percentDecode rest := by
  unfold encodeByte
  split
  · rename_i hblank
    subst hblank
    exact percentDecode_plain (by decide) rest
  split
  · rename_i _ hplain
    have hplus : Char.ofNat b.toNat ≠ '+' := plain_ne hplain (by decide)
    have hpercent : Char.ofNat b.toNat ≠ '%' := plain_ne hplain (by decide)
    rw [List.map_singleton, spaced_of_ne hplus, List.singleton_append,
      percentDecode_plain hpercent, utf8_plain hplain, List.singleton_append]
  · have hplus : '+' ∉ escapedByte b := notMem_escapedByte b (by decide) (by decide)
    rw [map_spaced hplus, percentDecode_escapedByte]

theorem notMem_encodeByte (b : UInt8) (halnum : mark.isAlphanum = false) (hpercent : mark ≠ '%')
    (hplus : mark ≠ '+') (hmark : isPlain (UInt8.ofNat mark.toNat) = false) :
    mark ∉ encodeByte b := by
  unfold encodeByte
  split
  · simpa using hplus
  split
  · rename_i _ hplain
    simpa using (plain_ne hplain hmark).symm
  · exact notMem_escapedByte b halnum hpercent

end Bytes

theorem percentDecode_encodeBytes (bs : Bytes) :
    percentDecode ((bs.flatMap encodeByte).map spaced) = bs := by
  induction bs with
  | nil => rfl
  | cons b bs ih => rw [List.flatMap_cons, List.map_append, percentDecode_encodeByte, ih]

theorem unescaped_encode (s : String) : unescaped (encode s) = s := by
  rw [unescaped, encode, percentDecode_encodeBytes, Text.decode_textBytes]

theorem notMem_encode (s : String) : '&' ∉ encode s ∧ '=' ∉ encode s := by
  constructor
  · rw [encode, List.mem_flatMap]
    rintro ⟨b, -, hb⟩
    exact notMem_encodeByte b (by decide) (by decide) (by decide) (by decide) hb
  · rw [encode, List.mem_flatMap]
    rintro ⟨b, -, hb⟩
    exact notMem_encodeByte b (by decide) (by decide) (by decide) (by decide) hb

theorem field_pair (name value : String) : field (pair name value) = (name, value) := by
  have hname : ∀ c ∈ encode name, decide (c ≠ '=') = true := by
    intro c hc
    apply decide_eq_true
    rintro rfl
    exact (notMem_encode name).2 hc
  rw [field, pair, List.takeWhile_append_of_pos hname, List.dropWhile_append_of_pos hname]
  simp [unescaped_encode]

theorem fields_pair (name value : String) : fields (pair name value) = [(name, value)] := by
  have hparts : '&' ∉ pair name value := by
    simp [pair, (notMem_encode name).1, (notMem_encode value).1]
  have hsingle : (pair name value).splitOn '&' = [pair name value] :=
    List.splitOn_eq_singleton hparts
  have hne : [pair name value].filter (!·.isEmpty) = [pair name value] := by simp [pair]
  rw [fields, hsingle, hne, List.map_singleton, field_pair]

end VaultRing.Url.Form
