import VaultRing.Url.Path

namespace VaultRing

theorem textBytes_injective {s t : String} (h : textBytes s = textBytes t) : s = t := by
  have hbytes : s.toList.utf8Encode = t.toList.utf8Encode := congrArg List.toByteArray h
  rw [String.utf8Encode_toList, String.utf8Encode_toList] at hbytes
  exact String.toByteArray_inj.mp hbytes

namespace Url

variable {c : Char} {cs rest : List Char} {part : Part}

section Digits

theorem hexValue?_hexDigit : ∀ n < 16, Text.hexValue? (hexDigit n) = some n := by decide

theorem digits_lt (b : UInt8) : b.toNat / 16 < 16 ∧ b.toNat % 16 < 16 := by
  have hb : b.toNat < 256 := b.toNat_lt
  omega

theorem slash_notMem_escapedByte (b : UInt8) : '/' ∉ escapedByte b := by
  have hdigits : ∀ n < 16, hexDigit n ≠ '/' := by decide
  obtain ⟨hhigh, hlow⟩ := digits_lt b
  simp [escapedByte, (hdigits _ hhigh).symm, (hdigits _ hlow).symm]

theorem percentDecode_escapedByte (b : UInt8) (rest : List Char) :
    percentDecode (escapedByte b ++ rest) = b :: percentDecode rest := by
  obtain ⟨hhigh, hlow⟩ := digits_lt b
  have hbyte : b.toNat / 16 * 16 + b.toNat % 16 = b.toNat := by omega
  simp only [escapedByte, List.cons_append, List.nil_append, percentDecode,
    hexValue?_hexDigit _ hhigh, hexValue?_hexDigit _ hlow, hbyte, UInt8.ofNat_toNat]

theorem percentDecode_escapedBytes (bs : Bytes) (rest : List Char) :
    percentDecode (bs.flatMap escapedByte ++ rest) = bs ++ percentDecode rest := by
  induction bs with
  | nil => rfl
  | cons b bs ih =>
    rw [List.flatMap_cons, List.append_assoc, percentDecode_escapedByte, ih, List.cons_append]

theorem percentDecode_plain (h : c ≠ '%') (rest : List Char) :
    percentDecode (c :: rest) = String.utf8EncodeChar c ++ percentDecode rest := by
  rw [percentDecode]
  rintro a b tail rfl -
  exact h rfl

end Digits

section Encoding

theorem percentDecode_encodeChar (c : Char) (rest : List Char) :
    percentDecode (Part.segment.encodeChar c ++ rest) =
      String.utf8EncodeChar c ++ percentDecode rest := by
  unfold Part.encodeChar
  split
  · exact percentDecode_escapedBytes _ rest
  · rename_i h
    refine percentDecode_plain ?_ rest
    rintro rfl
    exact h rfl

theorem percentDecode_encode (cs : List Char) :
    percentDecode (Part.segment.encode cs) = cs.flatMap String.utf8EncodeChar := by
  induction cs with
  | nil => rfl
  | cons c cs ih =>
    have h := percentDecode_encodeChar c (Part.segment.encode cs)
    rw [ih] at h
    exact h

theorem slash_notMem_encode (h : '/' ∈ cs → part.escapes '/' = true) : '/' ∉ part.encode cs := by
  unfold Part.encode
  rw [List.mem_flatMap]
  rintro ⟨c, hc, hmem⟩
  unfold Part.encodeChar at hmem
  split at hmem
  · obtain ⟨b, -, hb⟩ := List.mem_flatMap.mp hmem
    exact slash_notMem_escapedByte b hb
  · rename_i hplain
    obtain rfl := List.mem_singleton.mp hmem
    exact hplain (h hc)

theorem flatMap_utf8EncodeChar_injective {ds : List Char}
    (h : cs.flatMap String.utf8EncodeChar = ds.flatMap String.utf8EncodeChar) : cs = ds := by
  have hs : textBytes (String.ofList cs) = textBytes (String.ofList ds) := by
    rwa [textBytes, textBytes, String.toList_ofList, String.toList_ofList]
  exact String.ofList_injective (textBytes_injective hs)

theorem eq_of_percentDecode_encode {ds : List Char}
    (h : percentDecode (Part.segment.encode cs) = ds.flatMap String.utf8EncodeChar) : cs = ds := by
  rw [percentDecode_encode] at h
  exact flatMap_utf8EncodeChar_injective h

theorem percentDecode_eq_nil_iff {s : List Char} : percentDecode s = [] ↔ s = [] := by
  refine ⟨fun h => ?_, fun h => h ▸ rfl⟩
  fun_cases percentDecode s with
  | case1 a b rest m n hb ha => simp [percentDecode, ha, hb] at h
  | case2 a b rest hab => simp_all [percentDecode]
  | case3 c rest hc => simp_all [percentDecode, String.utf8EncodeChar_ne_nil]
  | case4 => rfl

end Encoding

section Dots

variable {s : Segment}

theorem percentDecode_dot (h : isDot s = true) (rest : List Char) :
    percentDecode (s ++ rest) = String.utf8EncodeChar '.' ++ percentDecode rest := by
  simp only [isDot, Bool.or_eq_true, beq_iff_eq] at h
  rcases h with (rfl | rfl) | rfl
  · exact percentDecode_plain (by decide) rest
  · rfl
  · rfl

theorem exists_dots_of_isTwoDots (h : isTwoDots s = true) :
    ∃ a b, s = a ++ b ∧ isDot a = true ∧ isDot b = true := by
  simp only [isTwoDots, Bool.or_eq_true, Bool.and_eq_true, beq_iff_eq] at h
  rcases h with ⟨hfirst, hsecond⟩ | ⟨hfirst, hsecond⟩
  · exact ⟨s.take 1, s.drop 1, (List.take_append_drop 1 s).symm, by rw [hfirst]; rfl, hsecond⟩
  · exact ⟨s.take 3, s.drop 3, (List.take_append_drop 3 s).symm, hfirst, hsecond⟩

theorem isDot_encode_iff : isDot (Part.segment.encode cs) = true ↔ cs = ['.'] := by
  refine ⟨fun h => eq_of_percentDecode_encode ?_, fun h => h ▸ rfl⟩
  have hdecode := percentDecode_dot h []
  rwa [List.append_nil] at hdecode

theorem isTwoDots_encode_iff : isTwoDots (Part.segment.encode cs) = true ↔ cs = ['.', '.'] := by
  refine ⟨fun h => eq_of_percentDecode_encode ?_, fun h => h ▸ rfl⟩
  obtain ⟨a, b, hs, ha, hb⟩ := exists_dots_of_isTwoDots h
  have hsecond := percentDecode_dot hb []
  rw [List.append_nil] at hsecond
  rw [hs, percentDecode_dot ha, hsecond]
  rfl

end Dots

end Url

end VaultRing
