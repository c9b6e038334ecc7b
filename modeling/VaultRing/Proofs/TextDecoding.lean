import VaultRing.Text.Decoded

namespace VaultRing.Text

variable {b : Begun} {n v : Nat} {rest : Bytes}

section Steps

theorem decodeFrom_begin (h : begun? n = some b) (hn : n < 256) (hhigh : 0x80 ≤ n) :
    decodeFrom none (UInt8.ofNat n :: rest) = decodeFrom (some b) rest := by
  have hbyte : (UInt8.ofNat n).toNat = n := by simp [Nat.mod_eq_of_lt hn]
  simp only [decodeFrom, hbyte, decodeFirst, h, Nat.not_lt.mpr hhigh, if_false, List.nil_append]

theorem decodeFrom_further (hdue : b.due ≠ 1) (hleast : b.least ≤ n) (hmost : n ≤ b.most)
    (hn : n < 256) :
    decodeFrom (some b) (UInt8.ofNat n :: rest) =
      decodeFrom (some ⟨b.due - 1, 0x80, 0xBF, b.number * 64 + n % 64⟩) rest := by
  have hbyte : (UInt8.ofNat n).toNat = n := by simp [Nat.mod_eq_of_lt hn]
  have hbounds : ¬ (n < b.least ∨ b.most < n) := by omega
  simp only [decodeFrom, hbyte, decodeNext, hbounds, hdue, if_false, List.nil_append]

theorem decodeFrom_last (hdue : b.due = 1) (hleast : b.least ≤ n) (hmost : n ≤ b.most)
    (hn : n < 256) :
    decodeFrom (some b) (UInt8.ofNat n :: rest) =
      Char.ofNat (b.number * 64 + n % 64) :: decodeFrom none rest := by
  have hbyte : (UInt8.ofNat n).toNat = n := by simp [Nat.mod_eq_of_lt hn]
  have hbounds : ¬ (n < b.least ∨ b.most < n) := by omega
  simp only [decodeFrom, hbyte, decodeNext, hbounds, hdue, if_false, if_true, List.cons_append,
    List.nil_append]

end Steps

section Beginnings

theorem begun?_two (hleast : 0x80 ≤ v) (hmost : v ≤ 0x7FF) :
    begun? (v / 64 + 192) = some ⟨1, 0x80, 0xBF, v / 64⟩ := by
  have hfirst : 0xC2 ≤ v / 64 + 192 ∧ v / 64 + 192 ≤ 0xDF := by omega
  have hnumber : (v / 64 + 192) % 32 = v / 64 := by omega
  rw [begun?, if_pos hfirst, hnumber]

theorem begun?_three (hleast : 0x800 ≤ v) (hmost : v ≤ 0xFFFF) (hvalid : v.isValidChar) :
    ∃ b, begun? (v / 4096 + 224) = some b ∧ b.due = 2 ∧ b.number = v / 4096 ∧
      b.least ≤ v / 64 % 64 + 128 ∧ v / 64 % 64 + 128 ≤ b.most := by
  unfold Nat.isValidChar at hvalid
  have htwo : ¬ (0xC2 ≤ v / 4096 + 224 ∧ v / 4096 + 224 ≤ 0xDF) := by omega
  rw [begun?, if_neg htwo]
  by_cases hlow : v / 4096 + 224 = 0xE0
  · exact ⟨_, if_pos hlow, rfl, by simp only; omega, by simp only; omega, by simp only; omega⟩
  rw [if_neg hlow]
  by_cases hgap : v / 4096 + 224 = 0xED
  · exact ⟨_, if_pos hgap, rfl, by simp only; omega, by simp only; omega, by simp only; omega⟩
  have hthree : 0xE1 ≤ v / 4096 + 224 ∧ v / 4096 + 224 ≤ 0xEF := by omega
  rw [if_neg hgap, if_pos hthree]
  exact ⟨_, rfl, rfl, by simp only; omega, by simp only; omega, by simp only; omega⟩

theorem begun?_four (hleast : 0x10000 ≤ v) (hvalid : v.isValidChar) :
    ∃ b, begun? (v / 262144 + 240) = some b ∧ b.due = 3 ∧ b.number = v / 262144 ∧
      b.least ≤ v / 4096 % 64 + 128 ∧ v / 4096 % 64 + 128 ≤ b.most := by
  unfold Nat.isValidChar at hvalid
  have hthree : ¬ (0xC2 ≤ v / 262144 + 240 ∧ v / 262144 + 240 ≤ 0xDF) ∧
      v / 262144 + 240 ≠ 0xE0 ∧ v / 262144 + 240 ≠ 0xED ∧
      ¬ (0xE1 ≤ v / 262144 + 240 ∧ v / 262144 + 240 ≤ 0xEF) := by omega
  obtain ⟨h₁, h₂, h₃, h₄⟩ := hthree
  rw [begun?, if_neg h₁, if_neg h₂, if_neg h₃, if_neg h₄]
  by_cases hlow : v / 262144 + 240 = 0xF0
  · exact ⟨_, if_pos hlow, rfl, by simp only; omega, by simp only; omega, by simp only; omega⟩
  rw [if_neg hlow]
  by_cases hhigh : v / 262144 + 240 = 0xF4
  · have hnot : ¬ (0xF1 ≤ v / 262144 + 240 ∧ v / 262144 + 240 ≤ 0xF3) := by omega
    rw [if_neg hnot]
    exact ⟨_, if_pos hhigh, rfl, by simp only; omega, by simp only; omega, by simp only; omega⟩
  · have hmiddle : 0xF1 ≤ v / 262144 + 240 ∧ v / 262144 + 240 ≤ 0xF3 := by omega
    rw [if_pos hmiddle]
    exact ⟨_, rfl, rfl, by simp only; omega, by simp only; omega, by simp only; omega⟩

end Beginnings

/-- One case for each number of bytes. -/
theorem decodeFrom_utf8EncodeChar (c : Char) (rest : Bytes) :
    decodeFrom none (String.utf8EncodeChar c ++ rest) = c :: decodeFrom none rest := by
  obtain ⟨v, hv⟩ : ∃ v, c.toNat = v := ⟨_, rfl⟩
  have hvalid : v.isValidChar := hv ▸ c.valid
  have hc : Char.ofNat v = c := hv ▸ Char.ofNat_toNat c
  have hval : c.val.toNat = v := hv
  rw [String.utf8EncodeChar.eq_1, hval]
  split
  · rename_i hone
    have hbyte : (UInt8.ofNat v).toNat = v := by simp; omega
    have hlow : v < 0x80 := by omega
    simp only [List.cons_append, List.nil_append, decodeFrom, hbyte, decodeFirst, hlow, if_true, hc]
  split
  · rename_i hone htwo
    have hlead : v / 64 % 32 = v / 64 := by omega
    have hnumber : v / 64 * 64 + (v % 64 + 128) % 64 = v := by omega
    rw [hlead, List.cons_append,
      decodeFrom_begin (begun?_two (by omega) htwo) (by omega) (by omega), List.cons_append,
      List.nil_append, decodeFrom_last rfl (by simp only; omega)
        (by simp only; omega) (by omega), hnumber, hc]
  split
  · rename_i hone htwo hthree
    obtain ⟨b, hb, hdue, hnum, hleast, hmost⟩ := begun?_three (by omega) hthree hvalid
    have hlead : v / 4096 % 16 = v / 4096 := by omega
    have hnumber : (b.number * 64 + (v / 64 % 64 + 128) % 64) * 64 + (v % 64 + 128) % 64 = v := by
      omega
    rw [hlead, List.cons_append, decodeFrom_begin hb (by omega) (by omega), List.cons_append,
      decodeFrom_further (by omega) hleast hmost (by omega), List.cons_append, List.nil_append,
      decodeFrom_last (by simp only; omega) (by simp only; omega) (by simp only; omega) (by omega),
      hnumber, hc]
  · rename_i hone htwo hthree
    obtain ⟨b, hb, hdue, hnum, hleast, hmost⟩ := begun?_four (by omega) hvalid
    have hlead : v / 262144 % 8 = v / 262144 := by unfold Nat.isValidChar at hvalid; omega
    have hnumber : ((b.number * 64 + (v / 4096 % 64 + 128) % 64) * 64 +
        (v / 64 % 64 + 128) % 64) * 64 + (v % 64 + 128) % 64 = v := by omega
    have hsmall : v / 262144 + 240 < 256 := by unfold Nat.isValidChar at hvalid; omega
    rw [hlead, List.cons_append, decodeFrom_begin hb hsmall (by omega), List.cons_append,
      decodeFrom_further (by omega) hleast hmost (by omega), List.cons_append,
      decodeFrom_further (by simp only; omega) (by simp only; omega) (by simp only; omega)
        (by omega),
      List.cons_append, List.nil_append,
      decodeFrom_last (by simp only; omega) (by simp only; omega) (by simp only; omega) (by omega),
      hnumber, hc]

theorem decode_textBytes (s : String) : decode (textBytes s) = s := by
  have h (cs : List Char) : decodeFrom none (cs.flatMap String.utf8EncodeChar) = cs := by
    induction cs with
    | nil => rfl
    | cons c cs ih => rw [List.flatMap_cons, decodeFrom_utf8EncodeChar, ih]
  rw [decode, textBytes, h, String.ofList_toList]

end VaultRing.Text
