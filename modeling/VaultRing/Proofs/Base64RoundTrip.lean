import VaultRing.Base64

namespace VaultRing.Base64

def code (n : Nat) : UInt8 := UInt8.ofNat (symbol n).toNat

section Symbols

variable {n : Nat}

theorem symbols_checked :
    ∀ n < 64, String.utf8EncodeChar (symbol n) = [code n] ∧ value? (code n) = some n ∧
      code n ≠ pad := by
  decide

theorem utf8_symbol (h : n < 64) : String.utf8EncodeChar (symbol n) = [code n] :=
  (symbols_checked n h).1

theorem value?_code (h : n < 64) : value? (code n) = some n := (symbols_checked n h).2.1

theorem code_ne_pad (h : n < 64) : code n ≠ pad := (symbols_checked n h).2.2

theorem utf8_padding : String.utf8EncodeChar '=' = [pad] := by decide

end Symbols

def codes (data : Bytes) : Bytes := (encode data).flatMap String.utf8EncodeChar

section Groups

variable (a b c : UInt8)

theorem first_lt : a.toNat / 4 < 64 := by
  have := a.toNat_lt
  omega

theorem second_lt : a.toNat % 4 * 16 + b.toNat / 16 < 64 := by
  have := b.toNat_lt
  omega

theorem third_lt : b.toNat % 16 * 4 + c.toNat / 64 < 64 := by
  have := c.toNat_lt
  omega

theorem codes_one :
    codes [a] = [code (a.toNat / 4), code (a.toNat % 4 * 16), pad, pad] := by
  have h₂ : a.toNat % 4 * 16 < 64 := by omega
  simp only [codes, encode, List.flatMap_cons, List.flatMap_nil, utf8_symbol (first_lt a),
    utf8_symbol h₂, utf8_padding, List.cons_append, List.nil_append]

theorem codes_two :
    codes [a, b] =
      [code (a.toNat / 4), code (a.toNat % 4 * 16 + b.toNat / 16), code (b.toNat % 16 * 4),
        pad] := by
  have h₃ : b.toNat % 16 * 4 < 64 := by omega
  simp only [codes, encode, List.flatMap_cons, List.flatMap_nil, utf8_symbol (first_lt a),
    utf8_symbol (second_lt a b), utf8_symbol h₃, utf8_padding, List.cons_append, List.nil_append]

theorem codes_three (rest : Bytes) :
    codes (a :: b :: c :: rest) =
      code (a.toNat / 4) :: code (a.toNat % 4 * 16 + b.toNat / 16) ::
        code (b.toNat % 16 * 4 + c.toNat / 64) :: code (c.toNat % 64) :: codes rest := by
  have h₄ : c.toNat % 64 < 64 := by omega
  simp only [codes, encode, List.flatMap_cons, utf8_symbol (first_lt a),
    utf8_symbol (second_lt a b), utf8_symbol (third_lt b c), utf8_symbol h₄, List.cons_append,
    List.nil_append]

end Groups

theorem length_codes_mod (data : Bytes) : (codes data).length % 4 = 0 := by
  induction data using encode.induct with
  | case1 => rfl
  | case2 a => simp [codes_one]
  | case3 a b => simp [codes_two]
  | case4 a b c rest ih =>
    rw [codes_three]
    simp only [List.length_cons]
    omega

section Bytes

variable (a b c : UInt8)

theorem byte_first :
    UInt8.ofNat (a.toNat / 4 * 4 + (a.toNat % 4 * 16 + b.toNat / 16) / 16) = a := by
  have hb := b.toNat_lt
  have h : a.toNat / 4 * 4 + (a.toNat % 4 * 16 + b.toNat / 16) / 16 = a.toNat := by omega
  rw [h, UInt8.ofNat_toNat]

theorem byte_second :
    UInt8.ofNat ((a.toNat % 4 * 16 + b.toNat / 16) % 16 * 16 +
      (b.toNat % 16 * 4 + c.toNat / 64) / 4) = b := by
  have hb := b.toNat_lt
  have hc := c.toNat_lt
  have h : (a.toNat % 4 * 16 + b.toNat / 16) % 16 * 16 +
      (b.toNat % 16 * 4 + c.toNat / 64) / 4 = b.toNat := by omega
  rw [h, UInt8.ofNat_toNat]

theorem byte_third :
    UInt8.ofNat ((b.toNat % 16 * 4 + c.toNat / 64) % 4 * 64 + c.toNat % 64) = c := by
  have hc := c.toNat_lt
  have h : (b.toNat % 16 * 4 + c.toNat / 64) % 4 * 64 + c.toNat % 64 = c.toNat := by omega
  rw [h, UInt8.ofNat_toNat]

theorem triple_eq :
    triple (a.toNat / 4) (a.toNat % 4 * 16 + b.toNat / 16) (b.toNat % 16 * 4 + c.toNat / 64)
      (c.toNat % 64) = [a, b, c] := by
  rw [triple, byte_first, byte_second, byte_third]

end Bytes

section Decoding

variable {offset p q r s : Nat}

theorem lastGroup_code {n place : Nat} (h : n < 64) (rest : Bytes) :
    lastGroup offset place (code n :: rest) =
      (lastGroup offset (place + 1) rest).map fun (ns, padding) => (n :: ns, padding) := by
  rw [lastGroup, if_neg (code_ne_pad h), value?_code h]

theorem values_code {n : Nat} (h : n < 64) (rest : Bytes) :
    values offset (code n :: rest) = (values (offset + 1) rest).map (n :: ·) := by
  rw [values, value?_code h]

theorem decodeLast_two (hp : p < 64) (hq : q < 64) (hz : q % 16 = 0) :
    decodeLast offset [code p, code q, pad, pad] = .ok [UInt8.ofNat (p * 4 + q / 16)] := by
  have hpads : lastGroup offset 2 [pad, pad] = .ok ([], 2) := by
    simp [lastGroup]
  simp [decodeLast, lastGroup_code hp, lastGroup_code hq, hpads, Except.map, Except.bind, hz]

theorem decodeLast_three (hp : p < 64) (hq : q < 64) (hr : r < 64) (hz : r % 4 = 0) :
    decodeLast offset [code p, code q, code r, pad] =
      .ok [UInt8.ofNat (p * 4 + q / 16), UInt8.ofNat (q % 16 * 16 + r / 4)] := by
  have hpads : lastGroup offset 3 [pad] = .ok ([], 1) := by
    simp [lastGroup]
  simp [decodeLast, lastGroup_code hp, lastGroup_code hq, lastGroup_code hr, hpads, Except.map,
    Except.bind, hz]

/-- Four symbols give three bytes, wherever they stand. -/
theorem decodeFrom_group (hp : p < 64) (hq : q < 64) (hr : r < 64) (hs : s < 64) (rest : Bytes) :
    decodeFrom offset (code p :: code q :: code r :: code s :: rest) =
      (decodeFrom (offset + 4) rest).map (triple p q r s ++ ·) := by
  cases rest with
  | nil =>
    have hend : lastGroup offset 4 [] = .ok ([], 0) := rfl
    have hnil : decodeFrom (offset + 4) [] = .ok [] := rfl
    rw [hnil]
    simp [decodeFrom, decodeLast, lastGroup_code hp, lastGroup_code hq, lastGroup_code hr,
      lastGroup_code hs, hend, Except.map, Except.bind]
  | cons e rest =>
    have hvalues : values offset [code p, code q, code r, code s] = .ok [p, q, r, s] := by
      rw [values_code hp, values_code hq, values_code hr, values_code hs]
      rfl
    rw [decodeFrom, hvalues]
    rfl

theorem decodeFrom_codes (data : Bytes) : decodeFrom offset (codes data) = .ok data := by
  induction data using encode.induct generalizing offset with
  | case1 => rfl
  | case2 a =>
    have hq : a.toNat % 4 * 16 < 64 := by omega
    have hz : a.toNat % 4 * 16 % 16 = 0 := by omega
    have hbyte : UInt8.ofNat (a.toNat / 4 * 4 + a.toNat % 4 * 16 / 16) = a := byte_first a 0
    rw [codes_one]
    refine (decodeLast_two (first_lt a) hq hz).trans ?_
    rw [hbyte]
  | case3 a b =>
    have hr : b.toNat % 16 * 4 < 64 := by omega
    have hz : b.toNat % 16 * 4 % 4 = 0 := by omega
    have hbyte : UInt8.ofNat ((a.toNat % 4 * 16 + b.toNat / 16) % 16 * 16 + b.toNat % 16 * 4 / 4) =
        b := byte_second a b 0
    rw [codes_two]
    refine (decodeLast_three (first_lt a) (second_lt a b) hr hz).trans ?_
    rw [byte_first, hbyte]
  | case4 a b c rest ih =>
    have hs : c.toNat % 64 < 64 := by omega
    rw [codes_three, decodeFrom_group (first_lt a) (second_lt a b) (third_lt b c) hs, ih, triple_eq]
    rfl

end Decoding

theorem decode_codes (data : Bytes) : decode (codes data) = .ok data := by
  unfold decode
  split
  · rw [if_neg, decodeFrom_codes]
    rw [length_codes_mod]
    exact fun h => absurd h.1 (by decide)
  · rename_i h
    rw [List.getLast?_eq_none_iff] at h
    have hdata := @decodeFrom_codes 0 data
    rw [h] at hdata
    exact hdata

theorem decode_encode (data : Bytes) :
    decode (textBytes (String.ofList (encode data))) = .ok data := by
  rw [textBytes, String.toList_ofList]
  exact decode_codes data

end VaultRing.Base64
