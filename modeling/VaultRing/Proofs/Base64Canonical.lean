import Mathlib.Data.List.Basic
import VaultRing.Proofs.Base64RoundTrip
import VaultRing.Proofs.PercentText

namespace VaultRing.Base64

theorem values_checked :
    ∀ n < 256, ∀ m ∈ value? (UInt8.ofNat n), m < 64 ∧ UInt8.ofNat n = code m := by
  decide +kernel

theorem eq_code_of_value? {b : UInt8} {n : Nat} (h : value? b = some n) : n < 64 ∧ b = code n := by
  have hchecked := values_checked b.toNat b.toNat_lt n
  rw [UInt8.ofNat_toNat] at hchecked
  exact hchecked h

section Groups

variable {p q r s : Nat}

theorem toNat_ofNat {n : Nat} (h : n < 256) : (UInt8.ofNat n).toNat = n := by
  rw [UInt8.toNat_ofNat']
  exact Nat.mod_eq_of_lt h

theorem codes_triple (hp : p < 64) (hq : q < 64) (hr : r < 64) (hs : s < 64) (rest : Bytes) :
    codes (triple p q r s ++ rest) = code p :: code q :: code r :: code s :: codes rest := by
  have hfirst : (p * 4 + q / 16) / 4 = p := by omega
  have hsecond : (p * 4 + q / 16) % 4 * 16 + (q % 16 * 16 + r / 4) / 16 = q := by omega
  have hthird : (q % 16 * 16 + r / 4) % 16 * 4 + (r % 4 * 64 + s) / 64 = r := by omega
  have hfourth : (r % 4 * 64 + s) % 64 = s := by omega
  rw [triple, List.cons_append, List.cons_append, List.cons_append, List.nil_append, codes_three,
    toNat_ofNat (by omega), toNat_ofNat (by omega), toNat_ofNat (by omega), hfirst, hsecond,
    hthird, hfourth]

theorem codes_of_two (hp : p < 64) (hq : q < 64) (hz : q % 16 = 0) :
    codes [UInt8.ofNat (p * 4 + q / 16)] = [code p, code q, pad, pad] := by
  have hfirst : (p * 4 + q / 16) / 4 = p := by omega
  have hsecond : (p * 4 + q / 16) % 4 * 16 = q := by omega
  rw [codes_one, toNat_ofNat (by omega), hfirst, hsecond]

theorem codes_of_three (hp : p < 64) (hq : q < 64) (hr : r < 64) (hz : r % 4 = 0) :
    codes [UInt8.ofNat (p * 4 + q / 16), UInt8.ofNat (q % 16 * 16 + r / 4)] =
      [code p, code q, code r, pad] := by
  have hfirst : (p * 4 + q / 16) / 4 = p := by omega
  have hsecond : (p * 4 + q / 16) % 4 * 16 + (q % 16 * 16 + r / 4) / 16 = q := by omega
  have hthird : (q % 16 * 16 + r / 4) % 16 * 4 = r := by omega
  rw [codes_two, toNat_ofNat (by omega), toNat_ofNat (by omega), hfirst, hsecond, hthird]

end Groups

section Reading

variable {offset : Nat} {text data : Bytes}

theorem eq_of_values {ns : List Nat} (h : values offset text = .ok ns) :
    (∀ n ∈ ns, n < 64) ∧ text = ns.map code := by
  induction text generalizing offset ns with
  | nil =>
    obtain rfl := Except.ok.inj h
    exact ⟨by simp, rfl⟩
  | cons b rest ih =>
    unfold values at h
    split at h
    · rename_i n hn
      obtain ⟨hlt, rfl⟩ := eq_code_of_value? hn
      cases hrest : values (offset + 1) rest with
      | error fault =>
        rw [hrest] at h
        cases h
      | ok others =>
        rw [hrest] at h
        obtain rfl := Except.ok.inj h
        obtain ⟨hall, rfl⟩ := ih hrest
        exact ⟨List.forall_mem_cons.mpr ⟨hlt, hall⟩, rfl⟩
    · cases h

/-- A group is made of symbols and, behind them, of padding. -/
theorem eq_of_lastGroup {place padding : Nat} {group : Bytes} {ns : List Nat}
    (h : lastGroup offset place group = .ok (ns, padding)) :
    (∀ n ∈ ns, n < 64) ∧ group = ns.map code ++ List.replicate padding pad := by
  induction group generalizing place ns with
  | nil =>
    obtain ⟨rfl, rfl⟩ := Prod.mk.inj (Except.ok.inj h)
    exact ⟨by simp, rfl⟩
  | cons b rest ih =>
    unfold lastGroup at h
    split at h
    · rename_i hb
      split at h
      · cases h
      · rename_i hrest
        obtain ⟨rfl, rfl⟩ := Prod.mk.inj (Except.ok.inj h)
        have hpads : ∀ c ∈ rest, c = pad := by
          rw [not_or] at hrest
          simpa using hrest.2
        refine ⟨by simp, ?_⟩
        rw [hb, List.replicate_succ, ← List.eq_replicate_of_mem hpads]
        rfl
    · split at h
      · cases h
      · rename_i n hn
        obtain ⟨hlt, rfl⟩ := eq_code_of_value? hn
        cases hgroup : lastGroup offset (place + 1) rest with
        | error fault =>
          rw [hgroup] at h
          cases h
        | ok found =>
          obtain ⟨others, padding'⟩ := found
          rw [hgroup] at h
          obtain ⟨rfl, rfl⟩ := Prod.mk.inj (Except.ok.inj h)
          obtain ⟨hall, rfl⟩ := ih hgroup
          exact ⟨List.forall_mem_cons.mpr ⟨hlt, hall⟩, rfl⟩

theorem eq_codes_of_decodeLast {group : Bytes} (hlength : group.length ≤ 4)
    (h : decodeLast offset group = .ok data) : group = codes data := by
  unfold decodeLast at h
  cases hgroup : lastGroup offset 0 group with
  | error fault =>
    rw [hgroup] at h
    cases h
  | ok found =>
    obtain ⟨ns, padding⟩ := found
    obtain ⟨hall, hsplit⟩ := eq_of_lastGroup hgroup
    rw [hgroup] at h
    simp only [Except.bind] at h
    have hcount : group.length = ns.length + padding := by
      rw [hsplit, List.length_append, List.length_map, List.length_replicate]
    split at h
    · rename_i hempty
      obtain rfl := Except.ok.inj h
      exact List.isEmpty_iff.mp hempty
    rename_i hne
    have hpos : 0 < group.length := List.length_pos_iff.mpr (by simpa using hne)
    split at h
    · cases h
    split at h
    · cases h
    rename_i hmany hfour
    have hwhole : ns.length + padding = 4 := by omega
    split at h
    · rename_i p q
      obtain rfl : padding = 2 := Nat.add_left_cancel (n := 2) hwhole
      obtain ⟨hp, hq, -⟩ : p < 64 ∧ q < 64 ∧ True := by simpa using hall
      split at h
      · rename_i hz
        obtain rfl := Except.ok.inj h
        rw [codes_of_two hp hq hz, hsplit]
        rfl
      · cases h
    · rename_i p q r
      obtain rfl : padding = 1 := Nat.add_left_cancel (n := 3) hwhole
      obtain ⟨hp, hq, hr⟩ : p < 64 ∧ q < 64 ∧ r < 64 := by simpa using hall
      split at h
      · rename_i hz
        obtain rfl := Except.ok.inj h
        rw [codes_of_three hp hq hr hz, hsplit]
        rfl
      · cases h
    · rename_i p q r s
      obtain rfl : padding = 0 := Nat.add_left_cancel (n := 4) hwhole
      obtain ⟨hp, hq, hr, hs⟩ : p < 64 ∧ q < 64 ∧ r < 64 ∧ s < 64 := by simpa using hall
      obtain rfl := Except.ok.inj h
      rw [← List.append_nil (triple p q r s), codes_triple hp hq hr hs, hsplit]
      rfl
    · rename_i htwo hthree hfour'
      rcases ns with _ | ⟨p, _ | ⟨q, _ | ⟨r, _ | ⟨s, _ | ⟨t, ns⟩⟩⟩⟩⟩
      · simp at hmany
      · simp at hmany
      · exact absurd rfl (htwo p q)
      · exact absurd rfl (hthree p q r)
      · exact absurd rfl (hfour' p q r s)
      · simp at hwhole
        omega

/-- By induction on the groups before the last. -/
theorem eq_codes_of_decodeFrom (h : decodeFrom offset text = .ok data) : text = codes data := by
  induction offset, text using decodeFrom.induct generalizing data with
  | case1 offset a b c d e rest ih =>
    unfold decodeFrom at h
    cases hvalues : values offset [a, b, c, d] with
    | error fault =>
      rw [hvalues] at h
      cases h
    | ok ns =>
      obtain ⟨hall, hsymbols⟩ := eq_of_values hvalues
      have hcount : ns.length = 4 := by
        rw [← List.length_map (f := code), ← hsymbols]
        rfl
      obtain ⟨p, q, r, s, rfl⟩ := List.length_eq_four.mp hcount
      obtain ⟨hp, hq, hr, hs⟩ : p < 64 ∧ q < 64 ∧ r < 64 ∧ s < 64 := by simpa using hall
      rw [hvalues] at h
      simp only [Except.bind] at h
      cases hrest : decodeFrom (offset + 4) (e :: rest) with
      | error fault =>
        rw [hrest] at h
        cases h
      | ok others =>
        rw [hrest] at h
        obtain rfl := Except.ok.inj h
        rw [codes_triple hp hq hr hs, ← ih hrest]
        exact congrArg (· ++ e :: rest) hsymbols
  | case2 offset group hgroup =>
    rw [decodeFrom.eq_2 offset group hgroup] at h
    refine eq_codes_of_decodeLast ?_ h
    rcases group with _ | ⟨a, _ | ⟨b, _ | ⟨c, _ | ⟨d, _ | ⟨e, rest⟩⟩⟩⟩⟩
    · simp
    · simp
    · simp
    · simp
    · simp
    · exact absurd rfl (hgroup a b c d e rest)

theorem eq_codes_of_decode (h : decode text = .ok data) : text = codes data := by
  unfold decode at h
  split at h
  · split at h
    · cases h
    · exact eq_codes_of_decodeFrom h
  · rename_i hnone
    obtain rfl := Except.ok.inj h
    exact List.getLast?_eq_none_iff.mp hnone

/-- Some data is read from one text alone. -/
theorem decode_eq_ok_iff (s : String) (data : Bytes) :
    decode (textBytes s) = .ok data ↔ s = String.ofList (encode data) := by
  constructor
  · intro h
    apply textBytes_injective
    rw [eq_codes_of_decode h, textBytes, String.toList_ofList]
    rfl
  · rintro rfl
    exact decode_encode data

end Reading

end VaultRing.Base64
