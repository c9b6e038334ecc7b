import VaultRing.Payload

namespace VaultRing

section Narrow

structure Narrow (c : Char) : Prop where
  size : c.utf8Size = 1
  plain : Json.Text.escapeChar c = [c]

theorem Base64.narrow_symbol {n : Nat} (h : n < 64) : Narrow (symbol n) := by
  have hchecked : ∀ n < 64, (symbol n).utf8Size = 1 ∧
      Json.Text.escapeChar (symbol n) = [symbol n] := by
    decide
  exact ⟨(hchecked n h).1, (hchecked n h).2⟩

theorem Base64.narrow_padding : Narrow '=' := ⟨rfl, rfl⟩

theorem Base64.narrow_encode (data : Bytes) : ∀ c ∈ encode data, Narrow c := by
  have hbyte (b : UInt8) : b.toNat < 256 := b.toNat_lt
  induction data using encode.induct with
  | case1 => simp [encode]
  | case2 a =>
    have ha := hbyte a
    simp only [encode, List.forall_mem_cons]
    exact ⟨narrow_symbol (by omega), narrow_symbol (by omega), narrow_padding, narrow_padding,
      by simp⟩
  | case3 a b =>
    have ha := hbyte a
    have hb := hbyte b
    simp only [encode, List.forall_mem_cons]
    exact ⟨narrow_symbol (by omega), narrow_symbol (by omega), narrow_symbol (by omega),
      narrow_padding, by simp⟩
  | case4 a b c rest ih =>
    have ha := hbyte a
    have hb := hbyte b
    have hc := hbyte c
    simp only [encode, List.forall_mem_cons]
    exact ⟨narrow_symbol (by omega), narrow_symbol (by omega), narrow_symbol (by omega),
      narrow_symbol (by omega), ih⟩

theorem Base64.length_encode (data : Bytes) :
    (encode data).length = 4 * ((data.length + 2) / 3) := by
  induction data using encode.induct with
  | case1 | case2 a | case3 a b => simp [encode]
  | case4 a b c rest ih =>
    simp only [encode, List.length_cons, ih]
    omega

theorem size_of_narrow {cs : List Char} (h : ∀ c ∈ cs, Narrow c) :
    (String.ofList cs).utf8ByteSize = cs.length := by
  induction cs with
  | nil => rfl
  | cons c cs ih =>
    obtain ⟨hc, hcs⟩ := List.forall_mem_cons.mp h
    rw [String.ofList_cons, String.utf8ByteSize_append, String.utf8ByteSize_singleton, hc.size,
      ih hcs, List.length_cons]
    omega

theorem write_of_narrow {cs : List Char} (h : ∀ c ∈ cs, Narrow c) :
    Json.Text.write (String.ofList cs) = '"' :: cs ++ ['"'] := by
  have hplain : cs.flatMap Json.Text.escapeChar = cs := by
    induction cs with
    | nil => rfl
    | cons c cs ih =>
      obtain ⟨hc, hcs⟩ := List.forall_mem_cons.mp h
      rw [List.flatMap_cons, hc.plain, ih hcs, List.singleton_append]
  rw [Json.Text.write, String.toList_ofList, hplain]

end Narrow

namespace Payload

theorem write_eq (item : Item) :
    write item = String.ofList ("\x7b\"Key\":".toList ++ (Json.Text.write item.key ++
      (",\"Data\":\"".toList ++ (Base64.encode item.data ++ "\"\x7d".toList)))) := by
  unfold write Json.Value.text
  simp only [Json.Value.write, Json.Value.writeMembers,
    write_of_narrow (Base64.narrow_encode item.data)]
  have hkey : Json.Text.write "Key" = "\"Key\"".toList := by decide
  have hdata : Json.Text.write "Data" = "\"Data\"".toList := by decide
  rw [hkey, hdata]
  simp

/-- Quotes, names and braces take eighteen bytes. -/
theorem utf8ByteSize_write (item : Item) :
    (write item).utf8ByteSize = (String.ofList (Json.Text.write item.key)).utf8ByteSize +
      4 * ((item.data.length + 2) / 3) + 18 := by
  rw [write_eq]
  simp only [String.ofList_append, String.utf8ByteSize_append, String.ofList_toList,
    size_of_narrow (Base64.narrow_encode item.data), Base64.length_encode]
  have hopening : "\x7b\"Key\":".utf8ByteSize = 7 := rfl
  have hmiddle : ",\"Data\":\"".utf8ByteSize = 9 := rfl
  have hclosing : "\"\x7d".utf8ByteSize = 2 := rfl
  omega

end Payload

end VaultRing
