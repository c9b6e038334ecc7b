import VaultRing.Proofs.JsonWriting
import VaultRing.Proofs.PayloadReading

namespace VaultRing.Payload

theorem tells_written (item : Item) :
    Tells (Json.written
      [("Key", .string item.key), ("Data", .string (String.ofList (Base64.encode item.data)))])
      item :=
  ⟨.inr ⟨_, rfl, Json.isString_write item.key⟩, .inr ⟨_, rfl, .inr (Json.isString_write _)⟩⟩

@[simp] theorem read_write (item : Item) : read (write item) = .ok item := by
  refine Json.Reader.run_of_gets (reader_gets (Json.shows_write ?_ (tells_written item)))
    (Json.Reader.whole_write rfl)
  exact List.forall_mem_cons.mpr ⟨(Json.isString_write item.key).isValue,
    List.forall_mem_singleton.mpr (Json.isString_write _).isValue⟩

theorem write_injective : Function.Injective write := by
  intro item other h
  have hread : read (write item) = read (write other) := congrArg read h
  rw [read_write, read_write] at hread
  exact Except.ok.inj hread

/-- Whatever text the key is and whatever bytes the data is, a keyring reads back what it has
written, and no two items are written alike. -/
theorem decode_write_and_injective :
    (∀ item : Item, Keyring.decode (write item) = .ok item) ∧ Function.Injective write := by
  refine ⟨fun item => ?_, write_injective⟩
  unfold Keyring.decode
  rw [read_write]
  rfl

end VaultRing.Payload
