import VaultRing.Proofs.GatewayListing
import VaultRing.Proofs.TimestampText
import VaultRing.Proofs.VaultListing

namespace VaultRing

open Json (isString_write memberOf textIfAny)

namespace GatewayField

theorem json_eq (f : GatewayField) :
    f.json = .object (memberOf "id" (textIfAny f.id) ++
      [("type", .string f.type.name), ("label", .string f.label), ("value", .string f.value)]) := by
  unfold json textIfAny
  split <;> rfl

theorem told_written (f : GatewayField) :
    f.spelled.Told (Json.written (memberOf "id" (textIfAny f.id) ++
      [("type", .string f.type.name), ("label", .string f.label), ("value", .string f.value)]))
    where
  id := Json.held_textIfAny (by simp [spelled])
  type := .inr ⟨_, by simp, isString_write f.type.name⟩
  label := .inr ⟨_, by simp, isString_write f.label⟩
  value := .inr ⟨_, by simp, isString_write f.value⟩

theorem shows_json (f : GatewayField) :
    Json.Shows (fun named => f.spelled.Told named) f.json.write := by
  rw [json_eq]
  refine Json.shows_write ?_ f.told_written
  refine List.forall_mem_append.mpr ⟨Json.isValue_textIfAny, ?_⟩
  have hstring (s : String) : Json.IsValue (Json.Value.string s).write := (isString_write s).isValue
  simp [hstring]

end GatewayField

namespace GatewayItem

def members (item : GatewayItem) : List (String × Json.Value) :=
  memberOf "id" (textIfAny item.id) ++
    ("title", .string item.title) :: ("vault", .object [("id", .string item.vaultId)]) ::
    ("category", .string item.category.name) :: ("tags", .strings item.tags) ::
    (memberOf "fields"
        (if item.fields.isEmpty then none else some (.array (item.fields.map (·.json)))) ++
      (memberOf "state" (item.state.map (.string ·.name)) ++
        (memberOf "updatedAt" (item.updatedAt.map (.string ·.text)) ++ [])))

theorem json_eq (item : GatewayItem) : item.json = .object item.members := by
  simp only [json, members, memberOf, textIfAny, Option.map_map, List.append_assoc,
    List.cons_append, List.nil_append, List.append_nil]
  split <;> split <;> rfl

theorem tags_shown (item : GatewayItem) :
    Lists Json.IsString item.tags (Json.Value.strings item.tags).write :=
  ⟨_, Json.isList_write _, by simp [List.forall₂_same, isString_write]⟩

theorem fields_shown (item : GatewayItem) :
    Lists (fun f => Json.Shows fun named => f.Told named) (item.fields.map GatewayField.spelled)
      (Json.Value.array (item.fields.map (·.json))).write :=
  ⟨_, Json.isList_write _, by simp [List.forall₂_same, GatewayField.shows_json]⟩

theorem told_written (item : GatewayItem) : item.spelled.Told (Json.written item.members) where
  id := Json.held_textIfAny (by simp [members, spelled])
  title := .inr ⟨_, by simp [members], isString_write item.title⟩
  vault := by
    refine .inr ⟨(Json.Value.object [("id", .string item.vaultId)]).write, by simp [members], ?_⟩
    refine Json.shows_write (List.forall_mem_singleton.mpr (isString_write _).isValue) ?_
    exact .inr ⟨_, by simp, isString_write item.vaultId⟩
  category := .inr ⟨_, by simp [members], isString_write item.category.name⟩
  tags := .inr ⟨_, by simp [members], .inr item.tags_shown⟩
  fields := by
    by_cases hfields : item.fields = []
    · exact .inl ⟨by simp [members, hfields], by simp [spelled, hfields]⟩
    · exact .inr ⟨_, by simp [members, hfields], .inr item.fields_shown⟩
  state := by
    cases hstate : item.state with
    | none => exact .inl ⟨by simp [members, hstate], by simp [spelled, hstate]⟩
    | some s =>
      exact .inr ⟨(Json.Value.string s.name).write, by simp [members, hstate],
        .inr ⟨.own s, by simp [spelled, hstate], isString_write s.name⟩⟩
  updatedAt := by
    cases htime : item.updatedAt with
    | none => exact .inl ⟨by simp [members, htime], by simp [spelled, htime]⟩
    | some t =>
      exact .inr ⟨(Json.Value.string t.text).write, by simp [members, htime],
        .inr ⟨t, t.text, by simp [spelled, htime], t.ofText_text, isString_write t.text⟩⟩

theorem values_members (item : GatewayItem) :
    ∀ member ∈ item.members, Json.IsValue member.2.write := by
  have hstring (s : String) : Json.IsValue (Json.Value.string s).write := (isString_write s).isValue
  have hvault : Json.IsValue (Json.Value.object [("id", .string item.vaultId)]).write :=
    (Json.objectText_write (List.forall_mem_singleton.mpr (hstring _))).isValue
  have htags := item.tags_shown.isValue fun _ _ => Json.IsString.isValue
  refine List.forall_mem_append.mpr ⟨Json.isValue_textIfAny, List.forall_mem_cons.mpr ⟨hstring _,
    List.forall_mem_cons.mpr ⟨hvault, List.forall_mem_cons.mpr ⟨hstring _,
      List.forall_mem_cons.mpr ⟨htags, List.forall_mem_append.mpr ⟨?_, List.forall_mem_append.mpr
        ⟨?_, List.forall_mem_append.mpr ⟨?_, by simp⟩⟩⟩⟩⟩⟩⟩⟩
  · refine Json.isValue_memberOf fun value hvalue => ?_
    split at hvalue
    · cases hvalue
    · obtain rfl := Option.some.inj hvalue
      exact item.fields_shown.isValue fun _ _ => Json.Shows.isValue
  · refine Json.isValue_memberOf fun value hvalue => ?_
    obtain ⟨s, -, rfl⟩ := Option.map_eq_some_iff.mp hvalue
    exact hstring s.name
  · refine Json.isValue_memberOf fun value hvalue => ?_
    obtain ⟨t, -, rfl⟩ := Option.map_eq_some_iff.mp hvalue
    exact hstring t.text

theorem shows_json (item : GatewayItem) :
    Json.Shows (fun named => item.spelled.Told named) item.json.write := by
  rw [json_eq]
  exact Json.shows_write item.values_members item.told_written

@[simp] theorem ofText_text (item : GatewayItem) : ofText item.json.text = .ok item := by
  have hread := Json.Reader.run_of_gets (reader_gets item.shows_json) (Json.Reader.whole_write rfl)
  rwa [item_spelled] at hread

/-- Whatever an item of the gateway holds, it is read back from its text, and so is every item of a
vault that is sent as one. -/
theorem text_loses_nothing :
    (∀ item : GatewayItem, ofText item.json.text = .ok item) ∧
      ∀ item : VaultItem, (ofText (ofVaultItem item).json.text).map toVaultItem = .ok item := by
  refine ⟨ofText_text, fun item => ?_⟩
  rw [ofText_text]
  exact congrArg Except.ok (toVaultItem_ofVaultItem item)

end GatewayItem

end VaultRing
