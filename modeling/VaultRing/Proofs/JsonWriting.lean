import VaultRing.Json.Value
import VaultRing.Proofs.JsonMembers

namespace VaultRing.Json

section Layout

theorem isString_write (s : String) : IsString s (Value.string s).write :=
  ⟨s.toList.flatMap Text.escapeChar, Text.says_escaped s.toList, rfl⟩

theorem further_writeItems (item : Value) (items : List Value) :
    ∃ rest, Remains ']' false (items.map Value.write) rest ∧
      Value.writeItems (item :: items) ++ [']'] = item.write ++ rest := by
  induction items generalizing item with
  | nil => exact ⟨[']'], .done .nil, by simp [Value.writeItems]⟩
  | cons next items ih =>
    obtain ⟨rest, hrest, heq⟩ := ih next
    refine ⟨',' :: (next.write ++ rest), .further .nil .nil hrest, ?_⟩
    rw [Value.writeItems, List.append_assoc, List.cons_append, heq]
    simp

theorem isList_write (items : List Value) :
    IsList (items.map Value.write) (Value.array items).write := by
  refine ⟨Value.writeItems items ++ [']'], by rw [Value.write, List.cons_append], ?_⟩
  cases items with
  | nil => exact .done .nil
  | cons item items =>
    obtain ⟨rest, hrest, heq⟩ := further_writeItems item items
    rw [heq]
    exact .first .nil hrest

def writeMember (member : String × Value) : List Char :=
  Text.write member.1 ++ ':' :: member.2.write

theorem further_writeMembers (member : String × Value) (members : List (String × Value)) :
    ∃ rest, Remains '\x7d' false (members.map writeMember) rest ∧
      Value.writeMembers (member :: members) ++ ['\x7d'] = writeMember member ++ rest := by
  induction members generalizing member with
  | nil => exact ⟨['\x7d'], .done .nil, by simp [Value.writeMembers, writeMember]⟩
  | cons next members ih =>
    obtain ⟨rest, hrest, heq⟩ := ih next
    refine ⟨',' :: (writeMember next ++ rest), .further .nil .nil hrest, ?_⟩
    rw [Value.writeMembers, List.append_assoc, List.cons_append, heq]
    · rfl
    · simp

def spelled (members : List (String × Value)) : List (List Char × List Char) :=
  members.map fun member => (member.1.toList.flatMap Text.escapeChar, member.2.write)

theorem isObject_write (members : List (String × Value)) :
    IsObject (spelled members) (Value.object members).write := by
  refine ⟨members.map writeMember, ?_, Value.writeMembers members ++ ['\x7d'],
    by rw [Value.write, List.cons_append], ?_⟩
  · rw [spelled, List.forall₂_map_left_iff, List.forall₂_map_right_iff, List.forall₂_same]
    intro member _
    have hcolon : writeMember member = '"' :: (member.1.toList.flatMap Text.escapeChar ++
        '"' :: ([] ++ ':' :: ([] ++ member.2.write))) := by
      simp [writeMember, Text.write]
    rw [hcolon]
    exact .colon .nil .nil
  · cases members with
    | nil => exact .done .nil
    | cons member members =>
      obtain ⟨rest, hrest, heq⟩ := further_writeMembers member members
      rw [heq]
      exact .first .nil hrest

end Layout

section Showing

def written (members : List (String × Value)) : List (String × List Char) :=
  members.map fun member => (member.1, member.2.write)

theorem named_written (members : List (String × Value)) :
    List.Forall₂ Named (spelled members) (written members) := by
  rw [spelled, written, List.forall₂_map_left_iff, List.forall₂_map_right_iff, List.forall₂_same]
  exact fun member _ => ⟨Text.says_escaped member.1.toList, rfl⟩

theorem objectText_write {members : List (String × Value)}
    (h : ∀ member ∈ members, IsValue member.2.write) :
    ObjectText (spelled members) (Value.object members).write :=
  ⟨chars_of_named (named_written members), List.forall_mem_map.mpr h, isObject_write members⟩

theorem shows_write {P : List (String × List Char) → Prop} {members : List (String × Value)}
    (hvalues : ∀ member ∈ members, IsValue member.2.write) (h : P (written members)) :
    Shows P (Value.object members).write :=
  ⟨_, _, objectText_write hvalues, named_written members, h⟩

def memberOf (key : String) (value? : Option Value) : List (String × Value) :=
  (value?.map (key, ·)).toList

def textIfAny (s : String) : Option Value := if s.isEmpty then none else some (.string s)

variable {name key : String} {members : List (String × Value)}

@[simp] theorem valuesOf_written :
    valuesOf name (written members) = (members.filter (·.1 == name)).map (·.2.write) := by
  unfold valuesOf written
  rw [List.filter_map, List.map_map]
  rfl

@[simp] theorem filter_memberOf {value? : Option Value} :
    (memberOf key value?).filter (·.1 == name) =
      if key = name then memberOf key value? else [] := by
  cases value? with
  | none => simp [memberOf]
  | some value => by_cases h : key = name <;> simp [memberOf, h]

@[simp] theorem map_memberOf {value? : Option Value} :
    (memberOf key value?).map (·.2.write) = (value?.map Value.write).toList := by
  cases value? <;> rfl

/-- A text that has been left out is empty. -/
theorem held_textIfAny {s : String} {named : List (String × List Char)}
    (h : valuesOf name named = ((textIfAny s).map Value.write).toList) :
    Held named name (IsString s) (s = "") := by
  unfold textIfAny at h
  split at h
  · rename_i hs
    exact .inl ⟨h, by simpa using hs⟩
  · exact .inr ⟨_, h, isString_write s⟩

theorem isValue_memberOf {value? : Option Value}
    (h : ∀ value ∈ value?, IsValue value.write) :
    ∀ member ∈ memberOf name value?, IsValue member.2.write := by
  cases value? with
  | none => simp [memberOf]
  | some value => exact List.forall_mem_singleton.mpr (h value rfl)

theorem isValue_textIfAny {s : String} :
    ∀ member ∈ memberOf name (textIfAny s), IsValue member.2.write := by
  refine isValue_memberOf fun value hvalue => ?_
  unfold textIfAny at hvalue
  split at hvalue
  · cases hvalue
  · obtain rfl := Option.some.inj hvalue
    exact (isString_write s).isValue

end Showing

theorem Reader.whole_write {P : List Char → Prop} {value : Value} (h : P value.write) :
    Reader.Whole P value.text :=
  ⟨[], value.write, [], .nil, .nil, h, by simp [Value.text]⟩

end VaultRing.Json
