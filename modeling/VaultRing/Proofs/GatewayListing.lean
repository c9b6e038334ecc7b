import VaultRing.Gateway.Item
import VaultRing.Proofs.JsonWriting
import VaultRing.Proofs.ManagedItems

namespace VaultRing

open Json (Held IsString IsValue Shows)

/-- A word in a listing: the name of a value that is known, or any other text. -/
inductive Word {α : Type} (name : α → String) where
  | own (a : α)
  | odd (text : String) (h : ∀ a, text ≠ name a)

namespace Word

variable {α : Type} {name : α → String}

def text : Word name → String
  | .own a => name a
  | .odd text _ => text

def meaning (other : α) : Word name → α
  | .own a => a
  | .odd .. => other

def IsOdd : Word name → Prop
  | .own _ => False
  | .odd .. => True

end Word

structure SpelledField where
  id : String
  type : Word FieldType.name
  label : String
  value : String

structure SpelledItem where
  id : String
  title : String
  vaultId : String
  category : Word Category.name
  tags : List String
  fields : List SpelledField
  state : Option (Word ItemState.name)
  updatedAt : Option Timestamp

def SpelledField.field (f : SpelledField) : GatewayField :=
  ⟨f.id, f.type.meaning .unknown, f.label, f.value⟩

def SpelledItem.item (i : SpelledItem) : GatewayItem where
  id := i.id
  title := i.title
  vaultId := i.vaultId
  category := i.category.meaning .unsupported
  tags := i.tags
  fields := i.fields.map SpelledField.field
  state := i.state.map (Word.meaning .unknown)
  updatedAt := i.updatedAt

def GatewayField.spelled (f : GatewayField) : SpelledField := ⟨f.id, .own f.type, f.label, f.value⟩

def GatewayItem.spelled (i : GatewayItem) : SpelledItem where
  id := i.id
  title := i.title
  vaultId := i.vaultId
  category := .own i.category
  tags := i.tags
  fields := i.fields.map GatewayField.spelled
  state := i.state.map .own
  updatedAt := i.updatedAt

theorem GatewayItem.item_spelled (i : GatewayItem) : i.spelled.item = i := by
  have hfields : i.fields.map (SpelledField.field ∘ GatewayField.spelled) = i.fields :=
    List.map_id i.fields
  have hstate : i.state.map (Word.meaning .unknown ∘ (Word.own : ItemState → Word ItemState.name)) =
      i.state :=
    congrFun Option.map_id i.state
  simp only [spelled, SpelledItem.item, Word.meaning, List.map_map, Option.map_map, hfields, hstate]

section Texts

def Lists {α : Type} (shows : α → List Char → Prop) (as : List α) (text : List Char) : Prop :=
  ∃ values, Json.IsList values text ∧ List.Forall₂ (fun value a => shows a value) values as

def OrNull (absent : Prop) (shows : List Char → Prop) (value : List Char) : Prop :=
  value = ['n', 'u', 'l', 'l'] ∧ absent ∨ shows value

variable (named : List (String × List Char))

/-- The members of a field. Each may be left out at its default. -/
structure SpelledField.Told (f : SpelledField) : Prop where
  id : Held named "id" (IsString f.id) (f.id = "")
  type : Held named "type" (IsString f.type.text) (f.type = .own .unknown)
  label : Held named "label" (IsString f.label) (f.label = "")
  value : Held named "value" (IsString f.value) (f.value = "")

structure SpelledItem.Told (i : SpelledItem) : Prop where
  id : Held named "id" (IsString i.id) (i.id = "")
  title : Held named "title" (IsString i.title) (i.title = "")
  vault : Held named "vault"
    (Shows fun named => Held named "id" (IsString i.vaultId) (i.vaultId = "")) (i.vaultId = "")
  category : Held named "category" (IsString i.category.text) (i.category = .own .unsupported)
  tags : Held named "tags" (OrNull (i.tags = []) (Lists IsString i.tags)) (i.tags = [])
  fields : Held named "fields"
    (OrNull (i.fields = []) (Lists (fun f => Shows fun named => f.Told named) i.fields))
    (i.fields = [])
  state : Held named "state"
    (OrNull (i.state = none) fun value => ∃ word, i.state = some word ∧ IsString word.text value)
    (i.state = none)
  updatedAt : Held named "updatedAt"
    (OrNull (i.updatedAt = none) fun value => ∃ t s, i.updatedAt = some t ∧
      Timestamp.ofText s = .ok t ∧ IsString s value)
    (i.updatedAt = none)

end Texts

section Words

@[simp] theorem Category.ofName_name (c : Category) : Category.ofName c.name = c := by
  cases c <;> decide

@[simp] theorem FieldType.ofName_name (t : FieldType) : FieldType.ofName t.name = t := by
  cases t <;> decide

@[simp] theorem ItemState.ofName_name (s : ItemState) : ItemState.ofName s.name = s := by
  cases s <;> decide

theorem find?_name_of_odd {α : Type} {name : α → String} {s : String} (h : ∀ a, s ≠ name a)
    (all : List α) : all.find? (name · == s) = none :=
  List.find?_eq_none.mpr fun a _ => by simpa using (h a).symm

theorem Category.ofName_text (w : Word Category.name) :
    Category.ofName w.text = w.meaning .unsupported := by
  cases w with
  | own c => exact Category.ofName_name c
  | odd text h => exact congrArg (Option.getD · _) (find?_name_of_odd h Category.all)

theorem FieldType.ofName_text (w : Word FieldType.name) :
    FieldType.ofName w.text = w.meaning .unknown := by
  cases w with
  | own t => exact FieldType.ofName_name t
  | odd text h => exact congrArg (Option.getD · _) (find?_name_of_odd h FieldType.all)

theorem ItemState.ofName_text (w : Word ItemState.name) :
    ItemState.ofName w.text = w.meaning .unknown := by
  cases w with
  | own s => exact ItemState.ofName_name s
  | odd text h => exact congrArg (Option.getD · _) (find?_name_of_odd h ItemState.all)

variable {value : List Char}

theorem Category.reader_gets {w : Word Category.name} (h : IsString w.text value) :
    Category.reader.Gets value (w.meaning .unsupported) :=
  Json.Reader.variant_gets h (congrArg Except.ok (Category.ofName_text w))

theorem FieldType.reader_gets {w : Word FieldType.name} (h : IsString w.text value) :
    FieldType.reader.Gets value (w.meaning .unknown) :=
  Json.Reader.variant_gets h (congrArg Except.ok (FieldType.ofName_text w))

theorem ItemState.reader_gets {w : Word ItemState.name} (h : IsString w.text value) :
    ItemState.reader.Gets value (w.meaning .unknown) :=
  Json.Reader.variant_gets h (congrArg Except.ok (ItemState.ofName_text w))

theorem Timestamp.reader_gets {s : String} {t : Timestamp} (h : IsString s value)
    (ht : Timestamp.ofText s = .ok t) : Timestamp.reader.Gets value t :=
  Json.Reader.string_gets h (by rw [ht]; rfl) _

end Words

section Fields

def SpelledField.collected (f : SpelledField) (has : String → Bool) : GatewayField where
  id := if has "id" then f.id else ""
  type := if has "type" then f.type.meaning .unknown else .unknown
  label := if has "label" then f.label else ""
  value := if has "value" then f.value else ""

theorem SpelledField.Told.fits {f : SpelledField} {named : List (String × List Char)}
    (h : f.Told named) :
    ∀ m ∈ GatewayField.format.members, Json.Record.Fits m named f.collected := by
  refine List.forall_mem_cons.mpr ⟨?_, List.forall_mem_cons.mpr ⟨?_, List.forall_mem_cons.mpr ⟨?_,
    List.forall_mem_singleton.mpr ?_⟩⟩⟩
  · exact Json.Record.fits_of_held h.id (fun _ => Json.Reader.text_gets)
      (fun has => by simp [collected, Function.update])
      fun he has => by simp [collected, Function.update, he]
  · exact Json.Record.fits_of_held h.type (fun _ => FieldType.reader_gets)
      (fun has => by simp [collected, Function.update])
      fun he has => by simp [collected, Function.update, he, Word.meaning]
  · exact Json.Record.fits_of_held h.label (fun _ => Json.Reader.text_gets)
      (fun has => by simp [collected, Function.update])
      fun he has => by simp [collected, Function.update, he]
  · exact Json.Record.fits_of_held h.value (fun _ => Json.Reader.text_gets)
      (fun has => by simp [collected, Function.update])
      fun he has => by simp [collected, Function.update, he]

theorem SpelledField.collected_all {f : SpelledField} {has : String → Bool}
    (h : ∀ m ∈ GatewayField.format.members, has m.name = true) : f.collected has = f.field := by
  simp only [GatewayField.format, List.forall_mem_cons, List.not_mem_nil, false_imp_iff,
    implies_true, and_true] at h
  obtain ⟨hid, htype, hlabel, hvalue⟩ := h
  simp only [collected, hid, htype, hlabel, hvalue, if_true, SpelledField.field]

theorem GatewayField.reader_gets {f : SpelledField} {value : List Char}
    (h : Shows (fun named => f.Told named) value) : format.read.Gets value f.field := by
  obtain ⟨members, named, hobject, hnamed, htold⟩ := h
  exact Json.Record.gets_of_fits (s := f.field) ⟨members, named, hobject, hnamed, htold.fits⟩ rfl
    (fun _ => SpelledField.collected_all) rfl

end Fields

section Lists

variable {α β : Type} {shows : α → List Char → Prop} {as : List α} {value : List Char}
  {item : Json.Reader β} {f : α → β}

theorem Lists.isValue (h : Lists shows as value)
    (hvalues : ∀ a value, shows a value → IsValue value) : IsValue value := by
  obtain ⟨values, hlist, has⟩ := h
  refine .list ?_ hlist
  clear hlist
  induction has with
  | nil => simp
  | cons ha _ ih => exact List.forall_mem_cons.mpr ⟨hvalues _ _ ha, ih⟩

theorem listOf_gets (h : Lists shows as value) (hvalues : ∀ a value, shows a value → IsValue value)
    (hitem : ∀ a value, shows a value → item.Gets value (f a)) :
    (Json.Reader.listOf item).Gets value (as.map f) := by
  obtain ⟨values, hlist, has⟩ := h
  refine Json.Reader.listOf_gets hlist (List.forall₂_map_right_iff.mpr (has.imp fun v a ha => ?_))
  exact ⟨(hvalues a v ha).opens, hitem a v ha⟩

theorem listOrNull_gets (h : OrNull (as = []) (Lists shows as) value)
    (hvalues : ∀ a value, shows a value → IsValue value)
    (hitem : ∀ a value, shows a value → item.Gets value (f a)) :
    (GatewayItem.listOrNull item).Gets value (as.map f) := by
  obtain ⟨rfl, rfl⟩ | h := h
  · exact Json.Reader.optional_null.map (·.getD [])
  · have hnull : value ≠ ['n', 'u', 'l', 'l'] := by
      obtain ⟨values, hlist, -⟩ := h
      exact hlist.ne_null
    exact (Json.Reader.optional_gets (h.isValue hvalues) hnull
      (listOf_gets h hvalues hitem)).map (·.getD [])

end Lists

section Items

variable {value : List Char}

theorem vault_gets {vaultId : String}
    (h : Shows (fun named => Held named "id" (IsString vaultId) (vaultId = "")) value) :
    GatewayItem.vaultFormat.read.Gets value vaultId := by
  obtain ⟨members, named, hobject, hnamed, hid⟩ := h
  have hfits : ∀ m ∈ GatewayItem.vaultFormat.members,
      Json.Record.Fits m named fun has => if has "id" then vaultId else "" := by
    refine List.forall_mem_singleton.mpr (hid.mono (fun value hvalue has _ => ?_) fun he has => ?_)
    · simpa [Function.update] using Json.Reader.text_gets hvalue
    · simp [Function.update, he]
  refine Json.Record.gets_of_fits ⟨members, named, hobject, hnamed, hfits⟩ rfl (fun has hall => ?_)
    rfl
  exact if_pos (hall _ (List.mem_cons_self ..))

theorem state_gets {state : Option (Word ItemState.name)}
    (h : OrNull (state = none) (fun value => ∃ word, state = some word ∧ IsString word.text value)
      value) :
    (Json.Reader.optional ItemState.reader).Gets value (state.map (Word.meaning .unknown)) := by
  obtain ⟨rfl, rfl⟩ | ⟨word, rfl, hword⟩ := h
  · exact Json.Reader.optional_null
  · exact Json.Reader.optional_string_gets hword (ItemState.reader_gets hword)

theorem updatedAt_gets {time : Option Timestamp}
    (h : OrNull (time = none) (fun value => ∃ t s, time = some t ∧ Timestamp.ofText s = .ok t ∧
      IsString s value) value) :
    (Json.Reader.optional Timestamp.reader).Gets value time := by
  obtain ⟨rfl, rfl⟩ | ⟨t, s, rfl, ht, hs⟩ := h
  · exact Json.Reader.optional_null
  · exact Json.Reader.optional_string_gets hs (Timestamp.reader_gets hs ht)

theorem tags_gets {tags : List String} (h : OrNull (tags = []) (Lists IsString tags) value) :
    (GatewayItem.listOrNull Json.Reader.text).Gets value tags := by
  have hgets := listOrNull_gets (f := id) h (fun _ _ => IsString.isValue)
    fun _ _ => Json.Reader.text_gets
  rwa [List.map_id] at hgets

theorem fields_gets {fields : List SpelledField}
    (h : OrNull (fields = []) (Lists (fun f => Shows fun named => f.Told named) fields) value) :
    (GatewayItem.listOrNull GatewayField.format.read).Gets value
      (fields.map SpelledField.field) :=
  listOrNull_gets h (fun _ _ => Shows.isValue) fun _ _ => GatewayField.reader_gets

def SpelledItem.collected (i : SpelledItem) (has : String → Bool) : GatewayItem where
  id := if has "id" then i.id else ""
  title := if has "title" then i.title else ""
  vaultId := if has "vault" then i.vaultId else ""
  category := if has "category" then i.item.category else .unsupported
  tags := if has "tags" then i.tags else []
  fields := if has "fields" then i.item.fields else []
  state := if has "state" then i.item.state else none
  updatedAt := if has "updatedAt" then i.updatedAt else none

theorem SpelledItem.Told.fits {i : SpelledItem} {named : List (String × List Char)}
    (h : i.Told named) :
    ∀ m ∈ GatewayItem.format.members, Json.Record.Fits m named i.collected := by
  refine List.forall_mem_cons.mpr ⟨?_, List.forall_mem_cons.mpr ⟨?_, List.forall_mem_cons.mpr ⟨?_,
    List.forall_mem_cons.mpr ⟨?_, List.forall_mem_cons.mpr ⟨?_, List.forall_mem_cons.mpr ⟨?_,
      List.forall_mem_cons.mpr ⟨?_, List.forall_mem_singleton.mpr ?_⟩⟩⟩⟩⟩⟩⟩
  · exact Json.Record.fits_of_held h.id (fun _ => Json.Reader.text_gets)
      (fun has => by simp [collected, Function.update])
      fun he has => by simp [collected, Function.update, he]
  · exact Json.Record.fits_of_held h.title (fun _ => Json.Reader.text_gets)
      (fun has => by simp [collected, Function.update])
      fun he has => by simp [collected, Function.update, he]
  · exact Json.Record.fits_of_held h.vault (fun _ => vault_gets)
      (fun has => by simp [collected, Function.update])
      fun he has => by simp [collected, Function.update, he]
  · exact Json.Record.fits_of_held h.category (fun _ => Category.reader_gets)
      (fun has => by simp [collected, Function.update, item])
      fun he has => by simp [collected, Function.update, he, item, Word.meaning]
  · exact Json.Record.fits_of_held h.tags (fun _ => tags_gets)
      (fun has => by simp [collected, Function.update])
      fun he has => by simp [collected, Function.update, he]
  · exact Json.Record.fits_of_held h.fields (fun _ => fields_gets)
      (fun has => by simp [collected, Function.update, item])
      fun he has => by simp [collected, Function.update, he, item]
  · exact Json.Record.fits_of_held h.state (fun _ => state_gets)
      (fun has => by simp [collected, Function.update, item])
      fun he has => by simp [collected, Function.update, he, item]
  · exact Json.Record.fits_of_held h.updatedAt (fun _ => updatedAt_gets)
      (fun has => by simp [collected, Function.update])
      fun he has => by simp [collected, Function.update, he]

theorem SpelledItem.collected_all {i : SpelledItem} {has : String → Bool}
    (h : ∀ m ∈ GatewayItem.format.members, has m.name = true) : i.collected has = i.item := by
  simp only [GatewayItem.format, List.forall_mem_cons, List.not_mem_nil, false_imp_iff,
    implies_true, and_true] at h
  obtain ⟨hid, htitle, hvault, hcategory, htags, hfields, hstate, hupdated⟩ := h
  simp only [collected, hid, htitle, hvault, hcategory, htags, hfields, hstate, hupdated, if_true,
    item]

theorem GatewayItem.reader_gets {i : SpelledItem}
    (h : Shows (fun named => i.Told named) value) : format.read.Gets value i.item := by
  obtain ⟨members, named, hobject, hnamed, htold⟩ := h
  exact Json.Record.gets_of_fits (s := i.item) ⟨members, named, hobject, hnamed, htold.fits⟩ rfl
    (fun _ => SpelledItem.collected_all) rfl

end Items

section Listings

def SpelledItem.IsOdd (i : SpelledItem) : Prop :=
  i.category.IsOdd ∨ ∃ word, i.state = some word ∧ word.IsOdd

theorem SpelledItem.IsOdd.not_candidate {i : SpelledItem} (h : i.IsOdd) (scope : Scope)
    (tags : List String) :
    scope.isCandidate tags i.item.category (i.item.state.getD .active) = false := by
  obtain ⟨id, title, vaultId, category, tags, fields, state, updatedAt⟩ := i
  obtain hcategory | ⟨word, hstate, hword⟩ := h
  · cases category with
    | own c => exact hcategory.elim
    | odd text ht => simp [Scope.isCandidate, item, Word.meaning]
  · obtain rfl : state = some word := hstate
    cases word with
    | own s => exact hword.elim
    | odd text ht => simp [Scope.isCandidate, item, Word.meaning]

theorem SpelledItem.IsOdd.not_managed {i : SpelledItem} (h : i.IsOdd) (scope : Scope) :
    scope.managed? i.item.toVaultItem = none :=
  Scope.managed?_eq_none_of_not_candidate (h.not_candidate scope _)

/-- A listing is read item by item, each value as it was sent and each word that is not known as the
catch-all of its kind. Items that come with known words alone are read as themselves; one whose
category or state is not known is neither a candidate nor managed in any scope. -/
theorem listing_read_item_by_item (items : List SpelledItem) (text : String)
    (h : Json.Reader.Whole (Lists (fun i => Shows fun named => i.Told named) items) text) :
    GatewayItem.listOfText text = .ok (items.map SpelledItem.item) ∧
      (∀ known : List GatewayItem, items = known.map GatewayItem.spelled →
        GatewayItem.listOfText text = .ok known) ∧
      ∀ i ∈ items, i.IsOdd → ∀ scope : Scope,
        scope.isCandidate i.item.tags i.item.category (i.item.state.getD .active) = false ∧
          scope.managed? i.item.toVaultItem = none := by
  obtain ⟨before, value, after, hb, ha, hlists, hs⟩ := h
  have hread : GatewayItem.listOfText text = .ok (items.map SpelledItem.item) :=
    Json.Reader.run_of_gets
      (listOf_gets hlists (fun _ _ => Shows.isValue) fun _ _ => GatewayItem.reader_gets)
      ⟨before, value, after, hb, ha, rfl, hs⟩
  refine ⟨hread, fun known hknown => ?_, fun i _ hodd scope => ?_⟩
  · have hsame : known.map (SpelledItem.item ∘ GatewayItem.spelled) = known :=
      List.map_id'' GatewayItem.item_spelled known
    rw [hread, hknown, List.map_map, hsame]
  · exact ⟨hodd.not_candidate scope _, hodd.not_managed scope⟩

end Listings

section Mixed

def sealedItem : SpelledItem where
  id := ""
  title := "a"
  vaultId := ""
  category := .own .unsupported
  tags := []
  fields := []
  state := some (.odd "SEALED" fun s => by cases s <;> decide)
  updatedAt := none

def plainItem : SpelledItem :=
  GatewayItem.spelled { GatewayItem.empty with title := "b", vaultId := "v", category := .login }

def sealedMembers : List (String × Json.Value) :=
  [("note", .object [("deep", .array [.bool true])]), ("tags", .null), ("state", .string "SEALED"),
    ("title", .string "a")]

def plainVault : List (String × Json.Value) := [("name", .null), ("id", .string "v")]

def plainMembers : List (String × Json.Value) :=
  [("vault", .object plainVault), ("title", .string "b"), ("category", .string "LOGIN")]

def mixedListing : Json.Value := .array [.object sealedMembers, .object plainMembers]

theorem sealed_shown :
    Shows (fun named => sealedItem.Told named) (Json.Value.object sealedMembers).write := by
  have htrue : IsValue (Json.Value.bool true).write := .true
  have hdeep : IsValue (Json.Value.array [.bool true]).write :=
    .list (List.forall_mem_singleton.mpr htrue) (Json.isList_write [.bool true])
  have hnote : IsValue (Json.Value.object [("deep", .array [.bool true])]).write :=
    (Json.objectText_write (List.forall_mem_singleton.mpr hdeep)).isValue
  refine Json.shows_write ?_ ⟨?_, ?_, ?_, ?_, ?_, ?_, ?_, ?_⟩
  · exact List.forall_mem_cons.mpr ⟨hnote, List.forall_mem_cons.mpr ⟨.null,
      List.forall_mem_cons.mpr ⟨(Json.isString_write _).isValue,
        List.forall_mem_singleton.mpr (Json.isString_write _).isValue⟩⟩⟩
  · exact .inl ⟨rfl, rfl⟩
  · exact .inr ⟨_, rfl, Json.isString_write "a"⟩
  · exact .inl ⟨rfl, rfl⟩
  · exact .inl ⟨rfl, rfl⟩
  · exact .inr ⟨_, rfl, .inl ⟨rfl, rfl⟩⟩
  · exact .inl ⟨rfl, rfl⟩
  · exact .inr ⟨_, rfl, .inr ⟨_, rfl, Json.isString_write "SEALED"⟩⟩
  · exact .inl ⟨rfl, rfl⟩

theorem plain_shown :
    Shows (fun named => plainItem.Told named) (Json.Value.object plainMembers).write := by
  have hvault : Shows (fun named => Held named "id" (IsString "v") ("v" = ""))
      (Json.Value.object plainVault).write := by
    refine Json.shows_write ?_ (.inr ⟨_, rfl, Json.isString_write "v"⟩)
    exact List.forall_mem_cons.mpr
      ⟨.null, List.forall_mem_singleton.mpr (Json.isString_write "v").isValue⟩
  refine Json.shows_write ?_ ⟨?_, ?_, ?_, ?_, ?_, ?_, ?_, ?_⟩
  · exact List.forall_mem_cons.mpr ⟨hvault.isValue, List.forall_mem_cons.mpr
      ⟨(Json.isString_write _).isValue,
        List.forall_mem_singleton.mpr (Json.isString_write _).isValue⟩⟩
  · exact .inl ⟨rfl, rfl⟩
  · exact .inr ⟨_, rfl, Json.isString_write "b"⟩
  · exact .inr ⟨_, rfl, hvault⟩
  · exact .inr ⟨_, rfl, Json.isString_write "LOGIN"⟩
  · exact .inl ⟨rfl, rfl⟩
  · exact .inl ⟨rfl, rfl⟩
  · exact .inl ⟨rfl, rfl⟩
  · exact .inl ⟨rfl, rfl⟩

theorem mixed_text : Json.Reader.Whole
    (Lists (fun i => Shows fun named => i.Told named) [sealedItem, plainItem]) mixedListing.text :=
  Json.Reader.whole_write
    ⟨_, Json.isList_write _, .cons sealed_shown (.cons plain_shown .nil)⟩

theorem mixed_listing_read :
    GatewayItem.listOfText mixedListing.text =
        .ok [{ GatewayItem.empty with title := "a", state := some .unknown },
          { GatewayItem.empty with title := "b", vaultId := "v", category := .login }] ∧
      ∀ scope : Scope, scope.managed? sealedItem.item.toVaultItem = none := by
  obtain ⟨hread, -, hodd⟩ :=
    listing_read_item_by_item [sealedItem, plainItem] mixedListing.text mixed_text
  refine ⟨hread, fun scope => ?_⟩
  exact (hodd sealedItem (List.mem_cons_self ..) (.inr ⟨_, rfl, trivial⟩) scope).2

end Mixed

end VaultRing
