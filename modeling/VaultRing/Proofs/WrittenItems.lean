import VaultRing.Proofs.VaultIds
import VaultRing.Proofs.VaultWriting

namespace VaultRing

namespace Scope

variable {scope : Scope} {item : VaultItem} {m : ManagedItem} {f : Field}

theorem filter_concealed_iff {fields : List Field} :
    fields.filter (·.type == .concealed) = [f] ↔
      ∃ front back, fields = front ++ f :: back ∧ f.type = .concealed ∧
        ∀ g ∈ front ++ back, g.type ≠ .concealed := by
  simp only [List.filter_eq_cons_iff, List.filter_eq_nil_iff, beq_iff_eq, List.forall_mem_append]
  constructor
  · rintro ⟨front, back, rfl, hfront, hf, hback⟩
    exact ⟨front, back, rfl, hf, hfront, hback⟩
  · rintro ⟨front, back, rfl, hf, hfront, hback⟩
    exact ⟨front, back, rfl, hfront, hf, hback⟩

theorem managed?_isSome_iff :
    (scope.managed? item).isSome = true ↔
      item.state = .active ∧ item.category = .apiCredential ∧ scope.tag ∈ item.tags ∧
        ∃ front f back, item.fields = front ++ f :: back ∧ f.type = .concealed ∧
          f.title = scope.fieldTitle ∧ ∀ g ∈ front ++ back, g.type ≠ .concealed := by
  simp only [Option.isSome_iff_exists, managed?_eq_some_iff]
  constructor
  · rintro ⟨m, f, hf, -⟩
    obtain ⟨front, back, hfields, hconcealed, hothers⟩ := filter_concealed_iff.mp hf.only
    exact ⟨hf.active, hf.category, hf.tagged, front, f, back, hfields, hconcealed, hf.titled,
      hothers⟩
  · rintro ⟨hs, hc, ht, front, f, back, hfields, hconcealed, htitle, hothers⟩
    have honly := filter_concealed_iff.mpr ⟨front, back, hfields, hconcealed, hothers⟩
    exact ⟨_, f, ⟨hs, hc, ht, honly, htitle⟩, rfl⟩

structure Fits (scope : Scope) (f : Field) : Prop where
  concealed : f.type = .concealed
  titled : f.title = scope.fieldTitle

theorem fits_of_managed? (h : scope.managed? item = some m) : scope.Fits m.field := by
  obtain ⟨f, hf, rfl⟩ := managed?_eq_some_iff.mp h
  obtain ⟨-, -, -, hconcealed, -⟩ := filter_concealed_iff.mp hf.only
  exact ⟨hconcealed, hf.titled⟩

theorem tag_mem_of_managed? (h : scope.managed? item = some m) : scope.tag ∈ m.tags := by
  obtain ⟨f, hf, rfl⟩ := managed?_eq_some_iff.mp h
  exact hf.tagged

theorem managed?_single (hs : item.state = .active) (hc : item.category = .apiCredential)
    (ht : scope.tag ∈ item.tags) (hfields : item.fields = [f]) (hf : scope.Fits f) :
    scope.managed? item = some (managedOf item f) :=
  managed?_eq_some_iff.mpr
    ⟨f, (holds_single hs hc hfields hf.concealed f).mpr ⟨ht, hf.titled, rfl⟩, rfl⟩

/-- A managed item that is brought into the shape of the vault is managed, and the same. -/
theorem managed?_toVaultItem (h : scope.managed? item = some m) :
    scope.managed? m.toVaultItem = some m :=
  managed?_single rfl rfl (tag_mem_of_managed? h) rfl (fits_of_managed? h)

end Scope

section Creating

variable {t : Transport} {w : World}

theorem Transport.served_of_ok {a : Action Unit}
    (hfails : ¬ t.Served w → ∃ e, (Action.run a w).1 = .error e)
    (hok : (Action.run a w).1 = .ok ()) : t.Served w := by
  by_contra hs
  obtain ⟨e, he⟩ := hfails hs
  rw [hok] at he
  cases he

theorem Transport.itemsCall_bind_fails {limit : Duration} {context : String} {call : ItemsCall}
    (h : ¬ w.vault.Answers (some limit)) (f : call.Result → Action Unit) :
    ∃ e, (Action.run (itemsCall limit context call >>= f) w).1 = .error e := by
  obtain ⟨e, -, hr⟩ := itemsCall_fails h context call
  exact ⟨e, congrArg Prod.fst (Action.run_bind_error hr)⟩

theorem Transport.gatewayCall_bind_fails {context : String} {call : GatewayCall}
    (h : ¬ w.vault.Answers none) (f : call.Result → Action Unit) :
    ∃ e, (Action.run (gatewayCall .vault context call >>= f) w).1 = .error e := by
  obtain ⟨e, -, hr⟩ := gatewayCall_fails h context call
  exact ⟨e, congrArg Prod.fst (Action.run_bind_error hr)⟩

theorem Transport.lazy_fails {slot : Slot} {backend : Backend} {auth : LazyAuth} {limit : Duration}
    (h : ¬ (Transport.lazy slot backend auth limit).Served w) {a : Action Unit}
    (ha : ∀ w₁, ¬ w₁.vault.Answers (some limit) → ∃ e, (Action.run a w₁).1 = .error e) :
    ∃ e, (Action.run (ensureClient slot backend auth >>= fun _ => a) w).1 = .error e := by
  rcases ensureClient_reads slot backend auth limit w with ⟨hready, w₁, hc, h₁⟩ | ⟨-, e, -, hc⟩
  · rw [Action.run_bind_ok hc]
    exact ha w₁ fun hn => h ⟨hready, (h₁.answers_iff _).mp hn⟩
  · obtain ⟨w₁, hr, -⟩ := hc.bind_error (f := fun _ => a)
    exact ⟨e, congrArg Prod.fst hr⟩

theorem Transport.create_fails (ho : t.OverVault) (h : ¬ t.Served w) (scope : Scope)
    (title value : String) : ∃ e, (Action.run (t.create scope title value) w).1 = .error e := by
  cases t with
  | standard backend limit => exact itemsCall_bind_fails (fun ha => h ⟨trivial, ha⟩) _
  | lazy slot backend auth limit => exact lazy_fails h fun w₁ hn => itemsCall_bind_fails hn _
  | connect client =>
    cases client with
    | vault => exact gatewayCall_bind_fails (fun ha => h ⟨trivial, ha⟩) _
    | http c => exact absurd ho id

theorem Scope.managed?_created (scope : Scope) (drawn : Nat) (now : Timestamp)
    (title value : String) :
    scope.managed? (scope.created drawn now title value) =
      some (managedOf (scope.created drawn now title value)
        ⟨MemoryVault.idText (drawn + 2), scope.fieldTitle, .concealed, value⟩) :=
  managed?_single rfl rfl (List.mem_singleton_self _) rfl ⟨rfl, rfl⟩

end Creating

section Updating

def Transport.sent (t : Transport) (scope : Scope) (m : ManagedItem) : VaultItem :=
  match t with
  | .standard .. | .lazy .. => m.toVaultItem
  | .connect _ => { (replacement scope m).toVaultItem with vaultId := scope.vaultId }

theorem Transport.sent_fields {scope : Scope} {m : ManagedItem} (t : Transport)
    (h : scope.Fits m.field) : (t.sent scope m).fields = [m.field] := by
  cases t with
  | standard backend limit | lazy slot backend auth limit => rfl
  | connect client =>
    have hfield :
        (⟨m.field.id, scope.fieldTitle, .concealed, m.field.value⟩ : Field) = m.field := by
      rw [← h.concealed, ← h.titled]
    exact congrArg (fun f => [f]) hfield

def Action.Puts (a : Action Unit) (w : World) (item : VaultItem) : Prop :=
  (∃ front old back, w.vault.items = front ++ old :: back ∧
      MemoryVault.place old = MemoryVault.place item ∧
      ∃ w', Action.run a w = (.ok (), w') ∧
        w'.vault.items = front ++ MemoryVault.withIds w.vault.drawn item :: back) ∨
    (∀ i ∈ w.vault.items, MemoryVault.place i ≠ MemoryVault.place item) ∧
      ∃ e, (Action.run a w).1 = .error e

namespace Transport

variable {scope : Scope} {t : Transport} {w : World} {m : ManagedItem}

theorem putItem_puts {limit : Duration} (h : w.vault.Answers (some limit)) :
    (putItem limit scope m).Puts w m.toVaultItem := by
  have hcall := itemsCall_served h (Context.update m.title scope.vaultId) (.put m.toVaultItem)
  change _ = (((w.vault.counted .update).replace m.toVaultItem).1.mapError _,
    { w with vault := ((w.vault.counted .update).replace m.toVaultItem).2 }) at hcall
  obtain ⟨front, old, back, hi, -, hplace, hr⟩ | ⟨hnone, hr⟩ :=
    (w.vault.counted .update).replace_cases m.toVaultItem
  · rw [hr] at hcall
    exact .inl ⟨front, old, back, hi, hplace, _, Action.run_bind_ok hcall, rfl⟩
  · rw [hr] at hcall
    exact .inr ⟨hnone, _, congrArg Prod.fst (Action.run_bind_error hcall)⟩

theorem updateGatewayItem_puts (client : GatewayClient) (h : w.vault.Answers none) :
    (updateGatewayItem .vault scope m).Puts w ((Transport.connect client).sent scope m) := by
  let sent := (Transport.connect client).sent scope m
  have hcall := gatewayCall_served h (Context.update m.title scope.vaultId)
    (.update (replacement scope m) scope.vaultId)
  change _ = ((((w.vault.counted .update).replace sent).1.map _).mapError _,
    { w with vault := ((w.vault.counted .update).replace sent).2 }) at hcall
  obtain ⟨front, old, back, hi, -, hplace, hr⟩ | ⟨hnone, hr⟩ :=
    (w.vault.counted .update).replace_cases sent
  · rw [hr] at hcall
    exact .inl ⟨front, old, back, hi, hplace, _, Action.run_bind_ok hcall, rfl⟩
  · rw [hr] at hcall
    exact .inr ⟨hnone, _, congrArg Prod.fst (Action.run_bind_error hcall)⟩

theorem update_puts (h : t.Served w) (scope : Scope) (m : ManagedItem) :
    (t.update scope m).Puts w (t.sent scope m) := by
  cases t with
  | standard backend limit => exact putItem_puts h.answers
  | lazy slot backend auth limit =>
    rcases ensureClient_reads slot backend auth limit w with ⟨-, w₁, hc, h₁⟩ | ⟨hn, -⟩
    · have hputs : (putItem limit scope m).Puts w₁ m.toVaultItem :=
        putItem_puts (h₁.answers h.answers)
      unfold Action.Puts at hputs
      rw [h₁.items, h₁.drawn] at hputs
      unfold Action.Puts
      rw [update, Action.run_bind_ok hc]
      exact hputs
    · exact absurd h.ready hn
  | connect client =>
    cases client with
    | vault => exact updateGatewayItem_puts .vault h.answers
    | http c => exact absurd h.ready id

theorem update_fails (ho : t.OverVault) (h : ¬ t.Served w) (scope : Scope) (m : ManagedItem) :
    ∃ e, (Action.run (t.update scope m) w).1 = .error e := by
  cases t with
  | standard backend limit => exact itemsCall_bind_fails (fun ha => h ⟨trivial, ha⟩) _
  | lazy slot backend auth limit => exact lazy_fails h fun w₁ hn => itemsCall_bind_fails hn _
  | connect client =>
    cases client with
    | vault => exact gatewayCall_bind_fails (fun ha => h ⟨trivial, ha⟩) _
    | http c => exact absurd ho id

/-- What is written back is read back, under the id of its field or under a new one. -/
theorem managed?_stored (t : Transport) (drawn : Nat) (htag : scope.tag ∈ m.tags)
    (hf : scope.Fits m.field) :
    ∃ m', scope.managed? (MemoryVault.withIds drawn (t.sent scope m)) = some m' ∧ m'.id = m.id ∧
      m'.title = m.title ∧ m'.field = MemoryVault.withId drawn m.field := by
  have hfits : scope.Fits (MemoryVault.withId drawn m.field) :=
    ⟨(MemoryVault.withId_type _ _).trans hf.concealed,
      (MemoryVault.withId_title _ _).trans hf.titled⟩
  have hfields : (MemoryVault.withIds drawn (t.sent scope m)).fields =
      [MemoryVault.withId drawn m.field] := by
    rw [← MemoryVault.withFieldIds_single, ← t.sent_fields hf]
    rfl
  cases t with
  | standard backend limit | lazy slot backend auth limit =>
    exact ⟨_, Scope.managed?_single rfl rfl htag hfields hfits, rfl, rfl, rfl⟩
  | connect client =>
    exact ⟨_, Scope.managed?_single rfl rfl (List.mem_singleton_self _) hfields hfits, rfl, rfl,
      rfl⟩

theorem sent_id (t : Transport) (scope : Scope) (m : ManagedItem) : (t.sent scope m).id = m.id := by
  cases t <;> rfl

theorem update_succeeds (h : t.Served w) {item : VaultItem} (hi : item ∈ w.vault.items)
    (hv : item.vaultId = scope.vaultId) (hm : m.vaultId = item.vaultId) (hid : m.id = item.id) :
    (Action.run (t.update scope m) w).1 = .ok () := by
  have hplace : MemoryVault.place item = MemoryVault.place (t.sent scope m) := by
    refine Prod.ext ?_ (hid.symm.trans (t.sent_id scope m).symm)
    cases t with
    | standard backend limit | lazy slot backend auth limit => exact hm.symm
    | connect client => exact hv
  obtain ⟨-, -, -, -, -, w', hr, -⟩ | ⟨hnone, -⟩ := update_puts h scope m
  · exact congrArg Prod.fst hr
  · exact absurd hplace (hnone item hi)

theorem update_reads_back (ho : t.OverVault) (htag : scope.tag ∈ m.tags) (hf : scope.Fits m.field)
    (hok : (Action.run (t.update scope m) w).1 = .ok ()) :
    ∃ front old stored back m', w.vault.items = front ++ old :: back ∧
      (Action.run (t.update scope m) w).2.vault.items = front ++ stored :: back ∧ old.id = m.id ∧
        scope.managed? stored = some m' ∧ m'.id = m.id ∧ m'.title = m.title ∧
        m'.field = MemoryVault.withId w.vault.drawn m.field := by
  have hs : t.Served w := served_of_ok (fun hn => update_fails ho hn scope m) hok
  obtain ⟨front, old, back, hi, hplace, w', hr, hw⟩ | ⟨-, e, he⟩ :=
    update_puts hs scope m
  · obtain ⟨m', hm', hid, htitle, hfield⟩ := t.managed?_stored w.vault.drawn htag hf
    have hold : old.id = m.id := (congrArg Prod.snd hplace).trans (t.sent_id scope m)
    rw [hr]
    exact ⟨front, old, _, back, m', hi, hw, hold, hm', hid, htitle, hfield⟩
  · rw [hok] at he
    cases he

end Transport

end Updating

theorem MemoryVault.withId_id {f : Field} (h : f.id ≠ "") (drawn : Nat) :
    (withId drawn f).id = f.id := by
  have hid : ¬ f.id.isEmpty = true := by simpa using h
  rw [withId, if_neg hid]

/-- A scope manages the active items of its category and tag that have exactly one concealed field,
with its title. It manages what it makes of a managed item, and what is stored when an item is
created or is written back with another value: with the title and the value that were written, and
with the ids that there were. -/
theorem written_items_are_read (scope : Scope) :
    (∀ item, (scope.managed? item).isSome = true ↔
      item.state = .active ∧ item.category = .apiCredential ∧ scope.tag ∈ item.tags ∧
        ∃ front f back, item.fields = front ++ f :: back ∧ f.type = .concealed ∧
          f.title = scope.fieldTitle ∧ ∀ g ∈ front ++ back, g.type ≠ .concealed) ∧
    (∀ item m, scope.managed? item = some m → scope.managed? m.toVaultItem = some m) ∧
    ∀ (t : Transport) (w : World), t.OverVault →
      (∀ title value,
        (t.Served w → (Action.run (t.create scope title value) w).1 = .ok ()) ∧
        ((Action.run (t.create scope title value) w).1 = .ok () →
          ∃ stored m,
            (Action.run (t.create scope title value) w).2.vault.items = w.vault.items ++ [stored] ∧
              scope.managed? stored = some m ∧ m.id = stored.id ∧ m.title = title ∧
              m.field.value = value)) ∧
      ∀ item m value updatedAt, scope.managed? item = some m →
        let sent := { m with field := { m.field with value }, updatedAt }
        (t.Served w → item ∈ w.vault.items → item.vaultId = scope.vaultId →
          (Action.run (t.update scope sent) w).1 = .ok ()) ∧
        ((Action.run (t.update scope sent) w).1 = .ok () →
          ∃ front old stored back m', w.vault.items = front ++ old :: back ∧
            (Action.run (t.update scope sent) w).2.vault.items = front ++ stored :: back ∧
              old.id = m.id ∧ scope.managed? stored = some m' ∧ m'.id = m.id ∧
              m'.title = m.title ∧ m'.field.value = value ∧
              (m.field.id ≠ "" → m'.field.id = m.field.id)) := by
  refine ⟨fun item => Scope.managed?_isSome_iff, fun item m => Scope.managed?_toVaultItem,
    fun t w ho => ⟨fun title value => ⟨fun hs => ?_, fun hok => ?_⟩,
      fun item m value updatedAt hm => ⟨fun hs hi hv => ?_, fun hok => ?_⟩⟩⟩
  · have hwrites : (t.create scope title value).Writes w _ _ _ := Transport.create_writes hs
    obtain ⟨w', hr, -⟩ := hwrites
    exact congrArg Prod.fst hr
  · have hs : t.Served w :=
      Transport.served_of_ok (fun hn => Transport.create_fails ho hn scope title value) hok
    have hwrites : (t.create scope title value).Writes w _ _ _ := Transport.create_writes hs
    obtain ⟨w', hr, hw⟩ := hwrites
    rw [hr]
    exact ⟨_, _, hw.items, scope.managed?_created _ _ _ _, rfl, rfl, rfl⟩
  · obtain ⟨f, -, rfl⟩ := Scope.managed?_eq_some_iff.mp hm
    exact Transport.update_succeeds hs hi hv rfl rfl
  · have hfits := Scope.fits_of_managed? hm
    have htag : scope.tag ∈ m.tags := Scope.tag_mem_of_managed? hm
    obtain ⟨front, old, stored, back, m', hi, hw, hold, hm', hid, htitle, hfield⟩ :=
      Transport.update_reads_back (m := { m with field := { m.field with value }, updatedAt }) ho
        htag ⟨hfits.concealed, hfits.titled⟩ hok
    refine ⟨front, old, stored, back, m', hi, hw, hold, hm', hid, htitle, ?_, fun hne => ?_⟩
    · rw [hfield, MemoryVault.withId_value]
    · rw [hfield]
      exact MemoryVault.withId_id (f := { m.field with value }) hne w.vault.drawn

section Nested

def nestedField : Field := ⟨"held", "keyring", .concealed, "old"⟩

def nestedItem : VaultItem :=
  { Scope.sample.created 0 Timestamp.noon "kr: a" "" with
    tags := ["x", "keyring"]
    fields := [⟨"note", "keyring", .text, "mine"⟩, nestedField, ⟨"site", "site", .url, ""⟩] }

def nestedManaged : ManagedItem := Scope.managedOf nestedItem nestedField

def nestedWorld : World :=
  World.ofVault { MemoryVault.ofItems [nestedItem] with drawn := 1 } Timestamp.noon

def nestedSent : ManagedItem :=
  { nestedManaged with field := { nestedField with value := "new" }, updatedAt := none }

theorem nested_item_is_read :
    Scope.sample.managed? nestedItem = some nestedManaged ∧
      Scope.sample.managed? nestedManaged.toVaultItem = some nestedManaged ∧
      (Transport.standard .standard Duration.zero).OverVault ∧
      (∃ stored m,
        (Action.run ((Transport.standard .standard Duration.zero).create Scope.sample "kr: b" "new")
            nestedWorld).2.vault.items = [nestedItem] ++ [stored] ∧
          Scope.sample.managed? stored = some m ∧ m.id = stored.id ∧ m.title = "kr: b" ∧
          m.field.value = "new") ∧
      (Transport.connect .vault).OverVault ∧
      ∃ front old stored back m', [nestedItem] = front ++ old :: back ∧
        (Action.run ((Transport.connect .vault).update Scope.sample nestedSent)
            nestedWorld).2.vault.items = front ++ stored :: back ∧
          old.id = "mock-1" ∧ Scope.sample.managed? stored = some m' ∧ m'.id = "mock-1" ∧
          m'.title = "kr: a" ∧ m'.field.value = "new" ∧ m'.field.id = "held" := by
  obtain ⟨-, hback, hwrites⟩ := written_items_are_read Scope.sample
  have hm : Scope.sample.managed? nestedItem = some nestedManaged := by decide
  have hcreate := ((hwrites (.standard .standard Duration.zero) nestedWorld trivial).1 "kr: b"
    "new").2 (by decide)
  obtain ⟨front, old, stored, back, m', hi, hw, hold, hm', hid, ht, hvalue, hfield⟩ :=
    ((hwrites (.connect .vault) nestedWorld trivial).2 nestedItem nestedManaged "new" none hm).2
      (by decide)
  exact ⟨hm, hback nestedItem nestedManaged hm, trivial, hcreate, trivial, front, old, stored, back,
    m', hi, hw, hold, hm', hid, ht, hvalue, hfield (by decide)⟩

end Nested

end VaultRing
