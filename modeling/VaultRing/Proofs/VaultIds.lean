import VaultRing.Proofs.KeyringSession

namespace VaultRing

inductive ClientCall where
  | items (limit : Option Duration) (call : ItemsCall)
  | gateway (call : GatewayCall)

inductive Edit where
  | store (item : VaultItem)
  | replace (item : VaultItem)
  | take (vaultId itemId : String)

def ItemsCall.edit? : ItemsCall → Option Edit
  | .list .. | .get .. => none
  | .create item => some (.store (MemoryVault.newItem item))
  | .put item => some (.replace item)
  | .delete vaultId itemId => some (.take vaultId itemId)

def GatewayCall.edit? : GatewayCall → Option Edit
  | .list _ | .listByTitle .. | .get .. => none
  | .create item vaultId => some (.store { item.toVaultItem with vaultId })
  | .update item vaultId => some (.replace { item.toVaultItem with vaultId })
  | .delete itemId vaultId => some (.take vaultId itemId)

namespace ClientCall

def limit? : ClientCall → Option Duration
  | .items limit _ => limit
  | .gateway _ => none

def kind : ClientCall → CallKind
  | .items _ call => call.kind
  | .gateway call => call.kind

def edit? : ClientCall → Option Edit
  | .items _ call => call.edit?
  | .gateway call => call.edit?

end ClientCall

structure Visit where
  call : ClientCall
  now : Timestamp
  delay : Option Nat
  failure : Option String

namespace MemoryVault

section Replacing

theorem replaceFirst_cases (item : VaultItem) (items : List VaultItem) :
    (∃ front old back, items = front ++ old :: back ∧ (∀ i ∈ front, place i ≠ place item) ∧
        place old = place item ∧ replaceFirst item items = some (front ++ item :: back)) ∨
      (∀ i ∈ items, place i ≠ place item) ∧ replaceFirst item items = none := by
  induction items with
  | nil => exact .inr ⟨fun _ hi => absurd hi List.not_mem_nil, rfl⟩
  | cons i items ih =>
    by_cases hp : place i = place item
    · have hat : isAt item.vaultId item.id i = true := isAt_iff.mpr hp
      exact .inl ⟨[], i, items, rfl, fun _ hi => absurd hi List.not_mem_nil, hp, if_pos hat⟩
    · have hat : ¬ isAt item.vaultId item.id i = true := fun h => hp (isAt_iff.mp h)
      have hrest : replaceFirst item (i :: items) = (replaceFirst item items).map (i :: ·) :=
        if_neg hat
      rw [hrest]
      obtain ⟨front, old, back, rfl, hfront, hold, hr⟩ | ⟨hnone, hr⟩ := ih
      · refine .inl ⟨i :: front, old, back, rfl, List.forall_mem_cons.mpr ⟨hp, hfront⟩, hold, ?_⟩
        rw [hr]
        rfl
      · exact .inr ⟨List.forall_mem_cons.mpr ⟨hp, hnone⟩, by rw [hr]; rfl⟩

def withIds (drawn : Nat) (item : VaultItem) : VaultItem :=
  { item with fields := (withFieldIds drawn item.fields).1 }

section Replace

variable {v : MemoryVault} {item : VaultItem}

theorem replace_of_some {items : List VaultItem}
    (h : replaceFirst (withIds v.drawn item) v.items = some items) :
    v.replace item = (.ok (withIds v.drawn item),
      { v with items, drawn := (withFieldIds v.drawn item.fields).2 }) := by
  unfold withIds at h
  simp only [replace, h, withIds]

theorem replace_of_none (h : replaceFirst (withIds v.drawn item) v.items = none) :
    v.replace item = (.error (notFound item.id),
      { v with drawn := (withFieldIds v.drawn item.fields).2 }) := by
  unfold withIds at h
  simp only [replace, h]

end Replace

/-- What is sent replaces the first item in its place, or is refused; its fields get their ids in
either case. -/
theorem replace_cases (v : MemoryVault) (item : VaultItem) :
    (∃ front old back, v.items = front ++ old :: back ∧ (∀ i ∈ front, place i ≠ place item) ∧
        place old = place item ∧
        v.replace item = (.ok (withIds v.drawn item),
          { v with
            items := front ++ withIds v.drawn item :: back
            drawn := (withFieldIds v.drawn item.fields).2 })) ∨
      (∀ i ∈ v.items, place i ≠ place item) ∧
        v.replace item = (.error (notFound item.id),
          { v with drawn := (withFieldIds v.drawn item.fields).2 }) := by
  have hplace : place (withIds v.drawn item) = place item := rfl
  obtain ⟨front, old, back, hi, hfront, hold, hr⟩ | ⟨hnone, hr⟩ :=
    replaceFirst_cases (withIds v.drawn item) v.items
  · exact .inl ⟨front, old, back, hi, hplace ▸ hfront, hold.trans hplace, replace_of_some hr⟩
  · exact .inr ⟨hplace ▸ hnone, replace_of_none hr⟩

end Replacing

section Giving

def newIds (sent stored : List Field) : List String :=
  (sent.zip stored).filterMap fun (before, after) =>
    if before.id.isEmpty then some after.id else none

def nextIds (drawn count : Nat) : List String := (List.range' (drawn + 1) count).map idText

theorem nextIds_succ (drawn count : Nat) :
    nextIds drawn (count + 1) = idText (drawn + 1) :: nextIds (drawn + 1) count := by
  simp [nextIds, List.range'_succ]

theorem nextIds_append (drawn m n : Nat) :
    nextIds drawn m ++ nextIds (drawn + m) n = nextIds drawn (m + n) := by
  unfold nextIds
  rw [← List.map_append, Nat.add_right_comm, List.range'_append_1]

theorem nextIds_nodup (drawn count : Nat) : (nextIds drawn count).Nodup :=
  List.Nodup.map idText_injective List.nodup_range'

theorem mem_nextIds {drawn count : Nat} {id : String} :
    id ∈ nextIds drawn count ↔ ∃ n, drawn < n ∧ n ≤ drawn + count ∧ id = idText n := by
  simp only [nextIds, List.mem_map, List.mem_range'_1]
  constructor
  · rintro ⟨n, ⟨hlow, hhigh⟩, rfl⟩
    exact ⟨n, by omega, by omega, rfl⟩
  · rintro ⟨n, hlow, hhigh, rfl⟩
    exact ⟨n, ⟨by omega, by omega⟩, rfl⟩

section Fields

variable {drawn : Nat} {f : Field} {fields : List Field}

theorem withFieldIds_cons_new (h : f.id.isEmpty = true) :
    withFieldIds drawn (f :: fields) =
      ({ f with id := idText (drawn + 1) } :: (withFieldIds (drawn + 1) fields).1,
        (withFieldIds (drawn + 1) fields).2) := if_pos h

theorem withFieldIds_cons_old (h : ¬ f.id.isEmpty = true) :
    withFieldIds drawn (f :: fields) =
      (f :: (withFieldIds drawn fields).1, (withFieldIds drawn fields).2) := if_neg h

theorem newIds_withFieldIds (drawn : Nat) (fields : List Field) :
    ∃ count, (withFieldIds drawn fields).2 = drawn + count ∧
      newIds fields (withFieldIds drawn fields).1 = nextIds drawn count := by
  induction fields generalizing drawn with
  | nil => exact ⟨0, rfl, rfl⟩
  | cons f fields ih =>
    by_cases hf : f.id.isEmpty = true
    · obtain ⟨count, hdrawn, hids⟩ := ih (drawn + 1)
      rw [withFieldIds_cons_new hf]
      refine ⟨count + 1, hdrawn.trans (by omega), ?_⟩
      rw [nextIds_succ, ← hids]
      exact List.filterMap_cons_some (if_pos hf)
    · obtain ⟨count, hdrawn, hids⟩ := ih drawn
      rw [withFieldIds_cons_old hf]
      refine ⟨count, hdrawn, ?_⟩
      rw [← hids]
      exact List.filterMap_cons_none (if_neg hf)

theorem idText_ne_empty (n : Nat) : idText n ≠ "" := by
  intro h
  have hlength := congrArg (fun s => s.toList.length) h
  simp [idText] at hlength

theorem id_ne_empty_of_mem_withFieldIds {g : Field} (h : g ∈ (withFieldIds drawn fields).1) :
    g.id ≠ "" := by
  induction fields generalizing drawn with
  | nil => cases h
  | cons f fields ih =>
    by_cases hf : f.id.isEmpty = true
    · rw [withFieldIds_cons_new hf] at h
      rcases List.mem_cons.mp h with rfl | h
      · exact idText_ne_empty _
      · exact ih h
    · rw [withFieldIds_cons_old hf] at h
      rcases List.mem_cons.mp h with rfl | h
      · exact fun he => hf (by rw [he]; rfl)
      · exact ih h

end Fields

end Giving

section Serving

def meeting (v : MemoryVault) (visit : Visit) : MemoryVault :=
  { v with delay := visit.delay, failure := visit.failure }

def serve (v : MemoryVault) (visit : Visit) : MemoryVault :=
  match visit.call with
  | .items limit call => ((v.meeting visit).answerItems visit.now limit call).2
  | .gateway call => ((v.meeting visit).answerGateway visit.now call).2

def edited (v : MemoryVault) (now : Timestamp) : Edit → MemoryVault
  | .store item => (v.store now item).2
  | .replace item => (v.replace item).2
  | .take vaultId itemId => (v.take vaultId itemId).2

/-- The ids that an edit gives: to a new item, and to the fields that were sent without one, even if
there is nothing to replace. -/
def givenBy (v : MemoryVault) (now : Timestamp) : Edit → List String
  | .store item =>
    let stored := (v.store now item).1
    stored.id :: newIds item.fields stored.fields
  | .replace item => newIds item.fields (withIds v.drawn item).fields
  | .take .. => []

def handsOut (v : MemoryVault) (visit : Visit) : List String :=
  match ((v.meeting visit).enter visit.call.kind visit.call.limit?).1 with
  | .ok () => (visit.call.edit?.map (v.givenBy visit.now)).getD []
  | .error _ => []

/-- What may become of the stored items and of the count of ids, when `ids` are given. -/
inductive Change (items : List VaultItem) (drawn : Nat) :
    (ids : List String) → List VaultItem → Nat → Prop where
  | nothing : Change items drawn [] items drawn
  | stores (item : VaultItem) (sent : List Field) (id : item.id = idText (drawn + 1))
      (fields : item.fields = (withFieldIds (drawn + 1) sent).1) :
      Change items drawn (item.id :: newIds sent item.fields) (items ++ [item])
        (withFieldIds (drawn + 1) sent).2
  | replaces (front : List VaultItem) (old : VaultItem) (back : List VaultItem) (item : VaultItem)
      (before : items = front ++ old :: back) (place : place old = place item) :
      Change items drawn (newIds item.fields (withIds drawn item).fields)
        (front ++ withIds drawn item :: back) (withFieldIds drawn item.fields).2
  | misses (item : VaultItem) :
      Change items drawn (newIds item.fields (withIds drawn item).fields) items
        (withFieldIds drawn item.fields).2
  | takes (kept : VaultItem → Bool) : Change items drawn [] (items.filter kept) drawn

theorem edited_change (v : MemoryVault) (now : Timestamp) (edit : Edit) :
    Change v.items v.drawn (v.givenBy now edit) (v.edited now edit).items
      (v.edited now edit).drawn := by
  cases edit with
  | store item => exact .stores (v.store now item).1 item.fields rfl rfl
  | replace item =>
    change Change _ _ _ (v.replace item).2.items (v.replace item).2.drawn
    obtain ⟨front, old, back, hi, -, hplace, hr⟩ | ⟨-, hr⟩ := v.replace_cases item
    · rw [hr]
      exact .replaces front old back item hi hplace
    · rw [hr]
      exact .misses item
  | take vaultId itemId =>
    change Change _ _ [] (v.take vaultId itemId).2.items (v.take vaultId itemId).2.drawn
    unfold take
    split
    · exact .takes _
    · exact .nothing

theorem itemsEffect_eq_edited (v : MemoryVault) (now : Timestamp) (call : ItemsCall) :
    (v.itemsEffect now call).2 = (call.edit?.map (v.edited now)).getD v := by
  cases call <;> rfl

theorem gatewayEffect_eq_edited (v : MemoryVault) (now : Timestamp) (call : GatewayCall) :
    (v.gatewayEffect now call).2 = (call.edit?.map (v.edited now)).getD v := by
  cases call <;> rfl

section Visit

variable {v : MemoryVault} {visit : Visit}

theorem serve_of_answers (h : (v.meeting visit).Answers visit.call.limit?) :
    v.serve visit =
      (visit.call.edit?.map (((v.meeting visit).counted visit.call.kind).edited visit.now)).getD
        ((v.meeting visit).counted visit.call.kind) := by
  obtain ⟨call, now, delay, failure⟩ := visit
  cases call with
  | items limit call =>
    exact (congrArg Prod.snd (answerItems_of_answers h now call)).trans
      (itemsEffect_eq_edited _ now call)
  | gateway call =>
    exact (congrArg Prod.snd (answerGateway_of_answers h now call)).trans
      (gatewayEffect_eq_edited _ now call)

theorem serve_of_not_answers (h : ¬ (v.meeting visit).Answers visit.call.limit?) :
    v.serve visit = (v.meeting visit).counted visit.call.kind := by
  obtain ⟨call, now, delay, failure⟩ := visit
  cases call with
  | items limit call =>
    obtain ⟨source, hs⟩ := answerItems_of_not_answers h now call
    exact congrArg Prod.snd hs
  | gateway call =>
    obtain ⟨source, hs⟩ := answerGateway_of_not_answers h now call
    exact congrArg Prod.snd hs

end Visit

theorem serve_change (v : MemoryVault) (visit : Visit) :
    Change v.items v.drawn (v.handsOut visit) (v.serve visit).items (v.serve visit).drawn := by
  unfold handsOut
  by_cases h : (v.meeting visit).Answers visit.call.limit?
  · rw [serve_of_answers h, enter_of_answers h]
    cases visit.call.edit? with
    | none => exact .nothing
    | some edit => exact ((v.meeting visit).counted visit.call.kind).edited_change visit.now edit
  · obtain ⟨source, hs⟩ := enter_of_not_answers h visit.call.kind
    rw [serve_of_not_answers h, hs]
    exact .nothing

end Serving

section Issuing

/-- The stored items have distinct ids that have been given, and each of their fields has one. -/
structure Issued (items : List VaultItem) (drawn : Nat) : Prop where
  distinct : (items.map (·.id)).Nodup
  given : ∀ item ∈ items, item.id ∈ nextIds 0 drawn
  named : ∀ item ∈ items, ∀ f ∈ item.fields, f.id ≠ ""

theorem Issued.nil : Issued [] 0 where
  distinct := List.nodup_nil
  given := fun _ hi => absurd hi List.not_mem_nil
  named := fun _ hi => absurd hi List.not_mem_nil

theorem mem_nextIds_of_le {drawn drawn' : Nat} {id : String} (h : id ∈ nextIds 0 drawn)
    (hle : drawn ≤ drawn') : id ∈ nextIds 0 drawn' := by
  obtain ⟨n, hpos, hn, rfl⟩ := mem_nextIds.mp h
  exact mem_nextIds.mpr ⟨n, hpos, by omega, rfl⟩

theorem map_place_replaced {old item : VaultItem} (h : place old = place item) (drawn : Nat)
    (front back : List VaultItem) :
    (front ++ withIds drawn item :: back).map place = (front ++ old :: back).map place := by
  have hplace : place (withIds drawn item) = place old := h.symm
  rw [List.map_append, List.map_append, List.map_cons, List.map_cons, hplace]

theorem map_id_of_map_place {items items' : List VaultItem}
    (h : items'.map place = items.map place) : items'.map (·.id) = items.map (·.id) := by
  have hids := congrArg (List.map Prod.snd) h
  rwa [List.map_map, List.map_map] at hids

section Change

variable {items items' : List VaultItem} {drawn drawn' : Nat} {ids : List String}

/-- The ids that are given are the next ones. -/
theorem Change.ids_eq (h : Change items drawn ids items' drawn') :
    ∃ count, drawn' = drawn + count ∧ ids = nextIds drawn count := by
  cases h with
  | nothing | takes kept => exact ⟨0, rfl, rfl⟩
  | stores item sent hid hfields =>
    obtain ⟨count, hdrawn, hids⟩ := newIds_withFieldIds (drawn + 1) sent
    refine ⟨count + 1, hdrawn.trans (by omega), ?_⟩
    rw [hfields, hids, hid, nextIds_succ]
  | replaces front old back item before hplace => exact newIds_withFieldIds drawn item.fields
  | misses item => exact newIds_withFieldIds drawn item.fields

theorem Change.issued (h : Change items drawn ids items' drawn') (hi : Issued items drawn) :
    Issued items' drawn' := by
  obtain ⟨count, hdrawn, -⟩ := h.ids_eq
  have hle : drawn ≤ drawn' := by omega
  cases h with
  | nothing => exact hi
  | stores item sent hid hfields =>
    have hnew : item.id ∉ items.map (·.id) := by
      intro hmem
      obtain ⟨old, hold, he⟩ := List.mem_map.mp hmem
      obtain ⟨n, -, hn, hid'⟩ := mem_nextIds.mp (hi.given old hold)
      have hsame : n = drawn + 1 := idText_injective (hid'.symm.trans (he.trans hid))
      omega
    refine ⟨?_, List.forall_mem_append.mpr ⟨?_, ?_⟩, List.forall_mem_append.mpr ⟨hi.named, ?_⟩⟩
    · rw [List.map_append, List.map_singleton, ← List.concat_eq_append]
      exact hi.distinct.concat hnew
    · exact fun old hold => mem_nextIds_of_le (hi.given old hold) hle
    · have hlt := le_withFieldIds (drawn + 1) sent
      exact List.forall_mem_singleton.mpr (mem_nextIds.mpr ⟨drawn + 1, by omega, by omega, hid⟩)
    · refine List.forall_mem_singleton.mpr fun f hf => ?_
      exact id_ne_empty_of_mem_withFieldIds (hfields ▸ hf)
  | replaces front old back item before hplace =>
    subst before
    have hids := map_id_of_map_place (map_place_replaced hplace drawn front back)
    refine ⟨hids ▸ hi.distinct, fun i him => ?_, fun i him f hf => ?_⟩
    · obtain ⟨i', hi', he⟩ := List.mem_map.mp (hids ▸ List.mem_map_of_mem him)
      exact he ▸ mem_nextIds_of_le (hi.given i' hi') hle
    · rcases List.mem_append.mp him with hfront | hrest
      · exact hi.named i (List.mem_append_left _ hfront) f hf
      · rcases List.mem_cons.mp hrest with rfl | hback
        · exact id_ne_empty_of_mem_withFieldIds hf
        · exact hi.named i (List.mem_append_right _ (List.mem_cons_of_mem _ hback)) f hf
  | misses item =>
    exact ⟨hi.distinct, fun i him => mem_nextIds_of_le (hi.given i him) hle, hi.named⟩
  | takes kept =>
    have hsub : (items.filter kept).Sublist items := List.filter_sublist
    exact ⟨hi.distinct.sublist (hsub.map _), fun i him => hi.given i (hsub.subset him),
      fun i him => hi.named i (hsub.subset him)⟩

end Change

def after (v : MemoryVault) (visits : List Visit) : MemoryVault := visits.foldl serve v

def handedOut (v : MemoryVault) : List Visit → List String
  | [] => []
  | visit :: visits => v.handsOut visit ++ (v.serve visit).handedOut visits

theorem handedOut_eq (v : MemoryVault) (visits : List Visit) :
    ∃ count, (v.after visits).drawn = v.drawn + count ∧
      v.handedOut visits = nextIds v.drawn count := by
  induction visits generalizing v with
  | nil => exact ⟨0, rfl, rfl⟩
  | cons visit visits ih =>
    obtain ⟨m, hm, hids⟩ := (v.serve_change visit).ids_eq
    obtain ⟨n, hn, hrest⟩ := ih (v.serve visit)
    refine ⟨m + n, hn.trans (by omega), ?_⟩
    rw [handedOut, hids, hrest, hm, nextIds_append]

theorem after_issued {v : MemoryVault} (h : Issued v.items v.drawn) (visits : List Visit) :
    Issued (v.after visits).items (v.after visits).drawn := by
  induction visits generalizing v with
  | nil => exact h
  | cons visit visits ih => exact ih ((v.serve_change visit).issued h)

end Issuing

theorem replace_places (v : MemoryVault) (item : VaultItem) :
    (v.replace item).2.items.map place = v.items.map place := by
  obtain ⟨front, old, back, hi, -, hplace, hr⟩ | ⟨-, hr⟩ := v.replace_cases item
  · rw [hr, hi]
    exact map_place_replaced hplace v.drawn front back
  · rw [hr]

/-- A visit that is to put an item in the place of another leaves all places and ids as they are. -/
theorem serve_places (v : MemoryVault) (visit : Visit) {item : VaultItem}
    (h : visit.call.edit? = some (.replace item)) :
    (v.serve visit).items.map place = v.items.map place := by
  by_cases ha : (v.meeting visit).Answers visit.call.limit?
  · rw [serve_of_answers ha, h]
    exact replace_places _ item
  · rw [serve_of_not_answers ha]
    rfl

/-- Whoever visits an empty vault, and whatever comes of it: the ids that are given, to items and to
fields without one, are those of the count from the first on, so none is given twice; the stored
items have distinct ones among them, and no field is without. Where an item is put in the place of
another, all items keep their places and their ids. -/
theorem ids_are_never_reused (visits : List Visit) :
    (((ofItems []).after visits).items.map (·.id)).Nodup ∧
      (ofItems []).handedOut visits =
        (List.range' 1 ((ofItems []).after visits).drawn).map idText ∧
      ((ofItems []).handedOut visits).Nodup ∧
      (∀ item ∈ ((ofItems []).after visits).items,
        item.id ∈ (ofItems []).handedOut visits ∧ ∀ f ∈ item.fields, f.id ≠ "") ∧
      ∀ (v : MemoryVault) (now : Timestamp),
        (∀ limit item,
          (v.answerItems now limit (.put item)).2.items.map place = v.items.map place) ∧
        ∀ item vaultId,
          (v.answerGateway now (.update item vaultId)).2.items.map place = v.items.map place := by
  obtain ⟨count, hdrawn, hids⟩ := (ofItems []).handedOut_eq visits
  have hcount : ((ofItems []).after visits).drawn = count := hdrawn.trans (Nat.zero_add count)
  have hissued := after_issued (v := ofItems []) .nil visits
  rw [hcount] at hissued
  rw [hids, hcount]
  refine ⟨hissued.distinct, rfl, nextIds_nodup _ _,
    fun item hi => ⟨hissued.given item hi, hissued.named item hi⟩,
    fun v now => ⟨fun limit item => ?_, fun item vaultId => ?_⟩⟩
  · exact v.serve_places ⟨.items limit (.put item), now, v.delay, v.failure⟩ rfl
  · exact v.serve_places ⟨.gateway (.update item vaultId), now, v.delay, v.failure⟩ rfl

section Visited

def namelessField : Field := ⟨"", "keyring", .concealed, ""⟩

/-- Items are created through both clients, an item is put that is not there, the first item is
deleted, and one is not created because the vault is down. -/
def mixedVisits : List Visit :=
  let calm (call : ClientCall) : Visit := ⟨call, Timestamp.noon, none, none⟩
  [calm (.items none (.create ⟨.apiCredential, "v", "a", [namelessField], []⟩)),
    calm (.gateway (.create
      { GatewayItem.empty with
        id := "mock-1"
        fields := [⟨"mock-7", .text, "", ""⟩, .ofField namelessField] } "w")),
    calm (.items none (.put { newItem ⟨.apiCredential, "v", "a", [namelessField], []⟩ with
      id := "mock-9" })),
    calm (.gateway (.delete "mock-1" "v")),
    ⟨.gateway (.create .empty "v"), Timestamp.noon, none, some "down"⟩,
    calm (.items none (.create ⟨.apiCredential, "v", "a", [namelessField], []⟩))]

theorem mixed_visits_reuse_no_id :
    ((ofItems []).after mixedVisits).items.map (·.id) = ["mock-3", "mock-6"] ∧
      (ofItems []).handedOut mixedVisits =
        ["mock-1", "mock-2", "mock-3", "mock-4", "mock-5", "mock-6", "mock-7"] ∧
      ((ofItems []).handedOut mixedVisits).Nodup ∧
      ∃ item ∈ ((ofItems []).after mixedVisits).items,
        item.id ∈ (ofItems []).handedOut mixedVisits ∧ ∀ f ∈ item.fields, f.id ≠ "" := by
  obtain ⟨-, -, hnodup, hitems, -⟩ := ids_are_never_reused mixedVisits
  have hids : ((ofItems []).after mixedVisits).items.map (·.id) = ["mock-3", "mock-6"] := by decide
  obtain ⟨item, hi, -⟩ := List.mem_map.mp (hids ▸ List.mem_cons_self : "mock-3" ∈ _)
  exact ⟨hids, by decide, hnodup, item, hi, hitems item hi⟩

end Visited

end MemoryVault

end VaultRing
