import Mathlib.Data.List.Nodup
import VaultRing.Proofs.ManagedItems
import VaultRing.Vault.Memory

namespace VaultRing.MemoryVault

def place (item : VaultItem) : String × String := (item.vaultId, item.id)

def Distinct (v : MemoryVault) : Prop := (v.items.map place).Nodup

instance (v : MemoryVault) : Decidable v.Distinct :=
  inferInstanceAs (Decidable (v.items.map place).Nodup)

/-- No item has an id that is still to be given. -/
def Fresh (v : MemoryVault) : Prop := ∀ item ∈ v.items, ∀ n, v.drawn < n → item.id ≠ idText n

theorem isAt_iff {vaultId itemId : String} {item : VaultItem} :
    isAt vaultId itemId item = true ↔ place item = (vaultId, itemId) := by
  simp [isAt, place]

theorem idText_injective : Function.Injective idText := by
  intro m n h
  have hd : Nat.toDigits 10 m = Nat.toDigits 10 n := by
    simpa [idText] using congrArg String.toList h
  have hn := congrArg (fun ds => Nat.ofDigitChars 10 ds 0) hd
  simpa [Nat.ofDigitChars_toDigits] using hn

theorem fresh_of_given {v : MemoryVault}
    (h : ∀ item ∈ v.items, ∃ n ≤ v.drawn, item.id = idText n) : v.Fresh := by
  intro item hi n hn he
  obtain ⟨given, hg, hid⟩ := h item hi
  have hsame : given = n := idText_injective (hid.symm.trans he)
  omega

section Distinct

variable {v : MemoryVault}

theorem Distinct.eq_of_place (h : v.Distinct) {i j : VaultItem} (hi : i ∈ v.items)
    (hj : j ∈ v.items) (hij : place i = place j) : i = j :=
  List.inj_on_of_nodup_map h hi hj hij

theorem Distinct.find_eq (h : v.Distinct) {i : VaultItem} (hi : i ∈ v.items) :
    v.find i.vaultId i.id = .ok i := by
  obtain ⟨j, hj⟩ : ∃ j, v.items.find? (isAt i.vaultId i.id) = some j := by
    have hsome : (v.items.find? (isAt i.vaultId i.id)).isSome :=
      List.find?_isSome.mpr ⟨i, hi, isAt_iff.mpr rfl⟩
    exact Option.isSome_iff_exists.mp hsome
  have hji : place j = place i := isAt_iff.mp (List.find?_some hj)
  obtain rfl : j = i := h.eq_of_place (List.mem_of_find?_eq_some hj) hi hji
  simp [find, hj]

end Distinct

section FieldIds

theorem le_withFieldIds (drawn : Nat) (fields : List Field) :
    drawn ≤ (withFieldIds drawn fields).2 := by
  induction fields generalizing drawn with
  | nil => exact Nat.le_refl _
  | cons f fields ih =>
    simp only [withFieldIds]
    split
    · exact Nat.le_trans (Nat.le_succ drawn) (ih (drawn + 1))
    · exact ih drawn

def withId (drawn : Nat) (f : Field) : Field :=
  if f.id.isEmpty then { f with id := idText (drawn + 1) } else f

section

variable (drawn : Nat) (f : Field)

@[simp] theorem withId_title : (withId drawn f).title = f.title := by
  unfold withId
  split <;> rfl

@[simp] theorem withId_type : (withId drawn f).type = f.type := by
  unfold withId
  split <;> rfl

@[simp] theorem withId_value : (withId drawn f).value = f.value := by
  unfold withId
  split <;> rfl

end

theorem withFieldIds_single (drawn : Nat) (f : Field) :
    (withFieldIds drawn [f]).1 = [withId drawn f] := by
  simp only [withFieldIds, withId]
  split <;> rfl

end FieldIds

section Rewriting

def rewrite (item : VaultItem) (items : List VaultItem) : List VaultItem :=
  items.map fun i => if place i = place item then item else i

theorem rewrite_eq_self {item : VaultItem} {items : List VaultItem}
    (h : ∀ i ∈ items, place i ≠ place item) : rewrite item items = items := by
  unfold rewrite
  conv_rhs => rw [← List.map_id items]
  apply List.map_congr_left
  intro i hi
  simp [h i hi]

theorem map_place_rewrite (item : VaultItem) (items : List VaultItem) :
    (rewrite item items).map place = items.map place := by
  unfold rewrite
  rw [List.map_map]
  apply List.map_congr_left
  intro i _
  by_cases hp : place i = place item <;> simp [hp]

theorem replaceFirst_eq_rewrite {item : VaultItem} {items : List VaultItem}
    (hd : (items.map place).Nodup) (hi : ∃ i ∈ items, place i = place item) :
    replaceFirst item items = some (rewrite item items) := by
  induction items with
  | nil => obtain ⟨i, hi, _⟩ := hi; cases hi
  | cons j items ih =>
    obtain ⟨hj, hd'⟩ := List.nodup_cons.mp hd
    by_cases hp : place j = place item
    · have hothers : ∀ i ∈ items, place i ≠ place item := by
        intro i hi he
        exact hj (hp ▸ he ▸ List.mem_map_of_mem hi)
      have hat : isAt item.vaultId item.id j = true := isAt_iff.mpr hp
      have hhead : rewrite item (j :: items) = item :: items := by
        change (if place j = place item then item else j) :: rewrite item items = item :: items
        rw [if_pos hp, rewrite_eq_self hothers]
      simp only [replaceFirst, hat, ↓reduceIte, hhead]
    · have hat : isAt item.vaultId item.id j = false :=
        Bool.eq_false_iff.mpr fun h => hp (isAt_iff.mp h)
      have hmem : ∃ i ∈ items, place i = place item := by
        obtain ⟨i, hi, he⟩ := hi
        rcases List.mem_cons.mp hi with rfl | hi
        · exact absurd he hp
        · exact ⟨i, hi, he⟩
      have htail : rewrite item (j :: items) = j :: rewrite item items := by
        simp [rewrite, hp]
      simp [replaceFirst, hat, ih hd' hmem, htail]

/-- An item with one field, written to where there is an item. -/
theorem replace_single {v : MemoryVault} (hd : v.Distinct) {item : VaultItem} {f : Field}
    (hf : item.fields = [f]) (hi : ∃ i ∈ v.items, place i = place item) :
    v.replace item =
      (.ok { item with fields := [withId v.drawn f] },
        { v with
          items := rewrite { item with fields := [withId v.drawn f] } v.items
          drawn := (withFieldIds v.drawn [f]).2 }) := by
  have hr : replaceFirst { item with fields := [withId v.drawn f] } v.items =
      some (rewrite { item with fields := [withId v.drawn f] } v.items) :=
    replaceFirst_eq_rewrite hd hi
  unfold replace
  simp only [hf, withFieldIds_single, hr]

theorem take_eq {v : MemoryVault} {vaultId itemId : String}
    (hi : ∃ i ∈ v.items, place i = (vaultId, itemId)) :
    v.take vaultId itemId =
      (.ok (), { v with items := v.items.filter (!isAt vaultId itemId ·) }) := by
  have hany : v.items.any (isAt vaultId itemId) = true := by
    obtain ⟨i, hmem, hp⟩ := hi
    exact List.any_eq_true.mpr ⟨i, hmem, isAt_iff.mpr hp⟩
  simp [take, hany]

end Rewriting

end VaultRing.MemoryVault
