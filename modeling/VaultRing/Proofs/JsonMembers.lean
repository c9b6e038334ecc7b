import Mathlib.Logic.Function.Basic
import VaultRing.Proofs.JsonValues

/-!
What a record makes of an object, whatever the order and the spelling of its members and whatever
others stand among them: each known member takes the collection one step further, the others are
passed over, and anything else makes the whole object fail.
-/
namespace VaultRing.Json

variable {σ α : Type}

structure ObjectText (members : List (List Char × List Char)) (text : List Char) : Prop where
  names : ∀ member ∈ members, Text.Chars member.1
  values : ∀ member ∈ members, IsValue member.2
  layout : IsObject members text

theorem ObjectText.isValue {members : List (List Char × List Char)} {text : List Char}
    (h : ObjectText members text) : IsValue text := .object h.names h.values h.layout

def Named (member : List Char × List Char) (named : String × List Char) : Prop :=
  Text.Says member.1 named.1.toList ∧ member.2 = named.2

section Named

variable {members : List (List Char × List Char)} {named : List (String × List Char)}

theorem chars_of_named (h : List.Forall₂ Named members named) :
    ∀ member ∈ members, Text.Chars member.1 := by
  induction h with
  | nil => simp
  | cons hm _ ih => exact List.forall_mem_cons.mpr ⟨hm.1.chars, ih⟩

theorem values_of_named (h : List.Forall₂ Named members named)
    (hvalues : ∀ member ∈ members, IsValue member.2) : ∀ member ∈ named, IsValue member.2 := by
  induction h with
  | nil => simp
  | cons hm _ ih =>
    obtain ⟨hvalue, hvalues⟩ := List.forall_mem_cons.mp hvalues
    exact List.forall_mem_cons.mpr ⟨hm.2 ▸ hvalue, ih hvalues⟩

end Named

def Shows (P : List (String × List Char) → Prop) (value : List Char) : Prop :=
  ∃ members named, ObjectText members value ∧ List.Forall₂ Named members named ∧ P named

theorem Shows.isValue {P : List (String × List Char) → Prop} {value : List Char}
    (h : Shows P value) : IsValue value := by
  obtain ⟨members, named, hobject, -⟩ := h
  exact hobject.isValue

def valuesOf (name : String) (named : List (String × List Char)) : List (List Char) :=
  (named.filter (·.1 == name)).map (·.2)

/-- At most one member has this name: it shows what it should, or what its absence means holds. -/
def Held (named : List (String × List Char)) (name : String) (shows : List Char → Prop)
    (absent : Prop) : Prop :=
  valuesOf name named = [] ∧ absent ∨ ∃ value, valuesOf name named = [value] ∧ shows value

section Held

variable {named : List (String × List Char)} {name other : String} {value : List Char}

theorem valuesOf_cons_self :
    valuesOf name ((name, value) :: named) = value :: valuesOf name named := by
  simp [valuesOf]

theorem valuesOf_cons_of_ne (h : other ≠ name) :
    valuesOf name ((other, value) :: named) = valuesOf name named := by
  simp [valuesOf, h]

theorem Held.mono {shows shows' : List Char → Prop} {absent absent' : Prop}
    (h : Held named name shows absent) (hs : ∀ value, shows value → shows' value)
    (ha : absent → absent') : Held named name shows' absent' := by
  obtain ⟨hnone, h⟩ | ⟨value, hone, h⟩ := h
  · exact .inl ⟨hnone, ha h⟩
  · exact .inr ⟨value, hone, hs value h⟩

end Held

namespace Record

section Steps

/-- One member takes a collection, together with the names that have been seen, a step further. -/
inductive Takes (known : List (Member σ)) :
    List String × σ → String × List Char → List String × σ → Prop where
  | known {seen : List String} {s t : σ} {name : String} {value : List Char} {m : Member σ}
      (hm : known.find? (·.name == name) = some m) (hnew : name ∉ seen)
      (hread : (m.read s).Gets value t) : Takes known (seen, s) (name, value) (name :: seen, t)
  | unknown {seen : List String} {s : σ} {name : String} {value : List Char}
      (hm : known.find? (·.name == name) = none) (hvalue : IsValue value) :
      Takes known (seen, s) (name, value) (seen, s)

inductive Gathers (known : List (Member σ)) :
    List String × σ → List (String × List Char) → List String × σ → Prop where
  | nil (p : List String × σ) : Gathers known p [] p
  | cons {p q r : List String × σ} {member : String × List Char}
      {rest : List (String × List Char)} (h : Takes known p member q)
      (hrest : Gathers known q rest r) : Gathers known p (member :: rest) r

variable {known : List (Member σ)} {first : Bool} {fuel : Nat} {p q : List String × σ}

section Keys

variable {skipped skipped' text : List Char} (hb : Blanks skipped)
include hb

theorem anotherKey_done (first : Bool) :
    (anotherKey first).Leads (skipped ++ '\x7d' :: text) ('\x7d' :: text) false :=
  (Reader.blanks_past hb rfl).bind ((Reader.peek_leads _ text).bind (.pure false _))

theorem anotherKey_opening : (anotherKey true).Leads (skipped ++ '"' :: text) text true :=
  (Reader.blanks_past hb rfl).bind
    ((Reader.peek_leads _ text).bind ((Reader.pass_leads _ text).bind (.pure true _)))

theorem anotherKey_comma (hb' : Blanks skipped') :
    (anotherKey false).Leads (skipped ++ ',' :: (skipped' ++ '"' :: text)) text true :=
  (Reader.blanks_past hb rfl).bind ((Reader.peek_leads _ _).bind ((Reader.pass_leads _ _).bind
    ((Reader.blanks_past hb' rfl).bind ((Reader.peek_leads _ text).bind
      ((Reader.pass_leads _ text).bind (.pure true _))))))

theorem objectMembers_done (h : 0 < fuel) :
    (objectMembers known p.1 first p.2 fuel).Leads (skipped ++ '\x7d' :: text) ('\x7d' :: text)
      p.2 := by
  obtain ⟨fuel, rfl⟩ := Nat.exists_eq_succ_of_ne_zero (Nat.ne_of_gt h)
  exact (anotherKey_done hb first).bind (.pure p.2 _)

end Keys

def afterKey (known : List (Member σ)) (p : List String × σ) (fuel : Nat) (name : String) :
    Reader σ :=
  match known.find? (·.name == name) with
  | some m =>
    if p.1.contains name then failRecord (.repeatedMember name)
    else do
      Reader.colon
      objectMembers known (name :: p.1) false (← m.read p.2) fuel
  | none => do
    Reader.colon
    Reader.skipValue
    objectMembers known p.1 false p.2 fuel

variable {before after inner skipped skipped' value : List Char} {name : String}

theorem objectMembers_resumes
    (hkey : (anotherKey first).Leads before (inner ++ '"' :: after) true)
    (hmeans : Text.Says inner name.toList) :
    (objectMembers known p.1 first p.2 (fuel + 1)).Resumes before (afterKey known p fuel name)
      after :=
  (hkey.resumes _).trans ((Reader.stringBody_means hmeans after).resumes _)

theorem afterKey_resumes (h : Takes known p (name, value) q) (hb : Blanks skipped)
    (hb' : Blanks skipped') (ha : Stops after) :
    (afterKey known p fuel name).Resumes (skipped ++ ':' :: (skipped' ++ (value ++ after)))
      (objectMembers known q.1 false q.2 fuel) after := by
  cases h with
  | known hm hnew hread =>
    unfold afterKey
    rw [hm]
    dsimp only
    rw [if_neg (by simpa using hnew)]
    exact ((Reader.colon_past hb).resumes _).trans ((hread hb' ha).resumes _)
  | unknown hm hvalue =>
    unfold afterKey
    rw [hm]
    exact ((Reader.colon_past hb).resumes _).trans ((Reader.skipValue_past hvalue hb' ha).resumes _)

theorem member_resumes
    (hkey : (anotherKey first).Leads before
      (inner ++ '"' :: (skipped ++ ':' :: (skipped' ++ (value ++ after)))) true)
    (hmeans : Text.Says inner name.toList) (h : Takes known p (name, value) q)
    (hb : Blanks skipped) (hb' : Blanks skipped') (ha : Stops after) :
    (objectMembers known p.1 first p.2 (fuel + 1)).Resumes before
      (objectMembers known q.1 false q.2 fuel) after :=
  (objectMembers_resumes hkey hmeans).trans (afterKey_resumes h hb hb' ha)

/-- A member that makes no step makes the record fail. -/
theorem afterKey_fails (hvalue : IsValue value)
    (hdecides : ∀ m ∈ known, ∀ s, (m.read s).Decides value)
    (hno : ∀ q, ¬ Takes known p (name, value) q) (hb : Blanks skipped) (hb' : Blanks skipped')
    (ha : Stops after) :
    (afterKey known p fuel name).Fails (skipped ++ ':' :: (skipped' ++ (value ++ after))) := by
  unfold afterKey
  cases hm : known.find? (·.name == name) with
  | none => exact absurd (.unknown hm hvalue) (hno p)
  | some m =>
    dsimp only
    by_cases hseen : name ∈ p.1
    · rw [if_pos (by simpa using hseen)]
      exact fun _ => ⟨_, rfl⟩
    · obtain ⟨t, hread⟩ | hread := hdecides m (List.mem_of_find?_eq_some hm) p.2
      · exact absurd (.known hm hseen hread) (hno _)
      · rw [if_neg (by simpa using hseen)]
        exact ((Reader.colon_past hb).resumes _).fails ((hread hb' ha).bind _)

variable (fuel p) in
theorem takes_or_fails
    (hkey : (anotherKey first).Leads before
      (inner ++ '"' :: (skipped ++ ':' :: (skipped' ++ (value ++ after)))) true)
    (hchars : Text.Chars inner) (hvalue : IsValue value)
    (hdecides : ∀ m ∈ known, ∀ s, (m.read s).Decides value) (hb : Blanks skipped)
    (hb' : Blanks skipped') (ha : Stops after) :
    (∃ name q, Text.Says inner name.toList ∧ Takes known p (name, value) q) ∨
      (objectMembers known p.1 first p.2 (fuel + 1)).Fails before := by
  obtain ⟨said, hsaid⟩ | hbreaks := (Text.says_or_breaks hchars).1
  · have hmeans : Text.Says inner (String.ofList said).toList := by rwa [String.toList_ofList]
    by_cases htakes : ∃ q, Takes known p (String.ofList said, value) q
    · obtain ⟨q, htakes⟩ := htakes
      exact .inl ⟨_, q, hmeans, htakes⟩
    · refine .inr ((objectMembers_resumes hkey hmeans).fails ?_)
      exact afterKey_fails hvalue hdecides (not_exists.mp htakes) hb hb' ha
  · exact .inr ((hkey.resumes _).fails ((Reader.stringBody_fails hbreaks _).bind _))

end Steps

section Runs

variable {known : List (Member σ)} {p q : List String × σ} {text : List Char}
  {items : List (List Char)} {members : List (List Char × List Char)}
  {named : List (String × List Char)}

theorem anotherKey_item {first : Bool} {member : List Char × List Char} {item : List Char}
    (h : Remains '\x7d' first (item :: items) text) (hm : IsMember member item)
    (after : List Char) :
    ∃ skipped skipped' rest, Blanks skipped ∧ Blanks skipped' ∧
      Remains '\x7d' false items rest ∧
      (anotherKey first).Leads (text ++ after)
        (member.1 ++ '"' :: (skipped ++ ':' :: (skipped' ++ (member.2 ++ (rest ++ after)))))
        true := by
  obtain ⟨hblanks, hblanks'⟩ := hm
  cases h with
  | first hb hrest =>
    refine ⟨_, _, _, hblanks, hblanks', hrest, ?_⟩
    simp only [List.cons_append, List.append_assoc]
    exact anotherKey_opening hb
  | further hb hb' hrest =>
    refine ⟨_, _, _, hblanks, hblanks', hrest, ?_⟩
    simp only [List.cons_append, List.append_assoc]
    exact anotherKey_comma hb hb'

theorem objectMembers_gathered {first : Bool} (h : Remains '\x7d' first items text)
    (hm : List.Forall₂ IsMember members items) (hn : List.Forall₂ Named members named)
    (hg : Gathers known p named q) {fuel : Nat} (hf : items.length < fuel) (after : List Char) :
    (objectMembers known p.1 first p.2 fuel).Leads (text ++ after) ('\x7d' :: after) q.2 := by
  obtain ⟨fuel, rfl⟩ := Nat.exists_eq_succ_of_ne_zero (Nat.ne_of_gt (Nat.zero_lt_of_lt hf))
  induction hm generalizing first named p fuel text with
  | nil =>
    cases hn
    cases hg
    cases h with
    | done hb =>
      rw [List.append_assoc]
      exact objectMembers_done hb (Nat.succ_pos fuel)
  | cons hmember _ ih =>
    cases hn with
    | @cons _ told _ _ hname hnames =>
      obtain ⟨name, value⟩ := told
      obtain ⟨hmeans, rfl⟩ := hname
      cases hg with
      | cons htakes hrests =>
        obtain ⟨_, _, rest, hb, hb', hrest, hkey⟩ := anotherKey_item h hmember after
        have hmore := Nat.lt_of_succ_lt_succ hf
        refine (member_resumes hkey hmeans htakes hb hb' (hrest.stops (.inr rfl) after)).leads ?_
        obtain ⟨fuel, rfl⟩ := Nat.exists_eq_succ_of_ne_zero (Nat.ne_of_gt (Nat.zero_lt_of_lt hmore))
        exact ih hrest hnames hrests fuel hmore

theorem objectMembers_fails {first : Bool} (h : Remains '\x7d' first items text)
    (hm : List.Forall₂ IsMember members items) (hchars : ∀ member ∈ members, Text.Chars member.1)
    (hvalues : ∀ member ∈ members, IsValue member.2)
    (hdecides : ∀ member ∈ members, ∀ m ∈ known, ∀ s, (m.read s).Decides member.2)
    (hno : ∀ named q, List.Forall₂ Named members named → ¬ Gathers known p named q) {fuel : Nat}
    (hf : items.length < fuel) (after : List Char) :
    (objectMembers known p.1 first p.2 fuel).Fails (text ++ after) := by
  obtain ⟨fuel, rfl⟩ := Nat.exists_eq_succ_of_ne_zero (Nat.ne_of_gt (Nat.zero_lt_of_lt hf))
  induction hm generalizing first p fuel text with
  | nil => exact absurd (.nil p) (hno [] p .nil)
  | cons hmember _ ih =>
    obtain ⟨hchar, hchars⟩ := List.forall_mem_cons.mp hchars
    obtain ⟨hvalue, hvalues⟩ := List.forall_mem_cons.mp hvalues
    obtain ⟨hdecide, hdecides⟩ := List.forall_mem_cons.mp hdecides
    obtain ⟨_, _, rest, hb, hb', hrest, hkey⟩ := anotherKey_item h hmember after
    have hstops := hrest.stops (.inr rfl) after
    obtain ⟨name, q, hmeans, htakes⟩ | hfails :=
      takes_or_fails fuel p hkey hchar hvalue hdecide hb hb' hstops
    · have hmore := Nat.lt_of_succ_lt_succ hf
      refine (member_resumes hkey hmeans htakes hb hb' hstops).fails ?_
      obtain ⟨fuel, rfl⟩ := Nat.exists_eq_succ_of_ne_zero (Nat.ne_of_gt (Nat.zero_lt_of_lt hmore))
      refine ih hrest hchars hvalues hdecides (fun named r hn hg => ?_) fuel hmore
      exact hno _ r (.cons ⟨hmeans, rfl⟩ hn) (.cons htakes hg)
    · exact hfails

end Runs

section Objects

variable {r : Record σ α} {q : List String × σ} {text : List Char} {items : List (List Char)}
  {members : List (List Char × List Char)} {named : List (String × List Char)} {a : α}

theorem closed_object_leads {β : Type} {contents : Reader β} {before : List Char} {b : β}
    {text : List Char} (h : contents.Leads before ('\x7d' :: text) b) :
    (closed .object contents).Leads before text b := by
  intro offset
  obtain ⟨middle, hm⟩ := h offset
  have hend : objectEnd.Leads ('\x7d' :: text) text () :=
    (Reader.blanks_past .nil rfl).bind ((Reader.peek_leads _ text).bind (Reader.pass_leads _ text))
  obtain ⟨next, hn⟩ := hend middle
  refine ⟨next, ?_⟩
  simp only [closed, hm, closing, hn]
  rfl

theorem closed_fails {β : Type} {contents : Reader β} (h : contents.Fails text) (form : Form) :
    (closed form contents).Fails text := by
  intro offset
  obtain ⟨fault, hf⟩ := h offset
  cases fault with
  | placed offset' cause => exact ⟨_, by simp only [closed, hf]; rfl⟩
  | record cause p => exact ⟨_, by simp only [closed, hf]; rfl⟩

/-- A record gives for an object what the steps of its members come to. -/
theorem read_gets (h : ObjectText members text) (hn : List.Forall₂ Named members named)
    (hg : Gathers r.members ([], r.start) named q) (hf : r.finish .object q.2 = .ok a) :
    r.read.Gets text a := by
  obtain ⟨items, hm, inside, rfl, hremains⟩ := h.layout
  intro skipped after hb _
  have hcontents : r.objectContents.Leads (inside ++ after) ('\x7d' :: after) a := by
    intro offset
    have hgathered :=
      objectMembers_gathered hremains hm hn hg (hremains.length_lt after) after
    have hfinished : (r.finished .object q.2).Leads ('\x7d' :: after) ('\x7d' :: after) a := by
      unfold finished
      rw [hf]
      exact .pure a _
    exact hgathered.bind hfinished offset
  exact (Reader.valueStart_past hb rfl).bind
    ((Reader.pass_leads '\x7b' _).bind (closed_object_leads hcontents))

/-- When each value decides about the readers, only such steps make a record of an object. -/
theorem read_refuses (h : ObjectText members text)
    (hdecides : ∀ member ∈ members, ∀ m ∈ r.members, ∀ s, (m.read s).Decides member.2)
    (hno : ∀ named q a, List.Forall₂ Named members named →
      Gathers r.members ([], r.start) named q → r.finish .object q.2 ≠ .ok a) :
    r.read.Refuses text := by
  obtain ⟨items, hm, inside, rfl, hremains⟩ := h.layout
  have hlength := hremains.length_lt
  intro skipped after hb _
  have hcontents : r.objectContents.Fails (inside ++ after) := by
    intro offset
    by_cases hsteps : ∃ named q, List.Forall₂ Named members named ∧
        Gathers r.members ([], r.start) named q
    · obtain ⟨named, q, hn, hg⟩ := hsteps
      have hfinished : (r.finished .object q.2).Fails ('\x7d' :: after) := by
        unfold finished
        cases hfinish : r.finish .object q.2 with
        | ok a => exact absurd hfinish (hno named q a hn hg)
        | error cause => exact fun _ => ⟨_, rfl⟩
      have hgathered := objectMembers_gathered hremains hm hn hg (hlength after) after
      exact (hgathered.resumes _).fails hfinished offset
    · have hnone (named : List (String × List Char)) (q : List String × σ)
          (hn : List.Forall₂ Named members named) : ¬ Gathers r.members ([], r.start) named q :=
        fun hg => hsteps ⟨named, q, hn, hg⟩
      exact (objectMembers_fails hremains hm h.names h.values hdecides hnone (hlength after)
        after).bind _ offset
  refine ((Reader.valueStart_past hb rfl).resumes _).fails ?_
  exact ((Reader.pass_leads '\x7b' _).resumes _).fails (closed_fails hcontents .object)

end Objects

section Parts

variable {known : List (Member σ)} {p q : List String × σ} {named : List (String × List Char)}

/-- What a collection tells of one member is what this member shows, or what has been there if it
is absent. -/
theorem Gathers.held {β : Type} {name : String} (part : σ → β) (shows : List Char → β → Prop)
    (hother : ∀ m ∈ known, m.name ≠ name → ∀ s t value, IsValue value →
      (m.read s).Gets value t → part t = part s)
    (hown : ∀ m ∈ known, m.name = name → ∀ s t value, IsValue value →
      (m.read s).Gets value t → shows value (part t))
    (hknown : (known.find? (·.name == name)).isSome)
    (hvalues : ∀ member ∈ named, IsValue member.2) (h : Gathers known p named q) :
    (name ∈ p.1 → valuesOf name named = [] ∧ part q.2 = part p.2) ∧
      (name ∉ p.1 → Held named name (shows · (part q.2)) (part q.2 = part p.2)) := by
  induction h with
  | nil p => exact ⟨fun _ => ⟨rfl, rfl⟩, fun _ => .inl ⟨rfl, rfl⟩⟩
  | cons htakes _ ih =>
    obtain ⟨hvalue, hvalues⟩ := List.forall_mem_cons.mp hvalues
    have ih := ih hvalues
    cases htakes with
    | @known seen s t name' value m hm hnew hread =>
      have hmem : m ∈ known := List.mem_of_find?_eq_some hm
      have hname : m.name = name' := by simpa using List.find?_some hm
      by_cases he : name' = name
      · subst he
        obtain ⟨hnone, hpart⟩ := ih.1 (List.mem_cons_self ..)
        refine ⟨fun hseen => absurd hseen hnew, fun _ => .inr ⟨value, ?_, ?_⟩⟩
        · rw [valuesOf_cons_self, hnone]
        · rw [hpart]
          exact hown m hmem hname s t value hvalue hread
      · have hpart : part t = part s := hother m hmem (hname ▸ he) s t value hvalue hread
        have hmore : name ∈ name' :: seen ↔ name ∈ seen := by simp [Ne.symm he]
        simp only [Held, valuesOf_cons_of_ne he, ← hmore, ← hpart]
        exact ih
    | @unknown seen s name' value hm _ =>
      have he : name' ≠ name := by
        rintro rfl
        simp [hm] at hknown
      simp only [Held, valuesOf_cons_of_ne he]
      exact ih

/-- A member among those from which `state has` has been collected, `has` telling of the ones that
have been read. It is there once and takes the collection on, or it is not there and makes no
difference. -/
def Fits (m : Member σ) (named : List (String × List Char)) (state : (String → Bool) → σ) : Prop :=
  Held named m.name
    (fun value => ∀ has, has m.name = false →
      (m.read (state has)).Gets value (state (Function.update has m.name true)))
    (∀ has, state (Function.update has m.name true) = state has)

theorem fits_of_held {β : Type} {name : String} {r : Reader β} {b : β} {put : σ → β → σ}
    {state : (String → Bool) → σ} {shows : List Char → Prop} {absent : Prop}
    (h : Held named name shows absent) (hshows : ∀ value, shows value → r.Gets value b)
    (hput : ∀ has, put (state has) b = state (Function.update has name true))
    (habsent : absent → ∀ has, state (Function.update has name true) = state has) :
    Fits ⟨name, fun s => r >>= fun b => Pure.pure (put s b)⟩ named state :=
  h.mono (fun value hvalue has _ =>
    hput has ▸ (hshows value hvalue).bind fun after => .pure _ after) habsent

def completed (has : String → Bool) (members : List (Member σ)) (name : String) : Bool :=
  has name || members.any (·.name == name)

theorem completed_cons (has : String → Bool) (m : Member σ) (members : List (Member σ)) :
    completed has (m :: members) = completed (Function.update has m.name true) members := by
  funext name
  by_cases he : name = m.name
  · simp [completed, he]
  · have hne : (m.name == name) = false := beq_false_of_ne (Ne.symm he)
    simp [completed, he, hne]

theorem state_completed {state : (String → Bool) → σ} {members : List (Member σ)}
    {has : String → Bool}
    (h : ∀ m ∈ members, has m.name = true ∨
      ∀ has, state (Function.update has m.name true) = state has) :
    state (completed has members) = state has := by
  induction members generalizing has with
  | nil =>
    congr 1
    funext name
    simp [completed]
  | cons m members ih =>
    obtain ⟨hm, hmembers⟩ := List.forall_mem_cons.mp h
    have hupdate : state (Function.update has m.name true) = state has := by
      obtain hm | hm := hm
      · rw [← hm, Function.update_eq_self]
      · exact hm has
    rw [completed_cons]
    refine (ih fun m' hm' => (hmembers m' hm').imp_left fun hhas => ?_).trans hupdate
    by_cases he : m'.name = m.name
    · rw [he, Function.update_self]
    · rw [Function.update_of_ne he, hhas]

theorem contains_cons_eq_update (name : String) (seen : List String) :
    (fun n => (name :: seen).contains n) =
      Function.update (fun n => seen.contains n) name true := by
  funext n
  by_cases he : n = name
  · simp [he]
  · simp [he]

/-- What the members still to come must be: none of those that have been seen is among them, and the
others fit. -/
structure Awaits (known : List (Member σ)) (seen : List String) (named : List (String × List Char))
    (state : (String → Bool) → σ) : Prop where
  once : ∀ m ∈ known, m.name ∈ seen → valuesOf m.name named = []
  left : ∀ m ∈ known, m.name ∉ seen → Fits m named state

section Awaits

variable {seen : List String} {name : String} {value : List Char}
  {rest : List (String × List Char)} {state : (String → Bool) → σ}

theorem Awaits.pass (h : Awaits known seen ((name, value) :: rest) state)
    (hfind : known.find? (·.name == name) = none) : Awaits known seen rest state := by
  have hne (m : Member σ) (hm : m ∈ known) : name ≠ m.name := by
    rintro rfl
    exact List.find?_eq_none.mp hfind m hm (beq_self_eq_true _)
  constructor
  · intro m hm hseen
    have hnone := h.once m hm hseen
    rwa [valuesOf_cons_of_ne (hne m hm)] at hnone
  · intro m hm hseen
    have hfits := h.left m hm hseen
    rwa [Fits, Held, valuesOf_cons_of_ne (hne m hm)] at hfits

/-- The member is read as it should be, and does not come again. -/
theorem Awaits.read {m : Member σ} (h : Awaits known seen ((m.name, value) :: rest) state)
    (hm : m ∈ known) :
    m.name ∉ seen ∧
      (m.read (state fun n => seen.contains n)).Gets value
        (state fun n => (m.name :: seen).contains n) ∧
      Awaits known (m.name :: seen) rest state := by
  have hnew : m.name ∉ seen := fun hseen => by
    have hnone := h.once m hm hseen
    rw [valuesOf_cons_self] at hnone
    cases hnone
  obtain ⟨hnone, -⟩ | ⟨value', hone, hshows⟩ := h.left m hm hnew
  · rw [valuesOf_cons_self] at hnone
    cases hnone
  rw [valuesOf_cons_self] at hone
  obtain ⟨rfl, hrest⟩ := List.cons.inj hone
  refine ⟨hnew, ?_, fun m' hm' hseen => ?_, fun m' hm' hseen => ?_⟩
  · rw [contains_cons_eq_update]
    exact hshows _ (by simpa using hnew)
  · by_cases he : m.name = m'.name
    · rwa [← he]
    · have hnone := h.once m' hm' ((List.mem_cons.mp hseen).resolve_left (Ne.symm he))
      rwa [valuesOf_cons_of_ne he] at hnone
  · rw [List.mem_cons, not_or] at hseen
    have hfits := h.left m' hm' hseen.2
    rwa [Fits, Held, valuesOf_cons_of_ne (Ne.symm hseen.1)] at hfits

end Awaits

theorem Awaits.gathers {state : (String → Bool) → σ} {seen : List String}
    (h : Awaits known seen named state) (hvalues : ∀ member ∈ named, IsValue member.2) :
    ∃ q has, Gathers known (seen, state fun n => seen.contains n) named q ∧ q.2 = state has ∧
      ∀ m ∈ known, has m.name = true ∨
        ∀ has, state (Function.update has m.name true) = state has := by
  induction named generalizing seen with
  | nil =>
    refine ⟨_, _, .nil _, rfl, fun m hm => ?_⟩
    by_cases hmem : m.name ∈ seen
    · exact .inl (by simpa using hmem)
    · obtain ⟨-, habsent⟩ | ⟨value, hone, -⟩ := h.left m hm hmem
      · exact .inr habsent
      · cases hone
  | cons member rest ih =>
    obtain ⟨name, value⟩ := member
    obtain ⟨hvalue, hrests⟩ := List.forall_mem_cons.mp hvalues
    cases hfind : known.find? (·.name == name) with
    | none =>
      obtain ⟨q, has, hg, hq, hhas⟩ := ih (h.pass hfind) hrests
      exact ⟨q, has, .cons (.unknown hfind hvalue) hg, hq, hhas⟩
    | some m =>
      obtain rfl : m.name = name := by simpa using List.find?_some hfind
      obtain ⟨hnew, hread, hrest⟩ := h.read (List.mem_of_find?_eq_some hfind)
      obtain ⟨q, has, hg, hq, hhas⟩ := ih hrest hrests
      exact ⟨q, has, .cons (.known hfind hnew hread) hg, hq, hhas⟩

theorem gathers_of_fits {state : (String → Bool) → σ} {s : σ}
    (h : ∀ m ∈ known, Fits m named state)
    (hvalues : ∀ member ∈ named, IsValue member.2)
    (hall : ∀ has, (∀ m ∈ known, has m.name = true) → state has = s) :
    ∃ q, Gathers known ([], state fun _ => false) named q ∧ q.2 = s := by
  have hawaits : Awaits known [] named state := ⟨by simp, fun m hm _ => h m hm⟩
  obtain ⟨q, has, hg, hq, hhas⟩ := hawaits.gathers hvalues
  refine ⟨q, hg, ?_⟩
  rw [hq, ← state_completed hhas]
  refine hall _ fun m hm => ?_
  rw [completed, Bool.or_eq_true, List.any_eq_true]
  exact .inr ⟨m, hm, beq_self_eq_true _⟩

/-- A record is what fits its members, whatever their order. -/
theorem gets_of_fits {r : Record σ α} {state : (String → Bool) → σ} {s : σ} {a : α}
    {value : List Char} (h : Shows (fun named => ∀ m ∈ r.members, Fits m named state) value)
    (hstart : state (fun _ => false) = r.start)
    (hall : ∀ has, (∀ m ∈ r.members, has m.name = true) → state has = s)
    (hf : r.finish .object s = .ok a) : r.read.Gets value a := by
  obtain ⟨members, named, hobject, hnamed, hfits⟩ := h
  obtain ⟨q, hg, hq⟩ := gathers_of_fits hfits (values_of_named hnamed hobject.values) hall
  rw [hstart] at hg
  exact read_gets hobject hnamed hg (hq ▸ hf)

end Parts

end Record

end VaultRing.Json
