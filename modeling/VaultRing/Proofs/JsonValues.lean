import Mathlib.Data.List.TakeWhile
import VaultRing.Proofs.JsonSkipping
import VaultRing.Proofs.JsonText

namespace VaultRing.Json

namespace Reader

variable {α β : Type}

def Fails (r : Reader α) (text : List Char) : Prop :=
  ∀ offset, ∃ fault, r ⟨offset, text⟩ = .error fault

/-- From a value, blanks or none before it, the reader gives `a`. -/
def Gets (r : Reader α) (value : List Char) (a : α) : Prop :=
  ∀ ⦃skipped after : List Char⦄, Blanks skipped → Stops after →
    r.Leads (skipped ++ (value ++ after)) after a

def Refuses (r : Reader α) (value : List Char) : Prop :=
  ∀ ⦃skipped after : List Char⦄, Blanks skipped → Stops after →
    r.Fails (skipped ++ (value ++ after))

def Decides (r : Reader α) (value : List Char) : Prop := (∃ a, r.Gets value a) ∨ r.Refuses value

section Failures

variable {r r' : Reader α} {before after text : List Char}

theorem Resumes.fails (h : r.Resumes before r' after) (hf : r'.Fails after) : r.Fails before := by
  intro offset
  obtain ⟨next, hn⟩ := h offset
  obtain ⟨fault, hfault⟩ := hf next
  exact ⟨fault, hn.trans hfault⟩

theorem Fails.bind (h : r.Fails text) (f : α → Reader β) : Fails (r >>= f) text := by
  intro offset
  obtain ⟨fault, hf⟩ := h offset
  refine ⟨fault, ?_⟩
  change (r ⟨offset, text⟩ >>= fun (a, p) => f a p) = _
  rw [hf]
  rfl

theorem Refuses.bind {value : List Char} (h : r.Refuses value) (f : α → Reader β) :
    Refuses (r >>= f) value := fun _ _ hb ha => (h hb ha).bind f

/-- What comes last fails whatever has been read before. -/
theorem fails_bind_of_forall {f : α → Reader β} (h : ∀ a text, (f a).Fails text) (r : Reader α)
    (text : List Char) : Fails (r >>= f) text := by
  intro offset
  change ∃ fault, (r ⟨offset, text⟩ >>= fun (a, p) => f a p) = _
  cases r ⟨offset, text⟩ with
  | error fault => exact ⟨fault, rfl⟩
  | ok found =>
    obtain ⟨a, offset', text'⟩ := found
    exact h a text' offset'

theorem fail_fails (cause : Cause) (text : List Char) : (fail cause : Reader α).Fails text :=
  fun _ => ⟨_, rfl⟩

theorem blame_fails (cause : Cause) (text : List Char) : (blame cause : Reader α).Fails text :=
  fun _ => ⟨_, rfl⟩

theorem wrongKind_fails (expected : String) (text : List Char) :
    (wrongKind expected : Reader α).Fails text := by
  have hfail (cause : Cause) : ∀ (_ : Unit) text, (fail cause : Reader α).Fails text :=
    fun _ => fail_fails cause
  refine fails_bind_of_forall (fun c? text => ?_) _ text
  split
  · exact fails_bind_of_forall (fun _ => fails_bind_of_forall (hfail _) _) _ text
  · exact fails_bind_of_forall (fun _ => fails_bind_of_forall (hfail _) _) _ text
  · exact fails_bind_of_forall (fun _ => fails_bind_of_forall (hfail _) _) _ text
  · exact fails_bind_of_forall (fun _ => fails_bind_of_forall (fun n => fail_fails _) _) _ text
  · exact fails_bind_of_forall (fun _ => fails_bind_of_forall (fun s => fail_fails _) _) _ text
  · exact fail_fails _ text
  · exact fail_fails _ text
  · split
    · exact fails_bind_of_forall (fun n => fail_fails _) _ text
    · exact blame_fails _ text
  · exact blame_fails _ text

end Failures

section Outcomes

variable {r : Reader α} {value : List Char} {a : α}

theorem Gets.unique {a' : α} (h : r.Gets value a) (h' : r.Gets value a') : a = a' := by
  obtain ⟨next, hn⟩ := h .nil .nil 0
  obtain ⟨next', hn'⟩ := h' .nil .nil 0
  exact (Prod.mk.inj (Except.ok.inj (hn.symm.trans hn'))).1

theorem Gets.not_refuses (h : r.Gets value a) : ¬ r.Refuses value := by
  intro hr
  obtain ⟨next, hn⟩ := h .nil .nil 0
  obtain ⟨fault, hf⟩ := hr .nil .nil 0
  cases hn.symm.trans hf

theorem Gets.bind {f : α → Reader β} {b : β} (h : r.Gets value a)
    (hf : ∀ after, (f a).Leads after after b) : Gets (r >>= f) value b :=
  fun _ _ hb ha => (h hb ha).bind (hf _)

theorem Decides.map (h : r.Decides value) (f : α → β) :
    Decides (r >>= fun a => Pure.pure (f a)) value := by
  obtain ⟨a, ha⟩ | hrefuses := h
  · exact .inl ⟨f a, ha.bind fun after => .pure (f a) after⟩
  · exact .inr (hrefuses.bind _)

/-- What has been made of a value in the end has been made of what a first reader gave. -/
theorem Decides.exists_of_gets {f : α → β} {b : β} (h : r.Decides value)
    (hb : Gets (r >>= fun a => Pure.pure (f a)) value b) : ∃ a, r.Gets value a ∧ b = f a := by
  obtain ⟨a, ha⟩ | hrefuses := h
  · exact ⟨a, ha, hb.unique (ha.bind fun after => .pure (f a) after)⟩
  · exact absurd (hrefuses.bind _) hb.not_refuses

theorem Gets.map (h : r.Gets value a) (f : α → β) : Gets (f <$> r) value (f a) :=
  fun _ _ hs ha => (h hs ha).map f

end Outcomes

section Strings

variable {a : α} {convert : String → Except Cause α} {value : List Char}

theorem stringBody_means {inner : List Char} {s : String} (h : Text.Says inner s.toList)
    (after : List Char) : stringBody.Leads (inner ++ '"' :: after) after s := by
  intro offset
  obtain ⟨next, hn⟩ := Text.body_means h offset after
  refine ⟨next, ?_⟩
  change (Text.body offset none _).map _ = _
  rw [hn]
  change Except.ok (String.ofList s.toList, _) = _
  rw [String.ofList_toList]

theorem stringBody_fails {inner : List Char} (h : Text.Breaks none inner) (after : List Char) :
    stringBody.Fails (inner ++ '"' :: after) := by
  intro offset
  obtain ⟨fault, hf⟩ := h offset after
  refine ⟨fault, ?_⟩
  change (Text.body offset none _).map _ = _
  rw [hf]
  rfl

theorem name_gets {s : String} (hs : IsString s value) (h : convert s = .ok a)
    (after : List Char) : (name convert).Leads (value ++ after) after a := by
  obtain ⟨inner, hmeans, rfl⟩ := hs
  simp only [List.cons_append, List.append_assoc, List.nil_append]
  refine (pass_leads '"' _).bind ((stringBody_means hmeans after).bind ?_)
  rw [h]
  exact .pure a after

theorem valueStart_string {s : String} (hs : IsString s value) {skipped : List Char}
    (hb : Blanks skipped) (after : List Char) :
    valueStart.Leads (skipped ++ (value ++ after)) (value ++ after) '"' := by
  obtain ⟨inner, -, rfl⟩ := hs
  exact valueStart_past hb rfl

theorem string_gets {s : String} (hs : IsString s value) (h : convert s = .ok a)
    (expected : String) : (string expected convert).Gets value a := by
  intro skipped after hb _
  exact (valueStart_string hs hb after).bind (name_gets hs h after)

theorem text_gets {s : String} (hs : IsString s value) : text.Gets value s :=
  string_gets hs rfl "a string"

theorem variant_gets {s : String} (hs : IsString s value) (h : convert s = .ok a) :
    (variant convert).Gets value a := by
  intro skipped after hb _
  exact (valueStart_string hs hb after).bind (name_gets hs h after)

/-- Of all values, only strings that say something are read as text. -/
theorem text_decides (h : IsValue value) : (∃ s, IsString s value) ∨ text.Refuses value := by
  have hkind {c : Char} {rest : List Char} (hv : value = c :: rest) (hc : c ≠ '"') :
      text.Refuses value := by
    intro skipped after hb _
    obtain ⟨_, _, hv', hblank, -⟩ := h.opens
    obtain ⟨rfl, rfl⟩ := List.cons.inj (hv.symm.trans hv')
    subst hv
    refine ((valueStart_past hb hblank).resumes _).fails ?_
    rw [if_neg hc]
    exact wrongKind_fails _ _
  cases h with
  | null | true | false | negative => exact .inr (hkind rfl (by decide))
  | natural h =>
    obtain ⟨c, rest, rfl, hc⟩ := h.starts
    exact .inr (hkind rfl (by rintro rfl; cases hc))
  | list _ htext =>
    obtain ⟨inside, rfl, -⟩ := htext
    exact .inr (hkind rfl (by decide))
  | object _ _ htext =>
    obtain ⟨items, -, inside, rfl, -⟩ := htext
    exact .inr (hkind rfl (by decide))
  | @string inner hchars =>
    obtain ⟨said, hmeans⟩ | hbreaks := (Text.says_or_breaks hchars).1
    · exact .inl ⟨String.ofList said, inner, by rwa [String.toList_ofList], rfl⟩
    · refine .inr fun skipped after hb _ => ?_
      simp only [List.cons_append, List.append_assoc, List.nil_append]
      refine ((valueStart_past hb rfl).resumes _).fails ?_
      refine ((pass_leads '"' _).resumes _).fails ?_
      exact (stringBody_fails hbreaks after).bind _

theorem decides_text (h : IsValue value) : text.Decides value :=
  (text_decides h).imp_left fun ⟨s, hs⟩ => ⟨s, text_gets hs⟩

theorem isString_of_gets {s : String} (h : IsValue value) (hr : text.Gets value s) :
    IsString s value := by
  obtain ⟨s', hs'⟩ | hrefuses := text_decides h
  · exact (text_gets hs').unique hr ▸ hs'
  · exact absurd hrefuses hr.not_refuses

end Strings

section Optional

variable {r : Reader α} {a : α} {value : List Char}

theorem optional_null : (optional r).Gets ['n', 'u', 'l', 'l'] none := by
  intro skipped after hb _
  exact (blanks_past hb rfl).bind ((peek_leads 'n' _).bind ((pass_leads 'n' _).bind
    ((literal_past ['u', 'l', 'l'] after).bind (.pure none after))))

/-- A value other than `null` is left to `r`. -/
theorem optional_resumes (h : IsValue value) (hn : value ≠ ['n', 'u', 'l', 'l'])
    {skipped : List Char} (hb : Blanks skipped) (after : List Char) :
    (optional r).Resumes (skipped ++ (value ++ after)) (some <$> r) (value ++ after) := by
  obtain ⟨c, rest, rfl, hblank, -⟩ := h.opens
  have hc : c ≠ 'n' := by
    rintro rfl
    cases h with
    | null => exact hn rfl
    | natural h =>
      obtain ⟨c, rest, he, hc⟩ := h.starts
      obtain ⟨rfl, rfl⟩ := List.cons.inj he
      cases hc
    | list _ htext =>
      obtain ⟨inside, he, -⟩ := htext
      cases he
    | object _ _ htext =>
      obtain ⟨items, -, inside, he, -⟩ := htext
      cases he
  refine ((blanks_past hb hblank).resumes _).trans (((peek_leads c _).resumes _).trans ?_)
  split
  · rename_i he
    exact absurd (Option.some.inj he) hc
  · exact .refl _ _

theorem optional_gets (h : IsValue value) (hn : value ≠ ['n', 'u', 'l', 'l'])
    (hr : r.Gets value a) : (optional r).Gets value (some a) := by
  intro skipped after hb ha
  have hread := (hr .nil ha).map some
  rw [List.nil_append] at hread
  exact (optional_resumes h hn hb after).leads hread

theorem optional_string_gets {s : String} (h : IsString s value) (hr : r.Gets value a) :
    (optional r).Gets value (some a) := optional_gets h.isValue h.ne_null hr

theorem optional_refuses (h : IsValue value) (hn : value ≠ ['n', 'u', 'l', 'l'])
    (hr : r.Refuses value) : (optional r).Refuses value := by
  intro skipped after hb ha
  have hread := (hr .nil ha).bind fun a => Pure.pure (some a)
  rw [List.nil_append] at hread
  exact (optional_resumes h hn hb after).fails hread

end Optional

section Lists

variable {item : Reader α} {items : List (List Char)} {as : List α} {text skipped : List Char}

theorem another_done (hb : Blanks skipped) (first : Bool) :
    (another first).Leads (skipped ++ ']' :: text) (']' :: text) false :=
  (blanks_past hb rfl).bind ((peek_leads ']' text).bind (.pure false _))

theorem another_opening (ho : Opens text) (hb : Blanks skipped) :
    (another true).Leads (skipped ++ text) text true := by
  obtain ⟨c, rest, rfl, hblank, hc, -⟩ := ho
  refine (blanks_past hb hblank).bind ((peek_leads c rest).bind ?_)
  split
  · rename_i h
    cases h
  · rename_i h
    exact absurd (Option.some.inj h) hc
  · exact .pure true _

theorem another_comma {skipped' : List Char} (ho : Opens text) (hb : Blanks skipped)
    (hb' : Blanks skipped') :
    (another false).Leads (skipped ++ ',' :: (skipped' ++ text)) text true := by
  obtain ⟨c, rest, rfl, hblank, hc, -⟩ := ho
  refine (blanks_past hb rfl).bind ((peek_leads ',' _).bind ((pass_leads ',' _).bind ?_))
  refine (blanks_past hb' hblank).bind ((peek_leads c rest).bind ?_)
  split
  · rename_i h
    exact absurd (Option.some.inj h) hc
  · exact .pure true _
  · rename_i h
    cases h

theorem listEnd_leads (text : List Char) : listEnd.Leads (']' :: text) text () :=
  (blanks_past .nil rfl).bind ((peek_leads ']' text).bind (pass_leads ']' text))

theorem elements_some {first : Bool} {fuel : Nat} {a : α} {as : List α}
    {before between after last : List Char} (hanother : (another first).Leads before between true)
    (hitem : item.Leads between after a) (hrest : (elements item false fuel).Leads after last as) :
    (elements item first (fuel + 1)).Leads before last (a :: as) := by
  unfold elements
  refine hanother.bind ?_
  rw [if_pos rfl]
  exact hitem.bind (hrest.bind (.pure _ _))

def GetsEach (item : Reader α) : List (List Char) → List α → Prop :=
  List.Forall₂ fun value a => Opens value ∧ item.Gets value a

theorem another_item {first : Bool} {value : List Char}
    (h : Remains ']' first (value :: items) text) (ho : Opens value) (after : List Char) :
    ∃ rest, Remains ']' false items rest ∧
      (another first).Leads (text ++ after) (value ++ (rest ++ after)) true := by
  cases h with
  | @first _ _ rest _ hb hrest =>
    refine ⟨rest, hrest, ?_⟩
    rw [List.append_assoc, List.append_assoc]
    exact another_opening (ho.append _) hb
  | @further _ _ _ rest _ hb hb' hrest =>
    refine ⟨rest, hrest, ?_⟩
    simp only [List.cons_append, List.append_assoc]
    exact another_comma (ho.append _) hb hb'

theorem elements_gets {first : Bool} (h : Remains ']' first items text)
    (hi : GetsEach item items as) {fuel : Nat} (hf : items.length < fuel) (after : List Char) :
    (elements item first fuel).Leads (text ++ after) (']' :: after) as := by
  obtain ⟨fuel, rfl⟩ := Nat.exists_eq_succ_of_ne_zero (Nat.ne_of_gt (Nat.zero_lt_of_lt hf))
  induction hi generalizing first text fuel with
  | nil =>
    cases h with
    | done hb =>
      rw [List.append_assoc]
      exact (another_done hb first).bind (.pure [] _)
  | cons hvalue _ ih =>
    obtain ⟨hopens, hgets⟩ := hvalue
    obtain ⟨rest, hrest, hanother⟩ := another_item h hopens after
    have hread := hgets .nil (hrest.stops (.inl rfl) after)
    have hmore := Nat.lt_of_succ_lt_succ hf
    obtain ⟨fuel, rfl⟩ := Nat.exists_eq_succ_of_ne_zero (Nat.ne_of_gt (Nat.zero_lt_of_lt hmore))
    exact elements_some hanother hread (ih hrest fuel hmore)

theorem listOf_gets (h : IsList items text) (hi : GetsEach item items as) :
    (listOf item).Gets text as := by
  obtain ⟨inside, rfl, hremains⟩ := h
  intro skipped after hb _
  refine (valueStart_past hb rfl).bind ((pass_leads '[' _).bind fun offset => ?_)
  exact (elements_gets hremains hi (hremains.length_lt after) after).bind
    (f := fun items => do listEnd; Pure.pure items)
    ((listEnd_leads after).bind (.pure as after)) offset

end Lists

section Whole

variable {r : Reader α} {value after : List Char} {a : α} {s : String}

def Whole (P : List Char → Prop) (s : String) : Prop :=
  ∃ before value after, Blanks before ∧ Blanks after ∧ P value ∧
    s.toList = before ++ (value ++ after)

theorem skipBlanks_all (h : Blanks after) (offset : Nat) :
    ∃ next, Cursor.skipBlanks ⟨offset, after⟩ = ⟨next, []⟩ := by
  refine ⟨offset + (after.takeWhile Cursor.isBlank).length, ?_⟩
  simp only [Cursor.skipBlanks, List.dropWhile_eq_nil_iff.mpr h]

theorem run_of_gets (h : r.Gets value a) (hs : Whole (· = value) s) : r.run s = .ok a := by
  obtain ⟨before, _, after, hb, ha, rfl, hs⟩ := hs
  have hstops : Stops after := by simpa using Stops.nil.blanks ha
  obtain ⟨middle, hm⟩ := h hb hstops 0
  obtain ⟨next, hn⟩ := skipBlanks_all ha middle
  have hwhole : (do
      let a ← r
      blanks
      if (← peek).isSome then blame .trailingCharacters else Pure.pure a : Reader α)
        (Cursor.ofText s) = .ok (a, ⟨next, []⟩) := by
    change (r ⟨0, s.toList⟩ >>= _) = _
    rw [hs, hm]
    change (do
      if (← peek).isSome then blame .trailingCharacters else Pure.pure a : Reader α)
        (Cursor.skipBlanks ⟨middle, after⟩) = _
    rw [hn]
    rfl
  unfold run
  simp only [hwhole]

theorem run_of_refuses (h : r.Refuses value) (hs : Whole (· = value) s) :
    ∃ e, r.run s = .error e := by
  obtain ⟨before, _, after, hb, ha, rfl, hs⟩ := hs
  have hstops : Stops after := by simpa using Stops.nil.blanks ha
  obtain ⟨fault, hf⟩ := h hb hstops 0
  have hwhole : (do
      let a ← r
      blanks
      if (← peek).isSome then blame .trailingCharacters else Pure.pure a : Reader α)
        (Cursor.ofText s) = .error fault := by
    change (r ⟨0, s.toList⟩ >>= _) = _
    rw [hs, hf]
    rfl
  refine ⟨Error.ofFault s fault, ?_⟩
  unfold run
  simp only [hwhole]

end Whole

end Reader

end VaultRing.Json
