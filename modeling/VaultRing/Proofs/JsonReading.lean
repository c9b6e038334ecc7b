import VaultRing.Json.Record
import VaultRing.Proofs.JsonGrammar

namespace VaultRing.Json

namespace Reader

variable {α β : Type}

/-- Wherever `before` stands, the reader gives `a` and goes on with `after`. -/
def Leads (r : Reader α) (before after : List Char) (a : α) : Prop :=
  ∀ offset, ∃ next, r ⟨offset, before⟩ = .ok (a, ⟨next, after⟩)

namespace Leads

variable {before between after : List Char} {a : α} {b : β}

theorem pure (a : α) (text : List Char) : Leads (Pure.pure a) text text a :=
  fun offset => ⟨offset, rfl⟩

theorem bind {r : Reader α} {f : α → Reader β} (hr : r.Leads before between a)
    (hf : (f a).Leads between after b) : Leads (r >>= f) before after b := by
  intro offset
  obtain ⟨middle, hm⟩ := hr offset
  obtain ⟨next, hn⟩ := hf middle
  refine ⟨next, ?_⟩
  change (r ⟨offset, before⟩ >>= fun (a, p) => f a p) = _
  rw [hm]
  exact hn

theorem map {r : Reader α} (f : α → β) (hr : r.Leads before after a) :
    Leads (f <$> r) before after (f a) := by
  intro offset
  obtain ⟨next, hn⟩ := hr offset
  refine ⟨next, ?_⟩
  change (r ⟨offset, before⟩ >>= fun (a, p) => Pure.pure (f a, p)) = _
  rw [hn]
  rfl

end Leads

theorem peek_leads (c : Char) (text : List Char) : peek.Leads (c :: text) (c :: text) (some c) :=
  fun offset => ⟨offset, rfl⟩

theorem pass_leads (c : Char) (text : List Char) : (pass c).Leads (c :: text) text () :=
  fun offset => ⟨offset + c.utf8Size, rfl⟩

/-- What `r` does where `before` stands is what `r'` does where `after` stands. -/
def Resumes (r : Reader α) (before : List Char) (r' : Reader α) (after : List Char) : Prop :=
  ∀ offset, ∃ next, r ⟨offset, before⟩ = r' ⟨next, after⟩

namespace Resumes

variable {r r' : Reader α} {before between after last : List Char} {a : α}

theorem refl (r : Reader α) (text : List Char) : r.Resumes text r text :=
  fun offset => ⟨offset, rfl⟩

theorem trans {r'' : Reader α} (h : r.Resumes before r' between)
    (h' : r'.Resumes between r'' after) : r.Resumes before r'' after := by
  intro offset
  obtain ⟨middle, hm⟩ := h offset
  obtain ⟨next, hn⟩ := h' middle
  exact ⟨next, hm.trans hn⟩

theorem bind (h : r.Resumes before r' after) (f : α → Reader β) :
    Resumes (r >>= f) before (r' >>= f) after := by
  intro offset
  obtain ⟨next, hn⟩ := h offset
  refine ⟨next, ?_⟩
  change (r ⟨offset, before⟩ >>= fun (a, p) => f a p) = r' ⟨next, after⟩ >>= fun (a, p) => f a p
  rw [hn]

theorem leads (h : r.Resumes before r' between) (h' : r'.Leads between after a) :
    r.Leads before after a := by
  intro offset
  obtain ⟨middle, hm⟩ := h offset
  obtain ⟨next, hn⟩ := h' middle
  exact ⟨next, hm.trans hn⟩

end Resumes

theorem Leads.resumes {r : Reader α} {before after : List Char} {a : α}
    (h : r.Leads before after a) (f : α → Reader β) :
    Resumes (r >>= f) before (f a) after := by
  intro offset
  obtain ⟨next, hn⟩ := h offset
  refine ⟨next, ?_⟩
  change (r ⟨offset, before⟩ >>= fun (a, p) => f a p) = _
  rw [hn]
  rfl

section Blanks

variable {skipped text : List Char} {c : Char}

theorem blanks_past (h : Blanks skipped) (hc : Cursor.isBlank c = false) :
    blanks.Leads (skipped ++ c :: text) (c :: text) () := by
  intro offset
  refine ⟨offset + skipped.length, ?_⟩
  change Except.ok ((), Cursor.skipBlanks ⟨offset, skipped ++ c :: text⟩) = _
  simp only [Cursor.skipBlanks, List.takeWhile_append_of_pos h, List.dropWhile_append_of_pos h]
  simp [hc]

theorem valueStart_past (h : Blanks skipped) (hc : Cursor.isBlank c = false) :
    valueStart.Leads (skipped ++ c :: text) (c :: text) c :=
  (blanks_past h hc).bind ((peek_leads c text).bind (.pure c _))

theorem colon_past (h : Blanks skipped) : colon.Leads (skipped ++ ':' :: text) text () :=
  (blanks_past h rfl).bind ((peek_leads ':' text).bind (pass_leads ':' text))

theorem literal_past (letters text : List Char) :
    (literal letters).Leads (letters ++ text) text () := by
  induction letters with
  | nil => exact .pure () text
  | cons l letters ih =>
    intro offset
    obtain ⟨next, hn⟩ := ih (offset + 1)
    refine ⟨next, ?_⟩
    change (if l = l then literal letters ⟨offset + 1, letters ++ text⟩ else _) = _
    rw [if_pos rfl, hn]

end Blanks

end Reader

end VaultRing.Json
