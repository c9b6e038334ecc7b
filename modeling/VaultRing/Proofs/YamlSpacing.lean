import VaultRing.Yaml.Token.Flow
import VaultRing.Yaml.Writing

namespace VaultRing.Yaml

variable {c : Char} {rest : List Char}

section Characters

theorem ne_tab_of_plain (h : isPlainCharacter c = true) : c ≠ '\t' := by
  rintro rfl
  exact absurd h (by decide)

theorem ne_return_of_plain (h : isPlainCharacter c = true) : c ≠ '\r' := by
  rintro rfl
  exact absurd h (by decide)

/-- Among plain characters the one blank is the space. -/
theorem isBlank_iff_of_plain (h : isPlainCharacter c = true) : isBlank c = true ↔ c = ' ' := by
  simp [isBlank, ne_tab_of_plain h]

theorem isAllowed_of_plain (h : isPlainCharacter c = true) : isAllowed c = true := by
  simp only [isPlainCharacter, isAllowed, Bool.or_eq_true, Bool.and_eq_true, decide_eq_true_eq,
    beq_iff_eq] at h ⊢
  omega

/-- Breaks that a writer leaves as they are have one character and are kept by a reader. -/
theorem readBreak_of_plain (hc : isPlainCharacter c = true) (hb : isBreak c = true)
    (rest : List Char) (i l col : Nat) :
    Source.readBreak ⟨c :: rest, i, l, col⟩ = ([c], ⟨rest, i + 1, l + 1, 0⟩) := by
  have hreturn := ne_return_of_plain hc
  have hnext : c.toNat ≠ 0x85 := by
    intro h
    simp [isPlainCharacter, h] at hc
  unfold Source.readBreak
  split
  · rename_i heq
    exact absurd (List.cons.inj heq).1 hreturn
  · rename_i d ds _ heq
    obtain ⟨rfl, rfl⟩ := List.cons.inj heq
    rw [if_pos hb]
    by_cases hline : c = '\n'
    · subst hline
      rfl
    · have hseparator : (c.toNat == 0x2028 || c.toNat == 0x2029) = true := by
        simpa [isBreak, hreturn, hline, hnext] using hb
      rw [if_pos hseparator]
  · rename_i heq
    cases heq

theorem not_break_of_not_white (h : isWhite c = false) : isBreak c = false :=
  (Bool.or_eq_false_iff.mp h).2

end Characters

structure Breaks (cs : List Char) : Prop where
  plain : ∀ c ∈ cs, isPlainCharacter c = true
  breaks : ∀ c ∈ cs, isBreak c = true

theorem Breaks.line : Breaks ['\n'] :=
  ⟨List.forall_mem_singleton.mpr rfl, List.forall_mem_singleton.mpr rfl⟩

theorem Breaks.tail {cs : List Char} (h : Breaks (c :: cs)) : Breaks cs :=
  ⟨(List.forall_mem_cons.mp h.plain).2, (List.forall_mem_cons.mp h.breaks).2⟩

theorem Breaks.isBlank_head {cs : List Char} (h : Breaks (c :: cs)) : isBlank c = false := by
  rw [← Bool.not_eq_true, isBlank_iff_of_plain (h.plain c List.mem_cons_self)]
  rintro rfl
  exact absurd (h.breaks ' ' List.mem_cons_self) (by decide)

theorem Breaks.readBreak {cs : List Char} (h : Breaks (c :: cs)) (rest : List Char)
    (i l col : Nat) :
    Source.readBreak ⟨c :: rest, i, l, col⟩ = ([c], ⟨rest, i + 1, l + 1, 0⟩) :=
  readBreak_of_plain (h.plain c List.mem_cons_self) (h.breaks c List.mem_cons_self) rest i l col

def Solid (cs : List Char) : Prop := ∀ c ∈ cs.head?, isWhite c = false

theorem solid_nil : Solid [] := fun _ h => nomatch h

theorem solid_cons (h : isWhite c = false) (rest : List Char) : Solid (c :: rest) := by
  intro d hd
  cases hd
  exact h

section Pieces

/-- A text as a piece without `p`, a piece of `p`, and so on. -/
theorem pieces_induction {P : List Char → Prop} (p : Char → Bool)
    (last : ∀ w, (∀ c ∈ w, p c = false) → P w)
    (more : ∀ w g cs, (∀ c ∈ w, p c = false) → (∀ c ∈ g, p c = true) → g ≠ [] →
      (∀ c ∈ cs.head?, p c = false) → P cs → P (w ++ g ++ cs))
    (cs : List Char) : P cs := by
  -- On the length, since two pieces are taken off at once.
  induction hn : cs.length using Nat.strongRecOn generalizing cs with
  | _ n ih =>
    have hw : ∀ c ∈ cs.takeWhile (!p ·), p c = false := by
      intro c hc
      simpa using List.all_eq_true.mp List.all_takeWhile c hc
    have hcut : cs.takeWhile (!p ·) ++ cs.dropWhile (!p ·) = cs := List.takeWhile_append_dropWhile
    cases hd : cs.dropWhile (!p ·) with
    | nil =>
      rw [← hcut, hd, List.append_nil]
      exact last _ hw
    | cons d ds =>
      have hp : p d = true := by
        have hstop := List.head?_dropWhile_not (!p ·) cs
        rw [hd] at hstop
        simpa using hstop
      have hg : ∀ c ∈ d :: ds.takeWhile p, p c = true :=
        List.forall_mem_cons.mpr ⟨hp, fun c hc => List.all_eq_true.mp List.all_takeWhile c hc⟩
      have hothers : ∀ c ∈ (ds.dropWhile p).head?, p c = false := by
        intro c hc
        have hstop := List.head?_dropWhile_not p ds
        rwa [Option.mem_def.mp hc] at hstop
      have hlt : (ds.dropWhile p).length < n := by
        have hle := (List.dropWhile_sublist p (l := ds)).length_le
        have hlen := congrArg List.length hcut
        rw [hd, List.length_append, List.length_cons] at hlen
        omega
      have hcs : cs.takeWhile (!p ·) ++ (d :: ds.takeWhile p) ++ ds.dropWhile p = cs := by
        rw [List.append_assoc, List.cons_append, List.takeWhile_append_dropWhile, ← hd, hcut]
      rw [← hcs]
      exact more _ _ _ hw hg (List.cons_ne_nil _ _) hothers (ih _ hlt _ rfl)

end Pieces

section Indentation

theorem indented_word {w : List Char} (hw : ∀ c ∈ w, isBreak c = false) (rest : List Char) :
    indented false (w ++ rest) = w ++ indented false rest := by
  induction w with
  | nil => rfl
  | cons c w ih =>
    obtain ⟨hc, hw⟩ := List.forall_mem_cons.mp hw
    rw [List.cons_append, indented, hc, ih hw]
    rfl

theorem indented_line (hc : isBreak c = false) (rest : List Char) :
    indented true (c :: rest) = indentation ++ indented false (c :: rest) := by
  rw [indented, indented, hc]
  rfl

theorem exists_indented_cons (hc : isBreak c = false) (rest : List Char) :
    ∃ cs, indented false (c :: rest) = c :: cs := by
  refine ⟨indented false rest, ?_⟩
  rw [indented, hc]
  rfl

theorem length_le_indented (cs : List Char) (lineBegins : Bool) :
    cs.length ≤ (indented lineBegins cs).length := by
  induction cs generalizing lineBegins with
  | nil => exact Nat.le_refl 0
  | cons c cs ih =>
    rw [indented]
    split
    · exact Nat.succ_le_succ (ih true)
    · have := ih false
      rw [List.length_append, List.length_cons, List.length_cons]
      omega

theorem indented_breaks {breaks : List Char} (hb : ∀ c ∈ breaks, isBreak c = true)
    (hne : breaks ≠ []) (lineBegins : Bool) (rest : List Char) :
    indented lineBegins (breaks ++ rest) = breaks ++ indented true rest := by
  induction breaks generalizing lineBegins with
  | nil => exact absurd rfl hne
  | cons c breaks ih =>
    obtain ⟨hc, hbs⟩ := List.forall_mem_cons.mp hb
    rw [List.cons_append, indented, if_pos hc]
    cases breaks with
    | nil => rfl
    | cons d breaks =>
      rw [ih hbs (List.cons_ne_nil _ _)]
      rfl

theorem indented_append_breaks {breaks : List Char} (hb : ∀ c ∈ breaks, isBreak c = true)
    (cs : List Char) (lineBegins : Bool) :
    indented lineBegins (cs ++ breaks) = indented lineBegins cs ++ breaks := by
  induction cs generalizing lineBegins with
  | nil =>
    cases breaks with
    | nil => rfl
    | cons c breaks =>
      have h := indented_breaks hb (List.cons_ne_nil _ _) lineBegins []
      rwa [List.append_nil, indented, List.append_nil] at h
  | cons c cs ih =>
    rw [List.cons_append, indented, indented]
    split
    · rw [ih, List.cons_append]
    · rw [ih, List.append_assoc, List.cons_append]

end Indentation

namespace Gap

variable {indent i l col : Nat} {g : Gap}

theorem read_solid (indent : Nat) (g : Gap) (h : Solid rest) (fuel : Nat) :
    read indent g ⟨rest, i, l, col⟩ fuel = .ok (g, ⟨rest, i, l, col⟩) := by
  cases fuel with
  | zero => rfl
  | succ fuel =>
    cases rest with
    | nil => rfl
    | cons c rest =>
      have hwhite : isBlank c = false ∧ isBreak c = false := by simpa [isWhite] using h c rfl
      simp only [read, hwhite, Bool.false_eq_true, ↓reduceIte]

theorem read_spaces {spaces : List Char} (hs : ∀ c ∈ spaces, c = ' ') (indent : Nat)
    (before : List Char) (h : Solid rest) {fuel : Nat} (hfuel : spaces.length ≤ fuel) :
    read indent ⟨false, before, [], []⟩ ⟨spaces ++ rest, i, l, col⟩ fuel =
      .ok (⟨false, before ++ spaces, [], []⟩,
        ⟨rest, i + spaces.length, l, col + spaces.length⟩) := by
  induction spaces generalizing before i col fuel with
  | nil => simpa using read_solid indent _ h fuel
  | cons c spaces ih =>
    obtain ⟨rfl, hspaces⟩ := List.forall_mem_cons.mp hs
    cases fuel with
    | zero => simp at hfuel
    | succ fuel =>
      have hnext : read indent ⟨false, before ++ [' '], [], []⟩
          ⟨spaces ++ rest, i + 1, l, col + 1⟩ fuel =
            .ok (⟨false, before ++ [' '] ++ spaces, [], []⟩,
              ⟨rest, i + 1 + spaces.length, l, col + 1 + spaces.length⟩) :=
        ih hspaces (before ++ [' ']) (Nat.le_of_succ_le_succ hfuel)
      have hi : i + 1 + spaces.length = i + (spaces.length + 1) := by omega
      have hcol : col + 1 + spaces.length = col + (spaces.length + 1) := by omega
      rw [hi, hcol, List.append_assoc, List.singleton_append] at hnext
      exact hnext

theorem read_indentation {spaces : List Char} (hs : ∀ c ∈ spaces, c = ' ') (indent : Nat)
    (hg : g.broken = true) (h : Solid rest) {fuel : Nat} (hfuel : spaces.length ≤ fuel) :
    read indent g ⟨spaces ++ rest, i, l, col⟩ fuel =
      .ok (g, ⟨rest, i + spaces.length, l, col + spaces.length⟩) := by
  induction spaces generalizing i col fuel with
  | nil => exact read_solid indent _ h fuel
  | cons c spaces ih =>
    obtain ⟨rfl, hspaces⟩ := List.forall_mem_cons.mp hs
    cases fuel with
    | zero => simp at hfuel
    | succ fuel =>
      have hnext : read indent g ⟨spaces ++ rest, i + 1, l, col + 1⟩ fuel =
          .ok (g, ⟨rest, i + 1 + spaces.length, l, col + 1 + spaces.length⟩) :=
        ih hspaces (Nat.le_of_succ_le_succ hfuel)
      have hi : i + 1 + spaces.length = i + (spaces.length + 1) := by omega
      have hcol : col + 1 + spaces.length = col + (spaces.length + 1) := by omega
      rw [hi, hcol] at hnext
      refine Eq.trans ?_ hnext
      rw [List.cons_append, read]
      simp [hg, isBlank, Source.skip]

theorem read_breaks {breaks : List Char} (hb : Breaks breaks) (indent : Nat)
    (first others : List Char) (fuel : Nat) :
    read indent ⟨true, [], first, others⟩ ⟨breaks ++ rest, i, l, 0⟩ (fuel + breaks.length) =
      read indent ⟨true, [], first, others ++ breaks⟩
        ⟨rest, i + breaks.length, l + breaks.length, 0⟩ fuel := by
  induction breaks generalizing others i l with
  | nil => simp
  | cons c breaks ih =>
    have hnext := ih (i := i + 1) (l := l + 1) hb.tail (others ++ [c])
    have hi : i + 1 + breaks.length = i + (breaks.length + 1) := by omega
    have hl : l + 1 + breaks.length = l + (breaks.length + 1) := by omega
    rw [List.cons_append, List.length_cons, ← Nat.add_assoc, read]
    simp only [hb.isBlank_head, hb.breaks c List.mem_cons_self, Bool.false_eq_true, ↓reduceIte]
    rw [hb.readBreak]
    dsimp only
    rw [hnext, List.append_assoc, List.singleton_append, hi, hl]

theorem read_lines {breaks spaces : List Char} (hb : Breaks breaks) (hne : breaks ≠ [])
    (hs : ∀ c ∈ spaces, c = ' ') (indent : Nat) (h : Solid rest) {fuel : Nat}
    (hfuel : breaks.length + spaces.length ≤ fuel) :
    ∃ first others, first ++ others = breaks ∧
      read indent empty ⟨breaks ++ (spaces ++ rest), i, l, col⟩ fuel =
        .ok (⟨true, [], first, others⟩,
          ⟨rest, i + breaks.length + spaces.length, l + breaks.length, spaces.length⟩) := by
  obtain ⟨c, breaks, rfl⟩ := List.exists_cons_of_ne_nil hne
  obtain ⟨n, rfl⟩ := Nat.exists_eq_add_of_le hfuel
  refine ⟨[c], breaks, rfl, ?_⟩
  have hlen : (c :: breaks).length + spaces.length + n = spaces.length + n + breaks.length + 1 := by
    rw [List.length_cons]
    omega
  have hi : i + 1 + breaks.length = i + (breaks.length + 1) := by omega
  have hl : l + 1 + breaks.length = l + (breaks.length + 1) := by omega
  rw [hlen, List.cons_append, read]
  simp only [hb.isBlank_head, hb.breaks c List.mem_cons_self, empty, Bool.false_eq_true, ↓reduceIte]
  rw [hb.readBreak]
  dsimp only
  rw [read_breaks hb.tail, List.nil_append,
    read_indentation hs indent rfl h (Nat.le_add_right _ _), hi, hl, Nat.zero_add]
  rfl

theorem read_end (indent : Nat) (h : Solid rest) (fuel : Nat) :
    read indent empty ⟨'\n' :: rest, i, l, col⟩ (fuel + 1) =
      .ok (⟨true, [], ['\n'], []⟩, ⟨rest, i + 1, l + 1, 0⟩) :=
  read_solid indent ⟨true, [], ['\n'], []⟩ h fuel

end Gap

end VaultRing.Yaml
