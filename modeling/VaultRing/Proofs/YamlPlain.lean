import VaultRing.Proofs.YamlSpacing

namespace VaultRing.Yaml.Plain

variable {rest : List Char} {i l col : Nat}

theorem endsPlain_suffix (xs ys : List Char) {before last : Char}
    (hlast : (before :: xs).getLast? = some last) (h : endsPlain before (xs ++ ys) = false) :
    endsPlain last ys = false := by
  induction xs generalizing before with
  | nil =>
    cases hlast
    exact h
  | cons x xs ih =>
    rw [List.getLast?_cons_cons] at hlast
    exact ih hlast (Bool.or_eq_false_iff.mp h).2

/-- A word ends with the white space behind it, or with the line. -/
theorem run_word {w others : List Char} (hw : ∀ c ∈ w, isWhite c = false)
    (hothers : ∀ c ∈ others.head?, isWhite c = true) (before : Char)
    (h : endsPlain before (w ++ others) = false) :
    run false (w ++ (others ++ '\n' :: rest)) = .ok w := by
  induction w generalizing before with
  | nil =>
    cases others with
    | nil => rfl
    | cons c others =>
      rw [List.nil_append, List.cons_append, run, if_pos (hothers c rfl)]
  | cons c w ih =>
    obtain ⟨hc, hword⟩ := List.forall_mem_cons.mp hw
    simp only [List.cons_append, endsPlain, Bool.or_eq_false_iff] at h
    have hcolon : (c == ':' && ((w ++ (others ++ '\n' :: rest)).head?).all isWhite) = false := by
      have hends := h.1.1
      cases hw : w ++ others with
      | nil =>
        rw [hw] at hends
        simp [atEndOrWhite] at hends
        simp [hends]
      | cons d ds =>
        rw [← List.append_assoc, hw]
        rw [hw] at hends
        exact hends
    rw [List.cons_append, run, hc, hcolon, ih hword c h.2]
    rfl

section Contents

variable {w others : List Char} {gap : Gap} {column : Nat}

theorem head_ne_hash {cs : List Char} (h : endsPlain ' ' cs = false) : cs.head? ≠ some '#' := by
  cases cs with
  | nil => exact nofun
  | cons c cs =>
    intro heq
    obtain rfl : c = '#' := Option.some.inj heq
    simp [endsPlain, isWhite, isBlank] at h

theorem contents_word (hw : ∀ c ∈ w, isWhite c = false) (hne : w ≠ [])
    (hothers : ∀ c ∈ others.head?, isWhite c = true) (h : endsPlain ' ' (w ++ others) = false)
    (hcol : 0 < col) (fuel : Nat) :
    contents false 1 gap ⟨w ++ (others ++ '\n' :: rest), i, l, col⟩ (fuel + 1) =
      (Gap.read 1 Gap.empty ⟨others ++ '\n' :: rest, i + w.length, l, col + w.length⟩
        (others ++ '\n' :: rest).length).bind fun (next, s) =>
          if s.column < 1 then .ok (gap.text ++ w, next.broken, s)
          else
            (contents false 1 next s fuel).map fun (others, broken, s) =>
              (gap.text ++ w ++ others, broken, s) := by
  have hmark : (Source.atDocumentMark ⟨w ++ (others ++ '\n' :: rest), i, l, col⟩ ||
      Source.is ⟨w ++ (others ++ '\n' :: rest), i, l, col⟩ 0 '#') = false := by
    have hhash := head_ne_hash h
    obtain ⟨c, cs, rfl⟩ := List.exists_cons_of_ne_nil hne
    have hc : c ≠ '#' := fun heq => hhash (congrArg some heq)
    simp [Source.atDocumentMark, Source.is, Source.holds, Nat.ne_of_gt hcol, hc]
  have hwhite : Source.holds ⟨others ++ '\n' :: rest, i + w.length, l, col + w.length⟩ 0 isWhite =
      true := by
    cases others with
    | nil => rfl
    | cons c others => exact hothers c rfl
  have hempty : w.isEmpty = false := by simpa using hne
  have hskip : Source.skip ⟨w ++ (others ++ '\n' :: rest), i, l, col⟩ w.length =
      ⟨others ++ '\n' :: rest, i + w.length, l, col + w.length⟩ := by
    rw [Source.skip, List.drop_left]
  rw [contents, hmark]
  simp only [Bool.false_eq_true, ↓reduceIte, run_word hw hothers ' ' h]
  change (if w.isEmpty then _ else _) = _
  rw [hempty, hskip, hwhite]
  change (Gap.read 1 Gap.empty ⟨others ++ '\n' :: rest, i + w.length, l, col + w.length⟩
    (others ++ '\n' :: rest).length).bind _ = _
  congr 1
  funext r
  by_cases hleft : r.2.column < 1
  · simp [hleft]
    rfl
  · simp [hleft]
    rfl

theorem contents_last (hw : ∀ c ∈ w, isWhite c = false) (hne : w ≠ [])
    (h : endsPlain ' ' w = false) (hrest : Solid rest) (hcol : 0 < col) (fuel : Nat) :
    contents false 1 gap ⟨w ++ '\n' :: rest, i, l, col⟩ (fuel + 1) =
      .ok (gap.text ++ w, true, ⟨rest, i + w.length + 1, l + 1, 0⟩) := by
  have hall : endsPlain ' ' (w ++ []) = false := by rwa [List.append_nil]
  have hnone : ∀ c ∈ ([] : List Char).head?, isWhite c = true := fun c hc => nomatch hc
  rw [← List.nil_append ('\n' :: rest), contents_word hw hne hnone hall hcol, List.nil_append,
    List.length_cons, Gap.read_end 1 hrest]
  rfl

theorem contents_more {g cs : List Char} (hw : ∀ c ∈ w, isWhite c = false) (hne : w ≠ [])
    (hg : ∀ c ∈ g, c = ' ') (hgne : g ≠ []) (hcs : Solid (cs ++ '\n' :: rest))
    (h : endsPlain ' ' (w ++ (g ++ cs)) = false) (hcol : 0 < col) (fuel : Nat) :
    contents false 1 gap ⟨w ++ (g ++ (cs ++ '\n' :: rest)), i, l, col⟩ (fuel + 1) =
      (contents false 1 ⟨false, g, [], []⟩ ⟨cs ++ '\n' :: rest, i + w.length + g.length, l,
        col + w.length + g.length⟩ fuel).map fun (others, broken, s) =>
          (gap.text ++ w ++ others, broken, s) := by
  have hwhite : ∀ c ∈ (g ++ cs).head?, isWhite c = true := by
    obtain ⟨d, ds, rfl⟩ := List.exists_cons_of_ne_nil hgne
    obtain rfl := hg d List.mem_cons_self
    intro c hc
    cases hc
    rfl
  have hfit : g.length ≤ (g ++ (cs ++ '\n' :: rest)).length := by
    rw [List.length_append]
    exact Nat.le_add_right _ _
  have hright : ¬ col + w.length + g.length < 1 := by omega
  rw [← List.append_assoc g, contents_word hw hne hwhite h hcol, List.append_assoc, Gap.empty,
    Gap.read_spaces hg 1 [] hcs hfit]
  simp only [Except.bind, if_neg hright, List.nil_append]

end Contents

structure OneLine (cs : List Char) : Prop where
  nonempty : cs ≠ []
  plain : ∀ c ∈ cs, isPlainCharacter c = true
  unbroken : ∀ c ∈ cs, isBreak c = false
  first : ∀ c ∈ cs.head?, isWhite c = false
  last : ∀ c ∈ cs.getLast?, isWhite c = false

theorem OneLine.isWhite_eq_false {cs : List Char} (h : OneLine cs) {c : Char} (hc : c ∈ cs)
    (hspace : (c == ' ') = false) : isWhite c = false := by
  rw [isWhite, h.unbroken c hc, Bool.or_false, ← Bool.not_eq_true,
    isBlank_iff_of_plain (h.plain c hc)]
  simpa using hspace

theorem OneLine.behind {w g cs : List Char} (h : OneLine (w ++ g ++ cs)) (hg : ∀ c ∈ g, c = ' ')
    (hne : g ≠ []) (hhead : ∀ c ∈ cs.head?, (c == ' ') = false) : w ≠ [] ∧ OneLine cs := by
  have hnone : ∀ c ∈ g, isWhite c ≠ false := by
    intro c hc
    rw [hg c hc]
    decide
  refine ⟨?_, ?_, fun c hc => h.plain c (by simp [hc]), fun c hc => h.unbroken c (by simp [hc]),
    fun c hc => ?_, fun c hc => h.last c ?_⟩
  · rintro rfl
    obtain ⟨d, ds, rfl⟩ := List.exists_cons_of_ne_nil hne
    exact hnone d List.mem_cons_self (h.first d rfl)
  · rintro rfl
    refine hnone _ (List.getLast_mem hne) (h.last _ ?_)
    rw [List.append_nil, List.getLast?_append, List.getLast?_eq_some_getLast hne]
    rfl
  · exact h.isWhite_eq_false (by simp [List.mem_of_head? hc]) (hhead c hc)
  · rw [List.getLast?_append, Option.mem_def.mp hc]
    rfl

theorem contents_line {cs : List Char} (hcs : OneLine cs) (h : endsPlain ' ' cs = false)
    (hrest : Solid rest) (hcol : 0 < col) (gap : Gap) {fuel : Nat} (hfuel : cs.length < fuel) :
    ∃ i' l', contents false 1 gap ⟨cs ++ '\n' :: rest, i, l, col⟩ fuel =
      .ok (gap.text ++ cs, true, ⟨rest, i', l', 0⟩) := by
  induction cs using pieces_induction (· == ' ') generalizing i l col gap fuel with
  | last w hw =>
    obtain ⟨n, rfl⟩ := Nat.exists_eq_add_of_lt hfuel
    exact ⟨_, _, contents_last (fun c hc => hcs.isWhite_eq_false hc (hw c hc)) hcs.nonempty h hrest
      hcol _⟩
  | more w g cs hw hg hne hhead ih =>
    have hspaces : ∀ c ∈ g, c = ' ' := fun c hc => by simpa using hg c hc
    have hword : ∀ c ∈ w, isWhite c = false := fun c hc =>
      hcs.isWhite_eq_false (by simp [hc]) (hw c hc)
    obtain ⟨hwne, hline⟩ := hcs.behind hspaces hne hhead
    have hlast : (' ' :: (w ++ g)).getLast? = some ' ' := by
      rw [← List.cons_append, List.getLast?_append, List.getLast?_eq_some_getLast hne,
        hspaces _ (List.getLast_mem hne)]
      rfl
    have hmarks : endsPlain ' ' cs = false := endsPlain_suffix (w ++ g) cs hlast h
    have hsolid : Solid (cs ++ '\n' :: rest) := by
      obtain ⟨c, ds, rfl⟩ := List.exists_cons_of_ne_nil hline.nonempty
      exact solid_cons (hline.first c rfl) _
    have hpos := List.length_pos_iff.mpr hne
    rw [List.length_append, List.length_append] at hfuel
    obtain ⟨n, rfl⟩ : ∃ n, fuel = n + 1 := ⟨fuel - 1, by omega⟩
    have hcol' : 0 < col + w.length + g.length := by omega
    have hfuel' : cs.length < n := by omega
    -- A gap is put before the word that follows it, so what is read from there on begins with it.
    obtain ⟨i', l', hnext⟩ := ih hline hmarks hcol' ⟨false, g, [], []⟩ hfuel'
    refine ⟨i', l', ?_⟩
    rw [List.append_assoc, List.append_assoc,
      contents_more hword hwne hspaces hne hsolid (by rwa [← List.append_assoc]) hcol, hnext]
    simp [Except.map, Gap.text]

end VaultRing.Yaml.Plain
