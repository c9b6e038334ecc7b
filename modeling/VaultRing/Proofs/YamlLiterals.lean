import VaultRing.Proofs.YamlSpacing
import VaultRing.Yaml.Token.Block

namespace VaultRing.Yaml.Block

variable {rest : List Char} {i l : Nat}

section EmptyLines

def Flush (rest : List Char) : Prop :=
  ∀ c ∈ rest.head?, c ≠ ' ' ∧ c ≠ '\t' ∧ isBreak c = false

theorem takeWhile_space_of_flush (h : Flush rest) : rest.takeWhile (· == ' ') = [] := by
  cases rest with
  | nil => rfl
  | cons c rest => simp [(h c rfl).1]

theorem holds_of_flush (h : Flush rest) (i l col : Nat) :
    Source.is ⟨rest, i, l, col⟩ 0 '\t' = false ∧
      Source.holds ⟨rest, i, l, col⟩ 0 isBreak = false := by
  cases rest with
  | nil => exact ⟨rfl, rfl⟩
  | cons c rest =>
    obtain ⟨-, htab, hbreak⟩ := h c rfl
    exact ⟨by simpa [Source.is, Source.holds] using htab, hbreak⟩

theorem emptyLines_breaks {breaks : List Char} (hb : Breaks breaks) (indent widest : Nat)
    (before : List Char) (fuel : Nat) :
    emptyLines indent widest before ⟨breaks ++ rest, i, l, 0⟩ (fuel + breaks.length) =
      emptyLines indent widest (before ++ breaks)
        ⟨rest, i + breaks.length, l + breaks.length, 0⟩ fuel := by
  induction breaks generalizing before i l with
  | nil => simp
  | cons c breaks ih =>
    have hc := hb.breaks c List.mem_cons_self
    have hblank : c ≠ ' ' ∧ c ≠ '\t' := by simpa [isBlank] using hb.isBlank_head
    have hi : i + 1 + breaks.length = i + (breaks.length + 1) := by omega
    have hl : l + 1 + breaks.length = l + (breaks.length + 1) := by omega
    have hnext := ih (i := i + 1) (l := l + 1) hb.tail (before ++ [c])
    rw [hi, hl, List.append_assoc, List.singleton_append] at hnext
    refine Eq.trans ?_ hnext
    rw [List.cons_append, List.length_cons, ← Nat.add_assoc, emptyLines]
    simp [hblank, hc, Source.skip, Source.is, Source.holds, hb.readBreak]

theorem emptyLines_flush (h : Flush rest) (indent widest : Nat) (before : List Char) (fuel : Nat) :
    emptyLines indent widest before ⟨rest, i, l, 0⟩ (fuel + 1) =
      .ok (before, widest, ⟨rest, i, l, 0⟩) := by
  obtain ⟨htab, hbreak⟩ := holds_of_flush h i l 0
  rw [emptyLines]
  simp [takeWhile_space_of_flush h, Source.skip, htab, hbreak]

/-- A line with the indentation that is expected. -/
theorem emptyLines_line (h : ∀ c ∈ rest.head?, isBreak c = false) (widest : Nat)
    (before : List Char) (fuel : Nat) :
    emptyLines 2 widest before ⟨indentation ++ rest, i, l, 0⟩ (fuel + 1) =
      .ok (before, max widest 2, ⟨rest, i + 2, l, 2⟩) := by
  have hbreak : Source.holds ⟨rest, i + 2, l, 2⟩ 0 isBreak = false := by
    cases rest with
    | nil => rfl
    | cons c rest => exact h c rfl
  rw [emptyLines]
  simp [indentation, Source.skip, hbreak]

theorem emptyLines_first (h : Flush rest) (widest : Nat)
    (before : List Char) (fuel : Nat) :
    emptyLines 0 widest before ⟨indentation ++ rest, i, l, 0⟩ (fuel + 1) =
      .ok (before, max widest 2, ⟨rest, i + 2, l, 2⟩) := by
  obtain ⟨htab, hbreak⟩ := holds_of_flush h (i + 2) l 2
  rw [emptyLines]
  simp [indentation, takeWhile_space_of_flush h, Source.skip, htab, hbreak]

end EmptyLines

structure Body (cs : List Char) : Prop where
  nonempty : cs ≠ []
  plain : ∀ c ∈ cs, isPlainCharacter c = true
  first : ∀ c ∈ cs.head?, isBreak c = false
  last : ∀ c ∈ cs.getLast?, isBreak c = false

theorem Body.head?_indented {cs : List Char} (h : Body cs) (rest : List Char) :
    (indented false cs ++ rest).head? = cs.head? := by
  obtain ⟨c, cs, rfl⟩ := List.exists_cons_of_ne_nil h.nonempty
  obtain ⟨ds, hds⟩ := exists_indented_cons (h.first c rfl) cs
  rw [hds]
  rfl

theorem Body.behind {xs breaks cs : List Char} (h : Body (xs ++ breaks ++ cs)) (hne : breaks ≠ [])
    (hbreaks : ∀ c ∈ breaks, isBreak c = true) (hcs : ∀ c ∈ cs.head?, isBreak c = false) :
    Body cs := by
  refine ⟨?_, fun c hc => h.plain c (List.mem_append_right _ hc), hcs, fun c hc => h.last c ?_⟩
  · rintro rfl
    have hlast : (xs ++ breaks ++ []).getLast? = some (breaks.getLast hne) := by
      rw [List.append_nil, List.getLast?_append, List.getLast?_eq_some_getLast hne, Option.some_or]
    have hbreak := h.last _ hlast
    rw [hbreaks _ (List.getLast_mem hne)] at hbreak
    cases hbreak
  · rw [List.getLast?_append, Option.mem_def.mp hc]
    rfl

section Lines

variable {breaks : List Char} {chomping : Chomping}

/-- What becomes of the line breaks at the end. -/
def kept : Chomping → List Char → List Char
  | .strip, _ => []
  | .clip, breaks => breaks.take 1
  | .keep, breaks => breaks

theorem lines_line {w bs next : List Char} {b : Char} (hw : ∀ c ∈ w, isBreak c = false)
    (hb : Breaks (b :: bs)) (lead trail : List Char) (blankBefore : Bool) (fuel : Nat) :
    lines true chomping 2 lead trail blankBefore ⟨w ++ b :: next, i, l, 2⟩ (fuel + 1) =
      (emptyLines 2 0 [] ⟨next, i + w.length + 1, l + 1, 0⟩ (next.length + 1)).bind
        fun (trail', _, s) =>
          (lines true chomping 2 [b] trail' (Source.holds ⟨w ++ b :: next, i, l, 2⟩ 0 isBlank) s
            fuel).map fun (others, s) => (lead ++ trail ++ w ++ others, s) := by
  have hbreak := hb.breaks b List.mem_cons_self
  have htake : (w ++ b :: next).takeWhile (!isBreak ·) = w := by
    rw [List.takeWhile_append_of_pos (fun c hc => by simp [hw c hc]),
      List.takeWhile_cons_of_neg (by simp [hbreak]), List.append_nil]
  have hskip : Source.skip ⟨w ++ b :: next, i, l, 2⟩ w.length =
      ⟨b :: next, i + w.length, l, 2 + w.length⟩ := by
    rw [Source.skip, List.drop_left]
  have hne : Source.atEnd ⟨w ++ b :: next, i, l, 2⟩ = false := by simp [Source.atEnd]
  rw [lines.eq_def]
  dsimp only
  rw [if_neg (by simp [hne]), htake, hskip, hb.readBreak]
  rfl

theorem lines_last {w : List Char} (hw : ∀ c ∈ w, isBreak c = false) (hb : Breaks breaks)
    (hne : breaks ≠ []) (hrest : Flush rest) (lead trail : List Char) (blankBefore : Bool)
    (fuel : Nat) :
    lines true chomping 2 lead trail blankBefore ⟨w ++ (breaks ++ rest), i, l, 2⟩ (fuel + 2) =
      .ok (lead ++ trail ++ w ++ kept chomping breaks,
        ⟨rest, i + w.length + breaks.length, l + breaks.length, 0⟩) := by
  obtain ⟨b, bs, rfl⟩ := List.exists_cons_of_ne_nil hne
  have hfuel : (bs ++ rest).length + 1 = rest.length + 1 + bs.length := by
    rw [List.length_append]
    omega
  have hi : i + w.length + 1 + bs.length = i + w.length + (bs.length + 1) := by omega
  have hl : l + 1 + bs.length = l + (bs.length + 1) := by omega
  rw [List.cons_append, lines_line hw hb, hfuel, emptyLines_breaks hb.tail, emptyLines_flush hrest,
    List.nil_append, hi, hl]
  cases chomping <;> rfl

/-- A line before another one. -/
theorem lines_more (chomping : Chomping) {w next : List Char} (hw : ∀ c ∈ w, isBreak c = false)
    (hb : Breaks breaks) (hne : breaks ≠ []) (hnext : ∀ c ∈ next.head?, isBreak c = false)
    (lead trail : List Char) (blankBefore : Bool) (fuel : Nat) :
    ∃ lead' trail' blankBefore', lead' ++ trail' = breaks ∧
      lines true chomping 2 lead trail blankBefore ⟨w ++ (breaks ++ (indentation ++ next)), i, l, 2⟩
          (fuel + 1) =
        (lines true chomping 2 lead' trail' blankBefore'
          ⟨next, i + w.length + breaks.length + 2, l + breaks.length, 2⟩ fuel).map
            fun (others, s) => (lead ++ trail ++ w ++ others, s) := by
  obtain ⟨b, bs, rfl⟩ := List.exists_cons_of_ne_nil hne
  have hfuel : (bs ++ (indentation ++ next)).length + 1 =
      (indentation ++ next).length + 1 + bs.length := by
    rw [List.length_append]
    omega
  have hi : i + w.length + 1 + bs.length = i + w.length + (bs.length + 1) := by omega
  have hl : l + 1 + bs.length = l + (bs.length + 1) := by omega
  let line : Source := ⟨w ++ b :: (bs ++ (indentation ++ next)), i, l, 2⟩
  refine ⟨[b], bs, line.holds 0 isBlank, rfl, ?_⟩
  rw [List.cons_append, lines_line hw hb, hfuel, emptyLines_breaks hb.tail, emptyLines_line hnext,
    List.nil_append, hi, hl]
  rfl

theorem lines_body {body : List Char} (hbody : Body body) (hb : Breaks breaks) (hne : breaks ≠ [])
    (hrest : Flush rest) (lead trail : List Char) (blankBefore : Bool) {fuel : Nat}
    (hfuel : body.length < fuel) :
    ∃ i' l', lines true chomping 2 lead trail blankBefore
        ⟨indented false body ++ (breaks ++ rest), i, l, 2⟩ fuel =
      .ok (lead ++ trail ++ body ++ kept chomping breaks, ⟨rest, i', l', 0⟩) := by
  induction body using pieces_induction isBreak generalizing i l lead trail blankBefore fuel with
  | last w hw =>
    have hpos := List.length_pos_iff.mpr hbody.nonempty
    have hindented : indented false w = w := by
      have h := indented_word hw []
      rwa [List.append_nil, indented, List.append_nil] at h
    obtain ⟨n, rfl⟩ : ∃ n, fuel = n + 2 := ⟨fuel - 2, by omega⟩
    rw [hindented]
    exact ⟨_, _, lines_last hw hb hne hrest lead trail blankBefore n⟩
  | more w g body hw hg hgne hhead ih =>
    have hbehind := hbody.behind hgne hg hhead
    have hbreaks : Breaks g := ⟨fun c hc => hbody.plain c (by simp [hc]), hg⟩
    have hnext : ∀ c ∈ (indented false body ++ (breaks ++ rest)).head?, isBreak c = false := by
      rw [hbehind.head?_indented]
      exact hhead
    have htext : indented false (w ++ g ++ body) =
        w ++ (g ++ (indentation ++ indented false body)) := by
      obtain ⟨c, cs, rfl⟩ := List.exists_cons_of_ne_nil hbehind.nonempty
      rw [List.append_assoc, indented_word hw, indented_breaks hg hgne, indented_line (hhead c rfl)]
    rw [List.length_append, List.length_append] at hfuel
    have hpos := List.length_pos_iff.mpr hgne
    obtain ⟨n, rfl⟩ : ∃ n, fuel = n + 1 := ⟨fuel - 1, by omega⟩
    -- The breaks of a line are kept back until the next one, for those of the last may be dropped.
    obtain ⟨lead', trail', blank', hled, hlines⟩ :=
      lines_more (i := i) (l := l) chomping hw hbreaks hgne hnext lead trail blankBefore n
    obtain ⟨i', l', hothers⟩ := ih hbehind lead' trail' blank' (by omega : body.length < n)
    refine ⟨i', l', ?_⟩
    rw [htext, List.append_assoc, List.append_assoc, List.append_assoc, hlines, hothers, hled]
    simp only [Except.map, List.append_assoc]

end Lines

section Contents

def hint (hinted : Bool) : List Char := if hinted then ['2'] else []

def mark : Chomping → List Char
  | .strip => ['-']
  | .clip => []
  | .keep => ['+']

/-- What comes behind the line of the indicators. -/
theorem contents_header (hinted : Bool) (ch : Chomping) (t : List Char) (i l col : Nat) :
    ∃ i', contents true 0 ⟨hint hinted ++ (mark ch ++ '\n' :: t), i, l, col⟩ =
      (emptyLines (if hinted then 2 else 0) 0 [] ⟨t, i', l + 1, 0⟩ (t.length + 1)).bind
        fun (trail, widest, s) =>
          lines true ch (if hinted then 2 else max widest 1) [] trail false s
            (s.rest.length + 1) := by
  cases hinted <;> cases ch <;> exact ⟨_, rfl⟩

theorem exists_breaks_at_end (cs : List Char) :
    ∃ body breaks, cs = body ++ breaks ∧ (∀ c ∈ breaks, isBreak c = true) ∧
      ∀ c ∈ body.getLast?, isBreak c = false := by
  induction cs with
  | nil => exact ⟨[], [], rfl, nofun, fun c hc => nomatch hc⟩
  | cons c cs ih =>
    obtain ⟨body, breaks, rfl, hbreaks, hlast⟩ := ih
    cases body with
    | cons d ds => exact ⟨c :: d :: ds, breaks, rfl, hbreaks, hlast⟩
    | nil =>
      cases hc : isBreak c with
      | true => exact ⟨[], c :: breaks, rfl, List.forall_mem_cons.mpr ⟨hc, hbreaks⟩, hlast⟩
      | false =>
        refine ⟨[c], breaks, rfl, hbreaks, fun d hd => ?_⟩
        cases hd
        exact hc

/-- A text as line breaks, what neither begins nor ends with one, and line breaks. -/
theorem exists_body {cs : List Char} (hplain : ∀ c ∈ cs, isPlainCharacter c = true) :
    Breaks cs ∨ ∃ before body breaks, cs = before ++ (body ++ breaks) ∧ Breaks before ∧ Body body ∧
      Breaks breaks := by
  obtain ⟨front, breaks, rfl, hbreaks, hlast⟩ := exists_breaks_at_end cs
  obtain ⟨hplainfront, hplainbreaks⟩ := List.forall_mem_append.mp hplain
  have hcut : front.takeWhile isBreak ++ front.dropWhile isBreak = front :=
    List.takeWhile_append_dropWhile
  by_cases hfront : front.dropWhile isBreak = []
  · left
    have hall : ∀ c ∈ front, isBreak c = true := by
      intro c hc
      rw [← hcut, hfront, List.append_nil] at hc
      exact List.all_eq_true.mp List.all_takeWhile c hc
    exact ⟨hplain, List.forall_mem_append.mpr ⟨hall, hbreaks⟩⟩
  · right
    refine ⟨front.takeWhile isBreak, front.dropWhile isBreak, breaks, ?_, ⟨?_, ?_⟩,
      ⟨hfront, ?_, ?_, ?_⟩, ⟨hplainbreaks, hbreaks⟩⟩
    · rw [← List.append_assoc, hcut]
    · exact fun c hc => hplainfront c ((List.takeWhile_sublist _).subset hc)
    · exact fun c hc => List.all_eq_true.mp List.all_takeWhile c hc
    · exact fun c hc => hplainfront c ((List.dropWhile_sublist _).subset hc)
    · intro c hc
      have hstop := List.head?_dropWhile_not isBreak front
      rwa [Option.mem_def.mp hc] at hstop
    · intro c hc
      refine hlast c ?_
      rw [← hcut, List.getLast?_append, Option.mem_def.mp hc]
      rfl

def written (breaks : List Char) : List Char := if breaks.isEmpty then ['\n'] else breaks

theorem written_breaks {breaks : List Char} (hb : Breaks breaks) :
    Breaks (written breaks) ∧ written breaks ≠ [] := by
  cases breaks with
  | nil => exact ⟨.line, List.cons_ne_nil _ _⟩
  | cons c breaks => exact ⟨hb, List.cons_ne_nil _ _⟩

theorem chomping_body (before : List Char) {body breaks : List Char} (hbody : Body body)
    (hb : Breaks breaks) :
    ∃ ch, Yaml.chomping (before ++ (body ++ breaks)) = mark ch ∧
      kept ch (written breaks) = breaks := by
  obtain ⟨z, zs, hz⟩ := List.exists_cons_of_ne_nil (mt List.reverse_eq_nil_iff.mp hbody.nonempty)
  have hzlast : isBreak z = false := hbody.last z (by rw [← List.head?_reverse, hz]; rfl)
  have hreversed : ∀ c ∈ breaks.reverse, isBreak c = true :=
    fun c hc => hb.breaks c (List.mem_reverse.mp hc)
  unfold Yaml.chomping
  rw [List.reverse_append, List.reverse_append, hz, List.append_assoc]
  rcases hr : breaks.reverse with - | ⟨b, - | ⟨d, ds⟩⟩
  · obtain rfl := List.reverse_eq_nil_iff.mp hr
    exact ⟨.strip, by simp [hzlast, mark], rfl⟩
  · obtain rfl : breaks = [b] := by simpa using congrArg List.reverse hr
    exact ⟨.clip, by simp [hzlast, hb.breaks b List.mem_cons_self, mark], rfl⟩
  · rw [hr] at hreversed
    obtain ⟨hbb, hds⟩ := List.forall_mem_cons.mp hreversed
    have hne : breaks ≠ [] := by
      rintro rfl
      cases hr
    refine ⟨.keep, by simp [hbb, hds d List.mem_cons_self, mark], ?_⟩
    simp [kept, written, hne]

theorem chomping_breaks {breaks : List Char} (hne : breaks ≠ [])
    (hb : ∀ c ∈ breaks, isBreak c = true) : Yaml.chomping breaks = mark .keep := by
  have hreversed : ∀ c ∈ breaks.reverse, isBreak c = true :=
    fun c hc => hb c (List.mem_reverse.mp hc)
  obtain ⟨z, zs, hz⟩ := List.exists_cons_of_ne_nil (mt List.reverse_eq_nil_iff.mp hne)
  rw [hz] at hreversed
  obtain ⟨hzb, hzs⟩ := List.forall_mem_cons.mp hreversed
  have hall : zs.head?.all isBreak = true := by
    cases zs with
    | nil => rfl
    | cons y ys => exact hzs y List.mem_cons_self
  unfold Yaml.chomping
  rw [hz]
  simp only [hzb, hall, Bool.not_true, Bool.false_eq_true, ↓reduceIte, mark]

def linesOf (cs : List Char) : List Char :=
  indented true cs ++ if (cs.getLast?).any isBreak then [] else ['\n']

theorem linesOf_breaks {cs : List Char} (hne : cs ≠ []) (hb : ∀ c ∈ cs, isBreak c = true) :
    linesOf cs = cs := by
  have h := indented_breaks hb hne true []
  rw [List.append_nil, indented, List.append_nil] at h
  rw [linesOf, h, List.getLast?_eq_some_getLast hne, Option.any_some, hb _ (List.getLast_mem hne)]
  exact List.append_nil cs

theorem linesOf_body {before body breaks : List Char} (hbefore : Breaks before) (hbody : Body body)
    (hb : Breaks breaks) :
    linesOf (before ++ (body ++ breaks)) =
      before ++ (indentation ++ (indented false body ++ written breaks)) := by
  have hlines : indented true (body ++ breaks) =
      indentation ++ (indented false body ++ breaks) := by
    obtain ⟨c, cs, rfl⟩ := List.exists_cons_of_ne_nil hbody.nonempty
    rw [List.cons_append, indented_line (hbody.first c rfl), ← List.cons_append,
      indented_append_breaks hb.breaks]
  have hall : indented true (before ++ (body ++ breaks)) =
      before ++ (indentation ++ (indented false body ++ breaks)) := by
    cases before with
    | nil => exact hlines
    | cons c cs => rw [indented_breaks hbefore.breaks (List.cons_ne_nil c cs), hlines]
  have hend : (breaks ++ if ((before ++ (body ++ breaks)).getLast?).any isBreak then []
      else ['\n']) = written breaks := by
    rw [List.getLast?_append, List.getLast?_append, List.getLast?_eq_some_getLast hbody.nonempty]
    have hz := hbody.last _ (List.getLast?_eq_some_getLast hbody.nonempty)
    by_cases hempty : breaks = []
    · subst hempty
      simp [hz, written]
    · have hl := hb.breaks _ (List.getLast_mem hempty)
      simp [List.getLast?_eq_some_getLast hempty, hl, written, hempty]
  rw [linesOf, hall]
  simp only [List.append_assoc, hend]

theorem contents_of_breaks {cs : List Char} (hb : Breaks cs) (hne : cs ≠ []) (hrest : Flush rest)
    (i l col : Nat) :
    ∃ i' l', contents true 0
        ⟨hint true ++ (Yaml.chomping cs ++ '\n' :: (linesOf cs ++ rest)), i, l, col⟩ =
      .ok (cs, ⟨rest, i', l', 0⟩) := by
  have hfuel : (cs ++ rest).length + 1 = rest.length + 1 + cs.length := by
    rw [List.length_append]
    omega
  rw [chomping_breaks hne hb.breaks, linesOf_breaks hne hb.breaks]
  obtain ⟨i', hcontents⟩ := contents_header true .keep (cs ++ rest) i l col
  rw [hcontents, hfuel, if_pos rfl, emptyLines_breaks hb, emptyLines_flush hrest]
  exact ⟨_, _, rfl⟩

/-- The way to the first line. Its indentation is given, or else it is found out. -/
theorem emptyLines_start {before next : List Char} {hinted : Bool} (hbefore : Breaks before)
    (hnext : ∀ c ∈ next.head?, isBreak c = false)
    (hhint : hinted = false → before = [] ∧ Flush next) (i l : Nat) :
    ∃ i' l', emptyLines (if hinted then 2 else 0) 0 []
        ⟨before ++ (indentation ++ next), i, l, 0⟩ ((before ++ (indentation ++ next)).length + 1) =
      .ok (before, 2, ⟨next, i', l', 2⟩) := by
  cases hinted with
  | true =>
    have hfuel : (before ++ (indentation ++ next)).length + 1 =
        (indentation ++ next).length + 1 + before.length := by
      rw [List.length_append]
      omega
    rw [hfuel, if_pos rfl, emptyLines_breaks hbefore, emptyLines_line hnext]
    exact ⟨_, _, rfl⟩
  | false =>
    obtain ⟨rfl, hflush⟩ := hhint rfl
    rw [if_neg Bool.false_ne_true, List.nil_append, emptyLines_first hflush]
    exact ⟨_, _, rfl⟩

def needsHint (cs : List Char) : Bool := (cs.head?).any fun c => c == ' ' || isBreak c

theorem flush_of_needsHint {before body : List Char} (others rest : List Char)
    (hbefore : Breaks before) (hbody : Body body)
    (h : needsHint (before ++ (body ++ others)) = false) :
    before = [] ∧ Flush (indented false body ++ rest) := by
  cases before with
  | cons c before => simp [needsHint, hbefore.breaks c List.mem_cons_self] at h
  | nil =>
    refine ⟨rfl, fun c hc => ?_⟩
    rw [hbody.head?_indented] at hc
    obtain ⟨cs, rfl⟩ := List.head?_eq_some_iff.mp hc
    have hspace : c ≠ ' ' := by
      rintro rfl
      simp [needsHint] at h
    exact ⟨hspace, ne_tab_of_plain (hbody.plain c List.mem_cons_self), hbody.first c rfl⟩

theorem contents_of_body {before body breaks : List Char} (hbefore : Breaks before)
    (hbody : Body body) (hb : Breaks breaks) (hrest : Flush rest) (i l col : Nat) :
    ∃ i' l', contents true 0
        ⟨hint (needsHint (before ++ (body ++ breaks))) ++
          (Yaml.chomping (before ++ (body ++ breaks)) ++
            '\n' :: (linesOf (before ++ (body ++ breaks)) ++ rest)), i, l, col⟩ =
      .ok (before ++ (body ++ breaks), ⟨rest, i', l', 0⟩) := by
  obtain ⟨ch, hmark, hkept⟩ := chomping_body before hbody hb
  obtain ⟨hwritten, hwne⟩ := written_breaks hb
  let next := indented false body ++ (written breaks ++ rest)
  have hnext : ∀ c ∈ next.head?, isBreak c = false := by
    rw [hbody.head?_indented]
    exact hbody.first
  obtain ⟨i₁, hcontents⟩ := contents_header (needsHint (before ++ (body ++ breaks))) ch
    (before ++ (indentation ++ next)) i l col
  obtain ⟨i₂, l₂, hstart⟩ := emptyLines_start hbefore hnext
    (flush_of_needsHint breaks _ hbefore hbody) i₁ (l + 1)
  have hfuel : body.length < next.length + 1 := by
    have := length_le_indented body false
    rw [List.length_append]
    omega
  obtain ⟨i₃, l₃, hlines⟩ : ∃ i₃ l₃, lines true ch 2 [] before false ⟨next, i₂, l₂, 2⟩
      (next.length + 1) =
        .ok ([] ++ before ++ body ++ kept ch (written breaks), ⟨rest, i₃, l₃, 0⟩) :=
    lines_body hbody hwritten hwne hrest [] before false hfuel
  have hindent (hinted : Bool) : (if hinted then 2 else max 2 1) = 2 := by cases hinted <;> rfl
  refine ⟨i₃, l₃, ?_⟩
  rw [linesOf_body hbefore hbody hb, hmark]
  simp only [List.append_assoc]
  rw [hcontents, hstart]
  simp only [Except.bind, hindent]
  rw [hlines, hkept, List.nil_append, List.append_assoc]

theorem contents_literal {cs : List Char} (hplain : ∀ c ∈ cs, isPlainCharacter c = true)
    (hne : cs ≠ []) (hrest : Flush rest) (i l col : Nat) :
    ∃ i' l', contents true 0
        ⟨hint (needsHint cs) ++ (Yaml.chomping cs ++ '\n' :: (linesOf cs ++ rest)), i, l, col⟩ =
      .ok (cs, ⟨rest, i', l', 0⟩) := by
  rcases exists_body hplain with hb | ⟨before, body, breaks, rfl, hbefore, hbody, hb⟩
  · have hhint : needsHint cs = true := by
      obtain ⟨c, cs, rfl⟩ := List.exists_cons_of_ne_nil hne
      simp [needsHint, hb.breaks c List.mem_cons_self]
    rw [hhint]
    exact contents_of_breaks hb hne hrest i l col
  · exact contents_of_body hbefore hbody hb hrest i l col

end Contents

end VaultRing.Yaml.Block
