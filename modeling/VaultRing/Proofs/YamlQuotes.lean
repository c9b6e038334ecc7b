import Mathlib.Algebra.Group.Nat.Defs
import VaultRing.Proofs.YamlSpacing

namespace VaultRing

namespace Text

variable {n width : Nat}

theorem hexValue_digitChar : ∀ n < 16, hexValue? (Nat.digitChar n).toUpper = some n := by decide

theorem number_concat (base : Nat) (ds : List Char) (d : Char) :
    number? base (ds ++ [d]) =
      (number? base ds).bind fun n => ((hexValue? d).filter (· < base)).map (n * base + ·) := by
  simp [number?]

theorem number_toDigits (n : Nat) : number? 16 ((Nat.toDigits 16 n).map Char.toUpper) = some n := by
  induction n using Nat.strongRecOn with
  | _ n ih =>
    by_cases h : n < 16
    · rw [Nat.toDigits_of_lt_base h]
      simp [number?, hexValue_digitChar n h, h]
    · have hlow : n % 16 < 16 := Nat.mod_lt _ (by decide)
      rw [Nat.toDigits_of_base_le (by decide) (by omega), List.map_append, List.map_singleton,
        number_concat, ih (n / 16) (by omega), hexValue_digitChar _ hlow]
      simp [Option.filter, hlow, Nat.div_add_mod' n 16]

theorem number_padLeft (width : Nat) (ds : List Char) :
    number? 16 (List.replicate width '0' ++ ds) = number? 16 ds := by
  induction width with
  | zero => rfl
  | succ width ih => exact ih

end Text

namespace Yaml

theorem number_upperHex (width n : Nat) : Text.number? 16 (upperHex width n) = some n := by
  rw [upperHex, Text.digits, Text.padLeft, List.map_append, List.map_replicate]
  exact (Text.number_padLeft _ _).trans (Text.number_toDigits n)

theorem length_upperHex {width n : Nat} (hw : 0 < width) (h : n < 16 ^ width) :
    (upperHex width n).length = width := by
  have hle := (Nat.length_toDigits_le_iff (by decide) hw).mpr h
  rw [upperHex, List.length_map, Text.digits, Text.padLeft, List.length_append,
    List.length_replicate]
  omega

section Escapes

variable {c : Char} {rest : List Char} {i l col : Nat}

theorem escaped_of_escapeLetter {letter : Char} (h : escapeLetter? c = some letter) :
    Quoted.escaped? letter = some c ∧ isBreak letter = false := by
  have hc : c = Char.ofNat c.toNat := (Char.ofNat_toNat c).symm
  unfold escapeLetter? at h
  split at h <;> cases h
  all_goals
    rename_i hn
    rw [hn] at hc
    subst hc
    decide

theorem codePoint_upperHex {count : Nat} (hcount : 0 < count) (h : c.toNat < 16 ^ count)
    (rest : List Char) : Quoted.codePoint? (upperHex count c.toNat ++ rest) count = some c := by
  have hlen := length_upperHex hcount h
  have hvalid : ¬ (0x10FFFF < c.toNat ∨ (0xD800 ≤ c.toNat ∧ c.toNat ≤ 0xDFFF)) := by
    have := c.valid
    change c.toNat < 0xD800 ∨ (0xDFFF < c.toNat ∧ c.toNat < 0x110000) at this
    omega
  unfold Quoted.codePoint?
  rw [if_neg (by rw [List.length_append, hlen]; omega), List.take_left' hlen, number_upperHex,
    Option.bind_some, if_neg hvalid, Char.ofNat_toNat]

theorem run_upperHex {mark : Char} {count : Nat} (hmark : Quoted.escaped? mark = none)
    (hdigits : Quoted.escapeDigits? mark = some count) (hbreak : isBreak mark = false)
    (hcount : 0 < count) (h : c.toNat < 16 ^ count) (fuel : Nat) :
    Quoted.run false ⟨'\\' :: mark :: upperHex count c.toNat ++ rest, i, l, col⟩ (fuel + 1) =
      (Quoted.run false ⟨rest, i + (2 + count), l, col + (2 + count)⟩ fuel).map
        fun (cs, r) => (c :: cs, r) := by
  have hdrop : ('\\' :: mark :: (upperHex count c.toNat ++ rest)).drop (2 + count) = rest := by
    rw [Nat.add_comm, List.drop_succ_cons, List.drop_succ_cons,
      List.drop_left' (length_upperHex hcount h)]
  rw [List.cons_append, List.cons_append, Quoted.run]
  simp only [hmark, hdigits, hbreak, codePoint_upperHex hcount h, Source.skip, hdrop]
  rfl

theorem isWhite_of_unescaped (hplain : isPlainCharacter c = true) (hletter : escapeLetter? c = none)
    (hc : c ≠ ' ') : isWhite c = false := by
  have hreturn := ne_return_of_plain hplain
  have htab := ne_tab_of_plain hplain
  have hline : c ≠ '\n' := by
    rintro rfl
    cases hletter
  have hn (n : Nat) (letter : Char) (h : escapeLetter? (Char.ofNat n) = some letter) :
      c.toNat ≠ n := by
    rintro rfl
    rw [Char.ofNat_toNat, hletter] at h
    cases h
  simp [isWhite, isBlank, isBreak, hreturn, htab, hline, hc, hn 0x85 'N' rfl, hn 0x2028 'L' rfl,
    hn 0x2029 'P' rfl]

theorem run_writeEscape (hc : c ≠ ' ') (fuel : Nat) :
    Quoted.run false ⟨writeEscape c ++ rest, i, l, col⟩ (fuel + 1) =
      (Quoted.run false ⟨rest, i + (writeEscape c).length, l, col + (writeEscape c).length⟩
        fuel).map fun (cs, r) => (c :: cs, r) := by
  unfold writeEscape
  cases hletter : escapeLetter? c with
  | some letter =>
    obtain ⟨hescaped, hbreak⟩ := escaped_of_escapeLetter hletter
    change Quoted.run false ⟨'\\' :: letter :: rest, i, l, col⟩ (fuel + 1) = _
    rw [Quoted.run]
    simp only [hescaped, hbreak]
    rfl
  | none =>
    dsimp only
    split
    · rename_i hplain
      have hquote : c ≠ '"' := by
        rintro rfl
        cases hletter
      have hslash : c ≠ '\\' := by
        rintro rfl
        cases hletter
      rw [List.singleton_append, Quoted.run]
      simp [isWhite_of_unescaped hplain hletter hc, hquote, hslash, Source.skip]
    split
    · rename_i h
      rw [run_upperHex rfl rfl rfl (by decide) (by omega), List.length_cons, List.length_cons,
        length_upperHex (by decide) (by omega), Nat.add_comm 2]
    split
    · rename_i h
      rw [run_upperHex rfl rfl rfl (by decide) (by omega), List.length_cons, List.length_cons,
        length_upperHex (by decide) (by omega), Nat.add_comm 2]
    · have h : c.toNat < 16 ^ 8 := c.val.toNat_lt
      rw [run_upperHex rfl rfl rfl (by decide) h, List.length_cons, List.length_cons,
        length_upperHex (by decide) h, Nat.add_comm 2]

end Escapes

section Double

variable {rest : List Char} {i l col : Nat}

theorem solid_writeEscape {c : Char} (hc : c ≠ ' ') (rest : List Char) :
    Solid (writeEscape c ++ rest) := by
  unfold writeEscape
  cases hletter : escapeLetter? c with
  | some letter => exact solid_cons rfl _
  | none =>
    dsimp only
    split
    · rename_i hplain
      exact solid_cons (isWhite_of_unescaped hplain hletter hc) _
    split
    · exact solid_cons rfl _
    split <;> exact solid_cons rfl _

def quoteMark (single : Bool) : Char := if single then '\x27' else '"'

/-- A run stops at white space and at a quote, if this one is not doubled. -/
def Stops (single : Bool) (rest : List Char) : Prop :=
  ∃ c others, rest = c :: others ∧ (isWhite c = true ∨
    c = quoteMark single ∧ (single = true → others.head? ≠ some c))

theorem run_stops {single : Bool} (h : Stops single rest) (fuel : Nat) :
    Quoted.run single ⟨rest, i, l, col⟩ fuel = .ok ([], .plain, ⟨rest, i, l, col⟩) := by
  obtain ⟨c, others, rfl, hc⟩ := h
  cases fuel with
  | zero => rfl
  | succ fuel =>
    rw [Quoted.run]
    rcases hc with hwhite | ⟨rfl, hnext⟩
    · simp [hwhite]
    · cases single <;> simp_all [quoteMark, isWhite, isBlank, isBreak]

theorem length_le_flatMap {f : Char → List Char} (hf : ∀ c, 0 < (f c).length) (w rest : List Char) :
    w.length ≤ (w.flatMap f ++ rest).length := by
  induction w with
  | nil => exact Nat.zero_le _
  | cons c w ih =>
    have := hf c
    rw [List.flatMap_cons, List.append_assoc, List.length_append, List.length_cons]
    omega

theorem length_writeEscape_pos (c : Char) : 0 < (writeEscape c).length := by
  unfold writeEscape
  split
  · simp
  · split
    · simp
    · split
      · simp
      · split <;> simp

theorem run_word {w : List Char} (hw : ∀ c ∈ w, c ≠ ' ') (h : Stops false rest) {fuel : Nat}
    (hfuel : w.length ≤ fuel) :
    Quoted.run false ⟨w.flatMap writeEscape ++ rest, i, l, col⟩ fuel =
      .ok (w, .plain,
        ⟨rest, i + (w.flatMap writeEscape).length, l, col + (w.flatMap writeEscape).length⟩) := by
  induction w generalizing i col fuel with
  | nil => exact run_stops h fuel
  | cons c w ih =>
    obtain ⟨hc, hw⟩ := List.forall_mem_cons.mp hw
    cases fuel with
    | zero => simp at hfuel
    | succ fuel =>
      rw [List.flatMap_cons, List.append_assoc, run_writeEscape hc,
        ih hw (Nat.le_of_succ_le_succ hfuel), List.length_append, Nat.add_assoc, Nat.add_assoc]
      rfl

theorem flatMap_writeEscape_spaces {spaces : List Char} (hs : ∀ c ∈ spaces, c = ' ') :
    spaces.flatMap writeEscape = spaces := by
  induction spaces with
  | nil => rfl
  | cons c spaces ih =>
    obtain ⟨rfl, hspaces⟩ := List.forall_mem_cons.mp hs
    rw [List.flatMap_cons, ih hspaces]
    rfl

section Contents

variable {single : Bool} {s s' : Source} {w : List Char}

theorem contents_last (hcol : 0 < s.column) (hne : s.rest ≠ [])
    (hrun : Quoted.run single s s.rest.length = .ok (w, .plain, s'))
    (hquote : s'.is 0 (quoteMark single) = true) (fuel : Nat) :
    Quoted.contents single s (fuel + 1) = .ok (w, s'.skip 1) := by
  have hmark : (s.atDocumentMark || s.atEnd) = false := by
    simp [Source.atDocumentMark, Source.atEnd, Nat.ne_of_gt hcol, hne]
  rw [Quoted.contents, hmark]
  simp only [Bool.false_eq_true, ↓reduceIte, hrun]
  change (if s'.is 0 (quoteMark single) then _ else _) = _
  rw [if_pos hquote]
  rfl

theorem contents_more {g : Gap} {s'' : Source} (hcol : 0 < s.column) (hne : s.rest ≠ [])
    (hrun : Quoted.run single s s.rest.length = .ok (w, .plain, s'))
    (hquote : s'.is 0 (quoteMark single) = false)
    (hgap : Gap.read 0 .empty s' s'.rest.length = .ok (g, s'')) (fuel : Nat) :
    Quoted.contents single s (fuel + 1) =
      (Quoted.contents single s'' fuel).map fun (cs, r) => (w ++ g.text ++ cs, r) := by
  have hmark : (s.atDocumentMark || s.atEnd) = false := by
    simp [Source.atDocumentMark, Source.atEnd, Nat.ne_of_gt hcol, hne]
  rw [Quoted.contents, hmark]
  simp only [Bool.false_eq_true, ↓reduceIte, hrun]
  change (if s'.is 0 (quoteMark single) then _ else _) = _
  rw [if_neg (by simp [hquote])]
  change ((Gap.read 0 .empty s' s'.rest.length).bind fun _ => _) = _
  rw [hgap]
  rfl

theorem contents_spaces {g : List Char} (hcol : 0 < s.column) (hne : s.rest ≠ [])
    (hrun : Quoted.run single s s.rest.length = .ok (w, .plain, ⟨g ++ rest, i, l, col⟩))
    (hgne : g ≠ []) (hg : ∀ c ∈ g, c = ' ') (hsolid : Solid rest) (fuel : Nat) :
    Quoted.contents single s (fuel + 1) =
      (Quoted.contents single ⟨rest, i + g.length, l, col + g.length⟩ fuel).map
        fun (cs, r) => (w ++ g ++ cs, r) := by
  have hquote : Source.is ⟨g ++ rest, i, l, col⟩ 0 (quoteMark single) = false := by
    obtain ⟨d, ds, rfl⟩ := List.exists_cons_of_ne_nil hgne
    obtain rfl := hg d List.mem_cons_self
    cases single <;> rfl
  exact contents_more hcol hne hrun hquote (Gap.read_spaces hg 0 [] hsolid (by simp)) fuel

/-- A word with the line breaks behind it, and the indentation of the line that follows. -/
theorem contents_breaks {g : List Char} (hcol : 0 < s.column) (hne : s.rest ≠ [])
    (hrun : Quoted.run single s s.rest.length =
      .ok (w, .plain, ⟨g ++ (indentation ++ rest), i, l, col⟩))
    (hgne : g ≠ []) (hg : Breaks g) (hline : ∀ c ∈ g, c ≠ '\n') (hsolid : Solid rest)
    (fuel : Nat) :
    Quoted.contents single s (fuel + 1) =
      (Quoted.contents single ⟨rest, i + g.length + indentation.length, l + g.length,
        indentation.length⟩ fuel).map fun (cs, r) => (w ++ g ++ cs, r) := by
  have hquote : Source.is ⟨g ++ (indentation ++ rest), i, l, col⟩ 0 (quoteMark single) = false := by
    obtain ⟨d, ds, rfl⟩ := List.exists_cons_of_ne_nil hgne
    have hd := hg.breaks d List.mem_cons_self
    change (d == quoteMark single) = false
    rw [beq_eq_false_iff_ne]
    rintro rfl
    cases single <;> cases hd
  have hfit : g.length + indentation.length ≤ (g ++ (indentation ++ rest)).length := by
    rw [List.length_append, List.length_append]
    omega
  obtain ⟨first, others, hgap, hread⟩ := Gap.read_lines hg hgne
    (show ∀ c ∈ indentation, c = ' ' by simp [indentation]) 0 hsolid hfit
  -- A line feed would be folded to a space, any other break is kept.
  have hfirst : first ≠ ['\n'] := by
    rintro rfl
    exact hline '\n' (hgap ▸ List.mem_cons_self) rfl
  have htext : Gap.text ⟨true, [], first, others⟩ = g := by
    simpa [Gap.text, hfirst] using hgap
  rw [contents_more hcol hne hrun hquote hread, htext]

end Contents

theorem contents_double (cs : List Char) (hcol : 0 < col) {fuel : Nat} (hfuel : cs.length < fuel) :
    Quoted.contents false ⟨cs.flatMap writeEscape ++ '"' :: rest, i, l, col⟩ fuel =
      .ok (cs, ⟨rest, i + (cs.flatMap writeEscape).length + 1, l,
        col + (cs.flatMap writeEscape).length + 1⟩) := by
  induction cs using pieces_induction (· == ' ') generalizing i col fuel with
  | last w hw =>
    have hspace : ∀ c ∈ w, c ≠ ' ' := fun c hc => by simpa using hw c hc
    have hstops : Stops false ('"' :: rest) := ⟨'"', rest, rfl, .inr ⟨rfl, nofun⟩⟩
    have hlen := length_le_flatMap length_writeEscape_pos w ('"' :: rest)
    obtain ⟨n, rfl⟩ := Nat.exists_eq_add_of_lt hfuel
    rw [contents_last hcol (by simp) (run_word hspace hstops hlen) rfl]
    rfl
  | more w g cs hw hg hne hcs ih =>
    have hspace : ∀ c ∈ w, c ≠ ' ' := fun c hc => by simpa using hw c hc
    have hspaces : ∀ c ∈ g, c = ' ' := fun c hc => by simpa using hg c hc
    have hsolid : Solid (cs.flatMap writeEscape ++ '"' :: rest) := by
      cases cs with
      | nil => exact solid_cons rfl _
      | cons c cs =>
        rw [List.flatMap_cons, List.append_assoc]
        exact solid_writeEscape (by simpa using hcs c rfl) _
    have hstops : Stops false (g ++ (cs.flatMap writeEscape ++ '"' :: rest)) := by
      obtain ⟨d, ds, rfl⟩ := List.exists_cons_of_ne_nil hne
      obtain rfl := hspaces d List.mem_cons_self
      exact ⟨' ', _, rfl, .inl rfl⟩
    have hlen := length_le_flatMap length_writeEscape_pos w
      (g ++ (cs.flatMap writeEscape ++ '"' :: rest))
    rw [List.length_append, List.length_append] at hfuel
    have hpos := List.length_pos_iff.mpr hne
    obtain ⟨n, rfl⟩ : ∃ n, fuel = n + 1 := ⟨fuel - 1, by omega⟩
    rw [List.flatMap_append, List.flatMap_append, flatMap_writeEscape_spaces hspaces,
      List.append_assoc, List.append_assoc,
      contents_spaces hcol (by simp [hne]) (run_word hspace hstops hlen) hne hspaces hsolid,
      ih (by omega) (by omega)]
    simp only [Except.map, List.length_append, Nat.add_assoc]

end Double

section Single

variable {rest : List Char} {i l col : Nat}

def doubled (cs : List Char) : List Char :=
  cs.flatMap fun c => if c == '\x27' then [c, c] else [c]

def closing (cs : List Char) : List Char := if (cs.getLast?).any isBreak then indentation else []

theorem doubled_cons_quote (cs : List Char) :
    doubled ('\x27' :: cs) = '\x27' :: '\x27' :: doubled cs := rfl

theorem doubled_cons_of_ne {c : Char} (h : c ≠ '\x27') (cs : List Char) :
    doubled (c :: cs) = c :: doubled cs := by
  simp [doubled, h]

theorem doubled_white {cs : List Char} (h : ∀ c ∈ cs, isWhite c = true) : doubled cs = cs := by
  induction cs with
  | nil => rfl
  | cons c cs ih =>
    obtain ⟨hc, hcs⟩ := List.forall_mem_cons.mp h
    have hquote : c ≠ '\x27' := by
      rintro rfl
      cases hc
    rw [doubled_cons_of_ne hquote, ih hcs]

theorem exists_doubled_cons (c : Char) (cs : List Char) : ∃ ds, doubled (c :: cs) = c :: ds := by
  by_cases hquote : c = '\x27'
  · subst hquote
    exact ⟨_, doubled_cons_quote cs⟩
  · exact ⟨_, doubled_cons_of_ne hquote cs⟩

theorem mem_doubled {c : Char} {cs : List Char} (h : c ∈ doubled cs) : c ∈ cs := by
  obtain ⟨d, hd, hc⟩ := List.mem_flatMap.mp h
  split at hc <;> simp_all

theorem length_le_doubled (w rest : List Char) : w.length ≤ (doubled w ++ rest).length :=
  length_le_flatMap (fun c => by split <;> exact Nat.succ_pos _) w rest

theorem run_doubled {w : List Char} (hw : ∀ c ∈ w, isWhite c = false) (h : Stops true rest)
    {fuel : Nat} (hfuel : w.length ≤ fuel) :
    Quoted.run true ⟨doubled w ++ rest, i, l, col⟩ fuel =
      .ok (w, .plain, ⟨rest, i + (doubled w).length, l, col + (doubled w).length⟩) := by
  induction w generalizing i col fuel with
  | nil => exact run_stops h fuel
  | cons c w ih =>
    obtain ⟨hc, hword⟩ := List.forall_mem_cons.mp hw
    cases fuel with
    | zero => simp at hfuel
    | succ fuel =>
      have hle := Nat.le_of_succ_le_succ hfuel
      by_cases hquote : c = '\x27'
      · subst hquote
        have hrun : Quoted.run true ⟨doubled ('\x27' :: w) ++ rest, i, l, col⟩ (fuel + 1) =
            (Quoted.run true ⟨doubled w ++ rest, i + 2, l, col + 2⟩ fuel).map
              fun (cs, r) => ('\x27' :: cs, r) := rfl
        rw [hrun, ih hword hle, doubled_cons_quote, List.length_cons, List.length_cons]
        simp only [Except.map, Nat.add_assoc, Nat.add_comm 2]
      · have hrun : Quoted.run true ⟨c :: doubled w ++ rest, i, l, col⟩ (fuel + 1) =
            (Quoted.run true ⟨doubled w ++ rest, i + 1, l, col + 1⟩ fuel).map
              fun (cs, r) => (c :: cs, r) := by
          rw [List.cons_append, Quoted.run]
          simp [hc, hquote, Source.skip]
        rw [doubled_cons_of_ne hquote, hrun, ih hword hle, List.length_cons]
        simp only [Except.map, Nat.add_assoc, Nat.add_comm 1]

theorem someAdjacent_of_append (p q : Char → Bool) {xs ys : List Char}
    (h : someAdjacent p q (xs ++ ys) = false) :
    someAdjacent p q xs = false ∧ someAdjacent p q ys = false := by
  induction xs with
  | nil => exact ⟨rfl, h⟩
  | cons x xs ih =>
    cases xs with
    | nil =>
      refine ⟨rfl, ?_⟩
      cases ys with
      | nil => rfl
      | cons y ys => exact (Bool.or_eq_false_iff.mp h).2
    | cons x' xs =>
      simp only [List.cons_append, someAdjacent, Bool.or_eq_false_iff] at h ⊢
      obtain ⟨hxs, hys⟩ := ih h.2
      exact ⟨⟨h.1, hxs⟩, hys⟩

structure Quotable (cs : List Char) : Prop where
  plain : ∀ c ∈ cs, isPlainCharacter c = true
  line : ∀ c ∈ cs, c ≠ '\n'
  spaceBreak : someAdjacent (· == ' ') isBreak cs = false
  breakSpace : someAdjacent isBreak (· == ' ') cs = false

namespace Quotable

theorem of_keeps {cs : List Char} (hline : ∀ c ∈ cs, c ≠ '\n')
    (hkeeps : singleQuotedKeeps cs = true) : Quotable cs := by
  simp only [singleQuotedKeeps, needsEscapes, Bool.not_eq_true', Bool.or_eq_false_iff,
    Bool.not_eq_false', List.all_eq_true] at hkeeps
  exact ⟨hkeeps.1.1, hline, hkeeps.1.2, hkeeps.2⟩

theorem of_append {xs ys : List Char} (h : Quotable (xs ++ ys)) : Quotable xs ∧ Quotable ys := by
  obtain ⟨hplain, hplain'⟩ := List.forall_mem_append.mp h.plain
  obtain ⟨hline, hline'⟩ := List.forall_mem_append.mp h.line
  obtain ⟨hsb, hsb'⟩ := someAdjacent_of_append _ _ h.spaceBreak
  obtain ⟨hbs, hbs'⟩ := someAdjacent_of_append _ _ h.breakSpace
  exact ⟨⟨hplain, hline, hsb, hbs⟩, ⟨hplain', hline', hsb', hbs'⟩⟩

theorem spaces_or_breaks {g : List Char} (h : Quotable g) (hwhite : ∀ c ∈ g, isWhite c = true) :
    (∀ c ∈ g, c = ' ') ∨ Breaks g := by
  induction g with
  | nil => exact .inl nofun
  | cons c g ih =>
    obtain ⟨hcw, hwhite⟩ := List.forall_mem_cons.mp hwhite
    have hc := h.plain c List.mem_cons_self
    have hkind : c = ' ' ∨ isBreak c = true := by
      rw [← isBlank_iff_of_plain hc]
      simpa [isWhite] using hcw
    have hg : Quotable g := (of_append (show Quotable ([c] ++ g) from h)).2
    cases g with
    | nil =>
      rcases hkind with hspace | hbreak
      · exact .inl (List.forall_mem_singleton.mpr hspace)
      · exact .inr ⟨h.plain, List.forall_mem_singleton.mpr hbreak⟩
    | cons d g =>
      have hsb := (Bool.or_eq_false_iff.mp h.spaceBreak).1
      have hbs := (Bool.or_eq_false_iff.mp h.breakSpace).1
      rcases ih hg hwhite with hspaces | hbreaks
      · refine .inl (List.forall_mem_cons.mpr ⟨hkind.resolve_right fun hbreak => ?_, hspaces⟩)
        simp [hbreak, hspaces d List.mem_cons_self] at hbs
      · have hbreak := hkind.resolve_left fun hspace => by
          simp [hspace, hbreaks.breaks d List.mem_cons_self] at hsb
        exact .inr ⟨h.plain, List.forall_mem_cons.mpr ⟨hbreak, hbreaks.breaks⟩⟩

end Quotable

theorem closing_append {xs ys : List Char} (h : ys ≠ []) : closing (xs ++ ys) = closing ys := by
  rw [closing, closing, List.getLast?_append, List.getLast?_eq_some_getLast h, Option.some_or]

theorem closing_of_break {xs : List Char} (hne : xs ≠ []) (h : ∀ c ∈ xs, isBreak c = true) :
    closing xs = indentation := by
  rw [closing, List.getLast?_eq_some_getLast hne, Option.any_some, h _ (List.getLast_mem hne)]
  rfl

theorem closing_of_not_break {xs : List Char} (h : ∀ c ∈ xs, isBreak c = false) :
    closing xs = [] := by
  unfold closing
  cases hlast : xs.getLast? with
  | none => rfl
  | some c =>
    rw [Option.any_some, h c (List.mem_of_getLast? hlast)]
    rfl

/-- The indentation behind line breaks, whether a further line or the closing quote comes next. -/
theorem indented_after_breaks {g cs : List Char} (hne : g ≠ []) (hg : ∀ c ∈ g, isBreak c = true)
    (hcs : ∀ c ∈ cs.head?, isWhite c = false) (rest : List Char) :
    indented false (g ++ doubled cs) ++ (closing (g ++ cs) ++ rest) =
      g ++ (indentation ++ (indented false (doubled cs) ++ (closing cs ++ rest))) := by
  rw [indented_breaks hg hne]
  cases cs with
  | nil =>
    rw [List.append_nil, closing_of_break hne hg]
    simp [doubled, indented, closing]
  | cons c cs =>
    have hbreak := not_break_of_not_white (hcs c rfl)
    obtain ⟨ds, hds⟩ := exists_doubled_cons c cs
    rw [closing_append (List.cons_ne_nil c cs), hds, indented_line hbreak, List.append_assoc,
      List.append_assoc]

theorem indented_after_spaces {g cs : List Char} (hg : ∀ c ∈ g, c = ' ') (rest : List Char) :
    indented false (g ++ doubled cs) ++ (closing (g ++ cs) ++ rest) =
      g ++ (indented false (doubled cs) ++ (closing cs ++ rest)) := by
  have hbreak : ∀ c ∈ g, isBreak c = false := fun c hc => by rw [hg c hc]; rfl
  have hclosing : closing (g ++ cs) = closing cs := by
    cases cs with
    | nil =>
      rw [List.append_nil, closing_of_not_break hbreak]
      rfl
    | cons c cs => exact closing_append (List.cons_ne_nil c cs)
  rw [indented_word hbreak, hclosing, List.append_assoc]

theorem solid_indented {cs : List Char} (hcs : ∀ c ∈ cs.head?, isWhite c = false)
    (rest : List Char) : Solid (indented false (doubled cs) ++ (closing cs ++ '\x27' :: rest)) := by
  cases cs with
  | nil => exact solid_cons rfl _
  | cons c cs =>
    have hc := hcs c rfl
    obtain ⟨ds, hds⟩ := exists_doubled_cons c cs
    obtain ⟨es, hes⟩ := exists_indented_cons (not_break_of_not_white hc) ds
    rw [hds, hes]
    exact solid_cons hc _

theorem stops_white {g : List Char} (hne : g ≠ []) (hg : ∀ c ∈ g, isWhite c = true)
    (rest : List Char) : Stops true (g ++ rest) := by
  obtain ⟨d, ds, rfl⟩ := List.exists_cons_of_ne_nil hne
  exact ⟨d, ds ++ rest, rfl, .inl (hg d List.mem_cons_self)⟩

theorem indented_doubled_word {w g : List Char} (hw : ∀ c ∈ w, isWhite c = false)
    (hg : ∀ c ∈ g, isWhite c = true) (hne : g ≠ []) (cs rest : List Char) :
    indented false (doubled (w ++ g ++ cs)) ++ (closing (w ++ g ++ cs) ++ rest) =
      doubled w ++ (indented false (g ++ doubled cs) ++ (closing (g ++ cs) ++ rest)) := by
  have hbreak : ∀ c ∈ doubled w, isBreak c = false :=
    fun c hc => not_break_of_not_white (hw c (mem_doubled hc))
  have hdoubled : doubled (w ++ g ++ cs) = doubled w ++ (g ++ doubled cs) := by
    rw [List.append_assoc, doubled, List.flatMap_append, List.flatMap_append]
    exact congrArg (doubled w ++ ·) (congrArg (· ++ doubled cs) (doubled_white hg))
  rw [hdoubled, indented_word hbreak, List.append_assoc w, closing_append (by simp [hne]),
    List.append_assoc]

theorem indented_doubled_last {w : List Char} (hw : ∀ c ∈ w, isWhite c = false)
    (rest : List Char) :
    indented false (doubled w) ++ (closing w ++ rest) = doubled w ++ rest := by
  have hbreak : ∀ c ∈ w, isBreak c = false := fun c hc => not_break_of_not_white (hw c hc)
  have hindented := indented_word (fun c hc => hbreak c (mem_doubled hc)) []
  rw [List.append_nil, indented, List.append_nil] at hindented
  rw [hindented, closing_of_not_break hbreak, List.nil_append]

/-- By words and the white space between them, which a writer may have indented. -/
theorem contents_single {cs : List Char} (h : Quotable cs) (hrest : rest.head? ≠ some '\x27')
    (hcol : 0 < col) {fuel : Nat} (hfuel : cs.length < fuel) :
    ∃ i' l' col', Quoted.contents true
        ⟨indented false (doubled cs) ++ (closing cs ++ '\x27' :: rest), i, l, col⟩ fuel =
      .ok (cs, ⟨rest, i', l', col'⟩) := by
  induction cs using pieces_induction isWhite generalizing i l col fuel with
  | last w hw =>
    have hstops : Stops true ('\x27' :: rest) := ⟨'\x27', rest, rfl, .inr ⟨rfl, fun _ => hrest⟩⟩
    have hlen := length_le_doubled w ('\x27' :: rest)
    obtain ⟨n, rfl⟩ := Nat.exists_eq_add_of_lt hfuel
    rw [indented_doubled_last hw, contents_last hcol (by simp) (run_doubled hw hstops hlen) rfl]
    exact ⟨_, _, _, rfl⟩
  | more w g cs hw hg hne hcs ih =>
    obtain ⟨hwg, hquotable⟩ := h.of_append
    obtain ⟨-, hgap⟩ := hwg.of_append
    rw [List.length_append, List.length_append] at hfuel
    have hpos := List.length_pos_iff.mpr hne
    obtain ⟨n, rfl⟩ : ∃ n, fuel = n + 1 := ⟨fuel - 1, by omega⟩
    let tail := indented false (doubled cs) ++ (closing cs ++ '\x27' :: rest)
    have hsolid : Solid tail := solid_indented hcs rest
    have hnext {i l col : Nat} (hcol : 0 < col) :
        ∃ i' l' col', Quoted.contents true ⟨tail, i, l, col⟩ n = .ok (cs, ⟨rest, i', l', col'⟩) :=
      ih hquotable hcol (by omega)
    have hstops := stops_white hne hg
    have hlen (others : List Char) := length_le_doubled w (g ++ others)
    rw [indented_doubled_word hw hg hne]
    rcases hgap.spaces_or_breaks hg with hspaces | hbreaks
    · rw [indented_after_spaces hspaces,
        contents_spaces hcol (by simp [hne]) (run_doubled hw (hstops tail) (hlen tail)) hne hspaces
          hsolid]
      obtain ⟨i', l', col', hcontents⟩ := hnext (Nat.add_pos_right _ hpos)
      rw [hcontents]
      exact ⟨i', l', col', rfl⟩
    · rw [indented_after_breaks hne hbreaks.breaks hcs,
        contents_breaks hcol (by simp [hne]) (run_doubled hw (hstops _) (hlen _)) hne hbreaks
          hgap.line hsolid]
      obtain ⟨i', l', col', hcontents⟩ := hnext (by decide : 0 < indentation.length)
      rw [hcontents]
      exact ⟨i', l', col', rfl⟩

end Single

end Yaml

end VaultRing
