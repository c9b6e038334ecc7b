import VaultRing.Proofs.YamlLiterals
import VaultRing.Proofs.YamlPairs
import VaultRing.Proofs.YamlPlain
import VaultRing.Proofs.YamlQuotes

namespace VaultRing.Yaml

namespace Lexer

variable {rest : List Char} {i l col : Nat}

section Readers

theorem readToken_value {c : Char} {cs : List Char} (hcs : Settled (c :: cs)) (hcol : 0 < col)
    (ts : List Token) :
    readToken (inBlock ⟨' ' :: (c :: cs), i, l, col⟩ ts false) =
      readAt (inBlock ⟨c :: cs, i + 1, l, col + 1⟩ ts false) c := by
  refine readToken_at (skipGap_blank hcs ts hcol _) (forgetFarKeys_none rfl) ?_ rfl
  have hinside : (0 : Int) ≤ (col + 1 : Nat) := Int.natCast_nonneg _
  simp only [endBlocks, endBlocksFrom, column, hinside, ↓reduceIte, ite_self]

theorem readQuoted_ok {single : Bool} {c : Char} {cs text : List Char} {source : Source}
    (h : Quoted.contents single ⟨cs, i + 1, l, col + 1⟩ (cs.length + 1) = .ok (text, source))
    (ts : List Token) :
    readQuoted (inBlock ⟨c :: cs, i, l, col⟩ ts false) single =
      .ok (inBlock source (ts ++ [.scalar text (if single then .singleQuoted else .doubleQuoted)])
        false) := by
  rw [readQuoted]
  change (Quoted.contents single ⟨cs, i + 1, l, col + 1⟩ (cs.length + 1)).bind _ = _
  rw [h]
  rfl

theorem readBlockScalar_ok {c : Char} {cs text : List Char} {source : Source}
    (h : Block.contents true 0 ⟨cs, i + 1, l, col + 1⟩ = .ok (text, source)) (ts : List Token) :
    readBlockScalar (inBlock ⟨c :: cs, i, l, col⟩ ts false) true =
      .ok (inBlock source (ts ++ [.scalar text .literal]) true) := by
  rw [readBlockScalar]
  change (Block.contents true 0 ⟨cs, i + 1, l, col + 1⟩).bind _ = _
  rw [h]
  rfl

theorem readPlain_ok {cs text : List Char} {source : Source} {broken : Bool}
    (h : Plain.contents false 1 Gap.empty ⟨cs, i, l, col⟩ (cs.length + 1) =
      .ok (text, broken, source)) (ts : List Token) :
    readPlain (inBlock ⟨cs, i, l, col⟩ ts false) =
      .ok (inBlock source (ts ++ [.scalar text .plain]) broken) := by
  rw [readPlain]
  change (Plain.contents false 1 Gap.empty ⟨cs, i, l, col⟩ (cs.length + 1)).bind _ = _
  rw [h]
  rfl

theorem readAt_quote (single : Bool) (cs : List Char) (ts : List Token) :
    readAt (inBlock ⟨quoteMark single :: cs, i, l, col⟩ ts false) (quoteMark single) =
      readQuoted (inBlock ⟨quoteMark single :: cs, i, l, col⟩ ts false) single := by
  cases single <;> simp [readAt, quoteMark, Source.atDocumentMark]

theorem readAt_bar (cs : List Char) (ts : List Token) :
    readAt (inBlock ⟨'|' :: cs, i, l, col⟩ ts false) '|' =
      readBlockScalar (inBlock ⟨'|' :: cs, i, l, col⟩ ts false) true := by
  simp [readAt, Source.atDocumentMark, inFlow]

/-- No other token begins like a plain text. -/
theorem readAt_plain {c : Char} {cs : List Char} (hcol : 0 < col) (hwhite : isWhite c = false)
    (hmark : Yaml.isIndicator c = false)
    (hrest : c = '?' ∨ c = ':' ∨ c = '-' → ∃ d ds, cs = d :: ds ∧ isWhite d = false)
    (ts : List Token) :
    readAt (inBlock ⟨c :: cs, i, l, col⟩ ts false) c =
      readPlain (inBlock ⟨c :: cs, i, l, col⟩ ts false) := by
  have hcol : (col == 0) = false := by simpa using Nat.ne_of_gt hcol
  have hne : ∀ d ∈ "#,[]\x7b\x7d&*!|>'\"%@`".toList, (c == d) = false := by
    intro d hd
    rw [beq_eq_false_iff_ne]
    rintro rfl
    rw [Yaml.isIndicator, List.contains_iff_mem.mpr hd] at hmark
    cases hmark
  have hat : ∀ d, d = '?' ∨ d = ':' ∨ d = '-' →
      (c == d && Source.whiteOrEndAt ⟨c :: cs, i, l, col⟩ 1) = false := by
    intro d hd
    by_cases h : c = d
    · subst h
      obtain ⟨e, es, rfl, he⟩ := hrest hd
      simpa [Source.whiteOrEndAt] using he
    · simp [h]
  have hstarts : startsPlain false c ⟨c :: cs, i, l, col⟩ = true := by
    by_cases h : c = '?' ∨ c = ':' ∨ c = '-'
    · obtain ⟨e, es, rfl, he⟩ := hrest h
      have hblank : isBlank e = false := (Bool.or_eq_false_iff.mp he).1
      rcases h with rfl | rfl | rfl <;>
        simp [startsPlain, Source.whiteOrEndAt, Source.holds, he, hblank]
    · simp only [not_or] at h
      have hindicator : isIndicator c = false := by
        simp [Yaml.isIndicator] at hmark
        simp [isIndicator, h, hmark]
      simp [startsPlain, hindicator, hwhite]
  have hflow : decide (1 < [(none : Option KeyPlace)].length) = false := rfl
  simp only [readAt, Source.atDocumentMark, inFlow, hflow, hcol, hstarts, Bool.false_and,
    Bool.false_or, hat '-' (.inr (.inr rfl)), hat '?' (.inl rfl), hat ':' (.inr (.inl rfl)),
    hne '[' (by decide), hne '\x7b' (by decide), hne ']' (by decide), hne '\x7d' (by decide),
    hne ',' (by decide), hne '*' (by decide), hne '&' (by decide), hne '!' (by decide),
    hne '|' (by decide), hne '>' (by decide), hne '\x27' (by decide), hne '"' (by decide),
    Bool.false_eq_true, ↓reduceIte]

end Readers

section Forms

variable {cs value text : List Char}

theorem settled_cons {c : Char} (hc : isWhite c = false) (hhash : c ≠ '#')
    (hmark : isByteOrderMark c = false) (cs : List Char) : Settled (c :: cs) := by
  intro d hd
  cases hd
  refine ⟨?_, ?_, hhash, not_break_of_not_white hc, hmark⟩ <;>
    (rintro rfl; exact absurd hc (by decide))

theorem reads_of_token {c : Char} {style : ScalarStyle}
    (hallowed : ∀ d ∈ c :: cs, isAllowed d = true) (hc : isWhite c = false) (hhash : c ≠ '#')
    (hmark : isByteOrderMark c = false)
    (h : ∀ {rest}, Begins rest → ∀ ts i l col, 0 < col →
      ∃ source keyAllowed, LineEnds source keyAllowed rest ∧
        readAt (inBlock ⟨c :: (cs ++ rest), i, l, col⟩ ts false) c =
          .ok (inBlock source (ts ++ [.scalar text style]) keyAllowed)) :
    Reads (c :: cs) text style := by
  refine ⟨hallowed, fun {rest} hrest ts i l col hcol => ?_⟩
  obtain ⟨source, keyAllowed, hends, hread⟩ := h hrest ts (i + 1) l (col + 1) (Nat.succ_pos _)
  refine ⟨source, keyAllowed, hends, ?_⟩
  rw [List.cons_append, readToken_value (settled_cons hc hhash hmark _) hcol, hread]
  rfl

section Plain

theorem isByteOrderMark_of_plain {c : Char} (h : isPlainCharacter c = true) :
    isByteOrderMark c = false := by
  rw [isByteOrderMark, beq_eq_false_iff_ne]
  intro heq
  simp [isPlainCharacter, heq] at h

theorem exists_solid (h : atEndOrWhite cs = false) : ∃ d ds, cs = d :: ds ∧ isWhite d = false := by
  cases cs with
  | nil => cases h
  | cons d ds => exact ⟨d, ds, rfl, h⟩

theorem reads_plain (hcs : Plain.OneLine cs) (hmarks : hasMarks cs = false) :
    Reads (cs ++ ['\n']) cs .plain := by
  obtain ⟨c, ds, rfl⟩ := List.exists_cons_of_ne_nil hcs.nonempty
  have hwhite : isWhite c = false := hcs.first c rfl
  have hplain := hcs.plain c List.mem_cons_self
  simp only [hasMarks, beginsWithMark, Bool.or_eq_false_iff] at hmarks
  obtain ⟨⟨⟨⟨hindicator, hmark⟩, -⟩, -⟩, hends⟩ := hmarks
  have hhash : c ≠ '#' := by
    rintro rfl
    exact absurd hindicator (by decide)
  have hcolon : (c == ':' && atEndOrWhite ds) = false := by
    by_cases h : c = ':'
    · subst h
      simpa using hmark
    · simp [h]
  have hmarks : endsPlain ' ' (c :: ds) = false := by
    simp [endsPlain, hcolon, hhash, hends]
  rw [List.cons_append]
  refine reads_of_token ?_ hwhite hhash (isByteOrderMark_of_plain hplain)
    fun {rest} hrest ts i l col hcol => ?_
  · intro d hd
    rw [List.mem_cons, List.mem_append, List.mem_singleton, ← or_assoc, ← List.mem_cons] at hd
    rcases hd with hd | rfl
    · exact isAllowed_of_plain (hcs.plain d hd)
    · rfl
  · obtain ⟨i', l', hcontents⟩ := Plain.contents_line (i := i) (l := l) hcs hmarks hrest.solid hcol
      Gap.empty (Nat.lt_succ_of_le (List.sublist_append_left (c :: ds) ('\n' :: rest)).length_le)
    refine ⟨⟨rest, i', l', 0⟩, true, .inl ⟨rfl, rfl, rfl⟩, ?_⟩
    have hafter : c = '?' ∨ c = ':' ∨ c = '-' →
        ∃ d es, ds ++ ['\n'] ++ rest = d :: es ∧ isWhite d = false := by
      intro h
      have hend : atEndOrWhite ds = false := by
        rcases h with rfl | rfl | rfl <;> simpa using hmark
      obtain ⟨d, es, rfl, hd⟩ := exists_solid hend
      exact ⟨d, _, rfl, hd⟩
    rw [readAt_plain hcol hwhite hindicator hafter]
    refine readPlain_ok ?_ ts
    rw [List.append_assoc]
    exact hcontents

end Plain

theorem isAllowed_indentation : ∀ c ∈ indentation, isAllowed c = true := by
  simp [indentation, isAllowed]

section Quotes

theorem isAllowed_indented (h : ∀ c ∈ cs, isAllowed c = true) (lineBegins : Bool) :
    ∀ c ∈ indented lineBegins cs, isAllowed c = true := by
  induction cs generalizing lineBegins with
  | nil => exact h
  | cons d cs ih =>
    obtain ⟨hd, hcs⟩ := List.forall_mem_cons.mp h
    rw [indented]
    split
    · exact List.forall_mem_cons.mpr ⟨hd, ih hcs true⟩
    · refine List.forall_mem_append.mpr ⟨?_, List.forall_mem_cons.mpr ⟨hd, ih hcs false⟩⟩
      split
      · exact isAllowed_indentation
      · exact fun d hd => absurd hd List.not_mem_nil

theorem isAllowed_closing (cs : List Char) : ∀ c ∈ closing cs, isAllowed c = true := by
  rw [closing]
  split
  · exact isAllowed_indentation
  · exact fun d hd => absurd hd List.not_mem_nil

theorem reads_single (hline : ∀ c ∈ cs, c ≠ '\n') (hkeeps : singleQuotedKeeps cs = true) :
    Reads (writeSingleQuoted cs ++ ['\n']) cs .singleQuoted := by
  have hquotable := Quotable.of_keeps hline hkeeps
  have hwritten : writeSingleQuoted cs ++ ['\n'] =
      '\x27' :: (indented false (doubled cs) ++ (closing cs ++ ['\x27', '\n'])) := by
    simp [writeSingleQuoted, doubled, closing]
  rw [hwritten]
  refine reads_of_token ?_ (by decide) (by decide) (by decide)
    fun {rest} hrest ts i l col hcol => ?_
  · intro d hd
    simp only [List.mem_cons, List.mem_append, List.not_mem_nil, or_false] at hd
    rcases hd with rfl | hd | hd | rfl | rfl
    · rfl
    · have hdoubled : ∀ c ∈ doubled cs, isAllowed c = true :=
        fun c hc => isAllowed_of_plain (hquotable.plain c (mem_doubled hc))
      exact isAllowed_indented hdoubled false d hd
    · exact isAllowed_closing cs d hd
    · rfl
    · rfl
  · have hfuel : cs.length < (indented false (doubled cs) ++ (closing cs ++ ['\x27', '\n']) ++
        rest).length + 1 := by
      have hdoubled := length_le_doubled cs []
      rw [List.append_nil] at hdoubled
      have hindented := length_le_indented (doubled cs) false
      rw [List.length_append, List.length_append]
      omega
    have hbehind : ('\n' :: rest).head? ≠ some '\x27' := by simp
    have hcontents : ∃ i' l' col', Quoted.contents true ⟨indented false (doubled cs) ++
        (closing cs ++ '\x27' :: '\n' :: rest), i + 1, l, col + 1⟩ _ =
          .ok (cs, ⟨'\n' :: rest, i', l', col'⟩) :=
      contents_single hquotable hbehind (Nat.succ_pos col) hfuel
    obtain ⟨i', l', col', hcontents⟩ := hcontents
    refine ⟨⟨'\n' :: rest, i', l', col'⟩, false, .inr rfl, ?_⟩
    refine (readAt_quote true _ ts).trans (readQuoted_ok ?_ ts)
    rw [← hcontents]
    simp

theorem isAllowed_digitChar : ∀ n < 16, isAllowed (Nat.digitChar n).toUpper = true := by decide

theorem isAllowed_toDigits (n : Nat) :
    ∀ d ∈ (Nat.toDigits 16 n).map Char.toUpper, isAllowed d = true := by
  induction n using Nat.strongRecOn with
  | _ n ih =>
    by_cases h : n < 16
    · rw [Nat.toDigits_of_lt_base h]
      exact List.forall_mem_singleton.mpr (isAllowed_digitChar n h)
    · rw [Nat.toDigits_of_base_le (by decide) (by omega), List.map_append, List.map_singleton,
        List.forall_mem_append, List.forall_mem_singleton]
      exact ⟨ih (n / 16) (by omega), isAllowed_digitChar _ (Nat.mod_lt _ (by decide))⟩

theorem isAllowed_upperHex {width n : Nat} {d : Char} (h : d ∈ upperHex width n) :
    isAllowed d = true := by
  rw [upperHex, Text.digits, Text.padLeft, List.map_append, List.map_replicate] at h
  rcases List.mem_append.mp h with h | h
  · obtain rfl := List.eq_of_mem_replicate h
    rfl
  · exact isAllowed_toDigits n d h

theorem isAllowed_writeEscape {c d : Char} (h : d ∈ writeEscape c) : isAllowed d = true := by
  unfold writeEscape at h
  split at h
  · rename_i letter hletter
    rcases List.mem_cons.mp h with rfl | h
    · rfl
    · obtain rfl := List.mem_singleton.mp h
      unfold escapeLetter? at hletter
      split at hletter <;> cases hletter <;> rfl
  · split at h
    · rename_i hplain
      obtain rfl := List.mem_singleton.mp h
      exact isAllowed_of_plain hplain
    · have hnumber : ∃ mark width, isAllowed mark = true ∧
          d ∈ '\\' :: mark :: upperHex width c.toNat := by
        split at h
        · exact ⟨'x', 2, rfl, h⟩
        · split at h
          · exact ⟨'u', 4, rfl, h⟩
          · exact ⟨'U', 8, rfl, h⟩
      obtain ⟨mark, width, hmark, h⟩ := hnumber
      simp only [List.mem_cons] at h
      rcases h with rfl | rfl | h
      · rfl
      · exact hmark
      · exact isAllowed_upperHex h

theorem reads_double (cs : List Char) :
    Reads (writeDoubleQuoted cs ++ ['\n']) cs .doubleQuoted := by
  have hwritten : writeDoubleQuoted cs ++ ['\n'] =
      '"' :: (cs.flatMap writeEscape ++ ['"', '\n']) := by
    simp [writeDoubleQuoted]
  rw [hwritten]
  refine reads_of_token ?_ (by decide) (by decide) (by decide)
    fun {rest} hrest ts i l col hcol => ?_
  · intro d hd
    simp only [List.mem_cons, List.mem_append, List.not_mem_nil, or_false, List.mem_flatMap] at hd
    rcases hd with rfl | ⟨c, -, hd⟩ | rfl | rfl
    · rfl
    · exact isAllowed_writeEscape hd
    · rfl
    · rfl
  · have hfuel : cs.length < (cs.flatMap writeEscape ++ ['"', '\n'] ++ rest).length + 1 := by
      have hescaped := length_le_flatMap length_writeEscape_pos cs ['"', '\n']
      rw [List.length_append]
      omega
    refine ⟨⟨'\n' :: rest, i + 1 + (cs.flatMap writeEscape).length + 1, l,
      col + 1 + (cs.flatMap writeEscape).length + 1⟩, false, .inr rfl, ?_⟩
    refine (readAt_quote false _ ts).trans (readQuoted_ok ?_ ts)
    refine Eq.trans ?_ (contents_double cs (Nat.succ_pos col) hfuel)
    simp

end Quotes

theorem isAllowed_hint (hinted : Bool) : ∀ c ∈ Block.hint hinted, isAllowed c = true := by
  cases hinted <;> simp [Block.hint, isAllowed]

theorem isAllowed_chomping (cs : List Char) : ∀ c ∈ chomping cs, isAllowed c = true := by
  unfold chomping
  split
  · split
    · simp [isAllowed]
    · split <;> simp [isAllowed]
  · simp [isAllowed]

theorem isAllowed_linesOf (h : ∀ c ∈ cs, isAllowed c = true) :
    ∀ c ∈ Block.linesOf cs, isAllowed c = true := by
  refine List.forall_mem_append.mpr ⟨isAllowed_indented h true, ?_⟩
  split <;> simp [isAllowed]

theorem reads_literal (hne : cs ≠ []) (hkeeps : literalKeeps cs = true) :
    Reads (writeLiteral cs ++ if (cs.getLast?).any isBreak then [] else ['\n']) cs .literal := by
  simp only [literalKeeps, needsEscapes, Bool.not_eq_true', Bool.or_eq_false_iff,
    Bool.not_eq_false', List.all_eq_true] at hkeeps
  have hplain := hkeeps.1.1
  have hwritten : (writeLiteral cs ++ if (cs.getLast?).any isBreak then [] else ['\n']) =
      '|' :: (Block.hint (Block.needsHint cs) ++ (chomping cs ++ '\n' :: Block.linesOf cs)) := by
    simp [writeLiteral, Block.hint, Block.needsHint, Block.linesOf]
    rfl
  rw [hwritten]
  refine reads_of_token ?_ (by decide) (by decide) (by decide)
    fun {rest} hrest ts i l col hcol => ?_
  · intro d hd
    simp only [List.mem_cons, List.mem_append] at hd
    rcases hd with rfl | hd | hd | rfl | hd
    · rfl
    · exact isAllowed_hint _ d hd
    · exact isAllowed_chomping cs d hd
    · rfl
    · exact isAllowed_linesOf (fun c hc => isAllowed_of_plain (hplain c hc)) d hd
  · obtain ⟨i', l', hcontents⟩ := Block.contents_literal hplain hne hrest.flush (i + 1) l (col + 1)
    refine ⟨⟨rest, i', l', 0⟩, true, .inl ⟨rfl, rfl, rfl⟩, ?_⟩
    rw [readAt_bar]
    refine readBlockScalar_ok ?_ ts
    rw [← hcontents]
    simp

theorem oneLine_of_plainKeeps (hne : cs ≠ []) (h : plainKeeps cs = true) :
    Plain.OneLine cs ∧ hasMarks cs = false := by
  simp only [plainKeeps, needsEscapes, edgesAreWhite, Bool.not_eq_true', Bool.or_eq_false_iff,
    Bool.not_eq_false', List.all_eq_true, List.any_eq_false, Bool.not_eq_true,
    Option.any_eq_false] at h
  obtain ⟨⟨⟨⟨hplain, -⟩, hfirst, hlast⟩, hbreak⟩, hmarks⟩ := h
  exact ⟨⟨hne, hplain, hbreak, hfirst, hlast⟩, hmarks⟩

/-- A text reads as itself. -/
theorem reads_writeText (cs : List Char) : ∃ style, Reads (writeText cs) cs style := by
  by_cases hline : '\n' ∈ cs
  · by_cases hkeeps : literalKeeps cs = true
    · have hform : formOf cs = .literal := by simp [formOf, hline, hkeeps]
      rw [writeText, hform]
      exact ⟨.literal, reads_literal (List.ne_nil_of_mem hline) hkeeps⟩
    · have hform : formOf cs = .doubleQuoted := by simp [formOf, hline, hkeeps]
      rw [writeText, hform]
      exact ⟨.doubleQuoted, reads_double cs⟩
  · by_cases hplain : (isText cs && !isZeroPadded cs && plainKeeps cs) = true
    · have hform : formOf cs = .plain := by
        simp only [formOf, List.contains_iff_mem, hline, ↓reduceIte, hplain]
      have hne : cs ≠ [] := by
        rintro rfl
        exact absurd hplain (by decide)
      have hkeeps : plainKeeps cs = true := (Bool.and_eq_true_iff.mp hplain).2
      obtain ⟨hcs, hmarks⟩ := oneLine_of_plainKeeps hne hkeeps
      rw [writeText, hform]
      exact ⟨.plain, reads_plain hcs hmarks⟩
    · by_cases hkeeps : singleQuotedKeeps cs = true
      · have hform : formOf cs = .singleQuoted := by
          simp only [formOf, List.contains_iff_mem, hline, ↓reduceIte, hplain, hkeeps]
          rfl
        rw [writeText, hform]
        exact ⟨.singleQuoted, reads_single (fun c hc heq => hline (heq ▸ hc)) hkeeps⟩
      · have hform : formOf cs = .doubleQuoted := by
          simp only [formOf, List.contains_iff_mem, hline, ↓reduceIte, hplain, hkeeps]
          rfl
        rw [writeText, hform]
        exact ⟨.doubleQuoted, reads_double cs⟩

end Forms

end Lexer

end VaultRing.Yaml
