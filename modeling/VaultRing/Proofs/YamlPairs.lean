import VaultRing.Proofs.YamlLiterals
import VaultRing.Proofs.YamlPlain
import VaultRing.Proofs.YamlQuotes
import VaultRing.Yaml.Token.Lexer

namespace VaultRing.Yaml

def Begins (rest : List Char) : Prop := rest = [] ∨ ∃ cs, rest = 'o' :: cs

theorem Begins.flush {rest : List Char} (h : Begins rest) : Block.Flush rest := by
  rcases h with rfl | ⟨cs, rfl⟩
  · exact fun c hc => nomatch hc
  · intro c hc
    cases hc
    decide

theorem Begins.solid {rest : List Char} (h : Begins rest) : Solid rest := by
  rcases h with rfl | ⟨cs, rfl⟩
  · exact solid_nil
  · exact solid_cons rfl cs

namespace Lexer

variable {s : Lexer} {rest : List Char} {i l col : Nat} {ts : List Token}

section Steps

theorem forgetFarKeys_none (h : s.keys = [none]) : s.forgetFarKeys = .ok s := by
  obtain ⟨source, tokens, indent, indents, keyAllowed, keys, ended⟩ := s
  cases h
  rfl

theorem run_step {s' : Lexer} (hended : s.ended = false)
    (h : s.readToken.bind forgetFarKeys = .ok s') (fuel : Nat) :
    s.run (fuel + 1) = s'.run fuel := by
  rw [run, hended, h]
  rfl

/-- A token begins where the white space before it ends. -/
theorem readToken_at {s' : Lexer} {c : Char} (hgap : s.skipGap (s.source.rest.length + 1) = s')
    (hfar : s'.forgetFarKeys = .ok s') (hblocks : s'.endBlocks s'.column = s')
    (hrest : s'.source.rest.head? = some c) : s.readToken = s'.readAt c := by
  obtain ⟨cs, hcs⟩ := List.head?_eq_some_iff.mp hrest
  rw [readToken, hgap, hfar]
  simp only [bind, Except.bind, hblocks, hcs]

theorem run_ended (h : s.ended = true) (fuel : Nat) : s.run fuel = (s.tokens, none) := by
  cases fuel with
  | zero => rfl
  | succ fuel => rw [run, if_pos h]

end Steps

def LineEnds (source : Source) (keyAllowed : Bool) (rest : List Char) : Prop :=
  (source.rest = rest ∧ source.column = 0 ∧ keyAllowed = true) ∨ source.rest = '\n' :: rest

def AtMargin (indent : Int) (indents : List Int) : Prop :=
  indent = -1 ∧ indents = [] ∨ indent = 0 ∧ indents = [-1]

abbrev inBlock (source : Source) (ts : List Token) (keyAllowed : Bool) : Lexer :=
  ⟨source, ts, 0, [-1], keyAllowed, [none], false⟩

def Settled (cs : List Char) : Prop :=
  ∀ c ∈ cs.head?, c ≠ ' ' ∧ c ≠ '\t' ∧ c ≠ '#' ∧ isBreak c = false ∧ isByteOrderMark c = false

theorem settled_of_begins (h : Begins rest) : Settled rest := by
  rcases h with rfl | ⟨cs, rfl⟩
  · exact fun c hc => nomatch hc
  · intro c hc
    cases hc
    decide

theorem skipGap_settled (s : Lexer) (h : Settled s.source.rest) (fuel : Nat) :
    s.skipGap fuel = s := by
  obtain ⟨⟨cs, i, l, col⟩, tokens, indent, indents, keyAllowed, keys, ended⟩ := s
  cases fuel with
  | zero => rfl
  | succ fuel =>
    cases cs with
    | nil =>
      simp [skipGap, Source.holds, Source.skipWhile, Source.skip, Source.skipComment, Source.is]
    | cons c cs =>
      obtain ⟨hspace, htab, hhash, hbreak, hmark⟩ := h c rfl
      simp [skipGap, Source.holds, Source.skipWhile, Source.skip, Source.skipComment, Source.is,
        hspace, htab, hhash, hbreak, hmark]

theorem skipGap_end {source : Source} {keyAllowed : Bool} (h : LineEnds source keyAllowed rest)
    (hrest : Begins rest) (ts : List Token) (indent : Int) (indents : List Int) :
    ∃ i l, skipGap ⟨source, ts, indent, indents, keyAllowed, [none], false⟩
        (source.rest.length + 1) =
      ⟨⟨rest, i, l, 0⟩, ts, indent, indents, true, [none], false⟩ := by
  obtain ⟨cs, i, l, col⟩ := source
  rcases h with ⟨rfl, rfl, rfl⟩ | rfl
  · exact ⟨i, l, skipGap_settled _ (settled_of_begins hrest) _⟩
  · refine ⟨i + 1, l + 1, ?_⟩
    have hbreak : skipGap ⟨⟨'\n' :: rest, i, l, col⟩, ts, indent, indents, keyAllowed, [none],
        false⟩ (rest.length + 1 + 1) =
          skipGap ⟨⟨rest, i + 1, l + 1, 0⟩, ts, indent, indents, true, [none], false⟩
            (rest.length + 1) := by
      rw [skipGap]
      simp [Source.holds, Source.skipWhile, Source.skip, Source.skipComment, Source.is,
        Source.skipBreak, Source.readBreak, isByteOrderMark, isBreak, inFlow]
    rw [List.length_cons, hbreak]
    exact skipGap_settled _ (settled_of_begins hrest) _

theorem skipGap_blank {cs : List Char} (h : Settled cs) (ts : List Token) (hcol : 0 < col)
    (fuel : Nat) :
    skipGap (inBlock ⟨' ' :: cs, i, l, col⟩ ts false) (fuel + 1) =
      inBlock ⟨cs, i + 1, l, col + 1⟩ ts false := by
  have hcol := Nat.ne_of_gt hcol
  cases cs with
  | nil =>
    simp [skipGap, Source.holds, Source.skipWhile, Source.skip, Source.skipComment, Source.is, hcol]
  | cons c cs =>
    obtain ⟨hspace, htab, hhash, hbreak, -⟩ := h c rfl
    simp [skipGap, Source.holds, Source.skipWhile, Source.skip, Source.skipComment, Source.is,
      hspace, htab, hhash, hbreak, hcol]

section Keys

structure KeyName (name : List Char) : Prop where
  begins : ∃ cs, name = 'o' :: cs
  letters : ∀ c ∈ name, isWhite c = false ∧ c ≠ ':' ∧ isAllowed c = true
  short : name.length ≤ keyReach

variable {name : List Char} {source : Source} {keyAllowed : Bool} {indent : Int}
  {indents : List Int}

theorem run_name (h : ∀ c ∈ name, isWhite c = false ∧ c ≠ ':' ∧ isAllowed c = true)
    (rest : List Char) : Plain.run false (name ++ ':' :: ' ' :: rest) = .ok name := by
  induction name with
  | nil => rfl
  | cons c name ih =>
    obtain ⟨⟨hwhite, hcolon, -⟩, hname⟩ := List.forall_mem_cons.mp h
    rw [List.cons_append, Plain.run, hwhite, ih hname]
    simp [hcolon, Except.map]

theorem contents_name (h : KeyName name) (indent : Nat) (rest : List Char) (fuel : Nat) :
    Plain.contents false indent Gap.empty ⟨name ++ ':' :: ' ' :: rest, i, l, col⟩ (fuel + 1) =
      .ok (name, false, ⟨':' :: ' ' :: rest, i + name.length, l, col + name.length⟩) := by
  have hrun := run_name h.letters rest
  have hskip : Source.skip ⟨name ++ ':' :: ' ' :: rest, i, l, col⟩ name.length =
      ⟨':' :: ' ' :: rest, i + name.length, l, col + name.length⟩ := by
    rw [Source.skip, List.drop_left]
  obtain ⟨cs, rfl⟩ := h.begins
  have hmark : (Source.atDocumentMark ⟨'o' :: cs ++ ':' :: ' ' :: rest, i, l, col⟩ ||
      Source.is ⟨'o' :: cs ++ ':' :: ' ' :: rest, i, l, col⟩ 0 '#') = false := by
    simp [Source.atDocumentMark, Source.is, Source.holds]
  rw [Plain.contents, hmark]
  simp only [Bool.false_eq_true, ↓reduceIte, hrun, bind, Except.bind, hskip]
  rfl

def opening (indent : Int) : List Token := if indent < 0 then [.blockMappingStart] else []

/-- What stands before a colon is remembered, as it may have been a key. -/
theorem readToken_name (h : KeyName name)
    (hsource : LineEnds source keyAllowed (name ++ ':' :: ' ' :: rest))
    (hmargin : AtMargin indent indents) (ts : List Token) :
    ∃ i l, (readToken ⟨source, ts, indent, indents, keyAllowed, [none], false⟩).bind
        forgetFarKeys =
      .ok ⟨⟨':' :: ' ' :: rest, i + name.length, l, name.length⟩, ts ++ [.scalar name .plain],
        indent, indents, false, [some ⟨indent == 0, ts.length, i, l, 0⟩], false⟩ := by
  obtain ⟨cs, hcs⟩ := h.begins
  obtain ⟨i, l, hgap⟩ := skipGap_end hsource
    (.inr ⟨cs ++ ':' :: ' ' :: rest, by rw [hcs]; rfl⟩) ts indent indents
  refine ⟨i, l, ?_⟩
  have hblocks : endBlocks ⟨⟨name ++ ':' :: ' ' :: rest, i, l, 0⟩, ts, indent, indents, true,
      [none], false⟩ 0 = ⟨⟨name ++ ':' :: ' ' :: rest, i, l, 0⟩, ts, indent, indents, true,
        [none], false⟩ := by
    rcases hmargin with ⟨rfl, rfl⟩ | ⟨rfl, rfl⟩ <;> rfl
  have hplain : readAt ⟨⟨name ++ ':' :: ' ' :: rest, i, l, 0⟩, ts, indent, indents, true,
      [none], false⟩ 'o' = readPlain ⟨⟨name ++ ':' :: ' ' :: rest, i, l, 0⟩, ts, indent, indents,
        true, [none], false⟩ := by
    rw [hcs]
    simp [readAt, Source.atDocumentMark, startsPlain, isIndicator, isWhite, isBlank, isBreak]
  have hread : readPlain ⟨⟨name ++ ':' :: ' ' :: rest, i, l, 0⟩, ts, indent, indents, true,
      [none], false⟩ =
        .ok ⟨⟨':' :: ' ' :: rest, i + name.length, l, 0 + name.length⟩,
          ts ++ [.scalar name .plain], indent, indents, false,
          [some ⟨indent == 0, ts.length, i, l, 0⟩], false⟩ := by
    rw [readPlain]
    change (Plain.contents false (indent + 1).toNat Gap.empty _ _).bind _ = _
    rw [contents_name h]
    rfl
  have hnear : isTooFar ⟨':' :: ' ' :: rest, i + name.length, l, 0 + name.length⟩
      ⟨indent == 0, ts.length, i, l, 0⟩ = false := by
    have := h.short
    simp [isTooFar, this]
  rw [readToken_at hgap (forgetFarKeys_none rfl) hblocks (by rw [hcs]; rfl), hplain, hread,
    Nat.zero_add]
  rw [Nat.zero_add] at hnear
  simp [Except.bind, forgetFarKeys, hnear]

/-- The token of a key is put before the name, and before the first one that of the block. -/
theorem readToken_colon (rest : List Char) (l : Nat) (hmargin : AtMargin indent indents)
    (hcol : 0 < col) {index : Nat} (hnear : i ≤ index + keyReach) (ts : List Token) (t : Token) :
    (readToken ⟨⟨':' :: ' ' :: rest, i, l, col⟩, ts ++ [t], indent, indents, false,
        [some ⟨indent == 0, ts.length, index, l, 0⟩], false⟩).bind forgetFarKeys =
      .ok (inBlock ⟨' ' :: rest, i + 1, l, col + 1⟩ (ts ++ (opening indent ++ [.key, t, .value]))
        false) := by
  let s : Lexer := ⟨⟨':' :: ' ' :: rest, i, l, col⟩, ts ++ [t], indent, indents, false,
    [some ⟨indent == 0, ts.length, index, l, 0⟩], false⟩
  have hgap : s.skipGap (s.source.rest.length + 1) = s :=
    skipGap_settled s (fun c hc => by cases hc; decide) _
  have hfar : s.forgetFarKeys = .ok s := by
    have h : isTooFar s.source ⟨indent == 0, ts.length, index, l, 0⟩ = false := by
      simp [isTooFar, s, hnear]
    simp only [s, forgetFarKeys, List.any_cons, List.any_nil, Option.any_some] at h ⊢
    simp [h]
  have hblocks : s.endBlocks s.column = s := by
    have hright : ¬ (col : Int) < 0 := by omega
    rcases hmargin with ⟨rfl, rfl⟩ | ⟨rfl, rfl⟩
    · rfl
    · simp [s, endBlocks, endBlocksFrom, inFlow, column]
  have hvalue : s.readAt ':' = s.readValue := by
    simp [s, readAt, Source.atDocumentMark, Source.whiteOrEndAt, inFlow, isWhite, isBlank]
  rw [readToken_at hgap hfar hblocks rfl, hvalue]
  rcases hmargin with ⟨rfl, rfl⟩ | ⟨rfl, rfl⟩ <;>
    simp [s, readValue, insertAt, beginBlock, inFlow, opening, push, skip, Source.skip,
      forgetFarKeys, Except.bind]

end Keys

section Values

/-- What stands behind a colon and reads as a scalar, with the end of its line. -/
structure Reads (value text : List Char) (style : ScalarStyle) : Prop where
  allowed : ∀ c ∈ value, isAllowed c = true
  token : ∀ {rest}, Begins rest → ∀ ts i l col, 0 < col →
    ∃ source keyAllowed, LineEnds source keyAllowed rest ∧
      (readToken (inBlock ⟨' ' :: (value ++ rest), i, l, col⟩ ts false)).bind forgetFarKeys =
        .ok (inBlock source (ts ++ [.scalar text style]) keyAllowed)

end Values

section Pairs

structure Pair where
  name : List Char
  value : List Char
  text : List Char
  style : ScalarStyle

namespace Pair

def line (p : Pair) : List Char := p.name ++ ':' :: ' ' :: p.value

def tokens (p : Pair) : List Token :=
  [.key, .scalar p.name .plain, .value, .scalar p.text p.style]

structure Readable (p : Pair) : Prop where
  name : KeyName p.name
  value : Reads p.value p.text p.style

end Pair

variable {p : Pair} {ps : List Pair} {source : Source} {keyAllowed : Bool} {indent : Int}
  {indents : List Int}

theorem begins_lines (hps : ∀ p ∈ ps, p.Readable) : Begins (ps.flatMap Pair.line) := by
  cases ps with
  | nil => exact .inl rfl
  | cons p ps =>
    obtain ⟨cs, hcs⟩ := (hps p List.mem_cons_self).name.begins
    exact .inr ⟨cs ++ ':' :: ' ' :: p.value ++ ps.flatMap Pair.line, by simp [Pair.line, hcs]⟩

theorem run_pair (hp : p.Readable) (hrest : Begins rest)
    (hsource : LineEnds source keyAllowed (p.line ++ rest)) (hmargin : AtMargin indent indents)
    (ts : List Token) (fuel : Nat) :
    ∃ source' keyAllowed', LineEnds source' keyAllowed' rest ∧
      run ⟨source, ts, indent, indents, keyAllowed, [none], false⟩ (fuel + 3) =
        run (inBlock source' (ts ++ (opening indent ++ p.tokens)) keyAllowed') fuel := by
  have hline : p.line ++ rest = p.name ++ ':' :: ' ' :: (p.value ++ rest) := by
    simp [Pair.line]
  rw [hline] at hsource
  obtain ⟨i, l, hname⟩ := readToken_name hp.name hsource hmargin ts
  have hcol : 0 < p.name.length := by
    obtain ⟨cs, hcs⟩ := hp.name.begins
    simp [hcs]
  have hcolon := readToken_colon (p.value ++ rest) l hmargin hcol
    (Nat.add_le_add_left hp.name.short i) ts (.scalar p.name .plain)
  obtain ⟨source', keyAllowed', hends, hvalue⟩ := hp.value.token hrest
    (ts ++ (opening indent ++ [.key, .scalar p.name .plain, .value])) (i + p.name.length + 1) l
    (p.name.length + 1) (Nat.succ_pos _)
  refine ⟨source', keyAllowed', hends, ?_⟩
  -- Whether the name is a key is known at the colon only.
  rw [run_step rfl hname, run_step rfl hcolon, run_step rfl hvalue]
  simp [Pair.tokens]

theorem run_pairs (hps : ∀ p ∈ ps, p.Readable)
    (hsource : LineEnds source keyAllowed (ps.flatMap Pair.line)) (ts : List Token) (fuel : Nat) :
    ∃ source' keyAllowed', LineEnds source' keyAllowed' [] ∧
      run (inBlock source ts keyAllowed) (fuel + 3 * ps.length) =
        run (inBlock source' (ts ++ ps.flatMap Pair.tokens) keyAllowed') fuel := by
  induction ps generalizing source keyAllowed ts with
  | nil =>
    rw [List.flatMap_nil, List.append_nil]
    exact ⟨source, keyAllowed, hsource, rfl⟩
  | cons p ps ih =>
    obtain ⟨hp, hps⟩ := List.forall_mem_cons.mp hps
    rw [List.flatMap_cons] at hsource
    obtain ⟨source', keyAllowed', hends, hpair⟩ :=
      run_pair hp (begins_lines hps) hsource (.inr ⟨rfl, rfl⟩) ts (fuel + 3 * ps.length)
    obtain ⟨source'', keyAllowed'', hends, hrun⟩ := ih hps hends (ts ++ p.tokens)
    refine ⟨source'', keyAllowed'', hends, ?_⟩
    have hfuel : fuel + 3 * (p :: ps).length = fuel + 3 * ps.length + 3 := by
      rw [List.length_cons]
      omega
    rw [List.append_assoc] at hrun
    rw [hfuel, hpair, List.flatMap_cons]
    exact hrun

theorem run_end (hsource : LineEnds source keyAllowed []) (ts : List Token) (fuel : Nat) :
    run (inBlock source ts keyAllowed) (fuel + 1) =
      (ts ++ [.blockEnd, .streamEnd], none) := by
  obtain ⟨i, l, hgap⟩ := skipGap_end hsource (.inl rfl) ts 0 [-1]
  have hend : (readToken (inBlock source ts keyAllowed)).bind forgetFarKeys =
      .ok ⟨⟨[], i, l, 0⟩, ts ++ [.blockEnd, .streamEnd], -1, [], false, [none], true⟩ := by
    rw [readToken, hgap, forgetFarKeys_none rfl]
    simp [bind, Except.bind, endBlocks, endBlocksFrom, inFlow, column, readEnd, push, forgetKey,
      Except.map, forgetFarKeys]
  rw [run_step rfl hend, run_ended rfl]

end Pairs

end Lexer

namespace Lexer.Pair

theorem Readable.isAllowed {p : Pair} (hp : p.Readable) {c : Char} (hc : c ∈ p.line) :
    isAllowed c = true := by
  simp only [line, List.mem_append, List.mem_cons] at hc
  rcases hc with hc | rfl | rfl | hc
  · exact (hp.name.letters c hc).2.2
  · rfl
  · rfl
  · exact hp.value.allowed c hc

theorem length_le_lines {ps : List Pair} (hps : ∀ p ∈ ps, p.Readable) :
    3 * ps.length ≤ (ps.flatMap line).length := by
  induction ps with
  | nil => exact Nat.le_refl 0
  | cons p ps ih =>
    obtain ⟨hp, hps⟩ := List.forall_mem_cons.mp hps
    obtain ⟨cs, hcs⟩ := hp.name.begins
    have hrest := ih hps
    simp only [List.flatMap_cons, List.length_append, List.length_cons, line, hcs]
    omega

end Lexer.Pair

theorem lex_lines {ps : List Lexer.Pair} (hps : ∀ p ∈ ps, p.Readable) (hne : ps ≠ []) :
    lex (ps.flatMap Lexer.Pair.line) =
      (.streamStart :: .blockMappingStart :: ps.flatMap Lexer.Pair.tokens ++
        [.blockEnd, .streamEnd], none) := by
  have hallowed : (ps.flatMap Lexer.Pair.line).all isAllowed = true := by
    rw [List.all_eq_true]
    intro c hc
    obtain ⟨p, hp, hc⟩ := List.mem_flatMap.mp hc
    exact (hps p hp).isAllowed hc
  obtain ⟨n, hfuel⟩ := Nat.exists_eq_add_of_le (Lexer.Pair.length_le_lines hps)
  obtain ⟨p, ps, rfl⟩ := List.exists_cons_of_ne_nil hne
  obtain ⟨hp, hothers⟩ := List.forall_mem_cons.mp hps
  have hstart : Lexer.LineEnds (.ofChars ((p :: ps).flatMap Lexer.Pair.line)) true
      (p.line ++ ps.flatMap Lexer.Pair.line) := .inl ⟨rfl, rfl, rfl⟩
  obtain ⟨source, keyAllowed, hends, hfirst⟩ := Lexer.run_pair hp (Lexer.begins_lines hothers)
    hstart (.inl ⟨rfl, rfl⟩) [.streamStart] (n + 2 + 3 * ps.length)
  obtain ⟨source', keyAllowed', hends', hrun⟩ := Lexer.run_pairs hothers hends
    ([.streamStart] ++ (Lexer.opening (-1) ++ p.tokens)) (n + 2)
  have hsteps : ((p :: ps).flatMap Lexer.Pair.line).length + 2 = n + 2 + 3 * ps.length + 3 := by
    rw [hfuel, List.length_cons]
    omega
  rw [lex, hallowed, hsteps]
  refine (hfirst.trans hrun).trans ?_
  rw [Lexer.run_end hends']
  simp [Lexer.opening]

end VaultRing.Yaml
