import VaultRing.Proofs.JsonReading

namespace VaultRing.Json

section Ends

variable {after : List Char}

theorem Stops.ne {c : Char} (h : Stops (c :: after)) (d : Char)
    (hd : (Cursor.isBlank d || d == ',' || d == ']' || d == '\x7d') = false) : c ≠ d := by
  rintro rfl
  obtain hc | rfl | rfl | rfl := h c rfl
  · simp [hc] at hd
  all_goals simp at hd

theorem Stops.startsWithDigit (h : Stops after) : Number.startsWithDigit after = false := by
  cases after with
  | nil => rfl
  | cons c after =>
    change c.isDigit = false
    by_contra hc
    obtain ⟨d, rest, hd, hb, hl, ho⟩ : Opens (c :: after) := opens_of_digit (by simpa using hc)
    obtain ⟨rfl, rfl⟩ := List.cons.inj hd
    obtain h | rfl | h | h := h c rfl
    · simp [hb] at h
    · simp at hc
    · exact hl h
    · exact ho h

end Ends

namespace Number

variable {digits after : List Char}

theorem dropDigits_past (h : ∀ c ∈ digits, c.isDigit = true) (ha : startsWithDigit after = false)
    (offset : Nat) :
    dropDigits ⟨offset, digits ++ after⟩ = ⟨offset + digits.length, after⟩ := by
  have hnone : after.takeWhile Char.isDigit = [] ∧ after.dropWhile Char.isDigit = after := by
    cases after with
    | nil => exact ⟨rfl, rfl⟩
    | cons c after =>
      have hc : c.isDigit = false := ha
      simp [hc]
  simp only [dropDigits, List.takeWhile_append_of_pos h, List.dropWhile_append_of_pos h, hnone,
    List.append_nil]

theorem IsDigits.startsWithDigit (h : IsDigits digits) (after : List Char) :
    startsWithDigit (digits ++ after) = true := by
  obtain ⟨hne, hdigits⟩ := h
  obtain ⟨c, rest, rfl⟩ := List.exists_cons_of_ne_nil hne
  exact hdigits c (List.mem_cons_self ..)

theorem exponentSign_past {sign : List Char} (hs : sign = [] ∨ sign = ['+'] ∨ sign = ['-'])
    (h : IsDigits digits) (after : List Char) (offset : Nat) :
    ∃ down next, exponentSign ⟨offset, sign ++ (digits ++ after)⟩ =
      (down, ⟨next, digits ++ after⟩) := by
  obtain rfl | rfl | rfl := hs
  · have hstarts := h.startsWithDigit after
    refine ⟨false, offset, ?_⟩
    rw [List.nil_append]
    unfold exponentSign
    split
    · rename_i rest hrest
      change digits ++ after = _ at hrest
      rw [hrest] at hstarts
      cases hstarts
    · rename_i rest hrest
      change digits ++ after = _ at hrest
      rw [hrest] at hstarts
      cases hstarts
    · rfl
  · exact ⟨false, offset + 1, rfl⟩
  · exact ⟨true, offset + 1, rfl⟩

theorem skipExponent_past {sign : List Char} (hs : sign = [] ∨ sign = ['+'] ∨ sign = ['-'])
    (h : IsDigits digits) (ha : startsWithDigit after = false) (offset : Nat) :
    ∃ next, skipExponent ⟨offset, sign ++ (digits ++ after)⟩ = .ok ⟨next, after⟩ := by
  obtain ⟨down, next, hsign⟩ := exponentSign_past hs h after offset
  refine ⟨next + digits.length, ?_⟩
  rw [skipExponent, hsign]
  dsimp only
  rw [if_pos (h.startsWithDigit after), dropDigits_past h.2 ha]

/-- What may follow the whole digits of a number, or its fraction, does not look like one more. -/
theorem IsExponent.startsWithDigit {exponent : List Char} (h : IsExponent exponent)
    (ha : Stops after) : startsWithDigit (exponent ++ after) = false := by
  cases h with
  | none => exact ha.startsWithDigit
  | some he =>
    obtain rfl | rfl := he
    · rfl
    · rfl

theorem skipFraction_past {exponent : List Char} (h : IsDigits digits) (he : IsExponent exponent)
    (ha : Stops after) (offset : Nat) :
    ∃ next, skipFraction ⟨offset, digits ++ (exponent ++ after)⟩ = .ok ⟨next, after⟩ := by
  rw [skipFraction, if_neg (by simp [h.startsWithDigit]),
    dropDigits_past h.2 (he.startsWithDigit ha)]
  cases he with
  | none =>
    rw [List.nil_append]
    refine ⟨offset + digits.length, ?_⟩
    dsimp only
    split
    · exact absurd rfl (ha.ne 'e' (by decide))
    · exact absurd rfl (ha.ne 'E' (by decide))
    · rfl
  | @some e sign digits he hs hdigits =>
    obtain ⟨next, hnext⟩ := skipExponent_past hs hdigits ha.startsWithDigit
      (offset + _ + 1)
    refine ⟨next, ?_⟩
    rw [← List.append_assoc] at hnext
    obtain rfl | rfl := he
    · exact hnext
    · exact hnext

def skipScale (p : Cursor) : Except Fault Cursor :=
  match p.rest with
  | '.' :: rest => skipFraction ⟨p.offset + 1, rest⟩
  | 'e' :: rest | 'E' :: rest => skipExponent ⟨p.offset + 1, rest⟩
  | _ => .ok p

theorem skip_whole {whole : List Char} (h : IsWhole whole) (ha : startsWithDigit after = false)
    (offset : Nat) : ∃ next, skip ⟨offset, whole ++ after⟩ = skipScale ⟨next, after⟩ := by
  obtain rfl | ⟨hdigits, hzero⟩ := h
  · refine ⟨offset + 1, ?_⟩
    rw [skip, List.cons_append, List.nil_append]
    change (if startsWithDigit after = true then _ else Except.ok _).bind _ = _
    rw [if_neg (by simp [ha])]
    rfl
  · refine ⟨offset + whole.length, ?_⟩
    obtain ⟨c, rest, rfl⟩ := List.exists_cons_of_ne_nil hdigits.1
    have hc : c ≠ '0' := fun he => hzero (by rw [he]; rfl)
    rw [skip, List.cons_append]
    dsimp only
    split
    · rename_i h
      exact absurd (List.cons.inj h).1 hc
    · rw [← List.cons_append, if_pos (hdigits.startsWithDigit after),
        dropDigits_past hdigits.2 ha]
      rfl

theorem skipScale_past {exponent : List Char} (h : IsExponent exponent)
    (ha : Stops after) (offset : Nat) :
    ∃ next, skipScale ⟨offset, exponent ++ after⟩ = .ok ⟨next, after⟩ := by
  cases h with
  | none =>
    refine ⟨offset, ?_⟩
    rw [List.nil_append, skipScale]
    dsimp only
    split
    · exact absurd rfl (ha.ne '.' (by decide))
    · exact absurd rfl (ha.ne 'e' (by decide))
    · exact absurd rfl (ha.ne 'E' (by decide))
    · rfl
  | some he hs hdigits =>
    obtain ⟨next, hnext⟩ := skipExponent_past hs hdigits ha.startsWithDigit (offset + 1)
    refine ⟨next, ?_⟩
    rw [← List.append_assoc] at hnext
    obtain rfl | rfl := he
    · exact hnext
    · exact hnext

theorem skip_past {text : List Char} (h : IsUnsigned text) (ha : Stops after) (offset : Nat) :
    ∃ next, skip ⟨offset, text ++ after⟩ = .ok ⟨next, after⟩ := by
  obtain @⟨whole, fraction, exponent, hw, hf, he⟩ := h
  rw [List.append_assoc, List.append_assoc]
  cases hf with
  | none =>
    obtain ⟨middle, hskip⟩ := skip_whole hw (he.startsWithDigit ha) offset
    obtain ⟨next, hnext⟩ := skipScale_past he ha middle
    exact ⟨next, hskip.trans hnext⟩
  | some hdigits =>
    have hpoint (rest : List Char) : startsWithDigit ('.' :: rest) = false := rfl
    obtain ⟨middle, hskip⟩ := skip_whole hw (hpoint _) offset
    obtain ⟨next, hnext⟩ := skipFraction_past hdigits he ha (middle + 1)
    exact ⟨next, hskip.trans hnext⟩

end Number

/-- Strings are passed up to their closing quotes. -/
theorem Text.skip_past {body : List Char} (h : Text.Chars body) (offset : Nat)
    (after : List Char) :
    ∃ next, Text.skip offset (body ++ '"' :: after) = .ok ⟨next, after⟩ := by
  induction h generalizing offset with
  | nil => exact ⟨offset + 1, rfl⟩
  | @plain c body hq hb hc _ ih =>
    obtain ⟨next, hnext⟩ := ih (offset + c.utf8Size)
    refine ⟨next, ?_⟩
    rw [List.cons_append, Text.skip.eq_6]
    · rw [if_neg hq, if_neg hc, hnext]
    all_goals
      intros
      exact absurd ‹c = '\\'› hb
  | @escape l c body hl _ ih =>
    obtain ⟨next, hnext⟩ := ih (offset + 2)
    refine ⟨next, ?_⟩
    have hu : l ≠ 'u' := by
      rintro rfl
      cases hl
    rw [List.cons_append, List.cons_append, Text.skip.eq_4]
    · rw [hl, if_pos Option.isSome_some, hnext]
    all_goals
      intros
      exact absurd ‹l = 'u'› hu
  | @unit a b c d n body hn _ ih =>
    obtain ⟨next, hnext⟩ := ih (offset + 6)
    refine ⟨next, ?_⟩
    simp only [List.cons_append]
    rw [Text.skip, hn, if_pos Option.isSome_some, hnext]

namespace Reader

variable {α β : Type}

section Skipping

variable {skipped after : List Char}

def Bracket.opening : Bracket → Char
  | .list => '['
  | .object => '\x7b'

theorem skipStringBody_past {body : List Char} (h : Text.Chars body) :
    skipStringBody.Leads (body ++ '"' :: after) after () := by
  intro offset
  obtain ⟨next, hn⟩ := Text.skip_past h offset after
  refine ⟨next, ?_⟩
  change (Text.skip offset (body ++ '"' :: after)).map ((), ·) = _
  rw [hn]
  rfl

theorem skipNumber_past {text : List Char} (h : Number.IsUnsigned text) (ha : Stops after) :
    skipNumber.Leads (text ++ after) after () := by
  intro offset
  obtain ⟨next, hn⟩ := Number.skip_past h ha offset
  refine ⟨next, ?_⟩
  change (Number.skip ⟨offset, text ++ after⟩).map ((), ·) = _
  rw [hn]
  rfl

theorem skipStart_literal {c : Char} {letters : List Char}
    (h : c :: letters ∈ [['n', 'u', 'l', 'l'], ['t', 'r', 'u', 'e'], ['f', 'a', 'l', 's', 'e']])
    (hb : Blanks skipped) :
    skipStart.Leads (skipped ++ (c :: letters ++ after)) after none := by
  have hlead : ((do pass c; literal letters; Pure.pure none) : Reader (Option Bracket)).Leads
      (c :: (letters ++ after)) after none :=
    (pass_leads c _).bind ((literal_past letters after).bind (.pure none after))
  simp only [List.mem_cons, List.not_mem_nil, or_false, List.cons.injEq] at h
  obtain ⟨rfl, rfl⟩ | ⟨rfl, rfl⟩ | ⟨rfl, rfl⟩ := h
  all_goals exact (valueStart_past hb rfl).bind hlead

theorem skipStart_natural {text : List Char} (h : Number.IsUnsigned text) (hb : Blanks skipped)
    (ha : Stops after) : skipStart.Leads (skipped ++ (text ++ after)) after none := by
  obtain ⟨c, rest, rfl, hc⟩ := h.starts
  have hnumber := skipNumber_past h ha
  have hne (d : Char) (hd : d.isDigit = false) : c ≠ d := fun he => by
    rw [he, hd] at hc
    cases hc
  obtain ⟨_, _, he, hblank, -⟩ : Opens (c :: rest) := opens_of_digit hc
  obtain ⟨rfl, rfl⟩ := List.cons.inj he
  refine (valueStart_past hb hblank).bind ?_
  split
  all_goals first
    | exact absurd rfl (hne _ (by decide))
    | rw [if_pos hc]
      exact hnumber.bind (.pure none after)

theorem skipStart_negative {text : List Char} (h : Number.IsUnsigned text) (hb : Blanks skipped)
    (ha : Stops after) : skipStart.Leads (skipped ++ ('-' :: text ++ after)) after none :=
  (valueStart_past hb rfl).bind
    ((pass_leads '-' _).bind ((skipNumber_past h ha).bind (.pure none after)))

theorem skipStart_string {body : List Char} (h : Text.Chars body) (hb : Blanks skipped) :
    skipStart.Leads (skipped ++ ('"' :: (body ++ ['"']) ++ after)) after none := by
  have hbody : skipStringBody.Leads (body ++ '"' :: after) after () := skipStringBody_past h
  simp only [List.cons_append, List.append_assoc, List.nil_append]
  exact (valueStart_past hb rfl).bind
    ((pass_leads '"' _).bind (hbody.bind (.pure none after)))

theorem skipStart_bracket (b : Bracket) (hb : Blanks skipped) :
    skipStart.Leads (skipped ++ b.opening :: after) after (some b) := by
  cases b with
  | list => exact (valueStart_past hb rfl).bind ((pass_leads '[' _).bind (.pure _ after))
  | object => exact (valueStart_past hb rfl).bind ((pass_leads '\x7b' _).bind (.pure _ after))

theorem skipKey_past {name skipped' : List Char} (hn : Text.Chars name) (hb : Blanks skipped)
    (hb' : Blanks skipped') :
    skipKey.Leads (skipped ++ '"' :: (name ++ '"' :: (skipped' ++ ':' :: after))) after () :=
  (blanks_past hb rfl).bind ((peek_leads '"' _).bind ((pass_leads '"' _).bind
    ((skipStringBody_past hn).bind (colon_past hb'))))

section Brackets

variable {b : Bracket} {outer : List Bracket}

theorem skipEnds_close (first : Bool) (hb : Blanks skipped) :
    (skipEnds first (b :: outer)).Resumes (skipped ++ b.close :: after) (skipEnds false outer)
      after := by
  cases b with
  | list =>
    exact ((blanks_past hb rfl).resumes _).trans (((peek_leads ']' _).resumes _).trans
      ((pass_leads ']' after).resumes _))
  | object =>
    exact ((blanks_past hb rfl).resumes _).trans (((peek_leads '\x7d' _).resumes _).trans
      ((pass_leads '\x7d' after).resumes _))

theorem skipEnds_comma (hb : Blanks skipped) :
    (skipEnds false (b :: outer)).Leads (skipped ++ ',' :: after) after (b :: outer) :=
  (blanks_past hb rfl).bind ((peek_leads ',' _).bind ((pass_leads ',' after).bind (.pure _ after)))

theorem skipEnds_first {text : List Char} (h : Opens text) (hb : Blanks skipped) :
    (skipEnds true (b :: outer)).Leads (skipped ++ text) text (b :: outer) := by
  obtain ⟨c, rest, rfl, hblank, hl, ho⟩ := h
  refine (blanks_past hb hblank).bind ((peek_leads c rest).bind ?_)
  have hclose : c ≠ b.close := by
    cases b with
    | list => exact hl
    | object => exact ho
  dsimp only
  rw [if_neg (by simp), if_neg hclose]
  exact .pure _ _

end Brackets

def skipOn (fuel : Nat) : List Bracket → Reader Unit
  | [] => pure ()
  | .list :: outer => skipValues (.list :: outer) fuel
  | .object :: outer => do skipKey; skipValues (.object :: outer) fuel

def skipRest (opened : List Bracket) (fuel : Nat) : Reader Unit :=
  skipEnds false opened >>= skipOn fuel

theorem skipValues_succ (opened : List Bracket) (fuel : Nat) :
    skipValues opened (fuel + 1) = (do
      match ← skipStart with
      | some b => skipEnds true (b :: opened) >>= skipOn fuel
      | none => skipRest opened fuel) := by
  rw [skipValues]
  refine bind_congr fun start => ?_
  have hon (opened : List Bracket) : (match opened with
      | [] => Pure.pure ()
      | .list :: _ => skipValues opened fuel
      | .object :: _ => do skipKey; skipValues opened fuel) = skipOn fuel opened := by
    rcases opened with _ | ⟨_ | _, _⟩ <;> rfl
  cases start with
  | none => exact bind_congr hon
  | some b => exact bind_congr hon

/-- Passing a value takes as many steps as it has values in it, each of at least one character. -/
def Passed (value : List Char) : Prop :=
  ∃ steps ≤ value.length, ∀ {skipped after : List Char} (opened : List Bracket) (fuel : Nat),
    Blanks skipped → Stops after →
      (skipValues opened (steps + fuel)).Resumes (skipped ++ (value ++ after))
        (skipRest opened fuel) after

theorem Passed.of_none {value : List Char} (h : IsValue value)
    (hstart : ∀ {skipped after : List Char}, Blanks skipped → Stops after →
      skipStart.Leads (skipped ++ (value ++ after)) after none) : Passed value := by
  refine ⟨1, h.length_pos, fun opened fuel hb ha => ?_⟩
  rw [Nat.add_comm, skipValues_succ]
  exact (hstart hb ha).resumes _

def ItemPassed (b : Bracket) (item : List Char) : Prop :=
  Opens item ∧ ∃ steps ≤ item.length, ∀ {skipped after : List Char} (outer : List Bracket)
    (fuel : Nat), Blanks skipped → Stops after →
      (skipOn (steps + fuel) (b :: outer)).Resumes (skipped ++ (item ++ after))
        (skipRest (b :: outer) fuel) after

theorem Passed.item {value : List Char} (h : Passed value) (ho : Opens value) :
    ItemPassed .list value := by
  obtain ⟨steps, hle, hpass⟩ := h
  exact ⟨ho, steps, hle, fun outer fuel hb ha => hpass (.list :: outer) fuel hb ha⟩

theorem Passed.member {name value item : List Char} (h : Passed value) (hn : Text.Chars name)
    (hm : IsMember (name, value) item) : ItemPassed .object item := by
  obtain ⟨steps, hle, hpass⟩ := h
  obtain ⟨hb, hb'⟩ := hm
  refine ⟨⟨_, _, rfl, rfl, by decide, by decide⟩, steps, ?_, fun outer fuel hskipped ha => ?_⟩
  · simp only [List.length_cons, List.length_append]
    omega
  · simp only [List.cons_append, List.append_assoc]
    exact ((skipKey_past hn hskipped hb).resumes _).trans (hpass (.object :: outer) fuel hb' ha)

theorem remains_passed {b : Bracket} {first : Bool} {items : List (List Char)} {text : List Char}
    (h : Remains b.close first items text) (hi : ∀ item ∈ items, ItemPassed b item) :
    ∃ steps ≤ text.length, ∀ (after : List Char) (outer : List Bracket) (fuel : Nat),
      Resumes (skipEnds first (b :: outer) >>= skipOn (steps + fuel)) (text ++ after)
        (skipRest outer fuel) after := by
  have hclose : b.close = ']' ∨ b.close = '\x7d' := by cases b <;> simp [Bracket.close]
  induction h with
  | @done first _ hb =>
    refine ⟨0, Nat.zero_le _, fun after outer fuel => ?_⟩
    rw [Nat.zero_add, List.append_assoc]
    exact (skipEnds_close first hb).bind _
  | first hb hrest ih =>
    obtain ⟨⟨hopens, steps, hle, hitem⟩, hitems⟩ := List.forall_mem_cons.mp hi
    obtain ⟨steps', hle', hmore⟩ := ih hitems
    refine ⟨steps + steps', ?_, fun after outer fuel => ?_⟩
    · simp only [List.length_append]
      omega
    · have hpass := hitem outer (steps' + fuel) .nil (hrest.stops hclose after)
      rw [List.append_assoc, List.append_assoc, Nat.add_assoc]
      exact (((skipEnds_first (hopens.append _) hb).resumes _).trans hpass).trans
        (hmore after outer fuel)
  | further hb hb' hrest ih =>
    obtain ⟨⟨-, steps, hle, hitem⟩, hitems⟩ := List.forall_mem_cons.mp hi
    obtain ⟨steps', hle', hmore⟩ := ih hitems
    refine ⟨steps + steps', ?_, fun after outer fuel => ?_⟩
    · simp only [List.length_append, List.length_cons]
      omega
    · simp only [List.cons_append, List.append_assoc]
      rw [Nat.add_assoc]
      exact (((skipEnds_comma hb).resumes _).trans
        (hitem outer _ hb' (hrest.stops hclose after))).trans (hmore after outer fuel)

theorem enclosed_passed {b : Bracket} {items : List (List Char)} {text : List Char}
    (h : Enclosed b.opening b.close items text) (hi : ∀ item ∈ items, ItemPassed b item) :
    Passed text := by
  obtain ⟨inside, rfl, hremains⟩ := h
  obtain ⟨steps, hle, hpass⟩ := remains_passed hremains hi
  refine ⟨steps + 1, by simpa using hle, fun {_ after} opened fuel hskipped _ => ?_⟩
  rw [Nat.add_right_comm, skipValues_succ]
  exact ((skipStart_bracket b hskipped).resumes _).trans (hpass after opened fuel)

theorem exists_member_of_mem {members : List (List Char × List Char)} {items : List (List Char)}
    (h : List.Forall₂ IsMember members items) :
    ∀ item ∈ items, ∃ member ∈ members, IsMember member item := by
  induction h with
  | nil => simp
  | cons hm _ ih =>
    refine List.forall_mem_cons.mpr ⟨⟨_, List.mem_cons_self .., hm⟩, fun item hi => ?_⟩
    obtain ⟨member, hmem, hmember⟩ := ih item hi
    exact ⟨member, List.mem_cons_of_mem _ hmem, hmember⟩

/-- By induction on the value, whatever brackets are open around it. -/
theorem passed_of_isValue {value : List Char} (h : IsValue value) : Passed value := by
  induction h with
  | null => exact .of_none .null fun hb _ => skipStart_literal (by simp) hb
  | true => exact .of_none .true fun hb _ => skipStart_literal (by simp) hb
  | false => exact .of_none .false fun hb _ => skipStart_literal (by simp) hb
  | natural h => exact .of_none (.natural h) fun hb ha => skipStart_natural h hb ha
  | negative h => exact .of_none (.negative h) fun hb ha => skipStart_negative h hb ha
  | string h => exact .of_none (.string h) fun hb _ => skipStart_string h hb
  | list hvalues htext ih =>
    exact enclosed_passed (b := .list) htext fun item hitem =>
      (ih item hitem).item (hvalues item hitem).opens
  | @object members text hnames _ htext ih =>
    obtain ⟨items, hmembers, hitems⟩ := htext
    refine enclosed_passed (b := .object) hitems fun item hitem => ?_
    obtain ⟨⟨name, value⟩, hmem, hmember⟩ := exists_member_of_mem hmembers item hitem
    exact (ih _ hmem).member (hnames _ hmem) hmember

theorem skipValue_past {value : List Char} (h : IsValue value) (hb : Blanks skipped)
    (ha : Stops after) : skipValue.Leads (skipped ++ (value ++ after)) after () := by
  obtain ⟨steps, hle, hpass⟩ := passed_of_isValue h
  intro offset
  have hlength : (skipped ++ (value ++ after)).length + 1 =
      steps + ((skipped ++ (value ++ after)).length + 1 - steps) := by
    simp only [List.length_append]
    omega
  change ∃ next, skipValues [] ((skipped ++ (value ++ after)).length + 1) ⟨offset, _⟩ = _
  rw [hlength]
  exact (hpass [] _ hb ha).leads (.pure () after) offset

end Skipping

end Reader

end VaultRing.Json
