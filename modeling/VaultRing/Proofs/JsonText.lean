import VaultRing.Proofs.JsonGrammar

namespace VaultRing.Json.Text

section Read

variable {a b c d : Char} {n : Nat} (offset : Nat) (rest : List Char)

theorem body_other {high : Option Nat} (hb : c ≠ '\\') :
    body offset high (c :: rest) =
      if high.isSome then .error (.placed (offset + 1) .unfinishedEscape)
      else if c = '"' then .ok ([], ⟨offset + 1, rest⟩)
      else if c.toNat < 32 then .error (.placed (offset + 1) .controlCharacter)
      else .cons c (body (offset + c.utf8Size) none rest) := by
  apply body.eq_10
  all_goals
    intros
    exact absurd ‹c = '\\'› hb

theorem body_plain (hq : c ≠ '"') (hb : c ≠ '\\') (h : ¬ c.toNat < 32) :
    body offset none (c :: rest) = Body.cons c (body (offset + c.utf8Size) none rest) := by
  rw [body_other offset rest hb]
  simp [hq, h]

theorem body_first (hn : unit? a b c d = some n) :
    body offset none ('\\' :: 'u' :: a :: b :: c :: d :: rest) =
      if isHigh n then body (offset + 6) (some n) rest
      else if isLow n then .error (.placed (offset + 6) .loneSurrogate)
      else .cons (Char.ofNat n) (body (offset + 6) none rest) :=
  body.eq_3 offset _ _ _ _ rest n hn

theorem body_unit (hn : unit? a b c d = some n) (hhigh : isHigh n = false)
    (hlow : isLow n = false) :
    body offset none ('\\' :: 'u' :: a :: b :: c :: d :: rest) =
      Body.cons (Char.ofNat n) (body (offset + 6) none rest) := by
  rw [body_first offset rest hn, hhigh, hlow]
  simp

theorem body_high (hn : unit? a b c d = some n) (hhigh : isHigh n = true) :
    body offset none ('\\' :: 'u' :: a :: b :: c :: d :: rest) =
      body (offset + 6) (some n) rest := by
  rw [body_first offset rest hn, hhigh, if_pos rfl]

theorem body_second {high : Nat} (hn : unit? a b c d = some n) :
    body offset (some high) ('\\' :: 'u' :: a :: b :: c :: d :: rest) =
      if isLow n then .cons (joined high n) (body (offset + 6) none rest)
      else .error (.placed (offset + 6) .loneSurrogate) :=
  body.eq_2 offset _ _ _ _ rest n high hn

theorem body_low {high : Nat} (hn : unit? a b c d = some n) (hlow : isLow n = true) :
    body offset (some high) ('\\' :: 'u' :: a :: b :: c :: d :: rest) =
      Body.cons (joined high n) (body (offset + 6) none rest) := by
  rw [body_second offset rest hn, hlow, if_pos rfl]

theorem body_escape (hc : escaped? c = some d) :
    body offset none ('\\' :: c :: rest) = Body.cons d (body (offset + 2) none rest) := by
  have hu : c ≠ 'u' := by
    rintro rfl
    cases hc
  exact body.eq_8 offset c rest d (fun _ _ _ _ _ h => absurd h hu) hu hc

/-- Only another escape by number may follow the first half of a surrogate pair. -/
theorem body_half_plain (high : Nat) (hb : c ≠ '\\') :
    ∃ fault, body offset (some high) (c :: rest) = .error fault := by
  rw [body_other offset rest hb]
  exact ⟨_, rfl⟩

theorem body_half_escape (high : Nat) (hu : c ≠ 'u') :
    ∃ fault, body offset (some high) ('\\' :: c :: rest) = .error fault :=
  ⟨_, body.eq_6 offset c rest high (fun _ _ _ _ _ h => absurd h hu) hu⟩

end Read

theorem body_means {inner said : List Char} (h : Says inner said) (offset : Nat)
    (after : List Char) :
    ∃ next, body offset none (inner ++ '"' :: after) = .ok (said, ⟨next, after⟩) := by
  induction h generalizing offset with
  | nil => exact ⟨offset + 1, rfl⟩
  | @plain c inner said hq hb hc _ ih =>
    obtain ⟨next, hnext⟩ := ih (offset + c.utf8Size)
    exact ⟨next, (body_plain offset _ hq hb hc).trans (congrArg (Body.cons c) hnext)⟩
  | escape hl _ ih =>
    obtain ⟨next, hnext⟩ := ih (offset + 2)
    exact ⟨next, (body_escape offset _ hl).trans (congrArg (Body.cons _) hnext)⟩
  | unit hn hhigh hlow _ ih =>
    obtain ⟨next, hnext⟩ := ih (offset + 6)
    exact ⟨next, (body_unit offset _ hn hhigh hlow).trans (congrArg (Body.cons _) hnext)⟩
  | pair hn hhigh hn' hlow _ ih =>
    obtain ⟨next, hnext⟩ := ih (offset + 6 + 6)
    refine ⟨next, (body_high offset _ hn hhigh).trans ?_⟩
    exact (body_low (offset + 6) _ hn' hlow).trans (congrArg (Body.cons _) hnext)

def Breaks (high : Option Nat) (inner : List Char) : Prop :=
  ∀ (offset : Nat) (after : List Char),
    ∃ fault, body offset high (inner ++ '"' :: after) = .error fault

theorem Breaks.cons {inner : List Char} {high : Option Nat} {c : Char} {size : Nat}
    (h : Breaks none inner) (front : List Char) (hbody : ∀ offset rest,
      body offset high (front ++ rest) = Body.cons c (body (offset + size) none rest)) :
    Breaks high (front ++ inner) := by
  intro offset after
  obtain ⟨fault, hf⟩ := h (offset + size) after
  exact ⟨fault, by rw [List.append_assoc, hbody, hf]; rfl⟩

/-- What may stand between quotes says something, or is refused. The second half of the statement,
about what follows half a surrogate pair, carries the induction over such a pair. -/
theorem says_or_breaks {inner : List Char} (h : Chars inner) :
    ((∃ said, Says inner said) ∨ Breaks none inner) ∧
      ∀ {a b c d : Char} {high : Nat}, unit? a b c d = some high → isHigh high = true →
        (∃ said, Says ('\\' :: 'u' :: a :: b :: c :: d :: inner) said) ∨
          Breaks (some high) inner := by
  induction h with
  | nil =>
    exact ⟨.inl ⟨[], .nil⟩, fun _ _ => .inr fun offset after =>
      body_half_plain offset _ _ (by decide)⟩
  | @plain c inner hq hb hc _ ih =>
    refine ⟨?_, fun _ _ => .inr fun offset after => body_half_plain offset _ _ hb⟩
    obtain ⟨said, hmeans⟩ | hbreaks := ih.1
    · exact .inl ⟨c :: said, .plain hq hb hc hmeans⟩
    · exact .inr (hbreaks.cons [c] fun offset rest => body_plain offset rest hq hb hc)
  | @escape l c inner hl _ ih =>
    have hu : l ≠ 'u' := by
      rintro rfl
      cases hl
    refine ⟨?_, fun _ _ => .inr fun offset after => body_half_escape offset _ _ hu⟩
    obtain ⟨said, hmeans⟩ | hbreaks := ih.1
    · exact .inl ⟨c :: said, .escape hl hmeans⟩
    · exact .inr (hbreaks.cons ['\\', l] fun offset rest => body_escape offset rest hl)
  | @unit a b c d n inner hn _ ih =>
    refine ⟨?_, fun {a' b' c' d' high} hhigh hh => ?_⟩
    · by_cases hh : isHigh n = true
      · obtain hmeans | hbreaks := ih.2 hn hh
        · exact .inl hmeans
        · refine .inr fun offset after => ?_
          obtain ⟨fault, hf⟩ := hbreaks (offset + 6) after
          exact ⟨fault, (body_high offset _ hn hh).trans hf⟩
      by_cases hl : isLow n = true
      · refine .inr fun offset after => ⟨.placed (offset + 6) .loneSurrogate, ?_⟩
        exact (body_first offset _ hn).trans ((if_neg hh).trans (if_pos hl))
      · obtain ⟨said, hmeans⟩ | hbreaks := ih.1
        · exact .inl ⟨_, .unit hn (by simpa using hh) (by simpa using hl) hmeans⟩
        · exact .inr (hbreaks.cons ['\\', 'u', a, b, c, d] fun offset rest =>
            body_unit offset rest hn (by simpa using hh) (by simpa using hl))
    · by_cases hl : isLow n = true
      · obtain ⟨said, hmeans⟩ | hbreaks := ih.1
        · exact .inl ⟨_, .pair hhigh hh hn hl hmeans⟩
        · exact .inr (hbreaks.cons ['\\', 'u', a, b, c, d] fun offset rest =>
            body_low offset rest hn hl)
      · refine .inr fun offset after => ⟨.placed (offset + 6) .loneSurrogate, ?_⟩
        exact (body_second offset _ hn).trans (if_neg hl)

section Written

theorem controls_checked :
    ∀ n < 32, VaultRing.Text.digits 16 4 n =
        ['0', '0', Nat.digitChar (n / 16), Nat.digitChar (n % 16)] ∧
      unit? '0' '0' (Nat.digitChar (n / 16)) (Nat.digitChar (n % 16)) = some n ∧
      isHigh n = false ∧ isLow n = false := by
  decide

theorem says_escapeChar {body said : List Char} (c : Char) (h : Says body said) :
    Says (escapeChar c ++ body) (c :: said) := by
  unfold escapeChar
  split
  · exact .escape rfl h
  · exact .escape rfl h
  · exact .escape rfl h
  · exact .escape rfl h
  · exact .escape rfl h
  · exact .escape rfl h
  · exact .escape rfl h
  · rename_i hq hb _ _ _ _ _
    split
    · rename_i hc
      obtain ⟨hdigits, hunit, hhigh, hlow⟩ := controls_checked c.toNat hc
      rw [hdigits]
      have hmeans := Says.unit hunit hhigh hlow h
      rwa [Char.ofNat_toNat] at hmeans
    · rename_i hc
      exact .plain hq hb hc h

theorem says_escaped (said : List Char) : Says (said.flatMap escapeChar) said := by
  induction said with
  | nil => exact .nil
  | cons c said ih =>
    rw [List.flatMap_cons]
    exact says_escapeChar c ih

end Written

end VaultRing.Json.Text
