import Mathlib.Data.List.Forall2
import VaultRing.Json.Reader

namespace VaultRing.Json

def Blanks (text : List Char) : Prop := ∀ c ∈ text, Cursor.isBlank c = true

namespace Number

def IsDigits (text : List Char) : Prop := text ≠ [] ∧ ∀ c ∈ text, c.isDigit = true

def IsWhole (text : List Char) : Prop := text = ['0'] ∨ IsDigits text ∧ text.head? ≠ some '0'

inductive IsFraction : List Char → Prop where
  | none : IsFraction []
  | some {digits : List Char} (h : IsDigits digits) : IsFraction ('.' :: digits)

inductive IsExponent : List Char → Prop where
  | none : IsExponent []
  | some {e : Char} {sign digits : List Char} (he : e = 'e' ∨ e = 'E')
      (hs : sign = [] ∨ sign = ['+'] ∨ sign = ['-']) (h : IsDigits digits) :
      IsExponent (e :: (sign ++ digits))

inductive IsUnsigned : List Char → Prop where
  | parts {whole fraction exponent : List Char} (hw : IsWhole whole) (hf : IsFraction fraction)
      (he : IsExponent exponent) : IsUnsigned (whole ++ (fraction ++ exponent))

end Number

namespace Text

/-- What can stand between the quotes of a string. Halves of surrogate pairs may stand alone. -/
inductive Chars : List Char → Prop where
  | nil : Chars []
  | plain {c : Char} {body : List Char} (hq : c ≠ '"') (hb : c ≠ '\\') (hc : ¬ c.toNat < 32)
      (h : Chars body) : Chars (c :: body)
  | escape {l c : Char} {body : List Char} (hl : escaped? l = some c) (h : Chars body) :
      Chars ('\\' :: l :: body)
  | unit {a b c d : Char} {n : Nat} {body : List Char} (hn : unit? a b c d = some n)
      (h : Chars body) : Chars ('\\' :: 'u' :: a :: b :: c :: d :: body)

/-- What stands between the quotes means these characters. -/
inductive Says : List Char → List Char → Prop where
  | nil : Says [] []
  | plain {c : Char} {body said : List Char} (hq : c ≠ '"') (hb : c ≠ '\\') (hc : ¬ c.toNat < 32)
      (h : Says body said) : Says (c :: body) (c :: said)
  | escape {l c : Char} {body said : List Char} (hl : escaped? l = some c) (h : Says body said) :
      Says ('\\' :: l :: body) (c :: said)
  | unit {a b c d : Char} {n : Nat} {body said : List Char} (hn : unit? a b c d = some n)
      (hhigh : isHigh n = false) (hlow : isLow n = false) (h : Says body said) :
      Says ('\\' :: 'u' :: a :: b :: c :: d :: body) (Char.ofNat n :: said)
  | pair {a b c d a' b' c' d' : Char} {high low : Nat} {body said : List Char}
      (hn : unit? a b c d = some high) (hhigh : isHigh high = true)
      (hn' : unit? a' b' c' d' = some low) (hlow : isLow low = true) (h : Says body said) :
      Says ('\\' :: 'u' :: a :: b :: c :: d :: '\\' :: 'u' :: a' :: b' :: c' :: d' :: body)
        (joined high low :: said)

end Text

section Layout

/-- What is left up to the closing bracket: items, each but the first of all behind a comma. -/
inductive Remains (closing : Char) : Bool → List (List Char) → List Char → Prop where
  | done {first : Bool} {blanks : List Char} (h : Blanks blanks) :
      Remains closing first [] (blanks ++ [closing])
  | first {blanks item rest : List Char} {items : List (List Char)} (h : Blanks blanks)
      (hrest : Remains closing false items rest) :
      Remains closing true (item :: items) (blanks ++ (item ++ rest))
  | further {blanks blanks' item rest : List Char} {items : List (List Char)} (h : Blanks blanks)
      (h' : Blanks blanks') (hrest : Remains closing false items rest) :
      Remains closing false (item :: items) (blanks ++ ',' :: (blanks' ++ (item ++ rest)))

def Enclosed (opening closing : Char) (items : List (List Char)) (text : List Char) : Prop :=
  ∃ inside, text = opening :: inside ∧ Remains closing true items inside

def IsList (items : List (List Char)) (text : List Char) : Prop := Enclosed '[' ']' items text

inductive IsMember : List Char × List Char → List Char → Prop where
  | colon {name value blanks blanks' : List Char} (h : Blanks blanks) (h' : Blanks blanks') :
      IsMember (name, value) ('"' :: (name ++ '"' :: (blanks ++ ':' :: (blanks' ++ value))))

def IsObject (members : List (List Char × List Char)) (text : List Char) : Prop :=
  ∃ items, List.Forall₂ IsMember members items ∧ Enclosed '\x7b' '\x7d' items text

end Layout

inductive IsValue : List Char → Prop where
  | null : IsValue ['n', 'u', 'l', 'l']
  | true : IsValue ['t', 'r', 'u', 'e']
  | false : IsValue ['f', 'a', 'l', 's', 'e']
  | natural {text : List Char} (h : Number.IsUnsigned text) : IsValue text
  | negative {text : List Char} (h : Number.IsUnsigned text) : IsValue ('-' :: text)
  | string {body : List Char} (h : Text.Chars body) : IsValue ('"' :: (body ++ ['"']))
  | list {items : List (List Char)} {text : List Char} (h : ∀ item ∈ items, IsValue item)
      (htext : IsList items text) : IsValue text
  | object {members : List (List Char × List Char)} {text : List Char}
      (hnames : ∀ member ∈ members, Text.Chars member.1)
      (hvalues : ∀ member ∈ members, IsValue member.2) (htext : IsObject members text) :
      IsValue text

def IsString (s : String) (text : List Char) : Prop :=
  ∃ body, Text.Says body s.toList ∧ text = '"' :: (body ++ ['"'])

def Stops (text : List Char) : Prop :=
  ∀ c ∈ text.head?, Cursor.isBlank c = true ∨ c = ',' ∨ c = ']' ∨ c = '\x7d'

section Spellings

variable {text : List Char}

theorem Text.Says.chars {body said : List Char} (h : Text.Says body said) : Text.Chars body := by
  induction h with
  | nil => exact .nil
  | plain hq hb hc _ ih => exact .plain hq hb hc ih
  | escape hl _ ih => exact .escape hl ih
  | unit hn _ _ _ ih => exact .unit hn ih
  | pair hn _ hn' _ _ ih => exact .unit hn (.unit hn' ih)

def Text.isPlain (c : Char) : Bool := c != '"' && c != '\\' && !decide (c.toNat < 32)

theorem Text.says_plain {said : List Char} (h : said.all isPlain = true) :
    Text.Says said said := by
  induction said with
  | nil => exact .nil
  | cons c said ih =>
    rw [List.all_cons, Bool.and_eq_true] at h
    obtain ⟨⟨hq, hb⟩, hc⟩ : (c ≠ '"' ∧ c ≠ '\\') ∧ ¬ c.toNat < 32 := by simpa [isPlain] using h.1
    exact .plain hq hb hc (ih h.2)

theorem IsString.isValue {s : String} (h : IsString s text) : IsValue text := by
  obtain ⟨body, hmeans, rfl⟩ := h
  exact .string hmeans.chars

theorem IsString.ne_null {s : String} (h : IsString s text) : text ≠ ['n', 'u', 'l', 'l'] := by
  obtain ⟨body, -, rfl⟩ := h
  exact fun he => by cases he

theorem IsList.ne_null {items : List (List Char)} (h : IsList items text) :
    text ≠ ['n', 'u', 'l', 'l'] := by
  obtain ⟨inside, rfl, -⟩ := h
  exact fun he => by cases he

theorem Blanks.nil : Blanks [] := fun _ h => absurd h (List.not_mem_nil)

theorem Stops.nil : Stops [] := fun _ h => by cases h

theorem Stops.blanks {blanks : List Char} (h : Blanks blanks) (hs : Stops text) :
    Stops (blanks ++ text) := by
  cases blanks with
  | nil => exact hs
  | cons c blanks =>
    intro c' hc'
    obtain rfl : c = c' := Option.some.inj hc'
    exact .inl (h c (List.mem_cons_self ..))

/-- Behind an item comes a comma or the closing bracket. -/
theorem Remains.stops {closing : Char} (hc : closing = ']' ∨ closing = '\x7d')
    {items : List (List Char)} (h : Remains closing false items text) (after : List Char) :
    Stops (text ++ after) := by
  cases h with
  | done hb =>
    rw [List.append_assoc]
    refine .blanks hb fun c h => ?_
    obtain rfl : closing = c := Option.some.inj h
    exact .inr (.inr hc)
  | further hb =>
    rw [List.append_assoc]
    refine .blanks hb fun c h => ?_
    obtain rfl : ',' = c := Option.some.inj h
    exact .inr (.inl rfl)

end Spellings

section Openings

variable {text : List Char}

def Opens (text : List Char) : Prop :=
  ∃ c rest, text = c :: rest ∧ Cursor.isBlank c = false ∧ c ≠ ']' ∧ c ≠ '\x7d'

theorem Opens.append (h : Opens text) (after : List Char) : Opens (text ++ after) := by
  obtain ⟨c, rest, rfl, hc⟩ := h
  exact ⟨c, rest ++ after, rfl, hc⟩

theorem opens_of_digit {c : Char} {rest : List Char} (h : c.isDigit = true) :
    Opens (c :: rest) := by
  have hne (d : Char) (hd : d.isDigit = false) : c ≠ d := fun he => by
    rw [he, hd] at h
    cases h
  refine ⟨c, rest, rfl, ?_, hne _ (by decide), hne _ (by decide)⟩
  simp [Cursor.isBlank, hne ' ' (by decide), hne '\n' (by decide), hne '\t' (by decide),
    hne '\r' (by decide)]

theorem Number.IsWhole.starts (h : Number.IsWhole text) :
    ∃ c rest, text = c :: rest ∧ c.isDigit = true := by
  obtain rfl | ⟨⟨hne, hdigits⟩, -⟩ := h
  · exact ⟨'0', [], rfl, by decide⟩
  · obtain ⟨c, rest, rfl⟩ := List.exists_cons_of_ne_nil hne
    exact ⟨c, rest, rfl, hdigits c (List.mem_cons_self ..)⟩

theorem Number.IsUnsigned.starts (h : Number.IsUnsigned text) :
    ∃ c rest, text = c :: rest ∧ c.isDigit = true := by
  obtain ⟨hw, -, -⟩ := h
  obtain ⟨c, rest, rfl, hc⟩ := hw.starts
  exact ⟨c, _, rfl, hc⟩

theorem IsValue.opens (h : IsValue text) : Opens text := by
  cases h with
  | null => exact ⟨_, _, rfl, rfl, by decide, by decide⟩
  | true => exact ⟨_, _, rfl, rfl, by decide, by decide⟩
  | false => exact ⟨_, _, rfl, rfl, by decide, by decide⟩
  | natural h =>
    obtain ⟨c, rest, rfl, hc⟩ := h.starts
    exact opens_of_digit hc
  | negative => exact ⟨_, _, rfl, rfl, by decide, by decide⟩
  | string => exact ⟨_, _, rfl, rfl, by decide, by decide⟩
  | list _ htext =>
    obtain ⟨inside, rfl, -⟩ := htext
    exact ⟨_, _, rfl, rfl, by decide, by decide⟩
  | object _ _ htext =>
    obtain ⟨items, -, inside, rfl, -⟩ := htext
    exact ⟨_, _, rfl, rfl, by decide, by decide⟩

/-- There are no more items than characters, and fewer where each stands behind a comma. -/
theorem Remains.length_le {closing : Char} {first : Bool} {items : List (List Char)}
    (h : Remains closing first items text) :
    items.length + (if first then 0 else 1) ≤ text.length := by
  induction h with
  | @done first =>
    cases first with
    | true => simp
    | false => simp
  | first _ _ ih =>
    simp only [List.length_append, List.length_cons, Bool.false_eq_true, if_true, if_false] at ih ⊢
    omega
  | further _ _ _ ih =>
    simp only [List.length_append, List.length_cons, Bool.false_eq_true, if_false] at ih ⊢
    omega

theorem Remains.length_lt {closing : Char} {items : List (List Char)}
    (h : Remains closing true items text) (after : List Char) :
    items.length < (text ++ after).length + 1 := by
  have hle : items.length ≤ text.length := by simpa using h.length_le
  rw [List.length_append]
  omega

theorem IsValue.length_pos (h : IsValue text) : 0 < text.length := by
  obtain ⟨c, rest, rfl, -⟩ := h.opens
  exact Nat.succ_pos _

end Openings

end VaultRing.Json
