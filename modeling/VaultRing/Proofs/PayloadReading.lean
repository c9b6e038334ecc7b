import VaultRing.Keyring
import VaultRing.Proofs.Base64Canonical
import VaultRing.Proofs.JsonMembers

namespace VaultRing.Payload

open Json (Held Named ObjectText IsString IsValue)

variable {value : List Char} {data : Bytes}

/-- A value that stands for the data: its one text in base64, or `null` for no bytes. -/
def ShowsData (data : Bytes) (value : List Char) : Prop :=
  value = ['n', 'u', 'l', 'l'] ∧ data = [] ∨
    IsString (String.ofList (Base64.encode data)) value

structure Tells (named : List (String × List Char)) (item : Item) : Prop where
  key : Held named "Key" (IsString item.key) False
  data : Held named "Data" (ShowsData item.data) (item.data = [])

section Data

theorem dataReader_gets (h : ShowsData data value) : dataReader.Gets value data := by
  obtain ⟨rfl, rfl⟩ | h := h
  · exact Json.Reader.optional_null.bind fun after => .pure [] after
  · refine (Json.Reader.optional_string_gets h (Json.Reader.text_gets h)).bind fun after => ?_
    dsimp only
    rw [Base64.decode_encode]
    exact .pure data after

/-- No other value stands for any data. -/
theorem shows_or_refuses (h : IsValue value) :
    (∃ data, ShowsData data value) ∨ dataReader.Refuses value := by
  by_cases hnull : value = ['n', 'u', 'l', 'l']
  · exact .inl ⟨[], .inl ⟨hnull, rfl⟩⟩
  obtain ⟨s, hs⟩ | hrefuses := Json.Reader.text_decides h
  · cases hdecode : Base64.decode (textBytes s) with
    | ok data =>
      rw [Base64.decode_eq_ok_iff] at hdecode
      exact .inl ⟨data, .inr (hdecode ▸ hs)⟩
    | error fault =>
      have hgets := Json.Reader.optional_gets h hnull (Json.Reader.text_gets hs)
      refine .inr fun _ after hb ha => ((hgets hb ha).resumes _).fails ?_
      dsimp only
      rw [hdecode]
      exact fun _ => ⟨_, rfl⟩
  · exact .inr ((Json.Reader.optional_refuses h hnull hrefuses).bind _)

theorem decides_data (h : IsValue value) : dataReader.Decides value :=
  (shows_or_refuses h).imp_left fun ⟨data, hshows⟩ => ⟨data, dataReader_gets hshows⟩

theorem shows_of_gets (h : IsValue value) (hr : dataReader.Gets value data) :
    ShowsData data value := by
  obtain ⟨data', hshows⟩ | hrefuses := shows_or_refuses h
  · obtain rfl := (dataReader_gets hshows).unique hr
    exact hshows
  · exact absurd hrefuses hr.not_refuses

end Data

section Members

variable {members : List (List Char × List Char)} {named : List (String × List Char)}
  {item : Item} {q : List String × Parts}

def collected (item : Item) (has : String → Bool) : Parts where
  key := if has "Key" then some item.key else none
  data := if has "Data" then item.data else []

theorem Tells.fits (h : Tells named item) :
    ∀ m ∈ format.members, Json.Record.Fits m named (collected item) := by
  refine List.forall_mem_cons.mpr ⟨?_, List.forall_mem_singleton.mpr ?_⟩
  · exact Json.Record.fits_of_held h.key (fun _ => Json.Reader.text_gets)
      (fun has => by simp [collected, Function.update]) False.elim
  · exact Json.Record.fits_of_held h.data (fun _ => dataReader_gets)
      (fun has => by simp [collected, Function.update])
      fun he has => by simp [collected, Function.update, he]

theorem collected_all {has : String → Bool} (h : ∀ m ∈ format.members, has m.name = true) :
    collected item has = ⟨some item.key, item.data⟩ := by
  have hkey : has "Key" = true := h _ (List.mem_cons_self ..)
  have hdata : has "Data" = true := h _ (List.mem_cons_of_mem _ (List.mem_cons_self ..))
  simp [collected, hkey, hdata]

theorem reader_gets (h : Json.Shows (fun named => Tells named item) value) :
    format.read.Gets value item := by
  obtain ⟨members, named, hobject, hnamed, htells⟩ := h
  exact Json.Record.gets_of_fits ⟨members, named, hobject, hnamed, htells.fits⟩ rfl
    (fun _ => collected_all) rfl

theorem decides_members (h : IsValue value) :
    ∀ m ∈ format.members, ∀ s, (m.read s).Decides value :=
  List.forall_mem_cons.mpr ⟨fun _ => (Json.Reader.decides_text h).map _,
    List.forall_mem_singleton.mpr fun _ => (decides_data h).map _⟩

section Told

variable (hvalues : ∀ member ∈ named, IsValue member.2)
  (h : Json.Record.Gathers format.members ([], format.start) named q)
include hvalues h

theorem key_of_gathers :
    Held named "Key" (fun value => ∃ key, q.2.key = some key ∧ IsString key value)
      (q.2.key = none) := by
  refine (h.held Parts.key (fun value key? => ∃ key, key? = some key ∧ IsString key value) ?_ ?_ rfl
    hvalues).2 (by simp)
  · refine List.forall_mem_cons.mpr ⟨fun hne => absurd rfl hne, List.forall_mem_singleton.mpr ?_⟩
    intro _ s t value hvalue hr
    obtain ⟨data, -, rfl⟩ := (decides_data hvalue).exists_of_gets hr
    rfl
  · refine List.forall_mem_cons.mpr ⟨?_, List.forall_mem_singleton.mpr fun he => ?_⟩
    · intro _ s t value hvalue hr
      obtain ⟨key, hkey, rfl⟩ := (Json.Reader.decides_text hvalue).exists_of_gets hr
      exact ⟨key, rfl, Json.Reader.isString_of_gets hvalue hkey⟩
    · exact absurd he (by decide)

theorem data_of_gathers : Held named "Data" (ShowsData q.2.data) (q.2.data = []) := by
  refine (h.held Parts.data (fun value data => ShowsData data value) ?_ ?_ rfl hvalues).2
    (by simp)
  · refine List.forall_mem_cons.mpr ⟨?_, List.forall_mem_singleton.mpr fun hne => absurd rfl hne⟩
    intro _ s t value hvalue hr
    obtain ⟨key, -, rfl⟩ := (Json.Reader.decides_text hvalue).exists_of_gets hr
    rfl
  · refine List.forall_mem_cons.mpr ⟨fun he => ?_, List.forall_mem_singleton.mpr ?_⟩
    · exact absurd he (by decide)
    · intro _ s t value hvalue hr
      obtain ⟨data, hdata, rfl⟩ := (decides_data hvalue).exists_of_gets hr
      exact shows_of_gets hvalue hdata

theorem tells_of_gathers (hf : finish .object q.2 = .ok item) : Tells named item := by
  have hkey := key_of_gathers hvalues h
  have hdata := data_of_gathers hvalues h
  obtain ⟨seen, key?, data⟩ := q
  cases key? with
  | none => cases hf
  | some key =>
    obtain rfl := Except.ok.inj hf
    refine ⟨hkey.mono ?_ (fun he => by cases he), hdata⟩
    rintro value ⟨key', hsame, hvalue⟩
    obtain rfl := Option.some.inj hsame
    exact hvalue

end Told

end Members

section Whole

variable {s : String} {members : List (List Char × List Char)} {named : List (String × List Char)}
  {item : Item}

theorem decode_of_tells (h : Json.Reader.Whole (ObjectText members) s)
    (hnamed : List.Forall₂ Named members named) (ht : Tells named item) :
    Keyring.decode s = .ok item := by
  obtain ⟨before, object, after, hb, ha, hobject, hs⟩ := h
  have hrun : read s = .ok item :=
    Json.Reader.run_of_gets (reader_gets ⟨members, named, hobject, hnamed, ht⟩)
      ⟨before, object, after, hb, ha, rfl, hs⟩
  rw [Keyring.decode, hrun]
  rfl

theorem tells_of_decode (h : Json.Reader.Whole (ObjectText members) s)
    (hread : Keyring.decode s = .ok item) :
    ∃ named, List.Forall₂ Named members named ∧ Tells named item := by
  obtain ⟨before, object, after, hb, ha, hobject, hs⟩ := h
  have hwhole : Json.Reader.Whole (· = object) s := ⟨before, object, after, hb, ha, rfl, hs⟩
  have hok : read s = .ok item := by
    unfold Keyring.decode at hread
    cases hr : read s with
    | ok found =>
      rw [hr] at hread
      exact congrArg _ (Except.ok.inj hread)
    | error e =>
      rw [hr] at hread
      cases hread
  by_cases hsteps : ∃ named q found, List.Forall₂ Named members named ∧
      Json.Record.Gathers format.members ([], format.start) named q ∧
        format.finish .object q.2 = .ok found
  · obtain ⟨named, q, found, hnamed, hg, hf⟩ := hsteps
    have hrun := Json.Reader.run_of_gets (Json.Record.read_gets hobject hnamed hg hf) hwhole
    obtain rfl := Except.ok.inj (hrun.symm.trans hok)
    exact ⟨named, hnamed, tells_of_gathers (Json.values_of_named hnamed hobject.values) hg hf⟩
  · have hrefuses : format.read.Refuses object :=
      Json.Record.read_refuses hobject
        (fun member hm => decides_members (hobject.values member hm))
        fun named q found hnamed hg hf => hsteps ⟨named, q, found, hnamed, hg, hf⟩
    obtain ⟨e, he⟩ := Json.Reader.run_of_refuses hrefuses hwhole
    cases he.symm.trans hok

/-- A text that is an object, in whatever spelling, is read as an item exactly if the names of its
members say something and the members tell the item; and no two strings are read as the same
data. -/
theorem object_read_iff_tells (s : String) (members : List (List Char × List Char))
    (h : Json.Reader.Whole (ObjectText members) s) :
    (∀ item, Keyring.decode s = .ok item ↔
      ∃ named, List.Forall₂ Named members named ∧ Tells named item) ∧
    ∀ (t t' : String) (data : Bytes), Base64.decode (textBytes t) = .ok data →
      Base64.decode (textBytes t') = .ok data → t = t' := by
  refine ⟨fun item => ⟨tells_of_decode h, ?_⟩, fun t t' data ht ht' => ?_⟩
  · rintro ⟨named, hnamed, htells⟩
    exact decode_of_tells h hnamed htells
  · rw [Base64.decode_eq_ok_iff] at ht ht'
    rw [ht, ht']

end Whole

section Foreign

/-- A note beside the data, whose name is spelled with an escape, and the key. -/
def foreignMembers : List (List Char × List Char) :=
  [(['n', 'o', 't', 'e'], "[1,\x7b\"deep\":null\x7d]".toList),
    ("D\\u0061ta".toList, ['"', 'A', 'Q', '=', '=', '"']), (['K', 'e', 'y'], ['"', 'a', '"'])]

def foreignObject : String :=
  "\x7b\"note\":[1,\x7b\"deep\":null\x7d], \"D\\u0061ta\" : \"AQ==\",\"Key\":\"a\"\x7d"

def foreignText : String := " " ++ foreignObject ++ "\n"

def foreignNamed : List (String × List Char) :=
  [("note", "[1,\x7b\"deep\":null\x7d]".toList), ("Data", ['"', 'A', 'Q', '=', '=', '"']),
    ("Key", ['"', 'a', '"'])]

theorem foreign_named : List.Forall₂ Named foreignMembers foreignNamed := by
  refine .cons ⟨Json.Text.says_plain (by decide), rfl⟩ (.cons ⟨?_, rfl⟩
    (.cons ⟨Json.Text.says_plain (by decide), rfl⟩ .nil))
  refine .plain (by decide) (by decide) (by decide) (.unit (n := 97) (by decide) (by decide)
    (by decide) (Json.Text.says_plain (by decide)))

theorem foreign_key : IsString "a" ['"', 'a', '"'] := ⟨['a'], Json.Text.says_plain (by decide), rfl⟩

theorem foreign_data :
    IsString (String.ofList (Base64.encode [1])) ['"', 'A', 'Q', '=', '=', '"'] :=
  ⟨['A', 'Q', '=', '='], Json.Text.says_plain (by decide), rfl⟩

theorem foreign_note : IsValue "[1,\x7b\"deep\":null\x7d]".toList := by
  have hdigits : Json.Number.IsDigits ['1'] := ⟨by simp, List.forall_mem_singleton.mpr rfl⟩
  have hwhole : Json.Number.IsWhole ['1'] := .inr ⟨hdigits, by decide⟩
  have hone : IsValue ['1'] := .natural (.parts hwhole .none .none)
  have hdeep : IsValue "\x7b\"deep\":null\x7d".toList := by
    have hname : Json.Text.Says ['d', 'e', 'e', 'p'] ['d', 'e', 'e', 'p'] :=
      Json.Text.says_plain (by decide)
    have hvalue : ∀ member ∈ [(['d', 'e', 'e', 'p'], ['n', 'u', 'l', 'l'])], IsValue member.2 :=
      List.forall_mem_singleton.mpr .null
    refine .object (List.forall_mem_singleton.mpr hname.chars) hvalue
      ⟨_, .cons (.colon .nil .nil) .nil, _, rfl, ?_⟩
    exact .first .nil (.done .nil)
  have hitems : ∀ item ∈ [['1'], "\x7b\"deep\":null\x7d".toList], IsValue item :=
    List.forall_mem_cons.mpr ⟨hone, List.forall_mem_singleton.mpr hdeep⟩
  exact .list hitems ⟨_, rfl, .first .nil (.further .nil .nil (.done .nil))⟩

theorem foreign_text : Json.Reader.Whole (ObjectText foreignMembers) foreignText := by
  have hspace : Json.Blanks [' '] := by simp [Json.Blanks, Json.Cursor.isBlank]
  refine ⟨[' '], foreignObject.toList, ['\n'], hspace, by simp [Json.Blanks, Json.Cursor.isBlank],
    ⟨?_, ?_, ?_⟩, rfl⟩
  · exact Json.chars_of_named foreign_named
  · have hdata : IsValue ['"', 'A', 'Q', '=', '=', '"'] := foreign_data.isValue
    have hkey : IsValue ['"', 'a', '"'] := foreign_key.isValue
    exact List.forall_mem_cons.mpr ⟨foreign_note, List.forall_mem_cons.mpr
      ⟨hdata, List.forall_mem_singleton.mpr hkey⟩⟩
  · refine ⟨_, .cons (.colon .nil .nil) (.cons (.colon hspace hspace)
      (.cons (.colon .nil .nil) .nil)), _, rfl, ?_⟩
    exact .first .nil (.further .nil hspace (.further .nil .nil (.done .nil)))

theorem foreign_text_read :
    Json.Reader.Whole (ObjectText foreignMembers) foreignText ∧
      Keyring.decode foreignText = .ok ⟨"a", [1]⟩ := by
  have htells : Tells foreignNamed ⟨"a", [1]⟩ :=
    ⟨.inr ⟨_, rfl, foreign_key⟩, .inr ⟨_, rfl, .inr foreign_data⟩⟩
  exact ⟨foreign_text, ((object_read_iff_tells foreignText foreignMembers foreign_text).1 _).mpr
    ⟨foreignNamed, foreign_named, htells⟩⟩

end Foreign

end VaultRing.Payload
