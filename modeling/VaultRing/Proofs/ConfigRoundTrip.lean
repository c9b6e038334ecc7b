import VaultRing.Config.Writing
import VaultRing.Proofs.NumberText
import VaultRing.Proofs.SecondsRounding
import VaultRing.Proofs.YamlMapping
import VaultRing.Proofs.YamlText

namespace VaultRing

namespace Yaml

open Layout (Numeral)

variable {cs : List Char}

section Numerals

theorem ne_of_isDigit {c d : Char} (hc : c.isDigit = true) (hd : d.isDigit = false) : c ≠ d := by
  rintro rfl
  rw [hc] at hd
  cases hd

theorem plain_of_isNumeral {c : Char} (h : Layout.isNumeral c = true) :
    isPlainCharacter c = true ∧ isWhite c = false ∧ c ≠ ':' ∧ c ≠ '#' := by
  simp only [Layout.isNumeral, Bool.or_eq_true, beq_iff_eq] at h
  rcases h with (((h | rfl) | rfl) | rfl) | rfl
  · obtain ⟨hlow, hhigh⟩ : 48 ≤ c.toNat ∧ c.toNat ≤ 57 := Char.isDigit_iff_toNat.mp h
    refine ⟨?_, ?_, ne_of_isDigit h rfl, ne_of_isDigit h rfl⟩
    · simp only [isPlainCharacter, Bool.or_eq_true, Bool.and_eq_true, decide_eq_true_eq, beq_iff_eq]
      omega
    · simp only [isWhite, isBlank, isBreak, Bool.or_eq_false_iff, beq_eq_false_iff_ne]
      exact ⟨⟨ne_of_isDigit h rfl, ne_of_isDigit h rfl⟩,
        ⟨⟨⟨ne_of_isDigit h rfl, ne_of_isDigit h rfl⟩, by omega⟩, by omega⟩, by omega⟩
  all_goals decide

theorem beginsWithMark_of_digit {c : Char} (h : c.isDigit = true) (cs : List Char) :
    beginsWithMark (c :: cs) = false := by
  have hindicator : isIndicator c = false := by
    rw [isIndicator, ← Bool.not_eq_true, List.contains_iff_mem]
    intro hmem
    have hnone : "#,[]\x7b\x7d&*!|>'\"%@`".toList.all (!Char.isDigit ·) = true := rfl
    simpa [h] using List.all_eq_true.mp hnone c hmem
  simp [beginsWithMark, hindicator, ne_of_isDigit h (d := '?') rfl, ne_of_isDigit h (d := ':') rfl,
    ne_of_isDigit h (d := '-') rfl, ne_of_isDigit h (d := '.') rfl]

theorem endsPlain_of_numerals (h : ∀ c ∈ cs, Layout.isNumeral c = true) (before : Char) :
    endsPlain before cs = false := by
  induction cs generalizing before with
  | nil => rfl
  | cons c cs ih =>
    obtain ⟨hc, hcs⟩ := List.forall_mem_cons.mp h
    obtain ⟨-, -, hcolon, hhash⟩ := plain_of_isNumeral hc
    simp [endsPlain, hcolon, hhash, ih hcs]

theorem reads_numeral (h : Numeral cs) : Lexer.Reads (cs ++ ['\n']) cs .plain := by
  obtain ⟨c, ds, rfl, hc⟩ := h.first
  refine Lexer.reads_plain ⟨List.cons_ne_nil c ds, fun d hd => (plain_of_isNumeral (h.all d hd)).1,
    fun d hd => not_break_of_not_white (plain_of_isNumeral (h.all d hd)).2.1,
    fun d hd => (plain_of_isNumeral (h.all d (List.mem_of_mem_head? hd))).2.1,
    fun d hd => (plain_of_isNumeral (h.all d (List.mem_of_mem_getLast? hd))).2.1⟩ ?_
  rw [hasMarks, beginsWithMark_of_digit hc, endsPlain_of_numerals (List.forall_mem_cons.mp h.all).2]
  rfl

theorem float_of_numeral (h : Numeral cs) :
    float? cs = (Binary64.ofText? cs).filter fun x => x.magnitude ≠ .infinite := by
  obtain ⟨c, ds, rfl, hc⟩ := h.first
  have hother (l : List String) (hl : ∀ s ∈ l, s.toList.head?.any Char.isDigit = false) :
      l.contains (String.ofList (c :: ds)) = false := by
    rw [← Bool.not_eq_true, List.contains_iff_mem]
    intro hmem
    have hs := hl _ hmem
    rw [String.toList_ofList, List.head?_cons, Option.any_some, hc] at hs
    cases hs
  unfold float?
  split
  · rename_i heq
    exact absurd (List.cons.inj heq).1 (ne_of_isDigit hc rfl)
  · rename_i heq
    exact absurd (List.cons.inj heq).1 (ne_of_isDigit hc rfl)
  · rename_i heq
    exact absurd (List.cons.inj heq).1 (ne_of_isDigit hc rfl)
  · rw [Option.bind_some]
    dsimp only
    rw [hother [".inf", ".Inf", ".INF"] (by decide),
      hother ["-.inf", "-.Inf", "-.INF"] (by decide),
      hother [".nan", ".NaN", ".NAN"] (by decide)]
    rfl

end Numerals

end Yaml

namespace Config

open Yaml.Lexer (Pair Reads)

section Timeout

variable (d : Duration)

/-- The text of a timeout is a number, that of the double which is stored. -/
theorem writeTimeout_text :
    Layout.Numeral (writeTimeout d).toList ∧
      Binary64.ofText? (writeTimeout d).toList = some d.stored ∧
      d.stored.magnitude ≠ .infinite := by
  by_cases hn : d.nanos.val = 0
  · have htext : (writeTimeout d).toList = Nat.toDigits 10 d.seconds.toNat := by
      rw [writeTimeout, if_pos hn]
      exact String.toList_ofList
    obtain ⟨m, q, hnearest, -, -⟩ := Duration.nearest_seconds d
    rw [htext, Duration.stored, if_pos hn]
    refine ⟨Layout.numeral_toDigits _, Binary64.ofText_toDigits d.seconds.toNat_lt, ?_⟩
    rw [Binary64.ofNat, hnearest]
    simp
  · obtain ⟨m, q, hdouble, hnormal, hlow, hhigh, -⟩ := Duration.toSeconds_normal hn
    rw [writeTimeout, Duration.stored, if_neg hn, if_neg hn, hdouble]
    exact ⟨Binary64.numeral_text _ hnormal (by omega) (by omega),
      Binary64.ofText_text _ hnormal (by omega) (by omega), by simp⟩

/-- What is left of a timeout in a file. -/
def reloaded (d : Duration) : Except Yaml.Fault Duration :=
  (Duration.ofSeconds d.stored).mapError fun e =>
    .contents ("invalid op_timeout_secs " ++ d.stored.text .full ++ ": " ++ e.message)

theorem timeoutOf_writeTimeout : timeoutOf ⟨(writeTimeout d).toList, .plain, []⟩ = reloaded d := by
  obtain ⟨hnumeral, hread, hfinite⟩ := writeTimeout_text d
  have hfloat : Yaml.float? (writeTimeout d).toList = some d.stored := by
    rw [Yaml.float_of_numeral hnumeral, hread, Option.filter_some, if_pos (decide_eq_true hfinite)]
  rw [timeoutOf]
  simp only [mayBeNumber, beq_self_eq_true, Bool.true_or, ↓reduceIte, hfloat]
  rfl

end Timeout

section Members

def memberText (c : Config) : Member → List Char
  | .vaultId => c.vaultId.toList
  | .titlePrefix => c.titlePrefix.toList
  | .tag => c.tag.toList
  | .fieldTitle => c.fieldTitle.toList
  | .timeout => (writeTimeout c.timeout).toList
  | .connectHost => c.connectHost.toList
  | .connectTokenVariable => c.connectTokenVariable.toList
  | .tokenVariable => c.tokenVariable.toList
  | .desktopAccount => c.desktopAccount.toList

theorem keyName (m : Member) : Yaml.Lexer.KeyName m.name.toList := by
  have hletters : m.name.toList.all
      (fun c => !Yaml.isWhite c && c != ':' && Yaml.isAllowed c) = true := by
    cases m <;> rfl
  refine ⟨by cases m <;> exact ⟨_, rfl⟩, fun c hc => ?_, by cases m <;> decide⟩
  simpa [and_assoc] using List.all_eq_true.mp hletters c hc

theorem exists_pair (c : Config) (m : Member) :
    ∃ p : Pair, p.Readable ∧ p.line = c.writeMember m ∧ p.name = m.name.toList ∧
      p.text = c.memberText m ∧ (m = .timeout → p.style = .plain) := by
  obtain ⟨style, htext⟩ := Yaml.Lexer.reads_writeText (c.memberText m)
  have hnumeral := Yaml.reads_numeral (writeTimeout_text c.timeout).1
  by_cases hm : m = .timeout
  · subst hm
    exact ⟨⟨_, _, _, _⟩, ⟨keyName .timeout, hnumeral⟩, rfl, rfl, rfl, fun _ => rfl⟩
  · refine ⟨⟨_, _, _, _⟩, ⟨keyName m, htext⟩, ?_, rfl, rfl, fun h => absurd h hm⟩
    cases m <;> first | rfl | exact absurd rfl hm

variable {pair : Member → Pair}

theorem ofName_name (m : Member) : Member.ofName? m.name = some m := by
  cases m <;> decide

theorem fold_members (hname : ∀ m, (pair m).name = m.name.toList) (ms : List Member)
    (hdistinct : ms.Nodup) (c : Config) (seen : List Member) (hnew : ∀ m ∈ ms, m ∉ seen) :
    (Yaml.Document.fold addPair (c, seen) (ms.map pair)).map (·.1) =
      ms.foldlM (fun c m => setMember c (pair m).scalar m) c := by
  induction ms generalizing c seen with
  | nil => rfl
  | cons m ms ih =>
    obtain ⟨hm, hms⟩ := List.nodup_cons.mp hdistinct
    obtain ⟨hunseen, hnew⟩ := List.forall_mem_cons.mp hnew
    have hread : addPair (c, seen) (String.ofList (pair m).name) (some (pair m).scalar) =
        (setMember c (pair m).scalar m).map (·, m :: seen) := by
      rw [hname, String.ofList_toList, addPair, ofName_name]
      simp [hunseen]
    rw [List.map_cons, Yaml.Document.fold, hread, List.foldlM_cons]
    cases hset : setMember c (pair m).scalar m with
    | error fault => rfl
    | ok c' =>
      refine ih hms c' (m :: seen) fun n hn => ?_
      rw [List.mem_cons, not_or]
      exact ⟨fun heq => hm (heq ▸ hn), hnew n hn⟩

/-- A written configuration is read, but for its timeout, as it was. -/
theorem ofYaml_toYaml (c : Config) :
    ofYaml c.toYaml = (reloaded c.timeout).map fun timeout =>
      { c with timeout, prompt := none, hasConnector := false } := by
  choose pair hreadable hline hname htext hstyle using exists_pair c
  have hlines : c.toYaml.toList = (Member.all.map pair).flatMap Pair.line := by
    rw [toYaml, String.toList_ofList, List.flatMap_map]
    exact (congrArg (Member.all.flatMap ·) (funext hline)).symm
  have hall : ∀ p ∈ Member.all.map pair, p.Readable := by
    intro p hp
    obtain ⟨m, -, rfl⟩ := List.mem_map.mp hp
    exact hreadable m
  rw [ofYaml, hlines, Yaml.Document.readMapping_lines hall (List.cons_ne_nil _ _),
    fold_members hname Member.all (by decide) empty [] (fun _ _ => List.not_mem_nil)]
  have hscalar (m : Member) : (pair m).scalar = ⟨c.memberText m, (pair m).style, []⟩ := by
    rw [Pair.scalar, htext]
  simp only [Member.all, List.foldlM_cons, List.foldlM_nil, setMember, hscalar, hstyle .timeout rfl,
    memberText, timeoutOf_writeTimeout, String.ofList_toList]
  cases reloaded c.timeout <;> rfl

end Members

section RoundTrip

def stored (c : Config) : Config := { c with prompt := none, hasConnector := false }

theorem isOk_reloaded (d : Duration) :
    (∃ t, reloaded d = .ok t) ↔ d.seconds.toNat < 2 ^ 64 - 1024 := by
  rw [← Duration.ofSeconds_isOk_iff, reloaded]
  cases Duration.ofSeconds d.stored with
  | error e => exact ⟨fun ⟨_, ht⟩ => (nomatch ht), fun ⟨_, ht⟩ => (nomatch ht)⟩
  | ok t => exact ⟨fun _ => ⟨t, rfl⟩, fun _ => ⟨t, rfl⟩⟩

theorem reloaded_eq_ok {d t : Duration} :
    reloaded d = .ok t ↔ Duration.ofSeconds d.stored = .ok t := by
  rw [reloaded]
  cases Duration.ofSeconds d.stored with
  | error e => exact ⟨nofun, nofun⟩
  | ok t' => simp [Except.mapError]

theorem ofYaml_eq_stored {c : Config} :
    ofYaml c.toYaml = .ok c.stored ↔ Duration.ofSeconds c.timeout.stored = .ok c.timeout := by
  rw [ofYaml_toYaml, ← reloaded_eq_ok]
  cases reloaded c.timeout with
  | error fault => exact ⟨nofun, nofun⟩
  | ok t =>
    refine ⟨fun h => ?_, fun h => ?_⟩
    · exact congrArg Except.ok (congrArg Config.timeout (Except.ok.inj h))
    · rw [Except.ok.inj h]
      rfl

/-- A file keeps the texts of a configuration as they are, and the timeout as a double: to the
nanosecond below `2 ^ 23` seconds, whole seconds if they are a double, and not at all close to the
end of the range, where it cannot be read. -/
theorem file_keeps_texts_and_double (c : Config) :
    ofYaml c.toYaml = (reloaded c.timeout).map (fun timeout => { c.stored with timeout }) ∧
      (c.timeout.seconds.toNat < 2 ^ 23 → ofYaml c.toYaml = .ok c.stored) ∧
      (c.timeout.nanos.val = 0 → (ofYaml c.toYaml = .ok c.stored ↔
        ∃ k j, k < 2 ^ 53 ∧ c.timeout.seconds.toNat = k * 2 ^ j)) ∧
      ((∃ c', ofYaml c.toYaml = .ok c') ↔ c.timeout.seconds.toNat < 2 ^ 64 - 1024) := by
  refine ⟨ofYaml_toYaml c, fun h => ofYaml_eq_stored.mpr (Duration.ofSeconds_short h),
    fun h => ofYaml_eq_stored.trans (Duration.ofSeconds_whole h), ?_⟩
  rw [ofYaml_toYaml, ← isOk_reloaded]
  cases reloaded c.timeout with
  | error fault => exact ⟨fun ⟨_, h⟩ => (nomatch h), fun ⟨_, h⟩ => (nomatch h)⟩
  | ok t => exact ⟨fun _ => ⟨t, rfl⟩, fun _ => ⟨_, rfl⟩⟩

theorem awkward_texts_are_kept :
    let c : Config := { empty with
      vaultId := "null", titlePrefix := "- #x: 'y'\n\n", tag := "0x1F", fieldTitle := " \t\"~\"",
      timeout := .ofNanoseconds 1500000000, connectHost := "http://h/: #", tokenVariable := "1e3" }
    ofYaml c.toYaml = .ok c :=
  (file_keeps_texts_and_double _).2.1 (by decide)

/-- Of two neighbouring numbers of seconds one is not a double, and the most seconds there are
cannot be read. -/
theorem odd_and_most_seconds_are_lost :
    ofYaml { empty with timeout := .ofNanoseconds 9007199254740993000000000 }.toYaml =
        .ok { empty with timeout := .ofNanoseconds 9007199254740992000000000 } ∧
      ofYaml { empty with timeout := .ofNanoseconds 18446744073709551615000000000 }.toYaml =
        .error (.contents ("invalid op_timeout_secs 18446744073709552000: " ++
          "cannot convert float seconds to Duration: value is either too big or NaN")) := by
  have hodd : reloaded (.ofNanoseconds 9007199254740993000000000) =
      .ok (.ofNanoseconds 9007199254740992000000000) := reloaded_eq_ok.mpr rfl
  have hmost : reloaded (.ofNanoseconds 18446744073709551615000000000) =
      .error (.contents ("invalid op_timeout_secs 18446744073709552000: " ++
        "cannot convert float seconds to Duration: value is either too big or NaN")) := by
    rfl
  rw [ofYaml_toYaml, ofYaml_toYaml]
  exact ⟨congrArg (Except.map _) hodd, congrArg (Except.map _) hmost⟩

end RoundTrip

end Config

end VaultRing
