import VaultRing.Proofs.YamlPairs
import VaultRing.Yaml.Document

namespace VaultRing.Yaml

open Lexer (Pair)

namespace Lexer.Pair

def scalar (p : Pair) : Scalar := ⟨p.text, p.style, []⟩

def events (p : Pair) : List Event := [.scalar none ⟨p.name, .plain, []⟩, .scalar none p.scalar]

def contents (p : Pair) : List Content := [.scalar ⟨p.name, .plain, []⟩, .scalar p.scalar]

end Lexer.Pair

namespace EventState

variable {handles : List (List Char × Bytes)} {tokens : List Token}

theorem run_step {s s' : EventState} {e : Event} (h : s.step = .ok (e, s')) (hne : e ≠ .streamEnd)
    (fuel : Nat) : s.run (fuel + 1) = (e :: (s'.run fuel).1, (s'.run fuel).2) := by
  rw [run, h]
  cases e <;> first | rfl | exact absurd rfl hne

theorem run_pair (p : Pair) (fuel : Nat) :
    run ⟨.mappingKey, [.documentEnd], handles, p.tokens ++ tokens⟩ (fuel + 2) =
      (p.events ++ (run ⟨.mappingKey, [.documentEnd], handles, tokens⟩ fuel).1,
        (run ⟨.mappingKey, [.documentEnd], handles, tokens⟩ fuel).2) := by
  have hkey : step ⟨.mappingKey, [.documentEnd], handles, p.tokens ++ tokens⟩ =
      .ok (.scalar none ⟨p.name, .plain, []⟩,
        ⟨.mappingValue, [.documentEnd], handles, .value :: .scalar p.text p.style :: tokens⟩) := rfl
  have hvalue : step ⟨.mappingValue, [.documentEnd], handles,
      .value :: .scalar p.text p.style :: tokens⟩ =
      .ok (.scalar none p.scalar, ⟨.mappingKey, [.documentEnd], handles, tokens⟩) := rfl
  rw [run_step hkey nofun, run_step hvalue nofun]
  rfl

theorem run_pairs (ps : List Pair) (fuel : Nat) :
    run ⟨.mappingKey, [.documentEnd], handles, ps.flatMap Pair.tokens ++ tokens⟩
        (fuel + 2 * ps.length) =
      (ps.flatMap Pair.events ++ (run ⟨.mappingKey, [.documentEnd], handles, tokens⟩ fuel).1,
        (run ⟨.mappingKey, [.documentEnd], handles, tokens⟩ fuel).2) := by
  induction ps with
  | nil => rfl
  | cons p ps ih =>
    have hfuel : fuel + 2 * (p :: ps).length = fuel + 2 * ps.length + 2 := by
      rw [List.length_cons]
      omega
    rw [List.flatMap_cons, List.append_assoc, hfuel, run_pair, ih, List.flatMap_cons,
      List.append_assoc]

theorem run_mapping (ps : List Pair) (fuel : Nat) :
    run (start (.blockMappingStart :: ps.flatMap Pair.tokens ++ [.blockEnd, .streamEnd]))
        (fuel + 3 + 2 * ps.length + 2) =
      (.documentStart :: .mappingStart none :: ps.flatMap Pair.events ++
        [.mappingEnd, .documentEnd, .streamEnd], none) := by
  have hdocument : step (start (.blockMappingStart :: ps.flatMap Pair.tokens ++
      [.blockEnd, .streamEnd])) = .ok (.documentStart, ⟨.node, [.documentEnd], defaultHandles,
        .blockMappingStart :: ps.flatMap Pair.tokens ++ [.blockEnd, .streamEnd]⟩) := rfl
  have hmapping : step ⟨.node, [.documentEnd], defaultHandles,
      .blockMappingStart :: ps.flatMap Pair.tokens ++ [.blockEnd, .streamEnd]⟩ =
        .ok (.mappingStart none, ⟨.mappingKey, [.documentEnd], defaultHandles,
          ps.flatMap Pair.tokens ++ [.blockEnd, .streamEnd]⟩) := rfl
  have hend :
      run ⟨.mappingKey, [.documentEnd], defaultHandles, [.blockEnd, .streamEnd]⟩ (fuel + 3) =
        ([.mappingEnd, .documentEnd, .streamEnd], none) := rfl
  rw [run_step hdocument nofun, run_step hmapping nofun, run_pairs, hend]
  rfl

end EventState

theorem length_tokens (ps : List Pair) : (ps.flatMap Pair.tokens).length = 4 * ps.length := by
  induction ps with
  | nil => rfl
  | cons p ps ih =>
    rw [List.flatMap_cons, List.length_append, ih, List.length_cons, Pair.tokens]
    simp only [List.length_cons, List.length_nil]
    omega

theorem events_lines {ps : List Pair} (hps : ∀ p ∈ ps, p.Readable) (hne : ps ≠ []) :
    (events (ps.flatMap Pair.line)).1 =
      .documentStart :: .mappingStart none :: ps.flatMap Pair.events ++
        [.mappingEnd, .documentEnd, .streamEnd] := by
  have hlength : (Token.streamStart :: .blockMappingStart :: ps.flatMap Pair.tokens ++
      [.blockEnd, Token.streamEnd]).length = 4 * ps.length + 4 := by
    rw [List.length_append, List.length_cons, List.length_cons, length_tokens]
    rfl
  have hfuel : 4 * (4 * ps.length + 4) + 4 = 14 * ps.length + 15 + 3 + 2 * ps.length + 2 := by omega
  rw [events, lex_lines hps hne]
  dsimp only
  rw [hlength, hfuel]
  exact congrArg Prod.fst (EventState.run_mapping ps _)

namespace Document

theorem load_pairs (a : Anchors) (ps : List Pair) (rest : List Event) :
    load a (ps.flatMap Pair.events ++ rest) =
      ((ps.flatMap Pair.contents).map .content ++ (load a rest).1, (load a rest).2) := by
  induction ps with
  | nil => rfl
  | cons p ps ih =>
    simp only [List.flatMap_cons, Pair.events, List.cons_append, List.nil_append,
      load, anchored, ih, Pair.contents, List.map_cons]

theorem ofChars_lines {ps : List Pair} (hps : ∀ p ∈ ps, p.Readable) (hne : ps ≠ []) :
    ofChars (ps.flatMap Pair.line) =
      ⟨.start true :: ps.flatMap Pair.contents ++ [.finish], none, true⟩ := by
  have hload : load .empty (Event.documentStart :: .mappingStart none :: ps.flatMap Pair.events ++
      [.mappingEnd, .documentEnd, .streamEnd]) =
      (.content (.start true) :: ((ps.flatMap Pair.contents).map .content ++ [.content .finish]),
        .empty, none, [.streamEnd]) := by
    simp only [List.cons_append, load, anchored, load_pairs]
  have hresolve : (resolve .empty ∘ Loaded.content : Content → Content) = id := rfl
  rw [ofChars, events_lines hps hne, hload]
  dsimp only
  rw [List.map_cons, List.map_append, List.map_map, hresolve, List.map_id]
  rfl

section Pairs

variable {σ : Type} {pair : σ → String → Option Scalar → Except Fault σ}

def fold (pair : σ → String → Option Scalar → Except Fault σ) (s : σ) : List Pair → Except Fault σ
  | [] => .ok s
  | p :: ps => (pair s (String.ofList p.name) (some p.scalar)).bind fun s => fold pair s ps

theorem readPairs_contents (pair : σ → String → Option Scalar → Except Fault σ) (ps : List Pair)
    (s : σ) {fuel : Nat} (hfuel : ps.length < fuel) :
    readPairs pair s (ps.flatMap Pair.contents ++ [.finish]) fuel =
      (fold pair s ps).map (·, []) := by
  induction ps generalizing s fuel with
  | nil =>
    obtain ⟨n, rfl⟩ := Nat.exists_eq_add_of_lt hfuel
    rfl
  | cons p ps ih =>
    cases fuel with
    | zero => exact absurd hfuel (Nat.not_lt_zero _)
    | succ fuel =>
      change ((pair s (String.ofList p.name) (some p.scalar)).bind fun s =>
        readPairs pair s (ps.flatMap Pair.contents ++ [.finish]) fuel) = _
      rw [fold]
      cases pair s (String.ofList p.name) (some p.scalar) with
      | error fault => rfl
      | ok s => exact ih s (Nat.lt_of_succ_lt_succ hfuel)

theorem length_le_contents (ps : List Pair) : ps.length ≤ (ps.flatMap Pair.contents).length := by
  induction ps with
  | nil => exact Nat.le_refl 0
  | cons p ps ih =>
    rw [List.flatMap_cons, List.length_append, List.length_cons, Pair.contents, List.length_cons]
    omega

/-- A text of lines with a key and a value each is read as these pairs, in their order. -/
theorem readMapping_lines {ps : List Pair} (hps : ∀ p ∈ ps, p.Readable) (hne : ps ≠ [])
    (name : String) (s : σ) :
    (ofChars (ps.flatMap Pair.line)).readMapping name pair s = fold pair s ps := by
  have hfuel : ps.length <
      (Content.start true :: ps.flatMap Pair.contents ++ [Content.finish]).length + 1 := by
    have := length_le_contents ps
    rw [List.length_append, List.length_cons]
    omega
  have hread := readPairs_contents pair ps s hfuel
  rw [ofChars_lines hps hne, readMapping]
  change ((Prod.fst <$> readPairs pair s (ps.flatMap Pair.contents ++ [.finish]) _).bind fun s =>
    if true then .ok s else .error .severalDocuments) = _
  rw [hread]
  cases fold pair s ps <;> rfl

end Pairs

end Document

end VaultRing.Yaml
