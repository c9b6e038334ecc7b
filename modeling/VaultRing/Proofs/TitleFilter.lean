import VaultRing.Proofs.FormFields
import VaultRing.Proofs.GatewayConversation
import VaultRing.Proofs.RequestAddress

namespace VaultRing.HttpClient

def filterStart : List Char := "title eq \"".toList

/-- What a literal says, and what follows the quote that closes it. A backslash takes away the
meaning of the next character. -/
def literal? : List Char → Option (List Char × List Char)
  | [] | ['\\'] => none
  | '"' :: rest => some ([], rest)
  | '\\' :: c :: rest => (literal? rest).map fun (said, after) => (c :: said, after)
  | c :: rest => (literal? rest).map fun (said, after) => (c :: said, after)

def readFilter? (filter : String) : Option (String × String) :=
  ((filterStart.isPrefixOf? filter.toList).bind literal?).map fun (said, after) =>
    (String.ofList said, String.ofList after)

def withBackslashes (mark : Char) (cs : List Char) : List Char :=
  cs.flatMap fun c => if c = mark then ['\\', c] else [c]

variable {cs rest : List Char}

section Escaping

/-- Quotes are escaped after the backslashes, so that their backslashes are not doubled. -/
theorem escaped_eq_twice (cs : List Char) :
    cs.flatMap escapeTitleChar = withBackslashes '"' (withBackslashes '\\' cs) := by
  unfold withBackslashes
  rw [List.flatMap_assoc]
  apply List.flatMap_congr
  intro c _
  by_cases hslash : c = '\\'
  · subst hslash
    rfl
  by_cases hquote : c = '"'
  · subst hquote
    rfl
  · simp [escapeTitleChar, hslash, hquote]

theorem literal?_plain {c : Char} (hslash : c ≠ '\\') (hquote : c ≠ '"') (rest : List Char) :
    literal? (c :: rest) = (literal? rest).map fun (said, after) => (c :: said, after) := by
  rw [literal?]
  · rintro rfl
    exact absurd rfl hslash
  · exact hquote
  · intro d tail h
    exact absurd h hslash

/-- What follows the escaped text decides where the literal ends. -/
theorem literal?_escaped (cs rest : List Char) :
    literal? (cs.flatMap escapeTitleChar ++ rest) =
      (literal? rest).map fun (said, after) => (cs ++ said, after) := by
  induction cs with
  | nil => cases h : literal? rest <;> simp [h]
  | cons c cs ih =>
    rw [List.flatMap_cons, List.append_assoc]
    have hnext : literal? (escapeTitleChar c ++ (cs.flatMap escapeTitleChar ++ rest)) =
        (literal? (cs.flatMap escapeTitleChar ++ rest)).map fun (said, after) =>
          (c :: said, after) := by
      by_cases hslash : c = '\\'
      · subst hslash
        rfl
      by_cases hquote : c = '"'
      · subst hquote
        rfl
      · have hplain : escapeTitleChar c = [c] := by simp [escapeTitleChar, hslash, hquote]
        rw [hplain, List.singleton_append, literal?_plain hslash hquote]
    rw [hnext, ih, Option.map_map]
    rfl

theorem toList_titleFilter (title : String) :
    (titleFilter title).toList = filterStart ++ title.toList.flatMap escapeTitleChar ++ ['"'] :=
  String.toList_ofList

theorem readFilter?_titleFilter (title : String) :
    readFilter? (titleFilter title) = some (title, "") := by
  have hstart : filterStart.isPrefixOf? (titleFilter title).toList =
      some (title.toList.flatMap escapeTitleChar ++ ['"']) :=
    List.isPrefixOf?_eq_some_iff_append_eq.mpr
      ((List.append_assoc _ _ _).symm.trans (toList_titleFilter title).symm)
  have hclose : literal? ['"'] = some ([], []) := by rw [literal?]
  rw [readFilter?, hstart, Option.bind_some, literal?_escaped, hclose]
  simp

theorem titleFilter_injective : Function.Injective titleFilter := by
  intro title title' h
  have hread := readFilter?_titleFilter title
  rw [h, readFilter?_titleFilter] at hread
  cases hread
  rfl

end Escaping

section Sent

theorem request_query (c : HttpClient) (method : Http.Method) (url : Url)
    (body : Option GatewayItem) : (c.request method url body).url.query = url.query := by
  unfold request
  dsimp only
  split <;> rfl

theorem titled_query {c : HttpClient} (h : c.base.query = none) (title vaultId : String) :
    (c.requestOf (.listByTitle title vaultId)).url.query =
      some (Url.Form.pair "filter" (titleFilter title)) := by
  rw [requestOf, request_query]
  simp only [Url.withField, collectionUrl, Url.push, h, Url.Form.append]

end Sent

/-- A filter is read as its title and nothing else, so that no two titles have the same one. The
request for a title, which is sent once unless it cannot be put into words, has a query with the
filter as its one field. -/
theorem title_is_asked_for_exactly :
    (∀ title, (titleFilter title).toList =
        filterStart ++ withBackslashes '"' (withBackslashes '\\' title.toList) ++ ['"'] ∧
      readFilter? (titleFilter title) = some (title, "")) ∧
    Function.Injective titleFilter ∧
    ∀ (c : HttpClient), c.base.query = none → ∀ title vaultId exchanges result,
      (c.call (.listByTitle title vaultId)).Converses exchanges result →
      exchanges = [] ∧ ¬ c.Sendable (c.requestOf (.listByTitle title vaultId)) ∨
        ∃ e query, exchanges = [e] ∧ e.request.url.query = some query ∧
          Url.Form.fields query = [("filter", titleFilter title)] := by
  refine ⟨fun title => ⟨?_, readFilter?_titleFilter title⟩, titleFilter_injective, ?_⟩
  · rw [toList_titleFilter, escaped_eq_twice]
  · intro c hquery title vaultId exchanges result h
    have hasks := call_converses h
    generalize result.toOption = told at hasks
    cases hasks with
    | unsendable hn => exact .inl ⟨rfl, hn⟩
    | sent e hr =>
      refine .inr ⟨e, _, rfl, ?_, Url.Form.fields_pair _ _⟩
      rw [hr]
      exact titled_query hquery title vaultId

def awkwardTitle : String := "\"\\"

theorem awkward_title_is_asked_for :
    loopback.base.query = none ∧ titleFilter awkwardTitle = "title eq \"\\\"\\\\\"" ∧
      ∃ e query result, (loopback.call (.listByTitle awkwardTitle "v")).Converses [e] result ∧
        e.request.url.query = some query ∧
        Url.Form.fields query = [("filter", titleFilter awkwardTitle)] := by
  obtain ⟨exchanges, hconv, -⟩ := (loopback.call (.listByTitle awkwardTitle "v")).run_converses
    (World.ofVault (MemoryVault.ofItems []) Timestamp.noon)
  have hsendable : loopback.Sendable (loopback.requestOf (.listByTitle awkwardTitle "v")) :=
    ⟨by decide, by decide +kernel⟩
  have hasked := title_is_asked_for_exactly.2.2 loopback rfl awkwardTitle "v" exchanges _ hconv
  rcases hasked with ⟨-, hn⟩ | ⟨e, query, rfl, hquery, hfields⟩
  · exact absurd hsendable hn
  · exact ⟨rfl, by decide, e, query, _, hconv, hquery, hfields⟩

end VaultRing.HttpClient
