import VaultRing.Program

namespace VaultRing

structure TokenSource where
  backend : Backend
  names : List String
  prompt : Option Prompt

namespace TokenSource

def firstSet : List String → Program (Option String)
  | [] => pure none
  | name :: names => do
    match ← Program.lookup name with
    | some value => pure (some value)
    | none => firstSet names

/-- Whether a token can be had without failing for want of a source. -/
def isAvailable (s : TokenSource) : Program Bool :=
  if s.prompt.isSome then pure true else Option.isSome <$> firstSet s.names

/-- The token; `text` is what the user is asked. -/
def resolve (s : TokenSource) (text : String) : Action String := do
  match ← Action.perform (firstSet s.names) with
  | some token => pure token
  | none =>
    match s.prompt with
    | none => throw (.config [.noToken s.backend])
    | some prompt => Action.orFail (Program.request (.prompt prompt text)) .prompt

def shown (s : TokenSource) : String :=
  Text.record "TokenSource"
    [("backend", s.backend.shown),
      ("envs", Text.quotedList s.names),
      ("prompt", Text.shownBool s.prompt.isSome)]

end TokenSource

end VaultRing
