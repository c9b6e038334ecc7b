namespace VaultRing.FilePath

def isAbsolute (path : String) : Bool := path.toList.head? == some '/'

def join (directory path : String) : String :=
  if isAbsolute path then path
  else if directory.isEmpty || directory.toList.getLast? == some '/' then directory ++ path
  else directory ++ "/" ++ path

/-- Whether a step leads nowhere. -/
def stays (step : String) : Bool := step == "" || step == "."

def names (path : String) : List String := (path.splitOn "/").filter (!stays ·)

/-- Whether a path ends behind a slash or a dot, and so is only the path of a directory. -/
def isOfDirectory (path : String) : Bool := (path.splitOn "/").getLast?.any stays

def endsInDot (path : String) : Bool :=
  ((path.splitOn "/").filter (· ≠ "")).getLast? == some "."

/-- The path without its last step that leads somewhere and all that stands around it. -/
def parent (path : String) : String :=
  let steps := ((path.splitOn "/").reverse.dropWhile stays).drop 1 |>.dropWhile stays
  if steps.isEmpty && isAbsolute path then "/" else "/".intercalate steps.reverse

end VaultRing.FilePath
