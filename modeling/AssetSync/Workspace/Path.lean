namespace AssetSync

abbrev Path := List String

namespace Path

def ancestors (path : Path) : List Path :=
  (List.range path.length).map path.take

/-- The names in a text. A slash at its end asks for a directory, as a single dot does. -/
def names (text : String) : List String :=
  (text.splitOn "/").filter (!·.isEmpty) ++ if text.endsWith "/" then ["."] else []

def meaningful : List String → List String
  | "" :: above :: rest => meaningful (above :: rest)
  | "." :: above :: rest => meaningful (above :: rest)
  | parts => parts

def parentText? (text : String) : Option String :=
  match meaningful (text.splitOn "/").reverse with
  | [] => none
  | [""] => none
  | _ :: above =>
    match meaningful above with
    | [] => some ""
    | [""] => some "/"
    | above => some ("/".intercalate above.reverse)

end Path

end AssetSync
