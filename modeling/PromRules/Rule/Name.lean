import PromRules.Text.Case

/-!
Rule names derived from identifiers.

Rules are registered under snake_case identifiers. An alert is named in CamelCase: the identifier
is cut at every underscore, each piece's first character is replaced by its full uppercase
mapping (which may be several characters, `ß` giving `SS`), and the pieces are joined with
nothing between them, so empty pieces vanish and a CamelCase name stays as it is. A recording is
named with colons: every underscore becomes a colon.
-/

namespace PromRules.Rule

/-- A piece with its first character uppercased. -/
def capitalize (piece : String) : String :=
  match piece.toList with
  | [] => ""
  | c :: rest => String.ofList (Text.upperChars c ++ rest)

/-- The CamelCase alert name of an identifier: its pieces between underscores, each
capitalized, joined. -/
def alertName (identifier : String) : String :=
  String.join ((identifier.toList.splitOn '_').map fun piece => capitalize (String.ofList piece))

/-- The colon-separated recording name of an identifier. -/
def recordingName (identifier : String) : String :=
  String.ofList (identifier.toList.map fun c => if c == '_' then ':' else c)

theorem recordingName_length (identifier : String) :
    (recordingName identifier).length = identifier.length := by
  simp [recordingName, String.length_ofList, String.length_toList]

end PromRules.Rule
