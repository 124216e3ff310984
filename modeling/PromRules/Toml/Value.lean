import PromRules.Toml.Number

/-!
Reading TOML values.

The first character decides what a value is: a quote starts a string, `[` an array, `{` an
inline table, a sign or digit a date-time, float or integer (tried in that order), and `t`, `f`,
`i`, `n` the words `true`, `false`, `inf`, `nan`. Anything else is reported as a missing string.
Array items may be separated by blanks, line breaks and comments, and a comma may follow the
last one; inline tables hold `key = value` pairs on one line, separated by commas.

Keys of an inline table are entered with the rules of tables: dotted keys create nested inline
tables, and a key may be given once only.
-/

namespace PromRules.Toml

/-- Entries of a table: keys with their items, in the order they were first given. -/
abbrev Entries := List (Key × Item)

/-- The item of a key. -/
def Entries.lookup (es : Entries) (name : String) : Option Item :=
  (es.find? (fun e => e.1.name == name)).map (·.2)

/-- Sets a key: its entry is replaced in place, or a new one is put last. -/
def Entries.set (es : Entries) (k : Key) (item : Item) : Entries :=
  if es.any (fun e => e.1.name == k.name) then
    es.map fun e => if e.1.name == k.name then (e.1, item) else e
  else es ++ [(k, item)]

/-- The message of a key given twice. -/
def duplicateKey (key : String) : String := "duplicate key `" ++ key ++ "`"

/-- The message of a key given twice in a table named by its path. -/
def duplicateKeyIn (key : String) (table : List Key) : String :=
  if table.isEmpty then duplicateKey key ++ " in document root"
  else duplicateKey key ++ " in table `" ++ ".".intercalate (table.map (·.name)) ++ "`"

/-- The message of a dotted key that runs into a value. -/
def extendWrongType (path : List Key) (actual : String) : String :=
  "dotted key `" ++ ".".intercalate (path.map (·.name)) ++
    "` attempted to extend non-table type (" ++ actual ++ ")"

/-- Enters a dotted key's pair into an inline table's entries, creating the inline tables its
prefix names. `done` holds the prefix keys already passed. -/
def enterInline (done : List Key) (path : List Key) (key : Key) (value : Item) (dotted : Bool)
    (es : Entries) : Except String Entries :=
  match path with
  | [] =>
    if dotted == (done.isEmpty) then .error (duplicateKey key.name)
    else if (es.lookup key.name).isSome then .error (duplicateKey key.name)
    else .ok (es ++ [(key, value)])
  | k :: rest =>
    match es.lookup k.name with
    | none => do
      let inner ← enterInline (done ++ [k]) rest key value true []
      pure (es.set k (.table inner .inlineDotted none))
    | some (.table inner .inlineDotted sp) => do
      let inner ← enterInline (done ++ [k]) rest key value true inner
      pure (es.set k (.table inner .inlineDotted sp))
    | some (.table _ _ _) => .error (duplicateKey k.name)
    | some other => .error (extendWrongType (done ++ [k]) other.typeName)

/-- The failure of a value that starts with no known character. -/
def missingValue (c : Cursor) : Failure :=
  ((c.fail.label "string").expect (.char '"')).expect (.char '\'')

/-- Reads a word value such as `true`, reported as a missing string when it is not there. -/
def readWord (word : String) (item : Span → Item) (c : Cursor) : Except Failure (Item × Cursor) :=
  if c.startsWith word then
    let c' := c.skip word.length
    .ok (item ⟨c.offset, c'.offset⟩, c')
  else .error (missingValue c)

/-- Reads a value that starts with a sign or a digit. -/
def readNumeric (c : Cursor) : Except Failure (Item × Cursor) :=
  let span (c' : Cursor) : Span := ⟨c.offset, c'.offset⟩
  match readDateTime c with
  | .ok (text, c') => .ok (.datetime text (span c'), c')
  | .error f =>
    if f.cut then .error f
    else match readFloat c with
      | .ok (x, c') => .ok (.float x (span c'), c')
      | .error g =>
        if g.cut then .error g
        else do
          let (n, c') ← readInteger c
          pure (.integer n (span c'), c')

mutual

/-- Reads a value. -/
def readValue (fuel : Nat) (c : Cursor) : Except Failure (Item × Cursor) :=
  match fuel with
  | 0 => .error c.fail.toCut
  | fuel + 1 =>
    let span (c' : Cursor) : Span := ⟨c.offset, c'.offset⟩
    match c.peek? with
    | some '"' | some '\'' => do
      let (s, c') ← readString c
      pure (.string s (span c'), c')
    | some '[' => do
      let (items, c') ← readArrayItems fuel c.next
      pure (.array items (span c'), c')
    | some '{' => do
      let (entries, c') ← readInlineEntries fuel c.next
      pure (.table entries .inline (some (span c')), c')
    | some ch =>
      if ch == '+' || ch == '-' || ch.isDigit then readNumeric c
      else if ch == '_' then
        match readInteger c with
        | .ok (n, c') => .ok (.integer n (span c'), c')
        | .error f => .error (f.expect (.describe "leading digit"))
      else if ch == '.' then
        match readFloat c with
        | .ok (x, c') => .ok (.float x (span c'), c')
        | .error f => .error (f.expect (.describe "leading digit"))
      else if ch == 't' then readWord "true" (.boolean true) c
      else if ch == 'f' then readWord "false" (.boolean false) c
      else if ch == 'i' then readWord "inf" (.float (Binary64.infinity false)) c
      else if ch == 'n' then readWord "nan" (.float Binary64.nan) c
      else .error (missingValue c)
    | none => .error (missingValue c)

/-- Reads the items of an array after its `[`, and its `]`. -/
def readArrayItems (fuel : Nat) (c : Cursor) : Except Failure (List Item × Cursor) :=
  match fuel with
  | 0 => .error c.fail.toCut
  | fuel + 1 =>
    let close (items : List Item) (c' : Cursor) : Except Failure (List Item × Cursor) :=
      let c' := c'.skipTrivia
      if c'.peek? == some ']' then .ok (items, c'.next)
      else .error (((c'.fail.label "array").expect (.char ']')).toCut)
    match readValue fuel c.skipTrivia with
    | .error f => if f.cut then .error f else close [] c
    | .ok (first, c1) => do
      let (items, c2) ← readMoreItems fuel [first] c1.skipTrivia
      let c3 := if c2.peek? == some ',' then c2.next else c2
      close items c3

/-- Reads further array items, each after a comma; an item that does not read leaves its comma
unread. -/
def readMoreItems (fuel : Nat) (acc : List Item) (c : Cursor) :
    Except Failure (List Item × Cursor) :=
  match fuel with
  | 0 => .ok (acc, c)
  | fuel + 1 =>
    if c.peek? != some ',' then .ok (acc, c)
    else
      match readValue fuel c.next.skipTrivia with
      | .error f => if f.cut then .error f else .ok (acc, c)
      | .ok (item, c') => readMoreItems fuel (acc ++ [item]) c'.skipTrivia

/-- Reads the pairs of an inline table after its `{`, and its `}`. -/
def readInlineEntries (fuel : Nat) (c : Cursor) : Except Failure (Entries × Cursor) :=
  match fuel with
  | 0 => .error c.fail.toCut
  | fuel + 1 => do
    let (pairs, c1) ← match readInlinePair fuel c with
      | .error f => if f.cut then Except.error f else .ok ([], c)
      | .ok (p, c') => readMorePairs fuel [p] c'
    let c2 := skipBlanks c1
    let entries ← (pairs.foldlM (fun es p => enterInline [] p.1 p.2.1 p.2.2 false es) []).mapError
      (fun msg => (Failure.because c.offset msg).toCut)
    if c2.peek? == some '}' then .ok (entries, c2.next)
    else .error (((c2.fail.label "inline table").expect (.char '}')).toCut)

/-- Reads one `key = value` pair of an inline table. -/
def readInlinePair (fuel : Nat) (c : Cursor) :
    Except Failure ((List Key × Key × Item) × Cursor) :=
  match fuel with
  | 0 => .error c.fail.toCut
  | fuel + 1 => do
    let (keys, c1) ← readKey c
    if c1.peek? != some '=' then
      .error (((c1.fail.expect (.char '.')).expect (.char '=')).toCut)
    else
      let (v, c2) ← (readValue fuel (skipBlanks c1.next)).mapError Failure.toCut
      match keys.reverse with
      | last :: before => pure ((before.reverse, last, v), skipBlanks c2)
      | [] => .error c.fail.toCut

/-- Reads further pairs of an inline table, each after a comma; a pair that does not read leaves
its comma unread. -/
def readMorePairs (fuel : Nat) (acc : List (List Key × Key × Item)) (c : Cursor) :
    Except Failure (List (List Key × Key × Item) × Cursor) :=
  match fuel with
  | 0 => .ok (acc, c)
  | fuel + 1 =>
    if c.peek? != some ',' then .ok (acc, c)
    else
      match readInlinePair fuel c.next with
      | .error f => if f.cut then .error f else .ok (acc, c)
      | .ok (p, c') => readMorePairs fuel (acc ++ [p]) c'

end

end PromRules.Toml
