import PromRules.Toml.Value

/-!
Reading a whole TOML document.

A document is a sequence of lines: blank, a comment, a `key = value` pair, or a table header
`[name]` or `[[name]]`. Pairs belong to the table of the last header, or to the root before any.
Statements are entered one by one as they are read, so the first broken rule ends the read at the
statement that broke it. The rules: a key is given once per table; a table header is given once,
though a table first created as the parent of another header may get its own header later; a
dotted key may not reach into a table that has a header, nor into a value; an array-of-tables
header adds one table to its array.
-/

namespace PromRules.Toml

/-- Walks `path` down from `es`, creating missing tables (dotted or implicit ones as `dotted`
says), entering the last table of an array of tables, and applies `f` to the entries and form of
the table reached; the tables on the way are rebuilt around its result. `done` holds the keys
already walked. -/
def descend {α : Type} (dotted : Bool) (done : List Key) (path : List Key) (es : Entries)
    (form : TableForm) (f : Entries → TableForm → Except String (Entries × α)) :
    Except String (Entries × α) :=
  match path with
  | [] => f es form
  | k :: rest =>
    let here := done ++ [k]
    match es.lookup k.name with
    | none => do
      let newForm := if dotted then TableForm.dotted else .implicit
      let (inner, a) ← descend dotted here rest [] newForm f
      pure (es.set k (.table inner newForm none), a)
    | some (.table inner tform sp) =>
      if tform == .inline || tform == .inlineDotted then .error (extendWrongType here "inline table")
      else if dotted && tform == .written then .error (duplicateKey k.name)
      else do
        let (inner', a) ← descend dotted here rest inner tform f
        pure (es.set k (.table inner' tform sp), a)
    | some (.tableArray tables sp) =>
      match tables.reverse with
      | (.table inner tform tsp) :: before => do
        let (inner', a) ← descend dotted here rest inner tform f
        pure (es.set k (.tableArray ((.table inner' tform tsp) :: before).reverse sp), a)
      | _ => .error (duplicateKey k.name)
    | some other => .error (extendWrongType here other.typeName)

/-- The state of a document being read: its root entries, and the table being filled with its
header path, whether it belongs to an array of tables, and the span of its header. -/
structure Assembly where
  root : Entries
  current : Entries
  path : List Key
  isArray : Bool
  headerSpan : Option Span

/-- Nothing read yet. -/
def Assembly.start : Assembly := ⟨[], [], [], false, none⟩

namespace Assembly

/-- Enters a pair, its key given as the dotted prefix `path` and the last part `key`. -/
def addPair (a : Assembly) (path : List Key) (key : Key) (value : Item) :
    Except String Assembly := do
  let (current, _) ← descend true [] path a.current .written fun es form => do
    if (form == .dotted) == path.isEmpty then .error (duplicateKey key.name)
    else if (es.lookup key.name).isSome then .error (duplicateKeyIn key.name a.path)
    else pure (es ++ [(key, value)], ())
  pure { a with current := current }

/-- Puts the table being filled into the root. -/
def finish (a : Assembly) : Except String Assembly :=
  match a.path.reverse with
  | [] => .ok { a with root := a.current, current := [] }
  | key :: parentRev => do
    let parent := parentRev.reverse
    let table : Item := .table a.current .written a.headerSpan
    let (root, _) ← descend false [] parent a.root .written fun es _ =>
      match es.lookup key.name with
      | some (.tableArray tables sp) =>
        if a.isArray then .ok (es.set key (.tableArray (tables ++ [table]) sp), ())
        else .error (duplicateKeyIn key.name parent)
      | some (.table _ .implicit _) | some (.table _ .dotted _) =>
        if a.isArray then .error (duplicateKeyIn key.name parent)
        else .ok (es.set key table, ())
      | some _ => .error (duplicateKeyIn key.name parent)
      | none =>
        .ok (es ++ [(key, if a.isArray then .tableArray [table] none else table)], ())
    pure { a with root := root, current := [] }

/-- Starts the table of a `[header]`. -/
def openTable (a : Assembly) (path : List Key) (span : Span) : Except String Assembly := do
  let a ← a.finish
  match path.reverse with
  | [] => .error ""
  | key :: parentRev =>
    let parent := parentRev.reverse
    let (root, reused) ← descend false [] parent a.root .written fun es _ =>
      match es.lookup key.name with
      | some (.table inner .implicit _) =>
        .ok (es.filter (fun e => e.1.name != key.name), inner)
      | some _ => .error (duplicateKeyIn key.name parent)
      | none => .ok (es, [])
    pure ⟨root, reused, path, false, some span⟩

/-- Starts a new table of a `[[header]]` array. -/
def openArrayTable (a : Assembly) (path : List Key) (span : Span) : Except String Assembly := do
  let a ← a.finish
  match path.reverse with
  | [] => .error ""
  | key :: parentRev =>
    let parent := parentRev.reverse
    let (root, _) ← descend false [] parent a.root .written fun es _ =>
      match es.lookup key.name with
      | some (.tableArray _ _) => .ok (es, ())
      | some _ => .error (duplicateKeyIn key.name parent)
      | none => .ok (es ++ [(key, .tableArray [] none)], ())
    pure ⟨root, [], path, true, some span⟩

end Assembly

/-- A statement that broke a rule fails at its start with the rule's message. -/
def ruleFailure (offset : Nat) (msg : String) : Failure := (Failure.because offset msg).toCut

/-- Reads a `key = value` line and enters it. -/
def readPairLine (a : Assembly) (c : Cursor) : Except Failure (Assembly × Cursor) := do
  let (keys, c1) ← (readKey c).mapError Failure.toCut
  if c1.peek? != some '=' then
    .error (((c1.fail.expect (.char '.')).expect (.char '=')).toCut)
  let (v, c2) ← (readValue (c2fuel c1) (skipBlanks c1.next)).mapError Failure.toCut
  let c3 ← (readLineRest c2).mapError fun f => ((f.expect (.char '\n')).expect (.char '#')).toCut
  match keys.reverse with
  | key :: before =>
    let a' ← (a.addPair before.reverse key v).mapError (ruleFailure c.offset)
    pure (a', c3)
  | [] => .error c.fail.toCut
where
  c2fuel (c1 : Cursor) : Nat := c1.rest.length + 1

/-- Reads a table header line and enters it. -/
def readHeaderLine (a : Assembly) (c : Cursor) : Except Failure (Assembly × Cursor) :=
  let body : Except Failure (Assembly × Cursor) := do
    let array := c.startsWith "[["
    let c1 := if array then c.skip 2 else c.next
    let (keys, c2) ← (readKey c1).mapError Failure.toCut
    let close := if array then "]]" else "]"
    if !c2.startsWith close then
      .error (((c2.fail.expect (.char '.')).expect (.literal close)).toCut)
    let c3 := c2.skip close.length
    let span : Span := ⟨c.offset, c3.offset⟩
    let c4 ← (readLineRest c3).mapError fun f => ((f.expect (.char '\n')).expect (.char '#')).toCut
    let a' ← (if array then a.openArrayTable keys span else a.openTable keys span).mapError
      (ruleFailure c.offset)
    pure (a', c4)
  body.mapError (·.label "table header")

/-- Reads the lines of a document from `c` on. -/
def readLines (a : Assembly) (c : Cursor) : Nat → Except Failure Assembly
  | 0 => .ok a
  | fuel + 1 =>
    match c.peek? with
    | none => .ok a
    | some '#' =>
      match readLineEnd ((readComment? c).getD c) with
      | .ok c' => readLines a (skipBlanks c') fuel
      | .error f => .error f.toCut
    | some '[' => do
      let (a', c') ← readHeaderLine a c
      readLines a' (skipBlanks c') fuel
    | some '\n' | some '\r' =>
      match readNewline c with
      | .ok c' => readLines a (skipBlanks c') fuel
      | .error _ => .error c.fail.toCut
    | some _ => do
      let (a', c') ← readPairLine a c
      readLines a' (skipBlanks c') fuel

/-- Reads a document into its root table. A byte order mark at the start is skipped. -/
def readDocument (source : String) : Except Failure Entries := do
  let cs := source.toList
  let c : Cursor := match cs with
    | '\uFEFF' :: rest => ⟨rest, 3⟩
    | _ => ⟨cs, 0⟩
  let a ← readLines .start (skipBlanks c) (cs.length + 1)
  let a ← a.finish.mapError (ruleFailure source.utf8ByteSize)
  pure a.root

/-- The error of a failed read, pointing at one character, or at the end of the text. -/
def Failure.toError (f : Failure) (source : String) : TomlError :=
  ⟨f.message, f.offset, if f.offset < source.utf8ByteSize then f.offset + 1 else f.offset⟩

end PromRules.Toml
