import ApiModel.Yaml.Literal

/-!
# Cutting YAML text into tokens

The lexer goes through a text once. It keeps the indentations of the open block collections, the
number of open brackets, and the places where a key may have begun: a scalar, a name or an opening
bracket may turn out to be a key when a colon follows it on the same line, at most 1024 characters
later, and the token that marks a key is then put in at its place. Where something stands in the way
of more tokens, those before it count as far as they are settled. A step that would not use up any
character ends the reading, so the reading ends.
-/

namespace ApiModel.Yaml

/-- A place where a key may have begun. -/
structure PossibleKey where
  /-- The number of brackets open around it. -/
  flow : Nat
  /-- The number of tokens before it. -/
  tokens : Nat
  /-- Whether nothing but a key can stand there. -/
  required : Bool
  /-- The place in the text. -/
  place : Cursor

/-- The state of the lexer between two tokens. -/
structure Lexer where
  /-- The place in the text. -/
  cursor : Cursor
  /-- The tokens so far. -/
  tokens : Array Token
  /-- The column of the innermost block collection, or -1. -/
  indent : Int
  /-- The columns of the block collections around it. -/
  outer : List Int
  /-- The number of open brackets. -/
  flow : Nat
  /-- Whether a key may begin here. -/
  keyAllowed : Bool
  /-- The places where a key may have begun, at most one for each number of open brackets. -/
  keys : List PossibleKey

namespace Lexer

/-- The state at the start of a text. -/
def start (cs : List Char) : Lexer := ⟨.start cs, #[], -1, [], 0, true, []⟩

/-- The state with one more token. -/
def push (l : Lexer) (t : Token) : Lexer := { l with tokens := l.tokens.push t }

/-- The state after a number of characters. -/
def skip (l : Lexer) (n : Nat) : Lexer := { l with cursor := l.cursor.forwardBy n }

/-! ## Possible keys -/

/-- Forgets the place where a key may have begun within the open brackets; a key that had to stand
there is missed. -/
def dropKey (l : Lexer) : Except Refusal Lexer :=
  if l.keys.any fun k => k.flow == l.flow && k.required then .error .malformed
  else .ok { l with keys := l.keys.filter (·.flow != l.flow) }

/-- Remembers that a key may begin here, if it may. -/
def saveKey (l : Lexer) : Except Refusal Lexer := do
  if l.keyAllowed then
    let required := l.flow == 0 && l.indent == l.cursor.column
    let l ← l.dropKey
    return { l with keys := ⟨l.flow, l.tokens.size, required, l.cursor⟩ :: l.keys }
  else return l

/-- Whether the place of a possible key is too far back for a colon here. -/
def isStale (l : Lexer) (k : PossibleKey) : Bool :=
  k.place.line != l.cursor.line || k.place.left - l.cursor.left > 1024

/-- Forgets the possible keys that are too far back. -/
def dropStaleKeys (l : Lexer) : Except Refusal Lexer :=
  if l.keys.any fun k => l.isStale k && k.required then .error .malformed
  else .ok { l with keys := l.keys.filter (!l.isStale ·) }

/-! ## Indentation -/

/-- Ends the block collections that are indented further than a column. -/
def unwindTo (column : Int) (tokens : Array Token) (indent : Int) : List Int → Lexer → Lexer
  | [], l => { l with tokens := tokens, indent := indent, outer := [] }
  | o :: outer, l =>
    if column < indent then unwindTo column (tokens.push .blockEnd) o outer l
    else { l with tokens := tokens, indent := indent, outer := o :: outer }

/-- Ends the block collections that are indented further than a column, outside brackets. -/
def unwind (l : Lexer) (column : Int) : Lexer :=
  if l.flow = 0 then unwindTo column l.tokens l.indent l.outer l else l

/-- Begins a block collection at a column that is indented further than the open ones; its token
is put in at a place. -/
def beginBlock (l : Lexer) (column : Int) (place : Nat) (t : Token) : Lexer :=
  if l.indent < column then
    { l with indent := column, outer := l.indent :: l.outer,
             tokens := l.tokens.insertIdxIfInBounds place t }
  else l

/-! ## Tokens -/

/-- The place of the next token, and whether a line end before it makes a key possible. -/
def gap (inFlow keyAllowed : Bool) (c : Cursor) : Bool × Cursor :=
  match c.skipSpaces.skipComment.lineBreak? with
  | none => (keyAllowed, c.skipSpaces.skipComment)
  | some (_, next) =>
    if next.left < c.left then gap inFlow (keyAllowed || !inFlow) next else (keyAllowed, next)
termination_by c.left

/-- The state with the cursor at the next token and the block collections ended that end there. -/
def settle (l : Lexer) : Except Refusal Lexer := do
  let (allowed, cursor) := gap (l.flow != 0) l.keyAllowed l.cursor
  let l ← { l with keyAllowed := allowed, cursor := cursor }.dropStaleKeys
  return l.unwind l.cursor.column

/-- A directive or a mark between documents, which end every block collection. -/
def documentToken (l : Lexer) (t : Token) (next : Cursor) : Except Refusal Lexer := do
  let l ← (l.unwind (-1)).dropKey
  return { l with keyAllowed := false, cursor := next }.push t

/-- An opening bracket. -/
def openFlow (l : Lexer) (t : Token) : Except Refusal Lexer := do
  let l ← l.saveKey
  return ({ l with flow := l.flow + 1, keyAllowed := true }.push t).skip 1

/-- A closing bracket. -/
def closeFlow (l : Lexer) (t : Token) : Except Refusal Lexer := do
  let l ← l.dropKey
  if l.flow = 0 then .error .malformed
  else return ({ l with flow := l.flow - 1, keyAllowed := false }.push t).skip 1

/-- A comma. -/
def commaToken (l : Lexer) : Except Refusal Lexer := do
  let l ← { l with keyAllowed := true }.dropKey
  return (l.push .comma).skip 1

/-- The hyphen before an item. -/
def itemToken (l : Lexer) : Except Refusal Lexer := do
  if l.flow = 0 ∧ !l.keyAllowed then .error .malformed
  else
    let l := if l.flow = 0 then l.beginBlock l.cursor.column l.tokens.size .blockListStart else l
    let l ← { l with keyAllowed := true }.dropKey
    return (l.push .blockItem).skip 1

/-- The question mark before a key. -/
def keyToken (l : Lexer) : Except Refusal Lexer := do
  if l.flow = 0 ∧ !l.keyAllowed then .error .malformed
  else
    let l := if l.flow = 0 then l.beginBlock l.cursor.column l.tokens.size .blockMapStart else l
    let l ← { l with keyAllowed := l.flow == 0 }.dropKey
    return (l.push .key).skip 1

/-- The colon before a value: it turns the possible key before it into a key. -/
def valueToken (l : Lexer) : Except Refusal Lexer := do
  match l.keys.find? (·.flow == l.flow) with
  | some k =>
    let l := { l with keys := l.keys.filter (·.flow != l.flow), keyAllowed := false,
                      tokens := l.tokens.insertIdxIfInBounds k.tokens .key }
    let l := if l.flow = 0 then l.beginBlock k.place.column k.tokens .blockMapStart else l
    return (l.push .value).skip 1
  | none =>
    if l.flow = 0 ∧ !l.keyAllowed then .error .malformed
    else
      let l := if l.flow = 0 then l.beginBlock l.cursor.column l.tokens.size .blockMapStart else l
      let l ← { l with keyAllowed := l.flow == 0 }.dropKey
      return (l.push .value).skip 1

/-- A token that may be a key or stand before one. -/
def inlineToken (l : Lexer) (read : Cursor → Except Refusal (Token × Cursor)) :
    Except Refusal Lexer := do
  let l ← l.saveKey
  let (t, next) ← read l.cursor
  return { l with keyAllowed := false, cursor := next }.push t

/-- A plain scalar. After a line end at its end a key may begin. -/
def plainToken (l : Lexer) : Except Refusal Lexer := do
  let l ← l.saveKey
  let (text, next, broke) := l.cursor.plain (l.flow != 0) (l.indent + 1) [] [] false
  return { l with keyAllowed := broke, cursor := next }.push (.scalar (String.ofList text) true)

/-- A block of lines. -/
def blockToken (l : Lexer) (fold : Bool) : Except Refusal Lexer := do
  let l ← { l with keyAllowed := true }.dropKey
  let (text, next) ← l.cursor.forward.block fold l.indent
  return { l with cursor := next }.push (.scalar (String.ofList text) false)

/-- Whether a plain scalar can begin at the cursor. -/
def beginsPlain (l : Lexer) : Bool :=
  let ch := l.cursor.peek
  !(isGapOrEnd ch || "-?:,[]\x7b\x7d#&*!|>'\"%@\x60".toList.contains ch)
    || (!isGapOrEnd (l.cursor.peekAt 1) && (ch == '-' || (l.flow == 0 && (ch == '?' || ch == ':'))))

/-- The state after the token that begins at the cursor. -/
def token (l : Lexer) : Except Refusal Lexer :=
  let c := l.cursor
  let ch := c.peek
  let gapNext := isGapOrEnd (c.peekAt 1)
  if ch = '%' ∧ c.column = 0 then do
    let (d, next) ← c.directive
    l.documentToken (.directive d) next
  else if c.column = 0 ∧ c.atMark '-' then l.documentToken .documentStart (c.forwardBy 3)
  else if c.column = 0 ∧ c.atMark '.' then l.documentToken .documentEnd (c.forwardBy 3)
  else if ch = '[' then l.openFlow .flowListStart
  else if ch = '\x7b' then l.openFlow .flowMapStart
  else if ch = ']' then l.closeFlow .flowListEnd
  else if ch = '\x7d' then l.closeFlow .flowMapEnd
  else if ch = ',' then l.commaToken
  else if ch = '-' ∧ gapNext then l.itemToken
  else if ch = '?' ∧ (l.flow ≠ 0 ∨ gapNext) then l.keyToken
  else if ch = ':' ∧ (l.flow ≠ 0 ∨ gapNext) then l.valueToken
  else if ch = '*' then l.inlineToken fun c => do
    let (name, next) ← c.forward.name
    return (.alias name, next)
  else if ch = '&' then l.inlineToken fun c => do
    let (name, next) ← c.forward.name
    return (.anchor name, next)
  else if ch = '!' then l.inlineToken fun c => do
    let (handle, suffix, next) ← c.tag
    return (.tag handle suffix, next)
  else if ch = '|' ∧ l.flow = 0 then l.blockToken false
  else if ch = '>' ∧ l.flow = 0 then l.blockToken true
  else if ch = '\'' ∨ ch = '"' then l.inlineToken fun c => do
    let (text, next) ← c.forward.quoted (ch == '"') []
    return (.scalar (String.ofList text) false, next)
  else if l.beginsPlain then l.plainToken
  else .error .malformed

/-- The tokens that no colon further on can change: those before every place where a key may have
begun. -/
def settled (l : Lexer) : Array Token :=
  let places := (l.keys.filter (!l.isStale ·)).map (·.tokens)
  l.tokens.extract 0 (places.foldl min l.tokens.size)

/-- The tokens of a text in which something stands in the way after a state. -/
def blocked (l : Lexer) (r : Refusal) : Tokens := ⟨l.settled, some r⟩

/-- The tokens of the text from a state on. -/
def run (l : Lexer) : Tokens :=
  match l.settle with
  | .error e => l.blocked e
  | .ok s =>
    if s.cursor.rest.isEmpty then
      match (s.unwind (-1)).dropKey with
      | .error e => l.blocked e
      | .ok s => ⟨s.tokens.push .streamEnd, none⟩
    else match s.token with
      | .error e => l.blocked e
      | .ok next => if next.cursor.left < l.cursor.left then next.run else l.blocked .malformed
termination_by l.cursor.left

end Lexer

/-- The tokens of a text, in which no other characters may occur than those allowed. A byte order
mark at its start is passed over. -/
def tokens (cs : List Char) : Tokens :=
  if cs.all isAllowed then
    (Lexer.start (match cs with | '\ufeff' :: r => r | r => r)).run
  else ⟨#[], some .malformed⟩

end ApiModel.Yaml
