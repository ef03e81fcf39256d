import Remedy.Python.CasePattern

/-!
# Reading Python statements

A simple statement ends at a line end or a semicolon; a compound one has suites, each an indented
block, an empty block or simple statements on the same line. `Module.parse?` reads a whole text: a
text with a single mistake has no tree.

A suite is one level deeper than its statement, so its reading is handed in (`suite`).
-/

namespace Remedy.Python

open Remedy.Text Reading

/-- The surroundings of a simple statement. -/
def Block.line (b : Block) : Surroundings := { block := b, ends := true }

/-- The surroundings in the head of a compound statement. -/
def Block.head (b : Block) : Surroundings := { block := b }

/-- The operators of an assignment that also reads its target. -/
def updateSigns : List String :=
  ["+=", "-=", "*=", "/=", "@=", "//=", "%=", "**=", ">>=", "<<=", "&=", "^=", "|="]

/-! ## Assignments -/

/-- The right side of an assignment: the further targets of a chain and the value, and the whole
seen as one expression. -/
structure RightSide where
  targets : List Expr
  value : Option Expr
  whole : Expr

/-- An assignment: its targets, its value, and the operator and target if it reads its target. -/
structure Assignment where
  line : Nat
  left : Expr
  annotation : Option Expr
  op : Option String
  right : Option RightSide

/-- The expression that stands for an assignment inside another one. -/
def Assignment.whole (a : Assignment) : Expr :=
  .other a.line (a.left :: a.annotation.toList ++ (a.right.map (·.whole)).toList)

/-- An assignment inside another one: a chain goes on, an operator ends it. -/
def Assignment.asRight (a : Assignment) : RightSide :=
  match a.op with
  | some _ => ⟨[], some a.whole, a.whole⟩
  | none =>
    match a.right with
    | some r => ⟨a.left :: r.targets, r.value, a.whole⟩
    | none => ⟨[a.left], none, a.whole⟩

def Assignment.simple (a : Assignment) : Simple :=
  match a.op, a.right with
  | some op, some r => .update a.left op r.whole
  | _, some r => .assign (a.left :: r.targets) r.value
  | _, none => .assign [a.left] none

/-- An assignment; `right` reads its right side. -/
def assignment (n : Nest) (s : Surroundings) (right : Reading RightSide) : Reading Assignment := do
  let left ← targets n s
  match ← sign? s (["=", ":"] ++ updateSigns) with
  | none => failure
  | some "=" => return ⟨left.line, left.expr, none, none, some (← right)⟩
  | some ":" =>
    let t ← n.type s false
    match ← sign? s ["="] with
    | some _ => return ⟨left.line, left.expr, some t.expr, none, some (← right)⟩
    | none => return ⟨left.line, left.expr, some t.expr, none, none⟩
  | some op => return ⟨left.line, left.expr, none, some op, some (← right)⟩

/-- The right side of an assignment, with at most `depth` further ones in it. -/
def rightSide (n : Nest) (s : Surroundings) : (depth : Nat) → Reading RightSide
  | 0 => failure
  | depth + 1 =>
    Assignment.asRight <$> assignment n s (rightSide n s depth) <|> do
      let e ← orYield n s false (expressions n s)
      pure ⟨[], some e.expr, e.expr⟩

/-! ## Simple statements -/

/-- An assignment, a `yield`, or expressions, each a statement of its own. -/
def expressionStatement (n : Nest) (s : Surroundings) : Reading (List Stmt) := do
  let c ← get
  if (← wordHere?) = some "yield" then
    let _ ← takeWord
    let e ← yielded n s c.line
    pure [.simple c.line (.expr e.expr)]
  else
    (do
      let a ← assignment n s (rightSide n s (c.left + 1))
      pure [.simple a.line a.simple])
      <|> do
        let (items, _) ← commaSeparated s (n.expr s .conditional)
        pure (items.map fun e => .simple e.line (.expr e.expr))

/-- The end of a simple statement, left where it is. -/
def simpleEnd (s : Surroundings) : Reading Unit := do
  match ← following s with
  | none => pure ()
  | some d => guard (d.sees ";")

/-- Expressions with commas between them and none at the end. -/
def strictList (n : Nest) (s : Surroundings) : Reading (List Expr) := do
  let first ← n.expr s .conditional
  let rest ← many do
    match ← sign? s [","] with
    | none => pure none
    | some _ => some <$> n.expr s .conditional
  pure ((first :: rest).map (·.expr))

/-- A name with points; with the text up to the first point, which is what an import binds. -/
def dottedName (s : Surroundings) : Reading (Expr × String) := do
  operand s false
  let c ← get
  let first ← takeWord
  let rest ← many do
    match ← sign? s ["."] with
    | none => pure none
    | some _ =>
      operand s.inner false
      let line ← lineHere
      let w ← takeWord
      pure (some (Expr.name line w))
  let text := c.textTo (← get)
  pure (.other c.line (.name c.line first :: rest),
    String.ofList (text.takeWhile (· != '.')))

def importItem (s : Surroundings) : Reading (Expr × String) := do
  let (e, bound) ← dottedName s
  match ← Reading.word? s ["as"] with
  | none => pure (e, bound)
  | some _ =>
    operand s.inner false
    let line ← lineHere
    let w ← takeWord
    pure (.other e.line [e, .name line w], w)

def importItems (s : Surroundings) : Reading (List (Expr × String)) := do
  operand s.inner false
  if (← get).sees "(" then
    advance 1
    let (items, _) ← commaSeparated s.bracketed (importItem s.bracketed)
    sign s.bracketed ")"
    pure items
  else
    let (items, _) ← commaSeparated s (importItem s)
    pure items

def boundByImport (items : List (Expr × String)) : Simple :=
  .imports ((items.map (·.2)).filter (!·.isEmpty))

def importFrom (s : Surroundings) : Reading Simple := do
  operand s.inner false
  let c ← get
  if (← wordHere?) = some "__future__" then
    let _ ← takeWord
    word s.inner "import"
    let items ← importItems s
    pure (.other (items.map (·.1)))
  else
    if c.sees "." then
      let _ ← many do
        match ← sign? s.inner ["."] with
        | none => pure none
        | some _ => pure (some ())
      match (← following s.inner).bind Cursor.word? with
      | some (w, _) => if w != "import" then let _ ← dottedName s.inner
      | none => failure
    else
      let _ ← dottedName s.inner
    word s.inner "import"
    operand s.inner false
    if (← get).sees "*" then
      advance 1
      pure (.imports [])
    else return boundByImport (← importItems s)

/-- What an old print statement writes, after its word. -/
def printed (n : Nest) (s : Surroundings) : Reading Simple := do
  operand s false
  let c ← get
  if c.sees ">>" then
    advance 2
    let stream ← n.expr s .conditional
    let (args, _) ← more s (n.expr s .conditional)
    pure (.other (.other c.line [stream.expr] :: args.map (·.expr)))
  else
    let (args, _) ← commaSeparated s (n.expr s .conditional)
    pure (.other (args.map (·.expr)))

/-- A statement that starts with `print`: written to a file, an expression, or an old print
statement. -/
def printStatement (n : Nest) (s : Surroundings) : Reading (List Stmt) := do
  let c ← get
  let old : Reading (List Stmt) := do
    let _ ← takeWord
    return [.simple c.line (← printed n s)]
  let after := c.word?.map (·.2)
  let next? ← match after with
    | some d => do
      set d
      let e ← following s
      set c
      pure e
    | none => pure none
  if next?.any fun d => d.sees ">>" && !d.sees ">>=" then old
  else
    (do
      let found ← expressionStatement n s
      simpleEnd s
      pure found)
      <|> old

/-- A statement that starts with `exec`: code to run, or an expression. -/
def execStatement (n : Nest) (s : Surroundings) : Reading (List Stmt) := do
  let c ← get
  let _ ← takeWord
  let next? ← following s
  let code? := next?.filter fun d =>
    (Quoted.opening? d.rest).isSome || d.word?.any fun (w, _) => !operatorWords.contains w
  match code? with
  | none =>
    set c
    expressionStatement n s
  | some d =>
    set d
    let code ←
      if (Quoted.opening? d.rest).isSome then do
        Quoted.literal (n.field s)
        let text := d.textTo (← get)
        pure (Expr.const d.line (.str (Quoted.value text)))
      else do
        let w ← takeWord
        pure (Expr.name d.line w)
    let scopes ← match ← Reading.word? s ["in"] with
      | some _ => strictList n s
      | none => pure []
    pure [.simple c.line (.other (code :: scopes))]

/-- A statement that starts with `type`: a name for a type, or an expression. -/
def typeStatement (n : Nest) (s : Surroundings) : Reading (List Stmt) := do
  let c ← get
  (do
    let _ ← takeWord
    let left ← n.type s true
    sign s "="
    let right ← n.type s true
    simpleEnd s
    pure [.simple c.line (.other [left.expr, right.expr])])
    <|> expressionStatement n s

def identifiers (s : Surroundings) : Reading (List String) := do
  let first ← identifier s.inner
  let rest ← many do
    match ← sign? s [","] with
    | none => pure none
    | some _ => some <$> identifier s.inner
  pure (first :: rest)

/-- A `raise` after its word: what is raised, or else its cause. -/
def raised (n : Nest) (s : Surroundings) : Reading Simple := do
  let fromHere := fun (d : Cursor) => d.word?.any (·.1 = "from")
  let what ← match ← following s with
    | none => pure none
    | some d => if fromHere d then pure none else ifAny s (expressions n s)
  let cause ← match ← Reading.word? s ["from"] with
    | some _ => some <$> n.expr s .conditional
    | none => pure none
  pure (.raise ((what.or cause).map (·.expr)))

/-- A simple statement, at the very place. -/
def simpleStatement (n : Nest) (b : Block) : Reading (List Stmt) := do
  let s := b.line
  let c ← get
  let after (rest : Reading Simple) : Reading (List Stmt) := do
    let _ ← takeWord
    return [.simple c.line (← rest)]
  match ← wordHere? with
  | some "import" => after (boundByImport <$> (do
      let (items, _) ← commaSeparated s (importItem s)
      pure items))
  | some "from" => after (importFrom s)
  | some "print" => printStatement n s
  | some "assert" => after (Simple.other <$> strictList n s)
  | some "return" => after (do
      let e ← ifAny s (expressions n s)
      pure (.ret (e.map (·.expr))))
  | some "del" => after (do
      let e ← expressions n s
      pure (.other [e.expr]))
  | some "raise" => after (raised n s)
  | some "pass" => after (pure .pass)
  | some "break" => after (pure .breakLoop)
  | some "continue" => after (pure .continueLoop)
  | some "global" => after (Simple.outer <$> identifiers s)
  | some "nonlocal" => after (Simple.outer <$> identifiers s)
  | some "exec" => execStatement n s
  | some "type" => typeStatement n s
  | _ => expressionStatement n s

/-- Simple statements with semicolons between them, up to the end of the line. -/
def simpleLine (n : Nest) (b : Block) : Reading (List Stmt) := do
  let first ← simpleStatement n b
  let rest ← many do
    match ← sign? b.line [";"] with
    | none => pure none
    | some _ =>
      match ← following b.line with
      | none => pure none
      | some d =>
        set d
        some <$> simpleStatement n b
  guard (← following b.line).isNone
  pure (first ++ rest.flatten)

/-! ## Compound statements -/

/-- One of several words at the start of a clause in the same block. -/
def clauseWord? (b : Block) (wanted : List String) : Reading (Option (String × Nat)) := do
  match (← get).ahead { dedent := true } b with
  | .boundary _ => pure none
  | .token d =>
    match d.word? with
    | some (w, next) =>
      if wanted.contains w then
        set next
        pure (some (w, d.line))
      else pure none
    | none => pure none

def body (b : Block) (suite : Block → Reading (List Stmt)) : Reading (List Stmt) := do
  sign b.head ":"
  suite b

def elseClause (b : Block) (suite : Block → Reading (List Stmt)) : Reading (List Stmt) := do
  match ← clauseWord? b ["else"] with
  | some _ => body b suite
  | none => pure []

/-- The `elif` and `else` clauses after the body of an `if`: each `elif` is an `if` of its own in
the `else` part of the one before. -/
def elifClauses (n : Nest) (b : Block) (suite : Block → Reading (List Stmt)) :
    (fuel : Nat) → Reading (List Stmt)
  | 0 => failure
  | fuel + 1 => do
    match ← clauseWord? b ["elif", "else"] with
    | some ("elif", line) =>
      let test ← n.expr b.head .conditional
      let consequence ← body b suite
      let orelse ← elifClauses n b suite fuel
      pure [.branch line test.expr consequence orelse]
    | some _ => body b suite
    | none => pure []

/-- The head of an `except` clause after its word, and the name it binds. -/
def exceptHead (n : Nest) (b : Block) : Reading (Option String) := do
  let s := b.head
  match ← following s with
  | none => failure
  | some d =>
    if d.sees ":" then pure none
    else
      let e ← n.expr s .conditional
      match e.shape with
      | .alias _ _ text =>
        if (← sign? s [","]).isSome then
          let _ ← n.expr s .conditional
        pure (some text)
      | _ =>
        match ← sign? s [","] with
        | none => pure none
        | some _ =>
          let second ← n.expr s .conditional
          match second.shape with
          | .identifier name => pure (some name)
          | _ => pure none

def exceptClauses (n : Nest) (b : Block) (suite : Block → Reading (List Stmt)) :
    Reading (List Handler) :=
  many do
    match ← clauseWord? b ["except"] with
    | none => pure none
    | some (_, line) =>
      let grouped := (← get).sees "*"
      if grouped then advance 1
      let name ← exceptHead n b
      let handled ← body b suite
      pure (some (.mk line name handled))

def tryStatement (n : Nest) (b : Block) (suite : Block → Reading (List Stmt)) (line : Nat) :
    Reading Stmt := do
  let tried ← body b suite
  let handlers ← exceptClauses n b suite
  let orelse ← if handlers.isEmpty then pure [] else elseClause b suite
  match ← clauseWord? b ["finally"] with
  | some _ => return .tryBlock line tried handlers orelse (← body b suite)
  | none =>
    guard (!handlers.isEmpty)
    pure (.tryBlock line tried handlers orelse [])

/-- The items of a `with` statement, in parentheses or not, up to the colon. -/
def withItems (n : Nest) (s : Surroundings) : Reading (List Node) :=
  (do
    sign s "("
    let b := s.bracketed
    let (items, _) ← commaSeparated b (n.expr b .conditional)
    sign b ")"
    guard (2 ≤ items.length)
    guard ((← following s).any (·.sees ":"))
    pure items)
    <|> do
      let (items, _) ← commaSeparated s (n.expr s .conditional)
      pure items

def withStatement (n : Nest) (b : Block) (suite : Block → Reading (List Stmt)) (line : Nat) :
    Reading Stmt := do
  let items ← withItems n b.head
  let inside ← body b suite
  let values := items.map fun e =>
    match e.shape with
    | .alias value _ _ => value
    | _ => e.expr
  let bound := items.filterMap fun e =>
    match e.shape with
    | .alias _ target _ => some target
    | _ => none
  pure (.withBlock line values bound inside)

def forStatement (n : Nest) (b : Block) (suite : Block → Reading (List Stmt)) (line : Nat) :
    Reading Stmt := do
  let target ← targets n b.head
  word b.head "in"
  let iter ← expressions n b.head
  let inside ← body b suite
  return .forLoop line target.expr iter.expr inside (← elseClause b suite)

def typeParameters (n : Nest) (s : Surroundings) : Reading Unit := do
  if (← sign? s ["["]).isSome then
    let b := s.bracketed
    let _ ← commaSeparated b (n.type b true)
    sign b "]"

def functionStatement (n : Nest) (b : Block) (suite : Block → Reading (List Stmt)) (line : Nat) :
    Reading Stmt := do
  let s := b.head
  let name ← identifier s
  typeParameters n s
  sign s "("
  let inside := s.bracketed
  operand inside true
  let params ←
    if (← get).sees ")" then pure []
    else do
      let (params, _) ← commaSeparated inside (parameter n inside true)
      pure params
  sign inside ")"
  if (← sign? s ["->"]).isSome then
    let _ ← n.type s false
  return .function line name (params.filterMap id) (← body b suite)

def classStatement (n : Nest) (b : Block) (suite : Block → Reading (List Stmt)) (line : Nat) :
    Reading Stmt := do
  let s := b.head
  let name ← identifier s
  typeParameters n s
  match ← following s with
  | some d =>
    if d.sees "(" then
      set (d.skip 1)
      let _ ← arguments n s d.line
  | none => failure
  return .classDef line name (← body b suite)

/-- A `match` statement after its word. Its cases are read and left out of the tree. -/
def matchStatement (n : Nest) (b : Block) (suite : Block → Reading (List Stmt)) (line : Nat) :
    Reading Stmt := do
  let s := b.head
  let (subjects, _) ← commaSeparated s (n.expr s .conditional)
  sign s ":"
  let case (inner : Block) : Reading (Option Unit) := do
    match (← get).ahead { dedent := true } inner with
    | .boundary _ => pure none
    | .token d =>
      set d
      guard ((← takeWord) = "case")
      let h := inner.head
      let _ ← commaSeparated h (CasePattern.read n (d.left + 1) h)
      if (← Reading.word? h ["if"]).isSome then
        let _ ← n.expr h .conditional
      let _ ← body inner suite
      pure (some ())
  match (← get).ahead { newline := true, indent := true } b with
  | .boundary (.indent column) =>
    let _ ← many (case { b with column })
  | .boundary .newline => pure ()
  | _ => failure
  pure (.simple line (.other (subjects.map (·.expr))))

/-- A function, a loop or a `with` statement after `async`. -/
def afterAsync? (c : Cursor) (b : Block) : Option (String × Cursor) := do
  let (first, next) ← c.word?
  guard (first = "async")
  match next.ahead { newline := true } b with
  | .token d =>
    let (second, rest) ← d.word?
    guard (["def", "for", "with"].contains second)
    some (second, rest)
  | .boundary _ => none

/-- Decorators, each on a line of its own, before a function or a class. -/
def decorated (n : Nest) (b : Block) (suite : Block → Reading (List Stmt)) : Reading Stmt := do
  let nextToken : Reading Unit := do
    match (← get).ahead {} b with
    | .boundary _ => failure
    | .token d => set d
  let _ ← many do
    nextToken
    if (← get).sees "@" then
      advance 1
      let _ ← n.expr b.line .conditional
      guard (← following b.line).isNone
      pure (some ())
    else pure none
  let c ← get
  match afterAsync? c b with
  | some ("def", rest) =>
    set rest
    functionStatement n b suite c.line
  | some _ => failure
  | none =>
    match ← takeWord with
    | "def" => functionStatement n b suite c.line
    | "class" => classStatement n b suite c.line
    | _ => failure

/-- A statement, at the very place; several for a line of simple ones. -/
def statement (n : Nest) (b : Block) (suite : Block → Reading (List Stmt)) :
    Reading (List Stmt) := do
  let c ← get
  let one (read : Nat → Reading Stmt) : Reading (List Stmt) := do
    let _ ← takeWord
    return [← read c.line]
  if c.sees "@" then return [← decorated n b suite]
  else
    match afterAsync? c b with
    | some (w, rest) =>
      set rest
      match w with
      | "def" => return [← functionStatement n b suite c.line]
      | "for" => return [← forStatement n b suite c.line]
      | _ => return [← withStatement n b suite c.line]
    | none =>
      match ← wordHere? with
      | some "if" => one fun line => do
          let test ← n.expr b.head .conditional
          let consequence ← body b suite
          return .branch line test.expr consequence (← elifClauses n b suite (c.left + 1))
      | some "while" => one fun line => do
          let test ← n.expr b.head .conditional
          let inside ← body b suite
          return .whileLoop line test.expr inside (← elseClause b suite)
      | some "for" => one (forStatement n b suite)
      | some "try" => one (tryStatement n b suite)
      | some "with" => one (withStatement n b suite)
      | some "def" => one (functionStatement n b suite)
      | some "class" => one (classStatement n b suite)
      | some "match" => one (matchStatement n b suite) <|> simpleLine n b
      | _ => simpleLine n b

/-- The statements of a block up to where it ends; those of a whole text up to its end. -/
def statements (n : Nest) (b : Block) (whole : Bool) (suite : Block → Reading (List Stmt)) :
    Reading (List Stmt) := do
  let found ← many do
    match (← get).ahead { dedent := !whole } b with
    | .boundary _ => pure none
    | .token d =>
      if d.rest.isEmpty then pure none
      else
        set d
        some <$> statement n b suite
  pure found.flatten

/-- A suite after its colon: an indented block, nothing, or simple statements on the same line. At
most `depth` suites are nested. -/
def suite (n : Nest) : (depth : Nat) → Block → Reading (List Stmt)
  | 0, _ => failure
  | depth + 1, b => do
    match (← get).ahead { newline := true, indent := true } b with
    | .boundary (.indent column) => statements n { b with column } false (suite n depth)
    | .boundary _ => pure []
    | .token d =>
      set d
      simpleLine n b

/-- The tree of a text; none if there is a mistake in it. -/
def Module.parse? (source : String) : Option Module := do
  let text := source.toList
  let depth := text.length + 1
  let (body, rest) ← (statements (.ofDepth depth) {} true (suite (.ofDepth depth) depth)).run
    (.start text)
  match rest.ahead {} {} with
  | .token d => if d.rest.isEmpty then some ⟨body⟩ else none
  | .boundary _ => none

end Remedy.Python
