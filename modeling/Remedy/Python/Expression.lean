import Remedy.Python.Numeral
import Remedy.Python.Quoted

/-!
# Reading Python expressions

From the loosest to the tightest: conditional, `as`, `or`, `and`, `not`, comparisons (one chain each),
the binary operators by precedence, the unary ones, and a primary with calls, subscripts and members.

Every way from an expression to one inside it goes through a `Nest`, the readings for what is one
level deeper; `Nest.ofDepth` ties the knot. A text of `n` characters nests less than `n` deep.
-/

namespace Remedy.Python

open Remedy.Text

/-- What an expression looks like, as far as the statements around it need to know. -/
inductive Shape where
  | identifier (name : String)
  /-- A subscript or a member, which an assignment may have as its target. -/
  | slot
  /-- `value as target`, with the target as it is written. -/
  | alias (value target : Expr) (text : String)
  | other

structure Node where
  line : Nat
  expr : Expr
  shape : Shape := .other

/-- What the top of an expression may be: anything, no conditional, nor an alias, nor a disjunction,
nor a conjunction. -/
inductive Level where
  | conditional | alias | disjunction | conjunction | negation
deriving DecidableEq

/-- The words that continue an expression at a level. -/
def Level.words : Level → List String
  | .conditional => ["and", "or", "as", "if"]
  | .alias => ["and", "or", "as"]
  | .disjunction => ["and", "or"]
  | .conjunction => ["and"]
  | .negation => []

/-- The readings for what is one level deeper. -/
structure Nest where
  expr : Surroundings → Level → Reading Node
  /-- Operands joined by operators of at least a precedence. -/
  binary : Surroundings → (least : Nat) → Reading Node
  /-- What a comprehension runs over. -/
  iterable : Surroundings → Reading Unit
  /-- A target of an assignment. -/
  target : Surroundings → Reading Node
  /-- A type; `generic` says that brackets after a name are type parameters first of all. -/
  type : Surroundings → (generic : Bool) → Reading Node
  /-- A replacement field after its opening brace. -/
  field : Surroundings → Reading Unit

namespace Expr

mutual

def firstName? : Expr → Option String
  | name _ id => some id
  | member _ value field => (firstName? value).or (some field)
  | subscript _ value index => (firstName? value).or (firstName? index)
  | sequence _ items => firstNameIn? items
  | _ => none

def firstNameIn? : List Expr → Option String
  | [] => none
  | e :: es => (firstName? e).or (firstNameIn? es)

end

end Expr

namespace Reading

variable {α : Type}

/-- Further items, each after a comma; a last comma may stand alone. Also says whether there was a
comma. -/
def more (s : Surroundings) (one : Reading α) : Reading (List α × Bool) := do
  let found ← many do
    match ← sign? s [","] with
    | none => pure none
    | some _ =>
      match ← following s with
      | none => pure (some none)
      | some d => some <$> attempt (do set d; one)
  pure (found.filterMap id, !found.isEmpty)

/-- Items with commas between them and perhaps one at the end. Also says whether there was a
comma. -/
def commaSeparated (s : Surroundings) (one : Reading α) : Reading (List α × Bool) := do
  let first ← one
  let (rest, comma) ← more s one
  pure (first :: rest, comma)

/-- One item if a token that may start it follows. -/
def ifAny (s : Surroundings) (one : Reading α) : Reading (Option α) := do
  match ← following s with
  | none => pure none
  | some d => attempt (do set d; one)

end Reading

open Reading

/-- The line of the next token, which is at the very place. -/
def lineHere : Reading Nat := do pure (← get).line

/-- One expression, or several with commas as a sequence. -/
def expressions (n : Nest) (s : Surroundings) : Reading Node := do
  let first ← n.expr s .conditional
  let (rest, comma) ← more s (n.expr s .conditional)
  if comma then
    pure ⟨first.line, .sequence first.line (first.expr :: rest.map (·.expr)), .other⟩
  else pure first

def yielded (n : Nest) (s : Surroundings) (line : Nat) : Reading Node := do
  match ← Reading.word? s ["from"] with
  | some _ =>
    let e ← n.expr s .conditional
    pure ⟨line, .other line [e.expr], .other⟩
  | none =>
    let e? ← ifAny s (expressions n s)
    pure ⟨line, .other line (e?.map (·.expr)).toList, .other⟩

/-- A `yield` or what `otherwise` reads, where a token must come. -/
def orYield (n : Nest) (s : Surroundings) (closer : Bool) (otherwise : Reading Node) :
    Reading Node := do
  operand s closer
  let line ← lineHere
  if (← wordHere?) = some "yield" then
    let _ ← takeWord
    yielded n s line
  else otherwise

def element (n : Nest) (s : Surroundings) (closer : Bool) : Reading Node :=
  orYield n s closer do
    let c ← get
    if c.sees "*" && !c.sees "**" then
      (do
        advance 1
        let e ← n.expr s .conditional
        pure { e with line := c.line })
        <|> n.expr s .conditional
    else n.expr s .conditional

/-! ## Parameters -/

/-- A slot or identifier after a star. -/
def starred (n : Nest) (s : Surroundings) : Reading Node := do
  let e ← n.target s
  match e.shape with
  | .identifier _ | .slot => pure e
  | _ => failure

/-- The type and the default of a parameter. -/
def parameterTail (n : Nest) (s : Surroundings) (typed canDefault : Bool) : Reading Unit := do
  if typed then
    if (← sign? s [":"]).isSome then
      let _ ← n.type s false
  if canDefault then
    if (← sign? s ["="]).isSome then
      let _ ← n.expr s .conditional

/-- A parameter, and the name it binds unless it is a separator. -/
def parameter (n : Nest) (s : Surroundings) (typed : Bool) : Reading (Option String) := do
  operand s true
  let c ← get
  match c.sign? with
  | some ("**", next) =>
    set next
    let e ← starred n s
    parameterTail n s typed false
    pure e.expr.firstName?
  | some ("*", next) =>
    set next
    match ← ifAny s (starred n s) with
    | some e =>
      parameterTail n s typed false
      pure e.expr.firstName?
    | none => pure none
  | some ("/", next) =>
    set next
    pure none
  | some ("(", _) =>
    let e ← n.target s
    parameterTail n s false true
    pure e.expr.firstName?
  | _ =>
    let name ← takeWord
    parameterTail n s typed true
    pure (some name)

def lambdaHead (n : Nest) (s : Surroundings) : Reading Unit := do
  match ← sign? s.inner [":"] with
  | some _ => pure ()
  | none =>
    let _ ← commaSeparated s.inner (parameter n s.inner false)
    sign s.inner ":"

/-! ## Comprehensions -/

def targets (n : Nest) (s : Surroundings) : Reading Node := do
  let first ← n.target s
  let (rest, comma) ← more s (n.target s)
  if comma then
    pure ⟨first.line, .sequence first.line (first.expr :: rest.map (·.expr)), .other⟩
  else pure first

def forPart (n : Nest) (s : Surroundings) : Reading Unit := do
  let _ ← targets n s.inner
  word s.inner "in"
  let _ ← commaSeparated s (n.iterable s)

/-- The `for` and `if` parts of a comprehension; none if there is no `for`. -/
def comprehension? (n : Nest) (s : Surroundings) : Reading Bool := do
  let forAfterAsync : Reading Unit := do
    operand s.inner false
    word s.inner "for"
  match ← Reading.word? s ["for", "async"] with
  | none => pure false
  | some first =>
    if first = "async" then forAfterAsync
    forPart n s
    let _ ← many do
      match ← Reading.word? s ["for", "async", "if"] with
      | none => pure none
      | some "if" =>
        let _ ← n.expr s .alias
        pure (some ())
      | some w =>
        if w = "async" then forAfterAsync
        forPart n s
        pure (some ())
    pure true

/-- What a comprehension runs over: an expression, or a lambda with such a body. -/
def iterable (n : Nest) (s : Surroundings) : Reading Unit := do
  operand s false
  let w? ← wordHere?
  if w? = some "lambda" then
    let _ ← takeWord
    lambdaHead n s
    n.iterable s
  else if w?.any ["for", "if", "async"].contains then failure
  else
    let _ ← n.expr s .alias

/-! ## Displays -/

/-- What stands in parentheses: a tuple, a generator, or one expression, which the parentheses leave
as it is. -/
def parenthesized (n : Nest) (s : Surroundings) : Reading Node := do
  let line ← lineHere
  let b := s.bracketed
  advance 1
  operand b true
  if (← get).sees ")" then
    advance 1
    pure ⟨line, .sequence line [], .other⟩
  else
    let first ← element n b true
    if ← comprehension? n b then
      sign b ")"
      pure ⟨line, .innerScope line, .other⟩
    else
      let (rest, comma) ← more b (element n b true)
      sign b ")"
      if comma then
        pure ⟨line, .sequence line (first.expr :: rest.map (·.expr)), .other⟩
      else pure ⟨line, first.expr, .other⟩

def listDisplay (n : Nest) (s : Surroundings) : Reading Node := do
  let line ← lineHere
  let b := s.bracketed
  advance 1
  operand b true
  if (← get).sees "]" then
    advance 1
    pure ⟨line, .sequence line [], .other⟩
  else
    let first ← element n b true
    if ← comprehension? n b then
      sign b "]"
      pure ⟨line, .innerScope line, .other⟩
    else
      let (rest, _) ← more b (element n b true)
      sign b "]"
      pure ⟨line, .sequence line (first.expr :: rest.map (·.expr)), .other⟩

/-- An entry of a dictionary: a pair, or another dictionary after two stars. -/
def entry (n : Nest) (b : Surroundings) : Reading Expr := do
  operand b true
  if (← get).sees "**" then
    advance 2
    pure (← n.expr b .conditional).expr
  else
    let key ← n.expr b .conditional
    sign b ":"
    let value ← n.expr b .conditional
    pure (.other key.line [key.expr, value.expr])

/-- A dictionary, a set, or a comprehension of either. -/
def braceDisplay (n : Nest) (s : Surroundings) : Reading Node := do
  let line ← lineHere
  let b := s.bracketed
  advance 1
  operand b true
  let dictionary (first : List Expr) : Reading Node := do
    let (rest, _) ← more b (entry n b)
    sign b "\x7d"
    pure ⟨line, .other line (first ++ rest), .other⟩
  let c ← get
  if c.sees "\x7d" then
    advance 1
    pure ⟨line, .other line [], .other⟩
  else if c.sees "," then
    advance 1
    operand b true
    sign b "\x7d"
    pure ⟨line, .other line [], .other⟩
  else if c.sees "**" then
    dictionary [← entry n b]
  else
    let first ← element n b true
    if (← sign? b [":"]).isSome then
      let value ← n.expr b .conditional
      if ← comprehension? n b then
        sign b "\x7d"
        pure ⟨line, .innerScope line, .other⟩
      else dictionary [.other first.line [first.expr, value.expr]]
    else if ← comprehension? n b then
      sign b "\x7d"
      pure ⟨line, .innerScope line, .other⟩
    else
      let (rest, _) ← more b (element n b true)
      sign b "\x7d"
      pure ⟨line, .sequence line (first.expr :: rest.map (·.expr)), .other⟩

/-! ## Primaries -/

/-- A string literal, or several adjacent ones. -/
def strings (n : Nest) (s : Surroundings) : Reading Node := do
  let c ← get
  Quoted.literal (n.field s)
  let _ ← many do
    match ← following s with
    | some d =>
      if (Quoted.opening? d.rest).isSome then
        set d
        Quoted.literal (n.field s)
        pure (some ())
      else pure none
    | none => pure none
  let text := c.textTo (← get)
  pure ⟨c.line, .const c.line (.str (Quoted.value text)), .other⟩

def sliceTail (n : Nest) (b : Surroundings) : Reading (List Expr) := do
  let upper ← ifAny b (n.expr b .conditional)
  let step ←
    if (← sign? b [":"]).isSome then ifAny b (n.expr b .conditional) else pure none
  pure ((upper.toList ++ step.toList).map (·.expr))

def index (n : Nest) (b : Surroundings) : Reading Expr := do
  operand b false
  let line ← lineHere
  if (← sign? b [":"]).isSome then
    pure (.other line (← sliceTail n b))
  else
    let first ← n.expr b .conditional
    if (← sign? b [":"]).isSome then
      pure (.other line (first.expr :: (← sliceTail n b)))
    else pure first.expr

/-- Words that are no keyword of an argument. -/
def reservedInArgument : List String := ["True", "False", "None", "not", "lambda"]

/-- An argument of a call; of a keyword argument, only the value is kept. -/
def argument (n : Nest) (b : Surroundings) : Reading Expr := do
  operand b true
  let c ← get
  if c.sees "**" then
    advance 2
    pure (← n.expr b .conditional).expr
  else
    match c.word? with
    | some (w, next) =>
      if reservedInArgument.contains w then pure (← n.expr b .conditional).expr
      else
        set next
        match ← sign? b ["="] with
        | some _ => pure (← n.expr b .conditional).expr
        | none =>
          set c
          pure (← n.expr b .conditional).expr
    | none => pure (← element n b true).expr

/-- The arguments of a call after the opening parenthesis on `line`. -/
def arguments (n : Nest) (s : Surroundings) (line : Nat) : Reading (List Expr) := do
  let b := s.bracketed
  operand b true
  let c ← get
  if c.sees ")" then
    advance 1
    pure []
  else if c.sees "," then
    advance 1
    operand b true
    sign b ")"
    pure []
  else
    let first ← argument n b
    if ← comprehension? n b then
      sign b ")"
      pure [.innerScope line]
    else
      let (rest, _) ← more b (argument n b)
      sign b ")"
      pure (first :: rest)

/-- What a primary starts with, at the very place. -/
def atom (n : Nest) (s : Surroundings) : Reading Node := do
  let c ← get
  if c.sees "(" then parenthesized n s
  else if c.sees "[" then listDisplay n s
  else if c.sees "\x7b" then braceDisplay n s
  else if (Quoted.opening? c.rest).isSome then strings n s
  else if c.sees "..." then
    advance 3
    pure ⟨c.line, .other c.line [], .other⟩
  else
    match Numeral.read? c.rest with
    | some (value?, size) =>
      advance size
      match value? with
      | some value => pure ⟨c.line, .const c.line value, .other⟩
      | none => pure ⟨c.line, .other c.line [], .other⟩
    | none =>
      match ← takeWord with
      | "True" => pure ⟨c.line, .const c.line (.bool true), .other⟩
      | "False" => pure ⟨c.line, .const c.line (.bool false), .other⟩
      | "None" => pure ⟨c.line, .const c.line .nothing, .other⟩
      | id => pure ⟨c.line, .name c.line id, .identifier id⟩

/-- The members, subscripts and calls after a primary. Also says whether there was a member or
subscript. -/
def trailers (n : Nest) (s : Surroundings) : (fuel : Nat) → Node → Bool → Reading (Node × Bool)
  | 0, e, slot => pure (e, slot)
  | fuel + 1, e, slot => do
    let before ← following s
    match ← sign? s [".", "[", "("] with
    | some "." =>
      operand s.inner false
      let field ← takeWord
      trailers n s fuel ⟨e.line, .member e.line e.expr field, .slot⟩ true
    | some "[" =>
      let b := s.bracketed
      let first ← index n b
      let _ ← more b (index n b)
      sign b "]"
      trailers n s fuel ⟨e.line, .subscript e.line e.expr first, .slot⟩ true
    | some _ =>
      let args ← arguments n s ((before.map (·.line)).getD e.line)
      trailers n s fuel ⟨e.line, .call e.line e.expr args, .other⟩ slot
    | none => pure (e, slot)

/-- A primary at the very place. A star is allowed before one that has an identifier, a member or a
subscript in it. -/
def primary (n : Nest) (s : Surroundings) : Reading Node := do
  let c ← get
  if c.sees "*" then
    advance 1
    operand s.inner false
    let first ← atom n s
    let (e, slot) ← trailers n s (c.left + 1) first false
    guard (slot || first.shape matches .identifier _)
    pure { e with line := c.line, shape := .other }
  else
    let first ← atom n s
    let (e, _) ← trailers n s (c.left + 1) first false
    pure e

/-! ## Operators -/

def precedence? : String → Option Nat
  | "|" => some 14
  | "&" => some 15
  | "^" => some 16
  | "<<" | ">>" => some 17
  | "+" | "-" => some 18
  | "*" | "@" | "/" | "%" | "//" => some 19
  | "**" => some 21
  | _ => none

/-- The least precedence of an operand of a comparison. -/
def comparedPrecedence : Nat := 14

/-- The precedence that binds tighter than a sign before an operand. -/
def powerPrecedence : Nat := 21

/-- Words that continue an expression and so are no operand of `await`. -/
def operatorWords : List String :=
  ["and", "or", "in", "not", "is", "if", "else", "as", "for", "async", "from"]

def startsOperand (c : Cursor) : Bool :=
  match c.word? with
  | some (w, _) => !operatorWords.contains w
  | none =>
    (Quoted.opening? c.rest).isSome || (Numeral.read? c.rest).isSome
      || ["(", "[", "\x7b", "+", "-", "~", "..."].any c.sees

/-- A sign before its operand; a minus before a literal number is part of the number. -/
def signed (op : Char) (line : Nat) (e : Expr) : Expr :=
  match op, e with
  | '-', .const _ (.int v) => .const line (.int (-v))
  | '-', .const _ (.float bits) => .const line (.float (bits ^^^ 0x8000000000000000))
  | _, _ => .other line [e]

/-- A primary with the signs or the `await` before it, at the very place. -/
def unary (n : Nest) (s : Surroundings) : Reading Node := do
  let c ← get
  match c.peek? with
  | none => failure
  | some x =>
    if x = '+' ∨ x = '-' ∨ x = '~' then
      advance 1
      let e ← n.binary s powerPrecedence
      pure ⟨c.line, signed x c.line e.expr, .other⟩
    else
      match c.word? with
      | some ("await", next) =>
        set next
        match ← following s with
        | some d =>
          if startsOperand d then
            set d
            let e ← n.binary s powerPrecedence
            pure ⟨c.line, .other c.line [e.expr], .other⟩
          else
            set c
            primary n s
        | none =>
          set c
          primary n s
      | _ => primary n s

/-- The binary operators of at least a precedence after their first operand. -/
def binaryTail (n : Nest) (s : Surroundings) (least : Nat) : (fuel : Nat) → Node → Reading Node
  | 0, left => pure left
  | fuel + 1, left => do
    match (← following s).bind Cursor.sign? with
    | none => pure left
    | some (op, next) =>
      match precedence? op with
      | none => pure left
      | some p =>
        if least ≤ p then
          set next
          let right ← n.binary s (if op = "**" then p else p + 1)
          binaryTail n s least fuel
            ⟨left.line, .binary left.line left.expr op right.expr, .other⟩
        else pure left

def binary (n : Nest) (s : Surroundings) (least : Nat) : Reading Node := do
  operand s false
  let first ← unary n s
  binaryTail n s least ((← get).left + 1) first

def comparison? (s : Surroundings) : Reading (Option Comparison) := do
  match ← sign? s ["<", "<=", "==", "!=", ">=", ">", "<>"] with
  | some "<" => pure (some .lt)
  | some "<=" => pure (some .le)
  | some "==" => pure (some .eq)
  | some ">=" => pure (some .ge)
  | some ">" => pure (some .gt)
  | some _ => pure (some .notEq)
  | none =>
    match ← Reading.word? s ["in", "not", "is"] with
    | some "in" => pure (some .isIn)
    | some "not" =>
      operand s.inner false
      word s.inner "in"
      pure (some .notIn)
    | some _ =>
      operand s.inner false
      match ← Reading.word? s.inner ["not"] with
      | some _ => pure (some .notSame)
      | none => pure (some .same)
    | none => pure none

/-- Operands with comparison operators between them, or one operand. -/
def comparisons (n : Nest) (s : Surroundings) : Reading Node := do
  let first ← binary n s comparedPrecedence
  let rest ← many do
    match ← comparison? s with
    | none => pure none
    | some op =>
      let e ← n.binary s comparedPrecedence
      pure (some (op, e.expr))
  if rest.isEmpty then pure first
  else
    pure ⟨first.line, .compare first.line first.expr (rest.map (·.1)) (rest.map (·.2)), .other⟩

/-- What an expression starts with: a lambda, a negation, an assignment inside the expression, or
comparisons. -/
def leading (n : Nest) (s : Surroundings) : Reading Node := do
  let c ← get
  match c.word? with
  | some ("lambda", next) =>
    set next
    lambdaHead n s
    let _ ← n.expr s .conditional
    pure ⟨c.line, .innerScope c.line, .other⟩
  | some ("not", next) =>
    set next
    let e ← n.expr s .negation
    pure ⟨c.line, .other c.line [e.expr], .other⟩
  | some (w, next) =>
    if reservedInArgument.contains w then comparisons n s
    else
      set next
      match ← sign? s [":="] with
      | some _ =>
        let e ← n.expr s .disjunction
        pure ⟨c.line, .other c.line [.name c.line w, e.expr], .other⟩
      | none =>
        set c
        comparisons n s
  | none => comparisons n s

/-- The words `and`, `or`, `as` and `if` after an expression, as far as the level allows. -/
def wordTail (n : Nest) (s : Surroundings) (level : Level) : (fuel : Nat) → Node → Reading Node
  | 0, left => pure left
  | fuel + 1, left => do
    match ← Reading.word? s level.words with
    | some "and" =>
      let right ← n.expr s .negation
      wordTail n s level fuel ⟨left.line, .other left.line [left.expr, right.expr], .other⟩
    | some "or" =>
      let right ← n.expr s .conjunction
      wordTail n s level fuel ⟨left.line, .other left.line [left.expr, right.expr], .other⟩
    | some "as" =>
      operand s false
      let c ← get
      let right ← n.expr s .disjunction
      let text := String.ofList (c.textTo (← get))
      wordTail n s level fuel
        ⟨left.line, .other left.line [left.expr, right.expr], .alias left.expr right.expr text⟩
    | some _ =>
      let test ← n.expr s.inner .conditional
      word s.inner "else"
      let right ← n.expr s .conditional
      wordTail n s level fuel
        ⟨left.line, .other left.line [left.expr, test.expr, right.expr], .other⟩
    | none => pure left

def expression (n : Nest) (s : Surroundings) (level : Level) : Reading Node := do
  operand s false
  let first ← leading n s
  wordTail n s level ((← get).left + 1) first

/-! ## Targets, types and replacement fields -/

def reservedInTarget : List String := ["True", "False", "None", "not", "lambda", "yield", "in"]

def bracketedTargets (n : Nest) (s : Surroundings) (close : String) : Reading Node := do
  let line ← lineHere
  let b := s.bracketed
  advance 1
  operand b true
  if (← get).sees close then
    advance 1
    pure ⟨line, .sequence line [], .other⟩
  else
    let (items, _) ← commaSeparated b (n.target b)
    sign b close
    pure ⟨line, .sequence line (items.map (·.expr)), .other⟩

/-- A target of an assignment: an identifier, a slot, targets in brackets, or the first or second
after a star. -/
def target (n : Nest) (s : Surroundings) : Reading Node := do
  operand s false
  let c ← get
  if c.sees "*" then
    advance 1
    let e ← starred n s
    pure { e with line := c.line, shape := .other }
  else if c.word?.any (reservedInTarget.contains ·.1) then failure
  else
    (do
      let e ← primary n s
      match e.shape with
      | .identifier _ | .slot => pure e
      | _ => failure)
      <|> (if c.sees "(" then bracketedTargets n s ")"
        else if c.sees "[" then bracketedTargets n s "]"
        else failure)

def genericType (n : Nest) (s : Surroundings) : Reading Node := do
  let line ← lineHere
  let name ← takeWord
  sign s "["
  let b := s.bracketed
  let (types, _) ← commaSeparated b (n.type b true)
  sign b "]"
  pure ⟨line, .other line [.other line [.name line name, .other line (types.map (·.expr))]], .other⟩

/-- A name after two stars, or any expression. -/
def plainType (n : Nest) (s : Surroundings) : Reading Node := do
  let c ← get
  if c.sees "**" then
    advance 2
    let name ← identifier s
    pure ⟨c.line, .other c.line [.other c.line [.name c.line name]], .other⟩
  else
    let e ← n.expr s .conditional
    pure ⟨c.line, .other c.line [e.expr], .other⟩

/-- What may follow a type with parameters: an alternative, a member or, in brackets, a bound. -/
def typeTail (n : Nest) (s : Surroundings) (t : Node) : Reading Node := do
  match ← sign? s (if s.closes then ["|", ".", ":"] else ["|", "."]) with
  | some "." =>
    let name ← identifier s
    pure ⟨t.line, .other t.line [.other t.line [t.expr, .name t.line name]], .other⟩
  | some _ =>
    let u ← n.type s true
    pure ⟨t.line, .other t.line [.other t.line [t.expr, u.expr]], .other⟩
  | none => pure t

def type (n : Nest) (s : Surroundings) (generic : Bool) : Reading Node := do
  operand s false
  let t ←
    if generic then genericType n s <|> plainType n s else plainType n s <|> genericType n s
  typeTail n s t

/-- The format of a replacement field up to its closing brace, with the fields in it. -/
def format (nested : Reading Unit) : (fuel : Nat) → Reading Unit
  | 0 => failure
  | fuel + 1 => do
    match (← get).rest with
    | [] => failure
    | '\x7d' :: _ => pure ()
    | '\x7b' :: _ =>
      advance 1
      nested
      format nested fuel
    | _ =>
      advance 1
      format nested fuel

/-- A replacement field after its opening brace: expressions, perhaps an equals sign, a conversion
and a format. -/
def field (n : Nest) (s : Surroundings) : Reading Unit := do
  let b : Surroundings := { block := { s.block with inField := true }, closes := true }
  let _ ← orYield n b false (expressions n b)
  let _ ← sign? b ["="]
  match ← following b with
  | some d =>
    match d.rest with
    | '!' :: x :: _ =>
      if x.isLower then set (d.skip 2)
    | _ => pure ()
  | none => pure ()
  if (← sign? b [":"]).isSome then format (n.field b) ((← get).left + 1)
  sign b "\x7d"

/-- The readings for expressions that nest at most `depth` levels. -/
def Nest.ofDepth : (depth : Nat) → Nest
  | 0 => ⟨fun _ _ => failure, fun _ _ => failure, fun _ => failure, fun _ => failure,
      fun _ _ => failure, fun _ => failure⟩
  | depth + 1 =>
    ⟨fun s level => expression (ofDepth depth) s level,
      fun s least => Python.binary (ofDepth depth) s least,
      fun s => Python.iterable (ofDepth depth) s,
      fun s => Python.target (ofDepth depth) s,
      fun s generic => Python.type (ofDepth depth) s generic,
      fun s => Python.field (ofDepth depth) s⟩

end Remedy.Python
