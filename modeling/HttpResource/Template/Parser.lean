/-
# Reading templates

The grammar of expressions, loosest binding first:

    expression := or ('if' or ('else' expression)?)*
    or         := and ('or' and)*
    and        := not ('and' not)*
    not        := 'not' not | compare
    compare    := sum ((COMPARISON | 'in' | 'not' 'in') sum)*
    sum        := concat (('+' | '-') concat)*
    concat     := product ('~' product)*
    product    := power (('*' | '/' | '//' | '%') power)*
    power      := unary ('**' unary)*
    unary      := minus postfix* (filter | test)*
    minus      := '-' minus | primary
    postfix    := '.' (WORD | INTEGER) | '[' subscript ']' | arguments
    filter     := '|' WORD arguments?
    test       := 'is' 'not'? WORD (arguments | minus postfix*)?

* `Node.ofLexemes`: the nodes that the tokens of a template spell.
* `parse`: the nodes of a template.
-/
import HttpResource.Template.Expr
import HttpResource.Template.Token

namespace HttpResource

namespace Template

/-- A step of reading: it takes tokens from the front or meets an error. -/
abbrev Parse := StateT (List Lexeme) (Except Error)

namespace Parse

/-- The next token, which is left in place. -/
def peek : Parse Lexeme := do
  match ← get with
  | t :: _ => return t
  | [] => return ⟨.finish, 1⟩

/-- Takes the next token; the end stays. -/
def take : Parse Lexeme := do
  match ← get with
  | [] => return ⟨.finish, 1⟩
  | [t] => return t
  | t :: rest => set rest; return t

/-- The error of finding a token; a fault is an error of its own. -/
def unexpected {α : Type} (found : Lexeme) (expected : Option String) : Parse α :=
  throw <| match found.token with
    | .fault p => ⟨p, found.line⟩
    | t => ⟨.unexpected t.describe expected, found.line⟩

def failAt {α : Type} (line : Nat) (p : Problem) : Parse α := throw ⟨p, line⟩

def isMark (m : Mark) : Token → Bool
  | .mark n => m = n
  | _ => false

def isWord (w : String) : Token → Bool
  | .word v => w = v
  | _ => false

/-- Takes the next token if it passes. -/
def accept (passes : Token → Bool) : Parse Bool := do
  if passes (← peek).token then
    discard take
    return true
  else return false

/-- Takes the next token, which must pass. -/
def expect (passes : Token → Bool) (expected : String) : Parse Unit := do
  let t ← take
  if passes t.token then return () else unexpected t (some expected)

def acceptMark (m : Mark) : Parse Bool := accept (isMark m)

def acceptWord (w : String) : Parse Bool := accept (isWord w)

def expectMark (m : Mark) : Parse Unit := expect (isMark m) ("`" ++ m.spelling ++ "`")

def isBlockEnd : Token → Bool
  | .blockEnd => true
  | _ => false

def expectBlockEnd : Parse Unit := expect isBlockEnd "end of block"

/-- A name. -/
def word : Parse (String × Nat) := do
  let t ← take
  match t.token with
  | .word w => return (w, t.line)
  | _ => unexpected t (some "identifier")

end Parse

open Parse

/-! ### Expressions -/

/-- The levels of binding of the operators, loosest first. -/
inductive Level
  | or
  | and
  | not
  | compare
  | sum
  | concat
  | product
  | power
deriving DecidableEq, Repr

/-- The next level, none after the last. -/
def Level.next? : Level → Option Level
  | or => some and
  | and => some not
  | not => some compare
  | compare => some sum
  | sum => some concat
  | concat => some product
  | product => some power
  | power => none

/-- How the two sides of an operator are joined, if the token is an operator of the level. -/
def Level.join? (level : Level) (t : Token) : Option (Expr → Expr → Expr) :=
  match level, t with
  | or, .word w => if w = "or" then some .or else none
  | and, .word w => if w = "and" then some .and else none
  | compare, .mark .equal => some (.binary .equal)
  | compare, .mark .notEqual => some (.binary .notEqual)
  | compare, .mark .less => some (.binary .less)
  | compare, .mark .lessEqual => some (.binary .lessEqual)
  | compare, .mark .greater => some (.binary .greater)
  | compare, .mark .greaterEqual => some (.binary .greaterEqual)
  | compare, .word w => if w = "in" then some (.binary .isIn) else none
  | sum, .mark .plus => some (.binary .add)
  | sum, .mark .minus => some (.binary .subtract)
  | concat, .mark .tilde => some (.binary .concatenate)
  | product, .mark .times => some (.binary .multiply)
  | product, .mark .slash => some (.binary .divide)
  | product, .mark .doubleSlash => some (.binary .divideFloor)
  | product, .mark .percent => some (.binary .remainder)
  | power, .mark .power => some (.binary .power)
  | _, _ => none

/-- How deep expressions may be nested. -/
def maxDepth : Nat := 150

/-- Whether a token starts the argument of a test without parentheses. -/
def startsTestArgument : Token → Bool
  | .word w => !(w = "and" || w = "or" || w = "else" || w = "is")
  | .string _ | .integer _ | .float _ => true
  | .mark .leftBracket | .mark .leftBrace => true
  | _ => false

/-- The value of a word that is a literal. -/
def wordLiteral? (w : String) : Option Value :=
  if w = "true" || w = "True" then some (.bool true)
  else if w = "false" || w = "False" then some (.bool false)
  else if w = "none" || w = "None" then some .none
  else none

/-- A value that is called: a function by its name, a method, or any other. -/
def callOf (e : Expr) (arguments : List (Option String × Expr)) : Expr :=
  match e with
  | .name n line => .call n arguments line
  | .field of name => .method of name arguments
  | e => .apply e arguments

/-- The strings that follow one another are one. -/
def moreStrings : Nat → String → Parse String
  | 0, s => return s
  | fuel + 1, s => do
    match (← peek).token with
    | .string t => discard take; moreStrings fuel (s ++ t)
    | _ => return s

mutual

/-- An expression with the conditions after it. -/
def expression : Nat → Nat → Parse Expr
  | 0, _ => do failAt (← peek).line .tooDeep
  | fuel + 1, depth => do conditions fuel depth (← binary fuel depth .or)

/-- The conditions after an expression. One without an alternative gives nothing when it fails. -/
def conditions : Nat → Nat → Expr → Parse Expr
  | 0, _, e => return e
  | fuel + 1, depth, e => do
    if ← acceptWord "if" then
      let test ← binary fuel depth .or
      let no ← if ← acceptWord "else" then expression fuel depth
        else pure (.literal (.undefined true) e.line)
      conditions fuel depth (.conditional test e no)
    else return e

/-- Operands of one level and the operators between them. -/
def binary : Nat → Nat → Level → Parse Expr
  | 0, _, _ => do failAt (← peek).line .tooDeep
  | fuel + 1, depth, level => do
    if level = .not then
      if ← acceptWord "not" then return .not (← binary fuel depth .not)
    moreOperands fuel depth level (← operand fuel depth level)

/-- An operand of the operators of a level. -/
def operand : Nat → Nat → Level → Parse Expr
  | 0, _, _ => do failAt (← peek).line .tooDeep
  | fuel + 1, depth, level =>
    match level.next? with
    | some next => binary fuel depth next
    | none => unary fuel depth

/-- The operators and operands after the first one, associated to the left. -/
def moreOperands : Nat → Nat → Level → Expr → Parse Expr
  | 0, _, _, e => return e
  | fuel + 1, depth, level, e => do
    let t ← peek
    match level.join? t.token with
    | some join =>
      discard take
      moreOperands fuel depth level (join e (← operand fuel depth level))
    | none =>
      if level = .compare && isWord "not" t.token then
        discard take
        expect (isWord "in") "in"
        let right ← operand fuel depth level
        moreOperands fuel depth level (.not (.binary .isIn e right))
      else return e

/-- A value with everything that is attached to it. -/
def unary : Nat → Nat → Parse Expr
  | 0, _ => do failAt (← peek).line .tooDeep
  | fuel + 1, depth => do
    let e ← minus fuel depth
    let e ← attachments fuel depth e
    filters fuel depth e

/-- A value with the minus signs before it. -/
def minus : Nat → Nat → Parse Expr
  | 0, _ => do failAt (← peek).line .tooDeep
  | fuel + 1, depth => do
    if ← acceptMark .minus then return .negate (← minus fuel depth)
    else primary fuel (depth + 1)

/-- Attributes, items, slices and calls after a value. -/
def attachments : Nat → Nat → Expr → Parse Expr
  | 0, _, e => return e
  | fuel + 1, depth, e => do
    if ← acceptMark .dot then
      let t ← take
      match t.token with
      | .word w => attachments fuel depth (.field e w)
      | .integer n => attachments fuel depth (.item e (.literal (.int n) t.line))
      | _ => unexpected t (some "identifier or integer")
    else if ← acceptMark .leftBracket then
      attachments fuel depth (← subscript fuel depth e)
    else if isMark .leftParen (← peek).token then
      attachments fuel depth (callOf e (← arguments fuel depth))
    else return e

/-- An item or a slice after its opening bracket. -/
def subscript : Nat → Nat → Expr → Parse Expr
  | 0, _, _ => do failAt (← peek).line .tooDeep
  | fuel + 1, depth, e => do
    let constant (v : Value) : Expr := .literal v e.line
    let start ← if isMark .colon (← peek).token then pure (constant .none)
      else expression fuel depth
    if ← acceptMark .colon then
      let t := (← peek).token
      let stop ← if isMark .rightBracket t || isMark .colon t then pure (constant .none)
        else expression fuel depth
      let step ← if ← acceptMark .colon then
          if isMark .rightBracket (← peek).token then pure (constant (.int 1))
          else expression fuel depth
        else pure (constant (.int 1))
      expectMark .rightBracket
      return .slice e start stop step
    else
      expectMark .rightBracket
      return .item e start

/-- Filters and tests after a value. -/
def filters : Nat → Nat → Expr → Parse Expr
  | 0, _, e => return e
  | fuel + 1, depth, e => do
    if ← acceptMark .pipe then
      let (name, _) ← word
      let args ← if isMark .leftParen (← peek).token then arguments fuel depth else pure []
      filters fuel depth (.filter e name args)
    else if ← acceptWord "is" then
      let negated ← acceptWord "not"
      let (name, _) ← word
      let t := (← peek).token
      let args ←
        if isMark .leftParen t then arguments fuel depth
        else if startsTestArgument t then do
          let a ← minus fuel depth
          let a ← attachments fuel depth a
          pure [(none, a)]
        else pure []
      let tested := Expr.test e name args
      filters fuel depth (if negated then .not tested else tested)
    else return e

/-- A literal, a name, a list, a map or an expression in parentheses. -/
def primary : Nat → Nat → Parse Expr
  | 0, _ => do failAt (← peek).line .tooDeep
  | fuel + 1, depth => do
    let t ← take
    if maxDepth < depth then failAt t.line .tooDeep
    match t.token with
    | .word w =>
      match wordLiteral? w with
      | some v => return .literal v t.line
      | none => return .name w t.line
    | .string s => return .literal (.string (← moreStrings fuel s)) t.line
    | .integer n => return .literal (.int n) t.line
    | .float x => return .literal (.double x) t.line
    | .mark .leftParen => parenthesized fuel depth t.line
    | .mark .leftBracket => return .list (← items fuel depth .rightBracket false) t.line
    | .mark .leftBrace => return .map (← entries fuel depth false) t.line
    | .finish => unexpected t (some "expression")
    | _ => unexpected t none

/-- After an opening parenthesis: an expression, or a list if there is a comma or nothing. -/
def parenthesized : Nat → Nat → Nat → Parse Expr
  | 0, _, _ => do failAt (← peek).line .tooDeep
  | fuel + 1, depth, line => do
    if ← acceptMark .rightParen then return .list [] line
    let e ← expression fuel depth
    if isMark .comma (← peek).token then
      return .list (e :: (← items fuel depth .rightParen true)) line
    else
      expectMark .rightParen
      return e

/-- The items of a list up to the closing mark; `more` if there is one before. A comma may stand
before the closing mark. -/
def items : Nat → Nat → Mark → Bool → Parse (List Expr)
  | 0, _, _, _ => do failAt (← peek).line .tooDeep
  | fuel + 1, depth, close, more => do
    if ← acceptMark close then return []
    if more then
      expectMark .comma
      if ← acceptMark close then return []
    let e ← expression fuel depth
    return e :: (← items fuel depth close true)

/-- The entries of a map up to its closing brace. -/
def entries : Nat → Nat → Bool → Parse (List (Expr × Expr))
  | 0, _, _ => do failAt (← peek).line .tooDeep
  | fuel + 1, depth, more => do
    if ← acceptMark .rightBrace then return []
    if more then
      expectMark .comma
      if ← acceptMark .rightBrace then return []
    let key ← expression fuel depth
    expectMark .colon
    let value ← expression fuel depth
    return (key, value) :: (← entries fuel depth true)

/-- The arguments of a call, those with a name last. -/
def arguments : Nat → Nat → Parse (List (Option String × Expr))
  | 0, _ => do failAt (← peek).line .tooDeep
  | fuel + 1, depth => do
    expectMark .leftParen
    moreArguments fuel depth false false

/-- The arguments up to the closing parenthesis; `more` if there is one before, `named` if one of those
has a name. -/
def moreArguments : Nat → Nat → Bool → Bool → Parse (List (Option String × Expr))
  | 0, _, _, _ => do failAt (← peek).line .tooDeep
  | fuel + 1, depth, more, named => do
    if ← acceptMark .rightParen then return []
    if more then
      expectMark .comma
      if ← acceptMark .rightParen then return []
    let e ← expression fuel depth
    match e with
    | .name n line =>
      if ← acceptMark .assign then
        let value ← binary fuel depth .or
        return (some n, value) :: (← moreArguments fuel depth true true)
      else if named then failAt line .positionalAfterNamed
      else return (none, e) :: (← moreArguments fuel depth true false)
    | _ =>
      if named then failAt e.line .positionalAfterNamed
      else return (none, e) :: (← moreArguments fuel depth true false)

end

/-! ### Statements -/

/-- Names that cannot be assigned to. -/
def reservedNames : List String :=
  ["true", "True", "false", "False", "none", "None", "loop", "self"]

/-- A name that is assigned to. -/
def targetName : Parse Target := do
  let (name, line) ← word
  if reservedNames.contains name then failAt line (.reservedName name) else return .name name

/-- Whether a token ends a list of targets. -/
def endsTargets : Token → Bool
  | .mark .rightParen | .variableEnd | .blockEnd => true
  | t => isWord "in" t

mutual

/-- What is assigned to: one target, or several with commas between them. -/
def target : Nat → Parse Target
  | 0 => do failAt (← peek).line .tooDeep
  | fuel + 1 => do
    match ← targets fuel with
    | ([t], false) => return t
    | (ts, _) => return .items ts

/-- Targets, and whether there was a comma. -/
def targets : Nat → Parse (List Target × Bool)
  | 0 => do failAt (← peek).line .tooDeep
  | fuel + 1 => do
    if endsTargets (← peek).token then return ([], false)
    let t ← if ← acceptMark .leftParen then do
        let t ← target fuel
        expectMark .rightParen
        pure t
      else targetName
    if ← acceptMark .comma then
      let (ts, _) ← targets fuel
      return (t :: ts, true)
    else return ([t], false)

end

/-- Filters in a row, the first one without its mark. -/
def filterCalls : Nat → Parse (List FilterCall)
  | 0 => do failAt (← peek).line .tooDeep
  | fuel + 1 => do
    let (name, line) ← word
    let args ← if isMark .leftParen (← peek).token then arguments fuel 0 else pure []
    let more ← if ← acceptMark .pipe then filterCalls fuel else pure []
    return ⟨name, args, line⟩ :: more

mutual

/-- Nodes up to a statement that starts with one of the words, whose delimiter is taken, or to the end of
the template. -/
def nodes : Nat → List String → Parse (List Node)
  | 0, _ => do failAt (← peek).line .tooDeep
  | fuel + 1, stops => do
    let t ← take
    match t.token with
    | .text s => return .text s :: (← nodes fuel stops)
    | .variableStart =>
      let e ← expression fuel 0
      expect (fun | .variableEnd => true | _ => false) "end of variable block"
      return .output e :: (← nodes fuel stops)
    | .blockStart =>
      let next ← peek
      match next.token with
      | .finish => unexpected next (some "keyword")
      | token =>
        if stops.any (isWord · token) then return []
        let n ← statement fuel
        expectBlockEnd
        return n :: (← nodes fuel stops)
    | .finish => return []
    | _ => unexpected t none

/-- A statement up to its last closing delimiter. -/
def statement : Nat → Parse Node
  | 0 => do failAt (← peek).line .tooDeep
  | fuel + 1 => do
    let t ← take
    match t.token with
    | .word w =>
      if w = "for" then loop fuel
      else if w = "if" then branch fuel
      else if w = "set" then assignment fuel
      else failAt t.line (.unknownStatement w)
    | .fault p => failAt t.line p
    | token => failAt t.line (.notAStatement token.describe)

/-- A condition with its branches. -/
def branch : Nat → Parse Node
  | 0 => do failAt (← peek).line .tooDeep
  | fuel + 1 => do
    let test ← expression fuel 0
    expectBlockEnd
    let yes ← nodes fuel ["endif", "else", "elif"]
    if ← acceptWord "else" then
      expectBlockEnd
      let no ← nodes fuel ["endif"]
      discard take
      return .branch test yes no
    else if ← acceptWord "elif" then return .branch test yes [← branch fuel]
    else
      discard take
      return .branch test yes []

/-- A loop. -/
def loop : Nat → Parse Node
  | 0 => do failAt (← peek).line .tooDeep
  | fuel + 1 => do
    let target ← target fuel
    expect (isWord "in") "in"
    let source ← binary fuel 0 .or
    let condition ← if ← acceptWord "if" then some <$> expression fuel 0 else pure none
    discard (acceptWord "recursive")
    expectBlockEnd
    let body ← nodes fuel ["endfor", "else"]
    let otherwise ← if ← acceptWord "else" then do
        expectBlockEnd
        nodes fuel ["endfor"]
      else pure []
    discard take
    return .loop target source condition body otherwise

/-- An assignment of a value, or of the output of a body. -/
def assignment : Nat → Parse Node
  | 0 => do failAt (← peek).line .tooDeep
  | fuel + 1 => do
    let inParens ← acceptMark .leftParen
    let into ← if inParens then do
        let t ← target fuel
        expectMark .rightParen
        pure t
      else targetName
    let t := (← peek).token
    if !inParens && (isBlockEnd t || isMark .pipe t) then
      let calls ← if ← acceptMark .pipe then filterCalls fuel else pure []
      expectBlockEnd
      let body ← nodes fuel ["endset"]
      discard take
      return .capture into calls body
    else
      expect (isMark .assign) "assignment operator"
      return .assign into (← expression fuel 0)

end

/-- The nodes that tokens spell. No rule nests deeper than sixteen for each token. -/
def Node.ofLexemes (lexemes : List Lexeme) : Except Error (List Node) :=
  (nodes (16 * (lexemes.length + 1)) [] lexemes).map (·.1)

/-- The nodes of a template. -/
def parse (s : List Char) : Except Error (List Node) := Node.ofLexemes (scan s)

end Template

end HttpResource
