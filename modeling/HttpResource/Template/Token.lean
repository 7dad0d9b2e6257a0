/-
# Tokens of templates

A template is text with expressions in `$` and braces, statements in braces with percent signs, and
comments in braces with number signs. A minus sign inside a delimiter removes the white space on its
outer side.

* `splitOpening`: the text before the first delimiter.
* `scan`: the tokens of a template, each with its line.
-/
import HttpResource.Json.StringLiteral
import HttpResource.Power
import HttpResource.Template.Problem
import HttpResource.Text.Blank

namespace HttpResource

namespace Template

/-- The marks of expressions. -/
inductive Mark
  | plus
  | minus
  | times
  | power
  | slash
  | doubleSlash
  | percent
  | dot
  | comma
  | colon
  | tilde
  | assign
  | pipe
  | equal
  | notEqual
  | less
  | lessEqual
  | greater
  | greaterEqual
  | leftParen
  | rightParen
  | leftBracket
  | rightBracket
  | leftBrace
  | rightBrace
deriving DecidableEq, Repr

def Mark.spelling : Mark → String
  | plus => "+"
  | minus => "-"
  | times => "*"
  | power => "**"
  | slash => "/"
  | doubleSlash => "//"
  | percent => "%"
  | dot => "."
  | comma => ","
  | colon => ":"
  | tilde => "~"
  | assign => "="
  | pipe => "|"
  | equal => "=="
  | notEqual => "!="
  | less => "<"
  | lessEqual => "<="
  | greater => ">"
  | greaterEqual => ">="
  | leftParen => "("
  | rightParen => ")"
  | leftBracket => "["
  | rightBracket => "]"
  | leftBrace => "\x7b"
  | rightBrace => "\x7d"

/-- How much deeper the reader is among parentheses, brackets and braces after a mark. -/
def Mark.nesting : Mark → Int
  | leftParen | leftBracket | leftBrace => 1
  | rightParen | rightBracket | rightBrace => -1
  | _ => 0

inductive Token
  | text (s : List Char)
  | variableStart
  | variableEnd
  | blockStart
  | blockEnd
  | word (w : String)
  | string (s : String)
  | integer (n : Nat)
  | float (x : Binary64)
  | mark (m : Mark)
  /-- The end of the template. -/
  | finish
  /-- A place where there is no token. -/
  | fault (p : Problem)
deriving Repr

/-- A token as messages name it. -/
def Token.describe : Token → String
  | text _ => "template-data"
  | variableStart => "start of variable block"
  | variableEnd => "end of variable block"
  | blockStart => "start of block"
  | blockEnd => "end of block"
  | word _ => "identifier"
  | string _ => "string"
  | integer _ => "integer"
  | float _ => "float"
  | mark m => "`" ++ m.spelling ++ "`"
  | finish => "end of input"
  | fault _ => "nothing"

structure Lexeme where
  token : Token
  line : Nat
deriving Repr

/-! ### Delimiters -/

/-- What a delimiter opens. -/
inductive Opening
  | variable
  | block
  | comment
deriving DecidableEq, Repr

/-- The text before the first opening delimiter, what that opens, and the text after it. -/
def splitOpening : List Char → Option (List Char × Opening × List Char)
  | [] => none
  | '$' :: '\x7b' :: rest => some ([], .variable, rest)
  | '\x7b' :: '%' :: rest => some ([], .block, rest)
  | '\x7b' :: '#' :: rest => some ([], .comment, rest)
  | c :: rest => (splitOpening rest).map fun (before, opening, after) => (c :: before, opening, after)

/-- The sign at the inner side of a delimiter: whether it removes white space, and the rest. -/
def takeSign : List Char → Bool × List Char
  | '-' :: rest => (true, rest)
  | '+' :: rest => (false, rest)
  | s => (false, s)

/-- The text of a comment and the text after it. -/
def splitComment : List Char → Option (List Char × List Char)
  | [] => none
  | '#' :: '\x7d' :: rest => some ([], rest)
  | c :: rest => (splitComment rest).map fun (inner, after) => (c :: inner, after)

/-- What closes an expression, or else a statement. -/
def closing (statement : Bool) : List Char :=
  if statement then ['%', '\x7d'] else ['\x7d']

/-- The text after a text that it starts with. -/
def after? (start s : List Char) : Option (List Char) :=
  if start.isPrefixOf s then some (s.drop start.length) else none

/-- The closing delimiter at the front: whether it removes white space, and the rest. -/
def takeClosing (statement : Bool) (s : List Char) : Option (Bool × List Char) :=
  let (removes, rest) := takeSign s
  match after? (closing statement) rest with
  | some after => some (removes, after)
  | none => (after? (closing statement) s).map fun after => (false, after)

/-- The white space of ASCII. -/
def isSpace (c : Char) : Bool :=
  c = ' ' || c = '\t' || c = '\n' || c = '\x0c' || c = '\r'

/-- A statement of one word after its opening delimiter, up to its closing one. -/
def bareStatement (word : List Char) (s : List Char) : Option (Bool × List Char) := do
  let rest ← after? word (s.dropWhile isSpace)
  takeClosing true (rest.dropWhile isSpace)

/-- The word that starts a stretch of plain text. -/
def rawWord : List Char := ['r', 'a', 'w']

/-- The word that ends a stretch of plain text. -/
def endRawWord : List Char := ['e', 'n', 'd', 'r', 'a', 'w']

/-- Plain text up to the statement that ends it: the text, whether white space at its end and after the
statement is removed, and the rest. -/
def splitRaw : List Char → Option (List Char × Bool × Bool × List Char)
  | [] => none
  | '\x7b' :: '%' :: rest =>
    let (removes, inner) := takeSign rest
    match bareStatement endRawWord inner with
    | some (removesAfter, after) => some ([], removes, removesAfter, after)
    | none => (splitRaw rest).map fun (s, r) => ('\x7b' :: '%' :: s, r)
  | c :: rest => (splitRaw rest).map fun (s, r) => (c :: s, r)

/-! ### Tokens of expressions -/

def isDigit (c : Char) : Bool := '0' ≤ c && c ≤ '9'

def isWordStart (c : Char) : Bool :=
  c = '_' || ('a' ≤ c && c ≤ 'z') || ('A' ≤ c && c ≤ 'Z')

def isWordPart (c : Char) : Bool := isWordStart c || isDigit c

/-- The mark at the front, the longer of two. -/
def takeMark? : List Char → Option (Mark × List Char)
  | '/' :: '/' :: rest => some (.doubleSlash, rest)
  | '*' :: '*' :: rest => some (.power, rest)
  | '=' :: '=' :: rest => some (.equal, rest)
  | '!' :: '=' :: rest => some (.notEqual, rest)
  | '>' :: '=' :: rest => some (.greaterEqual, rest)
  | '<' :: '=' :: rest => some (.lessEqual, rest)
  | '+' :: rest => some (.plus, rest)
  | '-' :: rest => some (.minus, rest)
  | '*' :: rest => some (.times, rest)
  | '/' :: rest => some (.slash, rest)
  | '%' :: rest => some (.percent, rest)
  | '.' :: rest => some (.dot, rest)
  | ',' :: rest => some (.comma, rest)
  | ':' :: rest => some (.colon, rest)
  | '~' :: rest => some (.tilde, rest)
  | '=' :: rest => some (.assign, rest)
  | '|' :: rest => some (.pipe, rest)
  | '>' :: rest => some (.greater, rest)
  | '<' :: rest => some (.less, rest)
  | '(' :: rest => some (.leftParen, rest)
  | ')' :: rest => some (.rightParen, rest)
  | '[' :: rest => some (.leftBracket, rest)
  | ']' :: rest => some (.rightBracket, rest)
  | '\x7b' :: rest => some (.leftBrace, rest)
  | '\x7d' :: rest => some (.rightBrace, rest)
  | _ => none

/-- The raw inside of a string after its opening quote, and the text after the closing one. -/
def splitString (quote : Char) (escaped : Bool) : List Char → Option (List Char × List Char)
  | [] => none
  | c :: rest =>
    if !escaped && c = quote then some ([], rest)
    else
      (splitString quote (!escaped && c = '\\') rest).map fun (inner, after) => (c :: inner, after)

/-- The value of a hexadecimal digit. -/
def hexValue? (c : Char) : Option Nat :=
  if isDigit c then some (c.toNat - '0'.toNat)
  else if 'a' ≤ c && c ≤ 'f' then some (c.toNat - 'a'.toNat + 10)
  else if 'A' ≤ c && c ≤ 'F' then some (c.toNat - 'A'.toNat + 10)
  else none

/-- The inside of a string with its escapes resolved; `high` is the first half of a character that is
given in two escapes. -/
def unescape (high : Option Nat) : List Char → Option (List Char)
  | [] => if high.isNone then some [] else none
  | '\\' :: 'u' :: a :: b :: c :: d :: rest => do
    let n := (← hexValue? a) * 4096 + (← hexValue? b) * 256 + (← hexValue? c) * 16 + (← hexValue? d)
    match high with
    | none =>
      if 0xd800 ≤ n && n < 0xe000 then unescape (some n) rest
      else return Char.ofNat n :: (← unescape none rest)
    | some m =>
      if m < 0xdc00 && 0xdc00 ≤ n && n < 0xe000 then
        return Char.ofNat (0x10000 + (m - 0xd800) * 0x400 + (n - 0xdc00)) :: (← unescape none rest)
      else none
  | '\\' :: c :: rest => do
    let plain ← match c with
      | '\x22' | '\\' | '/' | '\'' => some c
      | 'b' => some '\x08'
      | 'f' => some '\x0c'
      | 'n' => some '\n'
      | 'r' => some '\r'
      | 't' => some '\t'
      | _ => none
    if high.isSome then none else return plain :: (← unescape none rest)
  | ['\\'] => none
  | c :: rest => do
    if high.isSome then none else return c :: (← unescape none rest)

/-- How far a number has been read. -/
inductive NumberStage
  | whole (radix : Nat)
  | fraction
  | afterExponent
  | exponent
deriving DecidableEq, Repr

/-- The stage after one more character of a number. -/
def NumberStage.next? (c : Char) : NumberStage → Option NumberStage
  | whole radix =>
    if isDigit c || c = '_' then some (whole radix)
    else if radix = 16 && (hexValue? c).isSome then some (whole radix)
    else if radix = 10 && c = '.' then some fraction
    else if radix = 10 && (c = 'e' || c = 'E') then some afterExponent
    else none
  | fraction =>
    if isDigit c || c = '_' then some fraction
    else if c = 'e' || c = 'E' then some afterExponent
    else none
  | afterExponent =>
    if c = '+' || c = '-' || isDigit c then some exponent
    else if c = '_' then some afterExponent
    else none
  | exponent => if isDigit c || c = '_' then some exponent else none

/-- The characters of a number, the last stage, and the rest. -/
def spanNumber (stage : NumberStage) : List Char → List Char × NumberStage × List Char
  | [] => ([], stage, [])
  | c :: rest =>
    match stage.next? c with
    | none => ([], stage, c :: rest)
    | some stage =>
      let (cs, last, after) := spanNumber stage rest
      (c :: cs, last, after)

/-- The value of digits in a radix, if all of them belong to it and there is one. -/
def digitsValue? (radix : Nat) (digits : List Char) : Option Nat :=
  if digits.isEmpty then none
  else
    digits.foldlM (fun n c => do
      let d ← hexValue? c
      if d < radix then some (n * radix + d) else none) 0

/-- The double nearest to a decimal number with a fraction or an exponent. -/
def floatValue? (s : List Char) : Option Binary64 := do
  let whole := s.takeWhile isDigit
  let rest := s.dropWhile isDigit
  let (fraction, rest) := match rest with
    | '.' :: tail => (tail.takeWhile isDigit, tail.dropWhile isDigit)
    | _ => ([], rest)
  let digits ← digitsValue? 10 (whole ++ fraction)
  let exponent ← match rest with
    | [] => some (0 : Int)
    | _ :: '-' :: ds => (digitsValue? 10 ds).map fun n => -(n : Int)
    | _ :: '+' :: ds => (digitsValue? 10 ds).map fun n => (n : Int)
    | _ :: ds => (digitsValue? 10 ds).map fun n => (n : Int)
  return .ofDecimal false digits (exponent - fraction.length)

/-- The radix that the front of a number announces. -/
def radixOf : List Char → Nat
  | '0' :: 'b' :: _ | '0' :: 'B' :: _ => 2
  | '0' :: 'o' :: _ | '0' :: 'O' :: _ => 8
  | '0' :: 'x' :: _ | '0' :: 'X' :: _ => 16
  | _ => 10

/-- A number, where underscores may stand between digits. -/
def takeNumber (s : List Char) : Token × List Char :=
  let radix := radixOf s
  let body := if radix = 10 then s else s.drop 2
  let (cs, stage, rest) := spanNumber (.whole radix) body
  let digits := cs.filter (· ≠ '_')
  let token :=
    if cs.getLast? = some '_' then Token.fault .underscoreAfterNumber
    else if stage = .whole radix then
      match digitsValue? radix digits with
      | some n => if n < twoTo 128 then .integer n else .fault .badInteger
      | none => .fault .badInteger
    else
      match floatValue? digits with
      | some x => .float x
      | none => .fault .badFloat
  (token, rest)

/-- The token at the front of an expression, and the rest. -/
def takeToken (s : List Char) : Token × List Char :=
  match takeMark? s with
  | some (m, rest) => (.mark m, rest)
  | none =>
    match s with
    | [] => (.finish, [])
    | c :: rest =>
      if c = '\x22' || c = '\'' then
        match splitString c false rest with
        | none => (.fault .unclosedString, rest)
        | some (inner, after) =>
          match unescape none inner with
          | some cs => (.string (String.ofList cs), after)
          | none => (.fault .badEscape, after)
      else if isDigit c then takeNumber s
      else if isWordStart c then
        (.word (String.ofList (s.takeWhile isWordPart)), s.dropWhile isWordPart)
      else (.fault .strayCharacter, rest)

/-! ### Scanning -/

/-- The greatest line that is told apart. -/
def lastLine : Nat := 65535

/-- The line after some text. -/
def advance (line : Nat) (s : List Char) : Nat := min lastLine (line + s.count '\n')

/-- Where the reader stands. -/
inductive Place
  /-- In text, whose white space at the front may have to be removed. -/
  | text (removes : Bool)
  /-- Inside an expression or a statement, so deep among parentheses, brackets and braces. -/
  | inside (statement : Bool) (depth : Int)
deriving DecidableEq, Repr

/-- A text token, if there is any text. -/
def textLexeme (s : List Char) (line : Nat) : List Lexeme :=
  if s.isEmpty then [] else [⟨.text s, line⟩]

def isFault : Token → Bool
  | .fault _ => true
  | _ => false

/-- The tokens from a place on; `last` is the line of the token before. A fault ends the tokens. -/
def scanFrom : Nat → Place → Nat → Nat → List Char → List Lexeme
  | 0, _, last, _, _ => [⟨.finish, last⟩]
  | fuel + 1, .text removes, last, line, s =>
    let blanks := if removes then s.takeWhile Text.isBlank else []
    let s := if removes then Text.trimStart s else s
    let line := advance line blanks
    match splitOpening s with
    | none => textLexeme s line ++ [⟨.finish, if s.isEmpty then last else line⟩]
    | some (before, opening, after) =>
      let (removes, inner) := takeSign after
      let text := if removes then Text.trimEnd before else before
      let opened := advance line before
      let last := if text.isEmpty then last else line
      textLexeme text line ++
        match opening with
        | .variable => ⟨.variableStart, opened⟩ :: scanFrom fuel (.inside false 0) opened opened inner
        | .comment =>
          match splitComment inner with
          | none => [⟨.fault .unclosedComment, opened⟩]
          | some (comment, rest) =>
            scanFrom fuel (.text (comment.getLast? = some '-')) last (advance opened comment) rest
        | .block =>
          match bareStatement rawWord inner with
          | none => ⟨.blockStart, opened⟩ :: scanFrom fuel (.inside true 0) opened opened inner
          | some (removesStart, raw) =>
            let opened := advance opened (inner.take (inner.length - raw.length))
            match splitRaw raw with
            | none => [⟨.fault .unclosedRaw, opened⟩]
            | some (s, removesEnd, removesAfter, rest) =>
              let shown := if removesStart then Text.trimStart s else s
              let shown := if removesEnd then Text.trimEnd shown else shown
              let next := advance opened (raw.take (raw.length - rest.length))
              ⟨.text shown, opened⟩ :: scanFrom fuel (.text removesAfter) opened next rest
  | fuel + 1, .inside statement depth, last, line, s =>
    let line := advance line (s.takeWhile isSpace)
    let s := s.dropWhile isSpace
    match if depth = 0 then takeClosing statement s else none with
    | some (removes, rest) =>
      ⟨if statement then .blockEnd else .variableEnd, line⟩ ::
        scanFrom fuel (.text removes) line line rest
    | none =>
      let (token, rest) := takeToken s
      if isFault token then [⟨token, line⟩]
      else
        match token with
        | .finish => [⟨.finish, last⟩]
        | .mark m => ⟨token, line⟩ :: scanFrom fuel (.inside statement (depth + m.nesting)) line line rest
        | _ =>
          ⟨token, line⟩ ::
            scanFrom fuel (.inside statement depth) line (advance line (s.take (s.length - rest.length)))
              rest

/-- The tokens of a template. Each step takes a character, so as many as there are are enough. -/
def scan (s : List Char) : List Lexeme :=
  let s := Text.dropLineBreak s
  scanFrom (s.length + 1) (.text false) 1 1 s

end Template

end HttpResource
