/-
# Every predicate has a text

An expression is spelled with each key of a path in brackets and quotes, with strings in quotes, and with
every part of it in parentheses, so that nothing is left to how strongly operators bind. The text is read
back as the same expression, whatever the keys and strings contain and however many spaces stand around
the operators (`Predicate.parse_text`).

Key definitions: `Predicate.Expr.text`, `Predicate.Expr.IsNamed`, `Predicate.Token.Scans`.
Key theorems: `Predicate.Token.Scans.trans`, `Predicate.spelled`, `Predicate.parse_text`.
-/
import HttpResource.Proofs.Grammar
import HttpResource.Proofs.Quoting

namespace HttpResource

namespace Predicate

/-! ### Texts -/

def Comparison.symbol : Comparison → String
  | eq => "=="
  | ne => "!="
  | lt => "<"
  | le => "<="
  | gt => ">"
  | ge => ">="

/-- A step in brackets, a name in quotes. -/
def quotedStep : Step → String
  | .key name => "[" ++ Json.stringText name ++ "]"
  | .index i => "[" ++ toString i ++ "]"

def quotedSteps : Path → String
  | [] => ""
  | step :: path => quotedStep step ++ quotedSteps path

def spaces (n : Nat) : String := String.ofList (List.replicate n ' ')

/-- A word or a symbol between two texts, with spaces around it. -/
def joinedText (gap : Nat) (left operator right : String) : String :=
  left ++ spaces gap ++ operator ++ spaces gap ++ right

/-- The text of an expression. -/
def Expr.text (gap : Nat) : Expr → String
  | .path p => "." ++ quotedSteps p
  | .literal v => Json.text v
  | .compare left op right =>
    joinedText gap ("(" ++ left.text gap ++ ")") op.symbol ("(" ++ right.text gap ++ ")")
  | .and left right => joinedText gap ("(" ++ left.text gap ++ ")") "and" ("(" ++ right.text gap ++ ")")
  | .or left right => joinedText gap ("(" ++ left.text gap ++ ")") "or" ("(" ++ right.text gap ++ ")")
  | .not inner => joinedText gap ("(" ++ inner.text gap ++ ")") "|" "not"

/-- An expression of paths of names, of literals other than numbers, and of the operators. -/
inductive Expr.IsNamed : Expr → Prop
  | path (names : List String) : IsNamed (.path (names.map .key))
  | null : IsNamed (.literal .null)
  | bool (b : Bool) : IsNamed (.literal (.bool b))
  | string (s : String) : IsNamed (.literal (.string s))
  | compare {left right : Expr} (op : Comparison) (hleft : IsNamed left) (hright : IsNamed right) :
      IsNamed (.compare left op right)
  | and {left right : Expr} (hleft : IsNamed left) (hright : IsNamed right) : IsNamed (.and left right)
  | or {left right : Expr} (hleft : IsNamed left) (hright : IsNamed right) : IsNamed (.or left right)
  | not {inner : Expr} (h : IsNamed inner) : IsNamed (.not inner)

/-! ### Scanning piece by piece -/

namespace Token

/-- The tokens at the front of a text, which end where the rest starts. -/
def Scans (s : List Char) (ts : List Token) (rest : List Char) : Prop :=
  ∀ position, ∃ position', scanFrom position 0 s = (scanFrom position' 0 rest).map (ts ++ ·)

/-- Nothing comes next that could belong to a word or to an operator. -/
def Breaks (rest : List Char) : Prop := ∀ c ∈ rest.head?, isWordCharacter c = false ∧ c ≠ '='

variable {s m rest : List Char} {ts us : List Token} {t : Token}

theorem Scans.refl (rest : List Char) : Scans rest [] rest := by
  intro position
  refine ⟨position, ?_⟩
  cases hs : scanFrom position 0 rest <;> rfl

theorem Scans.trans (h : Scans s ts m) (h' : Scans m us rest) : Scans s (ts ++ us) rest := by
  intro position
  obtain ⟨middle, hs⟩ := h position
  obtain ⟨position', hm⟩ := h' middle
  refine ⟨position', ?_⟩
  rw [hs, hm]
  cases scanFrom position' 0 rest with
  | error e => rfl
  | ok vs => exact congrArg Except.ok (List.append_assoc ts us vs).symm

theorem Scans.scan_eq (h : Scans s ts []) : scanFrom 0 0 s = .ok ts := by
  obtain ⟨position, hs⟩ := h 0
  rw [hs]
  exact congrArg Except.ok (List.append_nil ts)

theorem scanFrom_skip (position : Nat) (cs rest : List Char) :
    scanFrom position cs.length (cs ++ rest) = scanFrom (position + cs.length) 0 rest := by
  induction cs generalizing position with
  | nil => rfl
  | cons c cs ih =>
    have hlength : position + (c :: cs).length = position + 1 + cs.length := by
      rw [List.length_cons]
      omega
    rw [hlength]
    exact ih (position + 1)

theorem scans_first {c : Char} {cs : List Char} (hblank : Text.isBlank c = false)
    (hfirst : ∀ position, first position c (cs ++ rest) = .ok (t, cs.length)) :
    Scans (c :: (cs ++ rest)) [t] rest := by
  intro position
  refine ⟨position + 1 + cs.length, ?_⟩
  rw [scanFrom, hblank, hfirst]
  show (scanFrom (position + 1) cs.length (cs ++ rest)).map _ = _
  rw [scanFrom_skip]
  rfl

theorem scans_blank {c : Char} (h : Text.isBlank c = true) : Scans (c :: rest) [] rest := by
  intro position
  refine ⟨position + 1, ?_⟩
  rw [scanFrom, h]
  cases scanFrom (position + 1) 0 rest <;> rfl

theorem scans_symbol {c : Char} (hblank : Text.isBlank c = false)
    (hfirst : ∀ position tail, first position c tail = .ok (t, 0)) : Scans (c :: rest) [t] rest :=
  scans_first hblank fun position => hfirst position ([] ++ rest)

theorem scans_word {c : Char} {cs : List Char} (hblank : Text.isBlank c = false)
    (hfirst : ∀ position tail, first position c tail =
      .ok (.word (String.ofList (c :: tail.takeWhile isWordCharacter)),
        (tail.takeWhile isWordCharacter).length))
    (hword : cs.all isWordCharacter = true) (hbreaks : Breaks rest) :
    Scans (c :: (cs ++ rest)) [.word (String.ofList (c :: cs))] rest := by
  refine scans_first hblank fun position => ?_
  have hrest : rest.takeWhile isWordCharacter = [] := by
    cases rest with
    | nil => rfl
    | cons d tail => rw [List.takeWhile_cons, (hbreaks d rfl).1]; rfl
  have htail : (cs ++ rest).takeWhile isWordCharacter = cs := by
    rw [List.takeWhile_append_of_pos (List.all_eq_true.mp hword), hrest, List.append_nil]
  rw [hfirst, htail]

/-- A string in quotes is a token of its own, whatever comes next. -/
theorem scans_string (s : String) : Scans ((Json.stringText s).toList ++ rest) [.text s] rest := by
  rw [Json.stringText_toList, List.cons_append]
  refine scans_first (by decide) fun position => ?_
  have hlength : stringLength false (Json.escaped s.toList ++ ['\x22'] ++ rest) =
      some ((Json.escaped s.toList ++ ['\x22']).length) := by
    rw [List.append_assoc, List.singleton_append, stringLength_escaped, List.length_append]
    rfl
  have htake : (Json.escaped s.toList ++ ['\x22'] ++ rest).take
      (Json.escaped s.toList ++ ['\x22']).length = Json.escaped s.toList ++ ['\x22'] := List.take_left
  simp only [first, hlength, htake, StringLiteral.value?_escaped]

/-- The words that are not names. -/
def keywords : List String := ["and", "or", "not", "true", "false", "null"]

theorem scans_keyword {w : String} (hw : w ∈ keywords) (h : Breaks rest) :
    Scans (w.toList ++ rest) [.word w] rest := by
  simp only [keywords, List.mem_cons, List.not_mem_nil, or_false] at hw
  rcases hw with rfl | rfl | rfl | rfl | rfl | rfl
  · exact @scans_word rest 'a' ['n', 'd'] (by decide) (fun _ _ => rfl) rfl h
  · exact @scans_word rest 'o' ['r'] (by decide) (fun _ _ => rfl) rfl h
  · exact @scans_word rest 'n' ['o', 't'] (by decide) (fun _ _ => rfl) rfl h
  · exact @scans_word rest 't' ['r', 'u', 'e'] (by decide) (fun _ _ => rfl) rfl h
  · exact @scans_word rest 'f' ['a', 'l', 's', 'e'] (by decide) (fun _ _ => rfl) rfl h
  · exact @scans_word rest 'n' ['u', 'l', 'l'] (by decide) (fun _ _ => rfl) rfl h

theorem scans_comparison (op : Comparison) (h : Breaks rest) :
    Scans (op.symbol.toList ++ rest) [.comparison op] rest := by
  have hequal : startsWithEqual rest = false := by
    unfold startsWithEqual
    split
    · exact absurd rfl (h _ rfl).2
    · rfl
  cases op with
  | eq => exact @scans_first rest _ '=' ['='] (by decide) fun _ => rfl
  | ne => exact @scans_first rest _ '!' ['='] (by decide) fun _ => rfl
  | le => exact @scans_first rest _ '<' ['='] (by decide) fun _ => rfl
  | ge => exact @scans_first rest _ '>' ['='] (by decide) fun _ => rfl
  | lt => exact @scans_first rest _ '<' [] (by decide) fun _ => by simp [first, hequal, comparison?]
  | gt => exact @scans_first rest _ '>' [] (by decide) fun _ => by simp [first, hequal, comparison?]

theorem scans_spaces (n : Nat) : Scans ((spaces n).toList ++ rest) [] rest := by
  rw [spaces, String.toList_ofList]
  induction n with
  | zero => exact .refl rest
  | succ n ih =>
    rw [List.replicate_succ, List.cons_append]
    exact (scans_blank (by decide)).trans ih

/-! ### What may come next -/

theorem breaks_nil : Breaks [] := nofun

theorem breaks_cons {c : Char} (hword : isWordCharacter c = false) (hequal : c ≠ '=') :
    Breaks (c :: rest) := by
  rintro d hd
  cases hd
  exact ⟨hword, hequal⟩

theorem breaks_spaces (n : Nat) (h : Breaks rest) : Breaks ((spaces n).toList ++ rest) := by
  cases n with
  | zero => exact h
  | succ n =>
    rw [spaces, String.toList_ofList, List.replicate_succ, List.cons_append]
    exact breaks_cons (by decide +kernel) (by decide)

end Token

/-! ### Operands -/

open Token (Scans Breaks)

/-- A text in parentheses and its tokens, which spell an operand whatever comes next. -/
structure IsOperand (text : String) (tokens : List Token) (e : Expr) : Prop where
  opens : ∃ tail, text.toList = '(' :: tail
  scans : ∀ rest, Scans (text.toList ++ rest) tokens rest
  derives : ∀ r, Derives .primary (tokens ++ r) e r

/-- Tokens with which no expression goes on. -/
def Closes (r : List Token) : Prop := r = [] ∨ ∃ r', r = .rightParen :: r'

/-- A text and its tokens, which spell an expression where the expression ends. -/
structure IsSpelling (text : String) (tokens : List Token) (e : Expr) : Prop where
  scans : ∀ rest, Breaks rest → Scans (text.toList ++ rest) tokens rest
  derives : ∀ r, Closes r → Derives .pipe (tokens ++ r) e r

theorem IsSpelling.operand {text : String} {tokens : List Token} {e : Expr} (h : IsSpelling text tokens e) :
    IsOperand ("(" ++ text ++ ")") (.leftParen :: (tokens ++ [.rightParen])) e where
  opens := ⟨_, by rw [String.toList_append, String.toList_append]; rfl⟩
  scans rest := by
    have hopen : Scans ('(' :: (text.toList ++ ')' :: rest)) [.leftParen] (text.toList ++ ')' :: rest) :=
      Token.scans_symbol (by decide) fun _ _ => rfl
    have hclose : Scans (')' :: rest) [.rightParen] rest :=
      Token.scans_symbol (by decide) fun _ _ => rfl
    have htext := h.scans (')' :: rest) (Token.breaks_cons (by decide +kernel) (by decide))
    have hlist : ("(" ++ text ++ ")").toList ++ rest = '(' :: (text.toList ++ ')' :: rest) := by
      rw [String.toList_append, String.toList_append, List.append_assoc]
      rfl
    rw [hlist]
    exact hopen.trans (htext.trans hclose)
  derives r := by
    rw [List.cons_append, List.append_assoc]
    exact .group (h.derives (.rightParen :: r) (.inr ⟨r, rfl⟩))

theorem IsOperand.spelling {text : String} {tokens : List Token} {e : Expr}
    (h : IsOperand text tokens e) : IsSpelling text tokens e where
  scans rest _ := h.scans rest
  derives r _ := .of_primary (h.derives r)

theorem IsOperand.breaks {text : String} {tokens : List Token} {e : Expr} (h : IsOperand text tokens e)
    (rest : List Char) : Breaks (text.toList ++ rest) := by
  obtain ⟨tail, htext⟩ := h.opens
  rw [htext]
  exact Token.breaks_cons (by decide +kernel) (by decide)

theorem scans_joined {gap : Nat} {left operator right : String} {ts us : List Token} {t : Token}
    {rest : List Char} (hleft : ∀ rest, Scans (left.toList ++ rest) ts rest)
    (hoperator : Scans (operator.toList ++ ((spaces gap).toList ++ (right.toList ++ rest))) [t]
      ((spaces gap).toList ++ (right.toList ++ rest)))
    (hright : Scans (right.toList ++ rest) us rest) :
    Scans ((joinedText gap left operator right).toList ++ rest) (ts ++ t :: us) rest := by
  have hlist : (joinedText gap left operator right).toList ++ rest =
      left.toList ++ ((spaces gap).toList ++
        (operator.toList ++ ((spaces gap).toList ++ (right.toList ++ rest)))) := by
    simp only [joinedText, String.toList_append, List.append_assoc]
  rw [hlist]
  exact (hleft _).trans ((Token.scans_spaces gap).trans
    (hoperator.trans ((Token.scans_spaces gap).trans hright)))

section

variable {gap : Nat} {left right : String} {ts us : List Token} {a b : Expr}

theorem IsOperand.compare (hleft : IsOperand left ts a) (op : Comparison) (hright : IsOperand right us b) :
    IsSpelling (joinedText gap left op.symbol right) (ts ++ .comparison op :: us) (.compare a op b) where
  scans rest _ :=
    scans_joined hleft.scans
      (Token.scans_comparison op (Token.breaks_spaces gap (hright.breaks rest))) (hright.scans rest)
  derives r _ := by
    rw [List.append_assoc]
    exact .pipe (.disjunction (.conjunction (.compare (hleft.derives _) (hright.derives r))))

theorem IsOperand.and (hleft : IsOperand left ts a) (hright : IsOperand right us b) :
    IsSpelling (joinedText gap left "and" right) (ts ++ .word "and" :: us) (.and a b) where
  scans rest _ :=
    scans_joined hleft.scans
      (Token.scans_keyword (by decide) (Token.breaks_spaces gap (hright.breaks rest))) (hright.scans rest)
  derives r _ := by
    rw [List.append_assoc]
    refine .pipe (.disjunction (.and ?_ (.comparison (hright.derives r))))
    exact .conjunction (.comparison (hleft.derives _))

theorem IsOperand.or (hleft : IsOperand left ts a) (hright : IsOperand right us b) :
    IsSpelling (joinedText gap left "or" right) (ts ++ .word "or" :: us) (.or a b) where
  scans rest _ :=
    scans_joined hleft.scans
      (Token.scans_keyword (by decide) (Token.breaks_spaces gap (hright.breaks rest))) (hright.scans rest)
  derives r _ := by
    rw [List.append_assoc]
    refine .pipe (.or ?_ (.conjunction (.comparison (hright.derives r))))
    exact .disjunction (.conjunction (.comparison (hleft.derives _)))

theorem IsOperand.not (h : IsOperand left ts a) :
    IsSpelling (joinedText gap left "|" "not") (ts ++ [.pipe, .word "not"]) (.not a) where
  scans rest hrest :=
    scans_joined h.scans (Token.scans_symbol (by decide) fun _ _ => rfl)
      (Token.scans_keyword (by decide) hrest)
  derives r _ := by
    rw [List.append_assoc]
    exact .not (.of_primary (h.derives _))

end

/-! ### Leaves -/

theorem IsSpelling.keyword {w : String} {v : Json} (hw : w ∈ Token.keywords)
    (hderives : ∀ r, Derives .primary (.word w :: r) (.literal v) r) :
    IsSpelling w [.word w] (.literal v) where
  scans _ hrest := Token.scans_keyword hw hrest
  derives r _ := .of_primary (hderives r)

theorem IsSpelling.string (s : String) : IsSpelling (Json.stringText s) [.text s] (.literal (.string s)) where
  scans _ _ := Token.scans_string s
  derives r _ := .of_primary (.text s r)

/-- The tokens of names in brackets. -/
def nameTokens : List String → List Token
  | [] => []
  | name :: names => .leftBracket :: .text name :: .rightBracket :: nameTokens names

theorem scans_names (names : List String) (rest : List Char) :
    Scans ((quotedSteps (names.map .key)).toList ++ rest) (nameTokens names) rest := by
  induction names with
  | nil => exact .refl rest
  | cons name names ih =>
    have hlist : (quotedSteps ((name :: names).map .key)).toList ++ rest =
        '[' :: ((Json.stringText name).toList ++
          ']' :: ((quotedSteps (names.map .key)).toList ++ rest)) := by
      simp [quotedSteps, quotedStep]
    have hopen : Scans ('[' :: ((Json.stringText name).toList ++
        ']' :: ((quotedSteps (names.map .key)).toList ++ rest))) [.leftBracket] _ :=
      Token.scans_symbol (by decide) fun _ _ => rfl
    have hclose : Scans (']' :: ((quotedSteps (names.map .key)).toList ++ rest)) [.rightBracket] _ :=
      Token.scans_symbol (by decide) fun _ _ => rfl
    rw [hlist]
    exact hopen.trans ((Token.scans_string name).trans (hclose.trans ih))

/-- After the names nothing may go on the path. -/
theorem moreSteps_names (names : List String) {r : List Token} (h : Closes r) :
    MoreSteps (nameTokens names ++ r) (names.map .key) r := by
  induction names with
  | nil =>
    refine .stop fun step r' hmore => ?_
    have hgoes := goesOnPath_of_moreStep hmore
    rcases h with rfl | ⟨_, rfl⟩ <;> cases hgoes
  | cons name names ih => exact .step (.bracket (.key name _)) ih

theorem IsSpelling.path (names : List String) :
    IsSpelling ("." ++ quotedSteps (names.map .key)) (.dot :: nameTokens names)
      (.path (names.map .key)) where
  scans rest _ := by
    have hdot : Scans ('.' :: ((quotedSteps (names.map .key)).toList ++ rest)) [.dot] _ :=
      Token.scans_symbol (by decide) fun _ _ => rfl
    rw [String.toList_append, List.append_assoc]
    exact hdot.trans (scans_names names rest)
  derives r hr := by
    have hpath : PathTokens (.dot :: (nameTokens names ++ r)) (names.map .key) r := by
      cases names with
      | nil =>
        refine .root ?_
        rcases hr with rfl | ⟨_, rfl⟩ <;> rfl
      | cons name names => exact .steps (.bracket (.key name _)) (moreSteps_names names hr)
    exact .of_primary (.path hpath)

/-! ### Expressions -/

/-- The text of every expression spells it. -/
theorem spelled (gap : Nat) {e : Expr} (h : e.IsNamed) : ∃ tokens, IsSpelling (e.text gap) tokens e := by
  induction h with
  | path names => exact ⟨_, .path names⟩
  | null =>
    have hword : "null" ∈ Token.keywords := by decide
    exact ⟨_, .keyword hword .null⟩
  | bool b =>
    have htrue : "true" ∈ Token.keywords := by decide
    have hfalse : "false" ∈ Token.keywords := by decide
    cases b with
    | true => exact ⟨_, .keyword htrue .true⟩
    | false => exact ⟨_, .keyword hfalse .false⟩
  | string s => exact ⟨_, .string s⟩
  | compare op _ _ ihleft ihright =>
    obtain ⟨_, hleft⟩ := ihleft
    obtain ⟨_, hright⟩ := ihright
    exact ⟨_, hleft.operand.compare op hright.operand⟩
  | and _ _ ihleft ihright =>
    obtain ⟨_, hleft⟩ := ihleft
    obtain ⟨_, hright⟩ := ihright
    exact ⟨_, hleft.operand.and hright.operand⟩
  | or _ _ ihleft ihright =>
    obtain ⟨_, hleft⟩ := ihleft
    obtain ⟨_, hright⟩ := ihright
    exact ⟨_, hleft.operand.or hright.operand⟩
  | not _ ih =>
    obtain ⟨_, hinner⟩ := ih
    exact ⟨_, hinner.operand.not⟩

theorem parse_of_spelling {text : String} {tokens : List Token} {e : Expr}
    (h : IsSpelling text tokens e) : parse text = .ok ⟨text, e⟩ := by
  have hscan : Token.scan text = .ok tokens := by
    have hscans := h.scans [] Token.breaks_nil
    rw [List.append_nil] at hscans
    exact hscans.scan_eq
  have hderives := h.derives [] (.inl rfl)
  rw [List.append_nil] at hderives
  unfold parse
  rw [exprParse_eq_ok_iff.mpr ⟨tokens, hscan, ofTokens_eq_ok_iff.mpr hderives⟩]

/-- **Every predicate can be written down and is read back**: the text of an expression without numbers and
indices, alone or in parentheses, is read as that expression. -/
theorem parse_text (gap : Nat) {e : Expr} (h : e.IsNamed) :
    parse (e.text gap) = .ok ⟨e.text gap, e⟩ ∧
      parse ("(" ++ e.text gap ++ ")") = .ok ⟨"(" ++ e.text gap ++ ")", e⟩ := by
  obtain ⟨tokens, hspelled⟩ := spelled gap h
  exact ⟨parse_of_spelling hspelled, parse_of_spelling hspelled.operand.spelling⟩

/-- A check with a line break in a string and with an empty name. -/
def settledCheck : Expr :=
  .and (.compare (.path [.key "phase"]) .eq (.literal (.string "done\n")))
    (.not (.path [.key "lock", .key ""]))

theorem parse_settledCheck :
    settledCheck.IsNamed ∧ parse (settledCheck.text 1) = .ok ⟨settledCheck.text 1, settledCheck⟩ ∧
      parse ("(" ++ settledCheck.text 1 ++ ")") = .ok ⟨"(" ++ settledCheck.text 1 ++ ")", settledCheck⟩ := by
  have hnamed : settledCheck.IsNamed :=
    .and (.compare .eq (.path ["phase"]) (.string "done\n")) (.not (.path ["lock", ""]))
  exact ⟨hnamed, parse_text 1 hnamed⟩

example : settledCheck.text 1 =
    "((.[\"phase\"]) == (\"done\\n\")) and ((.[\"lock\"][\"\"]) | not)" := by decide +kernel

end Predicate

end HttpResource
