/-
# The built-in engine keeps to the laws

The scanner makes a text token of literal text, after dropping a line break at its end. Of a field between
two literal texts it makes a text token on either side and five tokens of the expression; the reader sees a
field of a name in them; and what that has for a value is printed as it is. So no part of the output comes
from reading the value, and the built-in engine is lawful.

Key definitions: `Template.Spells`, `Template.fieldLexemes`.
Key theorems: `Template.scan_literal`, `Template.scan_field`, `Template.expression_field`,
`Template.rendered_literal`, `Template.rendered_field`.
-/
import HttpResource.Proofs.EngineLaws
import HttpResource.Template

namespace HttpResource

namespace Template

/-! ### Scanning -/

theorem splitOpening_eq_none_iff {s : List Char} : splitOpening s = none ↔ IsLiteral s := by
  fun_induction splitOpening s with
  | case1 => exact iff_of_true rfl isLiteral_nil
  | case2 rest => simp [isLiteral_cons_iff]
  | case3 rest => simp [isLiteral_cons_iff]
  | case4 rest => simp [isLiteral_cons_iff]
  | case5 c rest hexpression hstatement hcomment ih =>
    have hfirst : (c = '$' → rest.head? ≠ some '\x7b') ∧
        (c = '\x7b' → rest.head? ≠ some '%' ∧ rest.head? ≠ some '#') := by
      simp only [ne_eq, List.head?_eq_some_iff, not_exists]
      exact ⟨fun hc r hr => hexpression r hc hr,
        fun hc => ⟨fun r hr => hstatement r hc hr, fun r hr => hcomment r hc hr⟩⟩
    rw [Option.map_eq_none_iff, ih, isLiteral_cons_iff]
    exact ⟨fun h => ⟨hfirst.1, hfirst.2, h⟩, fun h => h.2.2⟩

/-- Literal text stays as it is up to the delimiter after it. -/
theorem splitOpening_literal {s : List Char} (h : IsLiteral s) (rest : List Char) :
    splitOpening (s ++ (plainOpening ++ rest)) = some (s, .variable, rest) := by
  induction s with
  | nil => rfl
  | cons c s ih =>
    obtain ⟨hdollar, hbrace, hs⟩ := isLiteral_cons_iff.mp h
    have hnext : ∀ d, d ≠ '$' → s.head? ≠ some d → ∀ tail, s ++ (plainOpening ++ rest) ≠ d :: tail := by
      intro d hd hhead tail heq
      cases s with
      | nil => exact hd (List.cons.inj heq).1.symm
      | cons x s => exact hhead (congrArg some (List.cons.inj heq).1)
    rw [List.cons_append, splitOpening, ih hs]
    · rfl
    · exact fun tail hc => hnext _ (by decide) (hdollar hc) tail
    · exact fun tail hc => hnext _ (by decide) (hbrace hc).1 tail
    · exact fun tail hc => hnext _ (by decide) (hbrace hc).2 tail

theorem scanFrom_literal {s : List Char} (h : IsLiteral s) (fuel last line : Nat) :
    ∃ line' last', scanFrom (fuel + 1) (.text false) last line s =
      textLexeme s line' ++ [⟨.finish, last'⟩] := by
  rw [scanFrom]
  simp only [Bool.false_eq_true, if_false]
  rw [splitOpening_eq_none_iff.mpr h]
  exact ⟨_, _, rfl⟩

theorem scan_literal {s : List Char} (h : IsLiteral s) :
    ∃ line last, scan s = textLexeme (Text.dropLineBreak s) line ++ [⟨.finish, last⟩] :=
  scanFrom_literal (h.mono (Text.dropLineBreak_prefix_self s).isInfix) (Text.dropLineBreak s).length 1 1

/-! ### Scanning a field -/

theorem isDigit_eq (c : Char) : isDigit c = c.isDigit := by
  rw [Bool.eq_iff_iff]
  simp only [isDigit, Char.isDigit, Char.le_def, ge_iff_le, Bool.and_eq_true, decide_eq_true_eq]

theorem isWordPart_eq (c : Char) : isWordPart c = isNameChar c := by
  have hranges : isNameChar c =
      ((decide (c.val ≥ 'A'.val ∧ c.val ≤ 'Z'.val) || (decide (c.val ≥ 'a'.val) && decide (c.val ≤ 'z'.val)) ||
        c.isDigit) || c = '_') := rfl
  rw [hranges, ← isDigit_eq, Bool.eq_iff_iff]
  simp only [isWordPart, isWordStart, Char.le_def, ge_iff_le, Bool.or_eq_true, Bool.and_eq_true,
    decide_eq_true_eq]
  tauto

/-- A name starts a word, and all of it belongs to the word. -/
theorem IsName.word {w : String} (h : IsName w) :
    ∃ c rest, w.toList = c :: rest ∧ isWordStart c = true ∧ ∀ d ∈ w.toList, isWordPart d = true := by
  have hall : ∀ d ∈ w.toList, isWordPart d = true := by
    intro d hd
    rw [isWordPart_eq]
    exact List.all_eq_true.mp h.all d hd
  have hfirst := h.first
  cases hw : w.toList with
  | nil =>
    rw [hw] at hfirst
    cases hfirst
  | cons c rest =>
    rw [hw] at hall hfirst
    have hdigit : isDigit c = false := (isDigit_eq c).trans (by simpa using hfirst)
    have hpart := hall c List.mem_cons_self
    rw [isWordPart, hdigit, Bool.or_false] at hpart
    exact ⟨c, rest, rfl, hpart, hall⟩

section

variable {c : Char} (h : isWordStart c = true) (rest : List Char)

include h

theorem takeMark?_of_isWordStart : takeMark? (c :: rest) = none := by
  unfold takeMark?
  split
  all_goals first
    | rfl
    | (rename_i heq; cases heq; exact absurd h (by decide))

theorem takeClosing_of_isWordStart : takeClosing false (c :: rest) = none := by
  have hne : ∀ d, isWordStart d = false → c ≠ d := by
    rintro d hd rfl
    exact absurd (h.symm.trans hd) (by decide)
  have hsign : takeSign (c :: rest) = (false, c :: rest) := by
    unfold takeSign
    split
    · rename_i heq
      exact absurd (List.cons.inj heq).1 (hne '-' (by decide))
    · rename_i heq
      exact absurd (List.cons.inj heq).1 (hne '+' (by decide))
    · rfl
  have hbrace : (closing false).isPrefixOf (c :: rest) = false := by
    have hclose := hne '\x7d' (by decide)
    simp [closing, List.isPrefixOf, hclose.symm]
  simp [takeClosing, hsign, after?, hbrace]

theorem takeToken_of_isWordStart : takeToken (c :: rest) =
    (.word (String.ofList ((c :: rest).takeWhile isWordPart)), (c :: rest).dropWhile isWordPart) := by
  have hquote : ¬(c = '\x22' ∨ c = '\'') := by
    rintro (rfl | rfl) <;> exact absurd h (by decide)
  have hdigit : isDigit c = false := by
    simp only [isWordStart, Bool.or_eq_true, Bool.and_eq_true, decide_eq_true_eq, Char.le_def,
      UInt32.le_iff_toNat_le, Char.reduceVal, UInt32.reduceToNat] at h
    simp only [isDigit, Char.le_def, UInt32.le_iff_toNat_le, Char.reduceVal, UInt32.reduceToNat,
      Bool.and_eq_false_iff, decide_eq_false_iff_not]
    rcases h with (rfl | h) | h
    · decide
    · omega
    · omega
  unfold takeToken
  rw [takeMark?_of_isWordStart h]
  simp [hquote, hdigit, h]

end

/-- A name is scanned as a word, up to a character that does not belong to it. -/
theorem scanFrom_word {w : String} (hw : IsName w) {s : List Char} {c : Char} {tail : List Char}
    (hs : s.dropWhile isSpace = w.toList ++ c :: tail) (hc : isWordPart c = false) (fuel last line : Nat) :
    ∃ a n, scanFrom (fuel + 1) (.inside false 0) last line s =
      ⟨.word w, a⟩ :: scanFrom fuel (.inside false 0) a n (c :: tail) := by
  obtain ⟨d, rest, hd, hstart, hall⟩ := hw.word
  have htake : (w.toList ++ c :: tail).takeWhile isWordPart = w.toList := by
    rw [List.takeWhile_append_of_pos hall, List.takeWhile_cons_of_neg (by simp [hc]), List.append_nil]
  have hdrop : (w.toList ++ c :: tail).dropWhile isWordPart = c :: tail := by
    rw [List.dropWhile_append_of_pos hall, List.dropWhile_cons_of_neg (by simp [hc])]
  have htoken : takeToken (w.toList ++ c :: tail) = (.word w, c :: tail) := by
    have hword := takeToken_of_isWordStart hstart (rest ++ c :: tail)
    rw [← List.cons_append, ← hd, htake, hdrop, String.ofList_toList] at hword
    exact hword
  have hclosing : takeClosing false (w.toList ++ c :: tail) = none := by
    rw [hd]
    exact takeClosing_of_isWordStart hstart _
  rw [scanFrom]
  simp only [hs, hclosing, htoken, if_true]
  exact ⟨_, _, rfl⟩

/-- The tokens of a field, each with its line. -/
def fieldLexemes (name field : String) (a b c d e : Nat) : List Lexeme :=
  [⟨.variableStart, a⟩, ⟨.word name, b⟩, ⟨.mark .dot, c⟩, ⟨.word field, d⟩, ⟨.variableEnd, e⟩]

theorem scanFrom_dot (fuel last line : Nat) (s : List Char) :
    ∃ c, scanFrom (fuel + 1) (.inside false 0) last line ('.' :: s) =
      ⟨.mark .dot, c⟩ :: scanFrom fuel (.inside false 0) c c s :=
  ⟨_, rfl⟩

theorem scanFrom_closing (fuel last line : Nat) (s : List Char) :
    ∃ e, scanFrom (fuel + 1) (.inside false 0) last line (' ' :: '\x7d' :: s) =
      ⟨.variableEnd, e⟩ :: scanFrom fuel (.text false) e e s :=
  ⟨_, rfl⟩

theorem scanFrom_opening {before : List Char} (h : IsLiteral before) (fuel last line : Nat)
    (rest : List Char) :
    ∃ line' a, scanFrom (fuel + 1) (.text false) last line (before ++ (plainOpening ++ (' ' :: rest))) =
      textLexeme before line' ++
        ⟨.variableStart, a⟩ :: scanFrom fuel (.inside false 0) a a (' ' :: rest) := by
  rw [scanFrom]
  simp only [Bool.false_eq_true, if_false]
  rw [splitOpening_literal h]
  exact ⟨_, _, rfl⟩

section

variable {name field : String} (hname : IsName name) (hfield : IsName field) {before after : List Char}

include hname hfield

/-- The scanner goes through the field in four steps. -/
theorem scanFrom_fieldText (fuel last line : Nat) (rest : List Char) :
    ∃ b c d e, scanFrom (fuel + 4) (.inside false 0) last line (fieldText name field ++ rest) =
      ⟨.word name, b⟩ :: ⟨.mark .dot, c⟩ :: ⟨.word field, d⟩ :: ⟨.variableEnd, e⟩ ::
        scanFrom fuel (.text false) e e rest := by
  have hspace : ∀ {w : String}, IsName w → ∀ s, (w.toList ++ s).dropWhile isSpace = w.toList ++ s := by
    intro w hw s
    obtain ⟨c, tail, hc, hstart, -⟩ := hw.word
    have hnot : isSpace c = false := by
      rw [Bool.eq_false_iff]
      intro hblank
      simp only [isSpace, Bool.or_eq_true, decide_eq_true_eq] at hblank
      rcases hblank with (((rfl | rfl) | rfl) | rfl) | rfl <;> exact absurd hstart (by decide)
    rw [hc, List.cons_append, List.dropWhile_cons_of_neg (by simp [hnot])]
  have htext : fieldText name field ++ rest =
      ' ' :: (name.toList ++ '.' :: (field.toList ++ ' ' :: '\x7d' :: rest)) := by simp [fieldText]
  have hblank : (' ' :: (name.toList ++ '.' :: (field.toList ++ ' ' :: '\x7d' :: rest))).dropWhile isSpace =
      name.toList ++ '.' :: (field.toList ++ ' ' :: '\x7d' :: rest) := hspace hname _
  obtain ⟨b, n, hb⟩ := scanFrom_word hname hblank (by decide) (fuel + 3) last line
  obtain ⟨c, hc⟩ := scanFrom_dot (fuel + 2) b n (field.toList ++ ' ' :: '\x7d' :: rest)
  obtain ⟨d, m, hd⟩ := scanFrom_word hfield (hspace hfield (' ' :: '\x7d' :: rest)) (by decide) (fuel + 1) c c
  obtain ⟨e, he⟩ := scanFrom_closing fuel d m rest
  exact ⟨b, c, d, e, by rw [htext, hb, hc, hd, he]⟩

theorem scanFrom_field (hbefore : IsLiteral before) (hafter : IsLiteral after) (fuel last line : Nat) :
    ∃ f a b c d e g n,
      scanFrom (fuel + 6) (.text false) last line
          (before ++ (plainOpening ++ (fieldText name field ++ after))) =
        textLexeme before f ++
          (fieldLexemes name field a b c d e ++ (textLexeme after g ++ [⟨.finish, n⟩])) := by
  obtain ⟨f, a, hopening⟩ := scanFrom_opening hbefore (fuel + 5) last line
    ((fieldText name field).tail ++ after)
  obtain ⟨b, c, d, e, hscan⟩ := scanFrom_fieldText hname hfield (fuel + 1) a a after
  obtain ⟨g, n, hrest⟩ := scanFrom_literal hafter fuel e e
  refine ⟨f, a, b, c, d, e, g, n, hopening.trans ?_⟩
  exact congrArg (fun ts => textLexeme before f ++ ⟨.variableStart, a⟩ :: ts)
    (hscan.trans (by rw [hrest]))

theorem scan_field (h : Surrounds before after) :
    ∃ f a b c d e g n,
      scan (before ++ (plainOpening ++ (fieldText name field ++ after))) =
        textLexeme before f ++
          (fieldLexemes name field a b c d e ++ (textLexeme after g ++ [⟨.finish, n⟩])) := by
  have hend : (plainOpening ++ fieldText name field).getLast? = some '\x7d' := by
    have hsplit : plainOpening ++ fieldText name field =
        (plainOpening ++ ' ' :: name.toList ++ '.' :: field.toList ++ [' ']) ++ ['\x7d'] := by
      simp [fieldText]
    rw [hsplit, List.getLast?_concat]
  -- The whole ends as the second text does, or in the closing brace if there is none.
  have hlast : ∀ x, x ≠ '\x7d' → after.getLast? ≠ some x →
      (before ++ (plainOpening ++ (fieldText name field ++ after))).getLast? ≠ some x := by
    intro x hx hafter
    rw [← List.append_assoc plainOpening, List.getLast?_append, List.getLast?_append, hend]
    cases hlast : after.getLast? with
    | none => simpa using hx.symm
    | some y => simpa [hlast] using hafter
  have hwhole := Text.dropLineBreak_eq_self_iff.mpr
    ⟨hlast '\n' (by decide) h.newline, hlast '\r' (by decide) h.carriageReturn⟩
  have hlength : (before ++ (plainOpening ++ (fieldText name field ++ after))).length + 1 =
      before.length + name.toList.length + field.toList.length + after.length + 1 + 6 := by
    simp only [fieldText, plainOpening, List.length_append, List.length_cons, List.length_nil]
    omega
  unfold scan
  rw [hwhole]
  simp only
  rw [hlength]
  exact scanFrom_field hname hfield h.literalBefore h.literalAfter _ 1 1

end

/-! ### Nodes and their output -/

section

variable {α β : Type} {x : Parse α} {f : α → Parse β} {a : α} {ts us rest : List Lexeme} {t next : Lexeme}

theorem Parse.run_bind (h : x ts = .ok (a, us)) : (x >>= f) ts = f a us := by
  show (x ts >>= fun r => f r.1 r.2) = f a us
  rw [h]
  rfl

theorem Parse.take_cons : take (t :: next :: rest) = .ok (t, next :: rest) := rfl

end

/-- With that much fuel the tokens are read as the nodes. -/
def Spells (needed : Nat) (ts : List Lexeme) (ns : List Node) : Prop :=
  ∀ fuel, needed ≤ fuel → ∃ rest, nodes fuel [] ts = .ok (ns, rest)

/-- A text node, if there is any text. -/
def textNode (s : List Char) : List Node := if s.isEmpty then [] else [.text s]

theorem spells_finish (line : Nat) : Spells 1 [⟨.finish, line⟩] [] := by
  intro fuel hfuel
  obtain ⟨fuel, rfl⟩ := Nat.exists_eq_add_of_le' hfuel
  rw [nodes]
  exact ⟨_, rfl⟩

section

variable {needed : Nat} {ts : List Lexeme} {ns : List Node}

theorem Spells.text (h : Spells needed ts ns) (hts : ts ≠ []) (s : List Char) (line : Nat) :
    Spells (needed + 1) (textLexeme s line ++ ts) (textNode s ++ ns) := by
  intro fuel hfuel
  by_cases hs : s.isEmpty = true
  · rw [textLexeme, textNode, if_pos hs, if_pos hs]
    exact h fuel (Nat.le_of_succ_le hfuel)
  · rw [textLexeme, textNode, if_neg hs, if_neg hs]
    obtain ⟨t, rest, rfl⟩ := List.exists_cons_of_ne_nil hts
    obtain ⟨fuel, rfl⟩ := Nat.exists_eq_add_of_le' hfuel
    obtain ⟨left, hleft⟩ := h (fuel + needed) (Nat.le_add_left _ _)
    refine ⟨left, ?_⟩
    show nodes (fuel + needed + 1) [] (⟨.text s, line⟩ :: t :: rest) = _
    rw [nodes, Parse.run_bind Parse.take_cons]
    simp only
    rw [Parse.run_bind hleft]
    rfl

theorem Spells.ofLexemes (h : Spells needed ts ns) (hneeded : needed ≤ 16 * (ts.length + 1)) :
    Node.ofLexemes ts = .ok ns := by
  obtain ⟨rest, hrest⟩ := h _ hneeded
  unfold Node.ofLexemes
  rw [hrest]
  rfl

end

section

variable {scope scope' scope'' : Scope} {n : Node} {ns : List Node} {s t : String}

theorem renderAll_cons (h : n.render scope = .ok (s, scope'))
    (hrest : renderAll scope' ns = .ok (t, scope'')) : renderAll scope (n :: ns) = .ok (s ++ t, scope'') := by
  rw [renderAll, h]
  show (renderAll scope' ns >>= fun r => .ok (s ++ r.1, r.2)) = _
  rw [hrest]
  rfl

theorem renderAll_textNode (h : renderAll scope ns = .ok (t, scope')) (cs : List Char) :
    renderAll scope (textNode cs ++ ns) = .ok (String.ofList cs ++ t, scope') := by
  by_cases hcs : cs.isEmpty = true
  · rw [textNode, if_pos hcs, List.isEmpty_iff.mp hcs, List.nil_append, h, String.ofList_nil,
      String.empty_append]
  · rw [textNode, if_neg hcs]
    exact renderAll_cons rfl h

end

/-! ### Reading -/

open Parse

section

variable {rest : List Lexeme} {t next : Lexeme} {passes : Token → Bool}

theorem Parse.peek_cons : peek (t :: rest) = .ok (t, t :: rest) := rfl

theorem Parse.accept_of_false (h : passes t.token = false) :
    accept passes (t :: rest) = .ok (false, t :: rest) := by
  unfold accept
  rw [run_bind peek_cons, h]
  rfl

theorem Parse.accept_of_true (h : passes t.token = true) :
    accept passes (t :: next :: rest) = .ok (true, next :: rest) := by
  unfold accept
  rw [run_bind peek_cons, h]
  rfl

theorem Parse.expect_of_true (h : passes t.token = true) (expected : String) :
    expect passes expected (t :: next :: rest) = .ok ((), next :: rest) := by
  unfold expect
  rw [run_bind take_cons, if_pos h]
  rfl

end

section

variable {fuel depth a b c line : Nat} {e : Expr} {t : Lexeme} {ts rest : List Lexeme} {level : Level}
  {w v : String}

/-- Nothing is added to an expression at its end, however little fuel there is. -/
theorem moreOperands_end : moreOperands fuel depth level e (⟨.variableEnd, line⟩ :: rest) =
    .ok (e, ⟨.variableEnd, line⟩ :: rest) := by
  cases fuel with
  | zero =>
    rw [moreOperands]
    rfl
  | succ fuel =>
    rw [moreOperands, run_bind peek_cons]
    cases level <;> rfl

theorem conditions_end : conditions fuel depth e (⟨.variableEnd, line⟩ :: rest) =
    .ok (e, ⟨.variableEnd, line⟩ :: rest) := by
  cases fuel <;> rw [conditions] <;> rfl

theorem filters_end : filters fuel depth e (⟨.variableEnd, line⟩ :: rest) =
    .ok (e, ⟨.variableEnd, line⟩ :: rest) := by
  cases fuel <;> rw [filters] <;> rfl

theorem attachments_end : attachments fuel depth e (⟨.variableEnd, line⟩ :: rest) =
    .ok (e, ⟨.variableEnd, line⟩ :: rest) := by
  cases fuel <;> rw [attachments] <;> rfl

/-- An operand up to the end of the expression is all there is on its level. -/
theorem binary_of_operand (hfirst : isWord "not" t.token = false)
    (h : operand fuel depth level (t :: ts) = .ok (e, ⟨.variableEnd, line⟩ :: rest)) :
    binary (fuel + 1) depth level (t :: ts) = .ok (e, ⟨.variableEnd, line⟩ :: rest) := by
  have hall : (operand fuel depth level >>= moreOperands fuel depth level) (t :: ts) =
      .ok (e, ⟨.variableEnd, line⟩ :: rest) := by
    rw [run_bind h, moreOperands_end]
  have hnot : acceptWord "not" (t :: ts) = .ok (false, t :: ts) := accept_of_false hfirst
  rw [binary]
  by_cases hlevel : level = .not
  · rw [if_pos hlevel, run_bind hnot]
    exact hall
  · rw [if_neg hlevel]
    exact hall

theorem binary_of_next (level : Level) {next : Level} (hfirst : isWord "not" t.token = false)
    (hnext : level.next? = some next)
    (h : binary fuel depth next (t :: ts) = .ok (e, ⟨.variableEnd, line⟩ :: rest)) :
    binary (fuel + 2) depth level (t :: ts) = .ok (e, ⟨.variableEnd, line⟩ :: rest) := by
  refine binary_of_operand hfirst ?_
  rw [operand, hnext]
  exact h

/-- There are eight levels between a value and an expression. -/
theorem expression_of_unary (hfirst : isWord "not" t.token = false)
    (h : unary fuel depth (t :: ts) = .ok (e, ⟨.variableEnd, line⟩ :: rest)) :
    expression (fuel + 17) depth (t :: ts) = .ok (e, ⟨.variableEnd, line⟩ :: rest) := by
  have hpower : binary (fuel + 2) depth .power (t :: ts) = .ok (e, ⟨.variableEnd, line⟩ :: rest) := by
    refine binary_of_operand hfirst ?_
    rw [operand]
    exact h
  have hproduct := binary_of_next .product hfirst rfl hpower
  have hconcat := binary_of_next .concat hfirst rfl hproduct
  have hsum := binary_of_next .sum hfirst rfl hconcat
  have hcompare := binary_of_next .compare hfirst rfl hsum
  have hnot := binary_of_next .not hfirst rfl hcompare
  have hand := binary_of_next .and hfirst rfl hnot
  have hor := binary_of_next .or hfirst rfl hand
  rw [expression, run_bind hor]
  exact conditions_end

theorem minus_name (h : wordLiteral? w = none) :
    minus (fuel + 2) 0 (⟨.word w, a⟩ :: t :: rest) = .ok (.name w a, t :: rest) := by
  have hminus : acceptMark .minus (⟨.word w, a⟩ :: t :: rest) = .ok (false, ⟨.word w, a⟩ :: t :: rest) :=
    accept_of_false rfl
  rw [minus, run_bind hminus]
  simp only [Bool.false_eq_true, if_false]
  rw [primary, run_bind take_cons]
  simp only [maxDepth, Nat.reduceAdd, Nat.reduceLT, h]
  rfl

theorem attachments_field :
    attachments (fuel + 1) depth e (⟨.mark .dot, a⟩ :: ⟨.word v, b⟩ :: ⟨.variableEnd, line⟩ :: rest) =
      .ok (.field e v, ⟨.variableEnd, line⟩ :: rest) := by
  have hdot : acceptMark .dot (⟨.mark .dot, a⟩ :: ⟨.word v, b⟩ :: ⟨.variableEnd, line⟩ :: rest) =
      .ok (true, ⟨.word v, b⟩ :: ⟨.variableEnd, line⟩ :: rest) := accept_of_true rfl
  rw [attachments, run_bind hdot]
  simp only [if_true]
  rw [run_bind take_cons]
  exact attachments_end

/-- A name, a dot and a word are a field of what the name stands for. -/
theorem expression_field (hname : wordLiteral? w = none) (hnot : w ≠ "not") :
    expression (fuel + 20) 0
        (⟨.word w, a⟩ :: ⟨.mark .dot, b⟩ :: ⟨.word v, c⟩ :: ⟨.variableEnd, line⟩ :: rest) =
      .ok (.field (.name w a) v, ⟨.variableEnd, line⟩ :: rest) := by
  refine expression_of_unary (decide_eq_false hnot.symm) ?_
  rw [unary, run_bind (minus_name hname), run_bind attachments_field]
  exact filters_end

end

section

variable {needed : Nat} {ts : List Lexeme} {ns : List Node}

theorem Spells.field {name : String} (h : Spells needed ts ns) (hts : ts ≠ [])
    (hliteral : wordLiteral? name = none) (hnot : name ≠ "not") (field : String) (a b c d e : Nat) :
    Spells (needed + 21) (fieldLexemes name field a b c d e ++ ts)
      (.output (.field (.name name b) field) :: ns) := by
  intro fuel hfuel
  obtain ⟨t, rest, rfl⟩ := List.exists_cons_of_ne_nil hts
  obtain ⟨fuel, rfl⟩ := Nat.exists_eq_add_of_le' hfuel
  obtain ⟨left, hleft⟩ := h (fuel + needed + 20) (by omega)
  have hfield : expression (fuel + needed + 20) 0 (⟨.word name, b⟩ :: ⟨.mark .dot, c⟩ ::
      ⟨.word field, d⟩ :: ⟨.variableEnd, e⟩ :: t :: rest) =
        .ok (.field (.name name b) field, ⟨.variableEnd, e⟩ :: t :: rest) :=
    expression_field hliteral hnot
  refine ⟨left, ?_⟩
  show nodes (fuel + needed + 20 + 1) [] (⟨.variableStart, a⟩ :: ⟨.word name, b⟩ ::
    ⟨.mark .dot, c⟩ :: ⟨.word field, d⟩ :: ⟨.variableEnd, e⟩ :: t :: rest) = _
  rw [nodes, run_bind take_cons]
  simp only
  rw [run_bind hfield, run_bind (expect_of_true rfl _), run_bind hleft]
  rfl

end

theorem ofLexemes_field {name : String} (hliteral : wordLiteral? name = none) (hnot : name ≠ "not")
    (field : String) (before after : List Char) (f a b c d e g n : Nat) :
    Node.ofLexemes (textLexeme before f ++
        (fieldLexemes name field a b c d e ++ (textLexeme after g ++ [⟨.finish, n⟩]))) =
      .ok (textNode before ++ .output (.field (.name name b) field) :: textNode after) := by
  have hafter := (spells_finish n).text (List.cons_ne_nil _ _) after g
  have hfield := hafter.field (List.append_ne_nil_of_right_ne_nil _ (List.cons_ne_nil _ _)) hliteral hnot
    field a b c d e
  have hall := hfield.text (List.append_ne_nil_of_left_ne_nil (List.cons_ne_nil _ _) _) before f
  rw [List.append_nil] at hall
  refine hall.ofLexemes ?_
  -- The field and the end are six tokens, which is fuel for ninety-six steps.
  simp only [List.length_append, fieldLexemes, List.length_cons, List.length_nil]
  omega

/-! ### Rendering -/

/-- A string is printed as it is. -/
theorem renderAll_output {scope scope' : Scope} {e : Expr} {ns : List Node} {s t : String}
    (he : e.evaluate scope = .ok (.string s))
    (h : renderAll scope ns = .ok (t, scope')) :
    renderAll scope (.output e :: ns) = .ok (s ++ t, scope') := by
  have hprinted : (Node.output e).render scope = .ok (s, scope) := by
    rw [Node.render, he]
    rfl
  exact renderAll_cons hprinted h

theorem order_string_eq_iff {s t : String} :
    ((Value.string s).order (.string t) == .eq) = decide (s = t) := by
  have horder : (Value.string s).order (.string t) = compare s t := rfl
  rw [horder, beq_eq_decide, decide_eq_decide]
  exact Std.LawfulEqCmp.compare_eq_iff_eq

theorem lookup?_cons (name key : String) (v : Value) (entries : List (Value × Value)) :
    Value.lookup? (.string name) ((.string key, v) :: entries) =
      if name = key then some v else Value.lookup? (.string name) entries := by
  rw [Value.lookup?, List.findSome?_cons]
  simp only [order_string_eq_iff]
  by_cases hkey : name = key
  · simp [hkey]
  · simp only [hkey, decide_false, Bool.false_eq_true, if_false]
    rfl

/-- The attributes of the value of JSON data are the values of its fields. -/
theorem attribute?_ofJson (v : Json) (name : String) :
    (Value.ofJson v).attribute? name = (v.field? name).map .ofJson := by
  cases v with
  | object fields =>
    show Value.lookup? (.string name) (Value.ofFields fields) = (fields.lookup name).map .ofJson
    induction fields with
    | nil => rfl
    | cons field rest ih =>
      obtain ⟨key, v⟩ := field
      rw [Value.ofFields, lookup?_cons, ih, List.lookup_cons]
      by_cases hkey : name = key
      · rw [if_pos hkey, beq_iff_eq.mpr hkey]
        rfl
      · rw [if_neg hkey, beq_eq_false_iff_ne.mpr hkey]
  | number n => cases n <;> rfl
  | null => rfl
  | bool b => rfl
  | string s => rfl
  | array items => rfl

/-- A field of a name in the context of a template. -/
theorem evaluate_field {context : Json} {name field value : String} (filters : List (String × Filter))
    (hvalue : (context.field? name).bind (·.field? field) = some (.string value)) (line : Nat) :
    (Expr.field (.name name line) field).evaluate ⟨[{}], .ofJson context, filters⟩ = .ok (.string value) := by
  obtain ⟨inside, hinside, hfield⟩ := Option.bind_eq_some_iff.mp hvalue
  have hname : (Scope.mk [{}] (.ofJson context) filters).lookup name = .ofJson inside := by
    have hframe : ([{}] : List Frame).findSome? (Scope.inFrame name) = none := by
      simp [Scope.inFrame]
    rw [Scope.lookup, Scope.find?, hframe]
    simp only [attribute?_ofJson, hinside]
    rfl
  rw [Expr.evaluate, Expr.evaluate, hname]
  simp only [bind, Except.bind, attribute?_ofJson, hfield]
  rfl

/-- **The field gives way to its value as it is.** -/
theorem rendered_field (filters : List (String × Filter)) {context : Json} {name field value : String}
    {before after : List Char} (h : Surrounds before after) (hname : IsName name)
    (hkeyword : name ∉ keywords) (hfield : IsName field)
    (hvalue : (context.field? name).bind (·.field? field) = some (.string value)) :
    rendered filters context (before ++ (plainOpening ++ (fieldText name field ++ after))) =
      .ok (String.ofList before ++ (value ++ String.ofList after)) := by
  simp only [keywords, List.mem_cons, not_or] at hkeyword
  obtain ⟨htrue, hTrue, hfalse, hFalse, hnone, hNone, hnot, -⟩ := hkeyword
  have hliteral : wordLiteral? name = none := by
    simp [wordLiteral?, htrue, hTrue, hfalse, hFalse, hnone, hNone]
  obtain ⟨f, a, b, c, d, e, g, n, hscan⟩ := scan_field hname hfield h
  unfold rendered parse
  rw [hscan, ofLexemes_field hliteral hnot]
  have hrest := renderAll_textNode
    (renderAll_output (evaluate_field filters hvalue b)
      (renderAll_textNode (by rw [renderAll]) after)) before
  rw [List.append_nil] at hrest
  simp only [bind, Except.bind]
  rw [hrest]
  simp [pure, Except.pure]

/-- Literal text comes out without the line break at its end. -/
theorem rendered_literal (filters : List (String × Filter)) (context : Json) {s : List Char}
    (h : IsLiteral s) : rendered filters context s = .ok (String.ofList (Text.dropLineBreak s)) := by
  obtain ⟨line, last, hscan⟩ := scan_literal h
  have hspells := (spells_finish last).text (List.cons_ne_nil _ _) (Text.dropLineBreak s) line
  have hnodes := hspells.ofLexemes (by omega)
  have hout : renderAll ⟨[{}], .ofJson context, filters⟩ (textNode (Text.dropLineBreak s) ++ []) =
      .ok (String.ofList (Text.dropLineBreak s) ++ "", ⟨[{}], .ofJson context, filters⟩) :=
    renderAll_textNode (by rw [renderAll]) (Text.dropLineBreak s)
  unfold rendered parse
  rw [hscan, hnodes]
  simp only [bind, Except.bind]
  rw [hout, String.append_empty]
  rfl

instance : Engine.Lawful where
  render_literal := rendered_literal
  render_field := rendered_field

end Template

end HttpResource
