/-
# Number literals

The tokens of an expression that are no part of a path stand for its operands, operators and parentheses,
and those of the operands that are no paths give the literals of the tree, in order
(`Predicate.literals_of_derives`). A number among them was spelled by a decimal of the text, and its literal
comes from the nearest double. There is none for a decimal past half a unit above the greatest double, and
such a number does not stay a number: its literal is null, which is equal to null and in order with no number
(`Predicate.numberOperands_spec`).

Key definitions: `Predicate.Expr.literals`, `Predicate.operands`, `Predicate.Token.Decimal.value`,
`Predicate.DiffersFromNull`, `Predicate.OrdersWithNumbers`.
Key theorems: `Predicate.literals_of_derives`, `Predicate.decimal_of_scan`,
`Predicate.numberOperands_spec`.
-/
import HttpResource.Proofs.Evaluation
import HttpResource.Proofs.Grammar
import HttpResource.Proofs.Rounding

namespace HttpResource

namespace Predicate

/-! ### Operands -/

/-- The literals of an expression, as they stand in it. -/
def Expr.literals : Expr → List Json
  | .path _ => []
  | .literal v => [v]
  | .compare left _ right => left.literals ++ right.literals
  | .and left right => left.literals ++ right.literals
  | .or left right => left.literals ++ right.literals
  | .not inner => inner.literals

/-- The literal that a token in the place of an operand is read as. -/
def literal? : Token → Option Json
  | .text s => some (.string s)
  | .number x => some (numberLiteral x)
  | .word "true" => some (.bool true)
  | .word "false" => some (.bool false)
  | .word "null" => some .null
  | _ => none

/-- The tokens in the place of an operand that is no path. A word or a text after a dot is a step of a path,
and so is whatever stands after an opening bracket. -/
def operands : List Token → List Token
  | [] => []
  | .dot :: .word _ :: rest => operands rest
  | .dot :: .text _ :: rest => operands rest
  | .leftBracket :: _ :: rest => operands rest
  | t :: rest => if (literal? t).isSome then t :: operands rest else operands rest

section

variable {s r : List Token}

theorem mem_of_mem_operands {t : Token} (h : t ∈ operands s) : t ∈ s := by
  fun_induction operands s with
  | case1 => exact h
  | case2 w rest ih | case3 w rest ih | case4 w rest ih =>
    exact List.mem_cons_of_mem _ (List.mem_cons_of_mem _ (ih h))
  | case5 u rest _ _ _ _ ih =>
    rcases List.mem_cons.mp h with rfl | h
    · exact List.mem_cons_self
    · exact List.mem_cons_of_mem _ (ih h)
  | case6 u rest _ _ _ _ ih => exact List.mem_cons_of_mem _ (ih h)

/-- A dot that no name follows is passed over. -/
theorem operands_dot (h : startsStep s = false) : operands (.dot :: s) = operands s := by
  cases s with
  | nil => rfl
  | cons t rest =>
    cases t with
    | word | text | leftBracket => cases h
    | _ => rfl

theorem operands_of_bracketStep {step : Step} (h : BracketStep s step r) : operands s = operands r := by
  cases h with
  | key name => rfl
  | index => rfl

theorem operands_of_dottedStep {step : Step} (h : DottedStep s step r) :
    operands (.dot :: s) = operands r := by
  cases h with
  | word name => rfl
  | text name => rfl
  | bracket h => cases h <;> rfl

theorem operands_of_moreSteps {path : Path} (h : MoreSteps s path r) : operands s = operands r := by
  induction h with
  | stop => rfl
  | step first _ ih =>
    cases first with
    | dotted h => exact (operands_of_dottedStep h).trans ih
    | bracket h => exact (operands_of_bracketStep h).trans ih

theorem operands_of_pathTokens {path : Path} (h : PathTokens s path r) : operands s = operands r := by
  cases h with
  | root alone => exact operands_dot alone
  | steps first more => exact (operands_of_dottedStep first).trans (operands_of_moreSteps more)

/-- The literals of a phrase are those that its tokens are read as. -/
theorem literals_of_derives {phrase : Phrase} {e : Expr} (h : Derives phrase s e r) :
    (operands s).filterMap literal? = e.literals ++ (operands r).filterMap literal? := by
  induction h with
  | pipe _ ih | disjunction _ ih | conjunction _ ih | comparison _ ih => exact ih
  | not _ ih => exact ih
  | or _ _ ihleft ihright | and _ _ ihleft ihright | compare _ _ ihleft ihright =>
    rw [ihleft, Expr.literals, List.append_assoc]
    exact congrArg _ ihright
  | path h => rw [operands_of_pathTokens h]; rfl
  | group _ ih => exact ih
  | text | number | true | false | null => rfl

end

/-! ### Decimals -/

/-- The number that a decimal stands for. -/
def Token.Decimal.value (d : Token.Decimal) : ℚ :=
  Binary64.signed d.negative (d.coefficient * 10 ^ d.exponent)

theorem isFinite_nearest_iff (d : Token.Decimal) :
    d.nearest.isFinite = true ↔ |d.value| < Binary64.overflow := by
  rw [Token.Decimal.value, Binary64.abs_signed _ (by positivity)]
  exact Binary64.isFinite_ofDecimal_iff _ _ _

theorem decimal_of_first {position : ℕ} {c : Char} {rest : List Char} {x : Binary64} {used : ℕ}
    (h : Token.first position c rest = .ok (.number x, used)) :
    ∃ d, Token.decimal? (c :: rest.take used) = some d ∧ x = d.nearest := by
  unfold Token.first at h
  split at h
  iterate 6 cases h
  · split at h
    · cases h
    · dsimp only at h
      split at h <;> cases h
  · split at h
    · split at h <;> cases h
    · split at h
      · dsimp only at h
        split at h
        · rename_i hvalue
          cases h
          obtain ⟨d, hd, rfl⟩ := Option.map_eq_some_iff.mp hvalue
          exact ⟨d, hd, rfl⟩
        · cases h
      · split at h <;> cases h

theorem decimal_of_scanFrom {position skip : ℕ} {s : List Char} {tokens : List Token} {x : Binary64}
    (h : Token.scanFrom position skip s = .ok tokens) (hx : Token.number x ∈ tokens) :
    ∃ literal d, literal <:+: s ∧ Token.decimal? literal = some d ∧ x = d.nearest := by
  induction s generalizing position skip tokens with
  | nil =>
    cases skip <;> cases h <;> cases hx
  | cons c rest ih =>
    have hlater : ∀ {skip tokens}, Token.scanFrom (position + 1) skip rest = .ok tokens →
        Token.number x ∈ tokens →
        ∃ literal d, literal <:+: c :: rest ∧ Token.decimal? literal = some d ∧ x = d.nearest := by
      intro skip tokens h hx
      obtain ⟨literal, d, hinfix, hd⟩ := ih h hx
      exact ⟨literal, d, hinfix.trans (List.suffix_cons c rest).isInfix, hd⟩
    cases skip with
    | succ skip => exact hlater h hx
    | zero =>
      unfold Token.scanFrom at h
      split at h
      · exact hlater h hx
      · split at h
        · cases h
        · rename_i token used hfirst
          cases hscan : Token.scanFrom (position + 1) used rest with
          | error e =>
            rw [hscan] at h
            cases h
          | ok later =>
            rw [hscan] at h
            cases h
            rcases List.mem_cons.mp hx with rfl | hx
            · obtain ⟨d, hd⟩ := decimal_of_first hfirst
              refine ⟨c :: rest.take used, d, ?_, hd⟩
              exact (List.prefix_cons_inj c |>.mpr (List.take_prefix used rest)).isInfix
            · exact hlater hscan hx

/-- A number was spelled by a decimal of the text. -/
theorem decimal_of_scan {source : String} {tokens : List Token} {x : Binary64}
    (h : Token.scan source = .ok tokens) (hx : Token.number x ∈ tokens) :
    ∃ literal d, literal <:+: source.toList ∧ Token.decimal? literal = some d ∧ x = d.nearest :=
  decimal_of_scanFrom h hx

/-! ### Numbers in comparisons -/

/-- Whether the operator orders its operands. -/
def Comparison.orders : Comparison → Bool
  | .eq => false
  | .ne => false
  | _ => true

/-- The literal is not null in any comparison. -/
def DiffersFromNull (v : Json) : Prop :=
  ∀ context e, e.evaluate context = .ok .null →
    (Expr.compare (.literal v) .eq e).evaluate context = .ok (.bool false) ∧
      (Expr.compare e .eq (.literal v)).evaluate context = .ok (.bool false) ∧
      (Expr.compare (.literal v) .ne e).evaluate context = .ok (.bool true) ∧
      (Expr.compare e .ne (.literal v)).evaluate context = .ok (.bool true)

/-- The literal is in order with every number that is one. -/
def OrdersWithNumbers (v : Json) : Prop :=
  ∀ context e n op, op.orders = true → n.toBinary64.isNan = false →
    e.evaluate context = .ok (.number n) →
    (∃ b, (Expr.compare (.literal v) op e).evaluate context = .ok (.bool b)) ∧
      ∃ b, (Expr.compare e op (.literal v)).evaluate context = .ok (.bool b)

/-- The literal of a finite double is a number. -/
theorem numberLiteral_of_isFinite {x : Binary64} (h : x.isFinite = true) :
    ∃ n, numberLiteral x = .number n ∧ n.toBinary64.isNan = false := by
  unfold numberLiteral
  split
  · split
    · exact ⟨_, rfl, Binary64.isNan_ofRatio _ _ _⟩
    · exact ⟨_, rfl, Binary64.isNan_of_isFinite h⟩
  · rw [if_pos h]
    exact ⟨_, rfl, Binary64.isNan_of_isFinite h⟩

/-- Any other literal is null. -/
theorem numberLiteral_of_not_isFinite {x : Binary64} (h : x.isFinite = false) :
    numberLiteral x = .null := by
  cases x with
  | finite => cases h
  | infinite | nan => rfl

theorem kind_numberLiteral_iff (x : Binary64) :
    (numberLiteral x).kind = .number ↔ x.isFinite = true := by
  cases hfinite : x.isFinite with
  | true =>
    obtain ⟨n, hn, -⟩ := numberLiteral_of_isFinite hfinite
    rw [hn]
    exact iff_of_true rfl rfl
  | false =>
    rw [numberLiteral_of_not_isFinite hfinite]
    exact iff_of_false nofun nofun

theorem differsFromNull_iff (x : Binary64) : DiffersFromNull (numberLiteral x) ↔ x.isFinite = true := by
  cases hfinite : x.isFinite with
  | true =>
    obtain ⟨n, hn, -⟩ := numberLiteral_of_isFinite hfinite
    refine iff_of_true (fun context e he => ?_) rfl
    simp only [evaluate_compare, evaluate_literal, he, hn]
    exact ⟨rfl, rfl, rfl, rfl⟩
  | false =>
    rw [numberLiteral_of_not_isFinite hfinite]
    refine iff_of_false (fun h => ?_) nofun
    have hnull := (h .null (.literal .null) rfl).1
    cases hnull

/-- Two numbers have an order. -/
theorem order_numbers {n m : Number} (hn : n.toBinary64.isNan = false) (hm : m.toBinary64.isNan = false) :
    ∃ o, order (.number n) (.number m) = .ok o := by
  obtain ⟨o, ho⟩ := Binary64.compare?_isSome hn hm
  exact ⟨o, by rw [order, ho]⟩

theorem comparing_numbers {n m : Number} {op : Comparison} (hop : op.orders = true)
    (hn : n.toBinary64.isNan = false) (hm : m.toBinary64.isNan = false) :
    ∃ b, comparing op (.ok (.number n)) (.ok (.number m)) = .ok (.bool b) := by
  obtain ⟨o, ho⟩ := order_numbers hn hm
  cases op with
  | eq | ne => cases hop
  | lt | le | gt | ge =>
    rw [comparing, holds, ho]
    exact ⟨_, rfl⟩

theorem ordersWithNumbers_iff (x : Binary64) :
    OrdersWithNumbers (numberLiteral x) ↔ x.isFinite = true := by
  cases hfinite : x.isFinite with
  | true =>
    obtain ⟨n, hn, hnan⟩ := numberLiteral_of_isFinite hfinite
    refine iff_of_true (fun context e m op hop hm he => ?_) rfl
    simp only [evaluate_compare, evaluate_literal, he, hn]
    exact ⟨comparing_numbers hop hnan hm, comparing_numbers hop hm hnan⟩
  | false =>
    rw [numberLiteral_of_not_isFinite hfinite]
    refine iff_of_false (fun h => ?_) nofun
    obtain ⟨b, hb⟩ := (h .null (.literal (.number (.double .zero))) (.double .zero) .lt rfl rfl rfl).1
    cases hb

/-- **A number is read as a literal that is a number, exactly if there is a double next to it.** Every token
in the place of an operand gives the literal there. One for a number was spelled by a decimal, and its
literal is a number, is never equal to null and has an order with every number, each exactly if the decimal
is less in magnitude than half a unit above the greatest double. -/
theorem numberOperands_spec {source : String} {p : Predicate} (h : parse source = .ok p) :
    ∃ tokens, Token.scan source = .ok tokens ∧
      p.expr.literals = (operands tokens).filterMap literal? ∧
      ∀ x, Token.number x ∈ operands tokens →
        ∃ literal d, literal <:+: source.toList ∧ Token.decimal? literal = some d ∧ x = d.nearest ∧
          ((numberLiteral x).kind = .number ↔ |d.value| < Binary64.overflow) ∧
          (DiffersFromNull (numberLiteral x) ↔ |d.value| < Binary64.overflow) ∧
          (OrdersWithNumbers (numberLiteral x) ↔ |d.value| < Binary64.overflow) := by
  obtain ⟨-, tokens, hscan, hderives⟩ := ((parse_iff_derives source).1 p).mp h
  have hliterals := literals_of_derives hderives
  rw [operands, List.filterMap_nil, List.append_nil] at hliterals
  refine ⟨tokens, hscan, hliterals.symm, fun x hx => ?_⟩
  obtain ⟨literal, d, hinfix, hd, rfl⟩ := decimal_of_scan hscan (mem_of_mem_operands hx)
  have hfinite := isFinite_nearest_iff d
  exact ⟨literal, d, hinfix, hd, rfl, (kind_numberLiteral_iff _).trans hfinite,
    (differsFromNull_iff _).trans hfinite, (ordersWithNumbers_iff _).trans hfinite⟩

/-! ### Two predicates -/

theorem ok_of_toOption {ε α : Type} {x : Except ε α} {a : α} (h : x.toOption = some a) : x = .ok a := by
  cases x <;> cases h
  rfl

/-- What the grammar derives from all tokens of a text is the predicate. -/
theorem parse_of_derives {source : String} {tokens : List Token} {e : Expr}
    (hscan : Token.scan source = .ok tokens) (h : Derives .pipe tokens e []) :
    parse source = .ok ⟨source, e⟩ :=
  ((parse_iff_derives source).1 _).mpr ⟨rfl, tokens, hscan, h⟩

/-- The count is below ten. -/
def countCheck : Predicate := ⟨".count < 10", .compare (.path [.key "count"]) .lt (.literal (.int 10))⟩

theorem parse_countCheck : parse ".count < 10" = .ok countCheck := by
  have hscan : Token.scan ".count < 10" = .ok [.dot, .word "count", .comparison .lt,
      .number (.finite false 5629499534213120 (-49))] := ok_of_toOption (by decide +kernel)
  have hpath : Derives .primary [.dot, .word "count", .comparison .lt,
      .number (.finite false 5629499534213120 (-49))] (.path [.key "count"])
      [.comparison .lt, .number (.finite false 5629499534213120 (-49))] :=
    .path (.steps (.word "count" _) (.stop fun step r h => by cases goesOnPath_of_moreStep h))
  exact parse_of_derives hscan (.pipe (.disjunction (.conjunction (.compare hpath (.number _ [])))))

theorem countCheck_operands : parse ".count < 10" = .ok countCheck ∧
    ∃ tokens, Token.scan ".count < 10" = .ok tokens ∧
      [.int 10] = (operands tokens).filterMap literal? ∧
      ∀ x, Token.number x ∈ operands tokens → ∃ d : Token.Decimal, x = d.nearest ∧
        (OrdersWithNumbers (numberLiteral x) ↔ |d.value| < Binary64.overflow) := by
  obtain ⟨tokens, hscan, hliterals, hnumbers⟩ := numberOperands_spec parse_countCheck
  refine ⟨parse_countCheck, tokens, hscan, hliterals, fun x hx => ?_⟩
  obtain ⟨-, d, -, -, hx, -, -, horders⟩ := hnumbers x hx
  exact ⟨d, hx, horders⟩

/-- A number past every double is compared with null. -/
def hugeCheck : Predicate := ⟨"1e999 == null", .compare (.literal .null) .eq (.literal .null)⟩

/-- The number is accepted and equal to null in every context, and it has no order with the number one. -/
theorem hugeCheck_accepted :
    parse "1e999 == null" = .ok hugeCheck ∧
      Token.scan "1e999 == null" = .ok [.number (.infinite false), .comparison .eq, .word "null"] ∧
      Token.number (.infinite false) ∈ operands [.number (.infinite false), .comparison .eq, .word "null"] ∧
      (numberLiteral (.infinite false)).kind = .null ∧
      (∀ context, hugeCheck.evaluate context = .ok true) ∧
      ∀ context, (Expr.compare (.literal (.int 1)) .lt (.literal (numberLiteral (.infinite false)))).evaluate
        context = .error (.typeMismatch (.unordered .number .null)) := by
  have hscan : Token.scan "1e999 == null" =
      .ok [.number (.infinite false), .comparison .eq, .word "null"] := ok_of_toOption (by decide +kernel)
  have hderives : Derives .pipe [.number (.infinite false), .comparison .eq, .word "null"] hugeCheck.expr [] :=
    .pipe (.disjunction (.conjunction (.compare (.number _ _) (.null []))))
  exact ⟨parse_of_derives hscan hderives, hscan, List.mem_cons_self, rfl, fun context => rfl,
    fun context => rfl⟩

end Predicate

end HttpResource
