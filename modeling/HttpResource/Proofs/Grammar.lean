/-
# The grammar of predicates

What a predicate is made of, apart from how it is read: tokens at the front of a list derive a phrase with
its tree, and the rest is left. Chains of `and`, of `or` and of `| not` grow at the end, so they are
associated to the left. A path takes steps for as long as there is a further one.

The parser reads exactly what the grammar derives, with the same tree (`Predicate.parse_iff_derives`). It is
sound since each of its functions builds a derivation. It is complete since each of them goes on wherever a
derivation does, and a derivation of the whole list never stops before a token that goes on.

Key definitions: `Predicate.MoreSteps`, `Predicate.Derives`, `Predicate.Phrase.Ends`.
Key theorems: `Predicate.soundAt`, `Predicate.reads_of_derives`, `Predicate.ofTokens_eq_ok_iff`,
`Predicate.parse_iff_derives`.
-/
import HttpResource.Predicate

namespace HttpResource

namespace Predicate

/-! ### Paths -/

/-- A name or an index in brackets. -/
inductive BracketStep : List Token → Step → List Token → Prop
  | key (name : String) (rest : List Token) :
      BracketStep (.leftBracket :: .text name :: .rightBracket :: rest) (.key name) rest
  | index {x : Binary64} {i : Int} (rest : List Token) (whole : x.toInt? = some i) :
      BracketStep (.leftBracket :: .number x :: .rightBracket :: rest)
        (.index (max minIndex (min maxIndex i))) rest

/-- A step after a dot. Every word is a name there. -/
inductive DottedStep : List Token → Step → List Token → Prop
  | word (name : String) (rest : List Token) : DottedStep (.word name :: rest) (.key name) rest
  | text (name : String) (rest : List Token) : DottedStep (.text name :: rest) (.key name) rest
  | bracket {s r : List Token} {step : Step} (h : BracketStep s step r) : DottedStep s step r

/-- A step after another one: brackets need no dot. -/
inductive MoreStep : List Token → Step → List Token → Prop
  | dotted {s r : List Token} {step : Step} (h : DottedStep s step r) : MoreStep (.dot :: s) step r
  | bracket {s r : List Token} {step : Step} (h : BracketStep s step r) : MoreStep s step r

/-- As many further steps as there are. -/
inductive MoreSteps : List Token → Path → List Token → Prop
  | stop {r : List Token} (longest : ∀ step r', ¬MoreStep r step r') : MoreSteps r [] r
  | step {s m r : List Token} {step : Step} {path : Path} (first : MoreStep s step m)
      (more : MoreSteps m path r) : MoreSteps s (step :: path) r

/-- A word, a text or a bracket is next. -/
def startsStep : List Token → Bool
  | .word _ :: _ => true
  | .text _ :: _ => true
  | .leftBracket :: _ => true
  | _ => false

/-- A dot alone, or a dot with steps. -/
inductive PathTokens : List Token → Path → List Token → Prop
  | root {r : List Token} (alone : startsStep r = false) : PathTokens (.dot :: r) [] r
  | steps {s m r : List Token} {step : Step} {path : Path} (first : DottedStep s step m)
      (more : MoreSteps m path r) : PathTokens (.dot :: s) (step :: path) r

/-! ### Expressions -/

inductive Phrase
  | pipe
  | disjunction
  | conjunction
  | comparison
  | primary

/-- Tokens start with a phrase of an expression, and the rest is left. -/
inductive Derives : Phrase → List Token → Expr → List Token → Prop
  | pipe {s r : List Token} {e : Expr} (h : Derives .disjunction s e r) : Derives .pipe s e r
  | not {s r : List Token} {e : Expr} (h : Derives .pipe s e (.pipe :: .word "not" :: r)) :
      Derives .pipe s (.not e) r
  | disjunction {s r : List Token} {e : Expr} (h : Derives .conjunction s e r) :
      Derives .disjunction s e r
  | or {s m r : List Token} {left right : Expr} (hleft : Derives .disjunction s left (.word "or" :: m))
      (hright : Derives .conjunction m right r) : Derives .disjunction s (.or left right) r
  | conjunction {s r : List Token} {e : Expr} (h : Derives .comparison s e r) :
      Derives .conjunction s e r
  | and {s m r : List Token} {left right : Expr}
      (hleft : Derives .conjunction s left (.word "and" :: m))
      (hright : Derives .comparison m right r) : Derives .conjunction s (.and left right) r
  | comparison {s r : List Token} {e : Expr} (h : Derives .primary s e r) : Derives .comparison s e r
  | compare {s m r : List Token} {op : Comparison} {left right : Expr}
      (hleft : Derives .primary s left (.comparison op :: m)) (hright : Derives .primary m right r) :
      Derives .comparison s (.compare left op right) r
  | path {s r : List Token} {path : Path} (h : PathTokens s path r) : Derives .primary s (.path path) r
  | text (s : String) (r : List Token) : Derives .primary (.text s :: r) (.literal (.string s)) r
  | number (x : Binary64) (r : List Token) :
      Derives .primary (.number x :: r) (.literal (numberLiteral x)) r
  | true (r : List Token) : Derives .primary (.word "true" :: r) (.literal (.bool true)) r
  | false (r : List Token) : Derives .primary (.word "false" :: r) (.literal (.bool false)) r
  | null (r : List Token) : Derives .primary (.word "null" :: r) (.literal .null) r
  | group {s r : List Token} {e : Expr} (h : Derives .pipe s e (.rightParen :: r)) :
      Derives .primary (.leftParen :: s) e r

/-- An operand alone is an expression. -/
theorem Derives.of_primary {s r : List Token} {e : Expr} (h : Derives .primary s e r) :
    Derives .pipe s e r := .pipe (.disjunction (.conjunction (.comparison h)))

/-! ### Reading paths -/

theorem bracket_eq_ok_iff {tokens r : List Token} {step : Step} :
    bracket tokens = .ok (step, r) ↔ BracketStep (.leftBracket :: tokens) step r := by
  constructor
  · intro h
    unfold bracket at h
    split at h
    · unfold bracket.close at h
      split at h
      · cases h
        exact .key _ _
      · cases h
    · split at h
      · rename_i hwhole
        unfold bracket.close at h
        split at h
        · cases h
          exact .index _ hwhole
        · cases h
      · cases h
    · cases h
  · intro h
    cases h with
    | key name rest => rfl
    | @index x i rest whole =>
      simp only [bracket, whole]
      rfl

/-- The tokens that may go on a path. -/
def goesOnPath : List Token → Bool
  | .dot :: _ => true
  | .leftBracket :: _ => true
  | _ => false

theorem exists_of_goesOnPath {s : List Token} (h : goesOnPath s = true) :
    (∃ rest, s = .dot :: rest) ∨ ∃ rest, s = .leftBracket :: rest := by
  unfold goesOnPath at h
  split at h
  · exact .inl ⟨_, rfl⟩
  · exact .inr ⟨_, rfl⟩
  · cases h

theorem goesOnPath_of_moreStep {s r : List Token} {step : Step} (h : MoreStep s step r) :
    goesOnPath s = true := by
  cases h with
  | dotted h => rfl
  | bracket h => cases h <;> rfl

theorem length_le_of_bracketStep {s r : List Token} {step : Step} (h : BracketStep s step r) :
    r.length + 3 ≤ s.length := by
  cases h <;> simp

theorem length_le_of_dottedStep {s r : List Token} {step : Step} (h : DottedStep s step r) :
    r.length + 1 ≤ s.length := by
  cases h with
  | word name => simp
  | text name => simp
  | bracket h =>
    have := length_le_of_bracketStep h
    omega

theorem length_le_of_moreStep {s r : List Token} {step : Step} (h : MoreStep s step r) :
    r.length + 1 ≤ s.length := by
  cases h with
  | dotted h =>
    have := length_le_of_dottedStep h
    rw [List.length_cons]
    omega
  | bracket h =>
    have := length_le_of_bracketStep h
    omega

theorem length_le_of_moreSteps {s r : List Token} {path : Path} (h : MoreSteps s path r) :
    r.length ≤ s.length := by
  induction h with
  | stop => exact Nat.le_refl _
  | step first _ ih =>
    have := length_le_of_moreStep first
    omega

theorem moreSteps_of_moreStep {s m : List Token} {step : Step} (h : MoreStep s step m) (fuel : Nat) :
    moreSteps (fuel + 1) s = (moreSteps fuel m).map fun (path, r) => (step :: path, r) := by
  cases h with
  | dotted h =>
    cases h with
    | word name => rfl
    | text name => rfl
    | bracket h =>
      cases h with
      | key name => rfl
      | index rest whole => simp only [moreSteps, bracket, whole]; rfl
  | bracket h =>
    cases h with
    | key name => rfl
    | index rest whole => simp only [moreSteps, bracket, whole]; rfl

theorem moreSteps_of_end {s : List Token} (h : goesOnPath s = false) (fuel : Nat) :
    moreSteps fuel s = .ok ([], s) := by
  cases fuel with
  | zero => rfl
  | succ fuel =>
    unfold moreSteps
    split <;> first | rfl | cases h

/-- Where a path may go on, reading goes on with a step or fails. -/
theorem moreStep_of_goesOnPath {fuel : Nat} {s r : List Token} {path : Path} (hgoes : goesOnPath s = true)
    (h : moreSteps (fuel + 1) s = .ok (path, r)) : ∃ step m, MoreStep s step m := by
  unfold moreSteps at h
  dsimp only at h
  split at h
  · split at h
    · rename_i hbracket
      exact ⟨_, _, .dotted (.bracket (bracket_eq_ok_iff.mp hbracket))⟩
    · cases h
  · split at h
    · rename_i hbracket
      exact ⟨_, _, .bracket (bracket_eq_ok_iff.mp hbracket)⟩
    · cases h
  · exact ⟨_, _, .dotted (.word _ _)⟩
  · exact ⟨_, _, .dotted (.text _ _)⟩
  · cases h
  · rename_i _ hbracket _ _ hdot
    rcases exists_of_goesOnPath hgoes with ⟨rest, rfl⟩ | ⟨rest, rfl⟩
    · exact (hdot rest rfl).elim
    · exact (hbracket rest rfl).elim

theorem moreSteps_sound {fuel : Nat} {s r : List Token} {path : Path} (hfuel : s.length ≤ fuel)
    (h : moreSteps fuel s = .ok (path, r)) : MoreSteps s path r := by
  induction fuel generalizing s path with
  | zero =>
    -- no token is left, so there is no further step
    cases List.eq_nil_of_length_eq_zero (Nat.le_zero.mp hfuel)
    cases h
    exact .stop fun step r' hmore => by cases goesOnPath_of_moreStep hmore
  | succ fuel ih =>
    cases hgoes : goesOnPath s with
    | true =>
      obtain ⟨step, m, hmore⟩ := moreStep_of_goesOnPath hgoes h
      rw [moreSteps_of_moreStep hmore] at h
      have hlength := length_le_of_moreStep hmore
      cases hrest : moreSteps fuel m with
      | error e =>
        rw [hrest] at h
        cases h
      | ok result =>
        rw [hrest] at h
        cases h
        exact .step hmore (ih (by omega) hrest)
    | false =>
      rw [moreSteps_of_end hgoes] at h
      cases h
      exact .stop fun step r' hmore => by
        rw [goesOnPath_of_moreStep hmore] at hgoes
        cases hgoes

/-- Further steps are all read if nothing that may go on a path comes after them. -/
theorem moreSteps_complete {s r : List Token} {path : Path} (h : MoreSteps s path r)
    (hend : goesOnPath r = false) {fuel : Nat} (hfuel : s.length ≤ fuel) :
    moreSteps fuel s = .ok (path, r) := by
  induction h generalizing fuel with
  | stop => exact moreSteps_of_end hend fuel
  | step first _ ih =>
    have hlength := length_le_of_moreStep first
    obtain ⟨left, rfl⟩ : ∃ left, fuel = left + 1 := ⟨fuel - 1, by omega⟩
    rw [moreSteps_of_moreStep first, ih hend (by omega)]
    rfl

theorem exists_of_startsStep {s : List Token} (h : startsStep s = true) :
    (∃ w rest, s = .word w :: rest) ∨ (∃ w rest, s = .text w :: rest) ∨
      ∃ rest, s = .leftBracket :: rest := by
  unfold startsStep at h
  split at h
  · exact .inl ⟨_, _, rfl⟩
  · exact .inr (.inl ⟨_, _, rfl⟩)
  · exact .inr (.inr ⟨_, rfl⟩)
  · cases h

theorem exists_of_pathTokens {s r : List Token} {path : Path} (h : PathTokens s path r) :
    ∃ rest, s = .dot :: rest := by
  cases h with
  | root => exact ⟨_, rfl⟩
  | steps => exact ⟨_, rfl⟩

theorem pathAfterDot_of_not_startsStep {s : List Token} (h : startsStep s = false) :
    pathAfterDot s = .ok ([], s) := by
  unfold pathAfterDot
  split <;> first | rfl | cases h

theorem pathAfterDot_of_step {s m : List Token} {step : Step} (h : DottedStep s step m) :
    pathAfterDot s = (moreSteps m.length m).map fun (path, r) => (step :: path, r) := by
  cases h with
  | word name => rfl
  | text name => rfl
  | bracket h =>
    cases h with
    | key name => rfl
    | index rest whole => simp only [pathAfterDot, bracket, whole]; rfl

theorem pathAfterDot_sound {s r : List Token} {path : Path} (h : pathAfterDot s = .ok (path, r)) :
    PathTokens (.dot :: s) path r := by
  have hstep : startsStep s = true → ∃ step m, DottedStep s step m := by
    intro hstarts
    rcases exists_of_startsStep hstarts with ⟨w, rest, rfl⟩ | ⟨w, rest, rfl⟩ | ⟨rest, rfl⟩
    · exact ⟨_, _, .word w rest⟩
    · exact ⟨_, _, .text w rest⟩
    · cases hbracket : bracket rest with
      | error e =>
        simp only [pathAfterDot, hbracket] at h
        cases h
      | ok result => exact ⟨_, _, .bracket (bracket_eq_ok_iff.mp hbracket)⟩
  cases hstarts : startsStep s with
  | true =>
    obtain ⟨step, m, hfirst⟩ := hstep hstarts
    rw [pathAfterDot_of_step hfirst] at h
    cases hrest : moreSteps m.length m with
    | error e =>
      rw [hrest] at h
      cases h
    | ok result =>
      rw [hrest] at h
      cases h
      exact .steps hfirst (moreSteps_sound (Nat.le_refl _) hrest)
  | false =>
    rw [pathAfterDot_of_not_startsStep hstarts] at h
    cases h
    exact .root hstarts

theorem pathAfterDot_complete {s r : List Token} {path : Path} (h : PathTokens (.dot :: s) path r)
    (hend : goesOnPath r = false) : pathAfterDot s = .ok (path, r) := by
  cases h with
  | root alone => exact pathAfterDot_of_not_startsStep alone
  | steps first more =>
    rw [pathAfterDot_of_step first, moreSteps_complete more hend (Nat.le_refl _)]
    rfl

/-! ### What is read is derived -/

theorem negations_sound {s m r : List Token} {e e' : Expr} (hread : Derives .pipe s e m)
    (h : negations e m = .ok (e', r)) : Derives .pipe s e' r := by
  fun_induction negations e m with
  | case1 e rest ih => exact ih (.not hread) h
  | case2 => cases h
  | case3 => cases h
  | case4 =>
    cases h
    exact hread

/-- What the functions of the parser read with some fuel is derived by the grammar. -/
structure SoundAt (fuel : Nat) : Prop where
  pipe : ∀ {s r e}, pipe fuel s = .ok (e, r) → Derives .pipe s e r
  disjunction : ∀ {s r e}, disjunction fuel s = .ok (e, r) → Derives .disjunction s e r
  moreDisjuncts : ∀ {s m r e e'}, Derives .disjunction s e m → moreDisjuncts fuel e m = .ok (e', r) →
    Derives .disjunction s e' r
  conjunction : ∀ {s r e}, conjunction fuel s = .ok (e, r) → Derives .conjunction s e r
  moreConjuncts : ∀ {s m r e e'}, Derives .conjunction s e m → moreConjuncts fuel e m = .ok (e', r) →
    Derives .conjunction s e' r
  comparison : ∀ {s r e}, comparison fuel s = .ok (e, r) → Derives .comparison s e r
  primary : ∀ {s r e}, primary fuel s = .ok (e, r) → Derives .primary s e r

theorem primary_sound {fuel : Nat} (hpipe : ∀ {s r e}, pipe fuel s = .ok (e, r) → Derives .pipe s e r)
    {s r : List Token} {e : Expr} (h : primary (fuel + 1) s = .ok (e, r)) : Derives .primary s e r := by
  unfold primary at h
  split at h
  · rename_i rest
    cases hpath : pathAfterDot rest with
    | error e =>
      rw [hpath] at h
      cases h
    | ok result =>
      rw [hpath] at h
      cases h
      exact .path (pathAfterDot_sound hpath)
  · cases h
    exact .text _ _
  · cases h
    exact .number _ _
  · split at h
    · cases h
      exact .true _
    · cases h
      exact .false _
    · cases h
      exact .null _
    · cases h
  · split at h
    · rename_i hgroup
      cases h
      exact .group (hpipe hgroup)
    · cases h
    · cases h
  · cases h

theorem soundAt (fuel : Nat) : SoundAt fuel := by
  induction fuel with
  | zero =>
    exact {
      pipe := nofun
      disjunction := nofun
      moreDisjuncts hread h := by
        cases h
        exact hread
      conjunction := nofun
      moreConjuncts hread h := by
        cases h
        exact hread
      comparison := nofun
      primary := nofun }
  | succ fuel ih =>
    exact {
      pipe h := by
        unfold Predicate.pipe at h
        split at h
        · rename_i hfirst
          exact negations_sound (.pipe (ih.disjunction hfirst)) h
        · cases h
      disjunction h := by
        unfold Predicate.disjunction at h
        split at h
        · rename_i hfirst
          exact ih.moreDisjuncts (.disjunction (ih.conjunction hfirst)) h
        · cases h
      moreDisjuncts hread h := by
        unfold Predicate.moreDisjuncts at h
        split at h
        · split at h
          · rename_i hor
            subst hor
            split at h
            · rename_i hright
              exact ih.moreDisjuncts (.or hread (ih.conjunction hright)) h
            · cases h
          · cases h
            exact hread
        · cases h
          exact hread
      conjunction h := by
        unfold Predicate.conjunction at h
        split at h
        · rename_i hfirst
          exact ih.moreConjuncts (.conjunction (ih.comparison hfirst)) h
        · cases h
      moreConjuncts hread h := by
        unfold Predicate.moreConjuncts at h
        split at h
        · split at h
          · rename_i hand
            subst hand
            split at h
            · rename_i hright
              exact ih.moreConjuncts (.and hread (ih.comparison hright)) h
            · cases h
          · cases h
            exact hread
        · cases h
          exact hread
      comparison h := by
        unfold Predicate.comparison at h
        split at h
        · cases h
        · rename_i hleft
          split at h
          · rename_i hright
            cases h
            exact .compare (ih.primary hleft) (ih.primary hright)
          · cases h
        · rename_i hleft
          cases h
          exact .comparison (ih.primary hleft)
      primary := primary_sound ih.pipe }

/-! ### What is derived is read -/

theorem length_le_of_pathTokens {s r : List Token} {path : Path} (h : PathTokens s path r) :
    r.length + 1 ≤ s.length := by
  cases h with
  | root => exact Nat.le_refl _
  | steps first more =>
    have hfirst := length_le_of_dottedStep first
    have hmore := length_le_of_moreSteps more
    rw [List.length_cons]
    omega

theorem length_le_of_derives {p : Phrase} {s r : List Token} {e : Expr} (h : Derives p s e r) :
    r.length + 1 ≤ s.length := by
  induction h with
  | path h => exact length_le_of_pathTokens h
  | _ => grind [List.length_cons]

/-- The tokens that, next after a phrase, may belong to it. Negations, and further operands of the phrase's
own operator, are left out: the parser looks for them where the phrase has been read. -/
def Phrase.goesOn : Phrase → Token → Bool
  | _, .dot => true
  | _, .leftBracket => true
  | .primary, _ => false
  | _, .comparison _ => true
  | .disjunction, .word w => w = "and"
  | .pipe, .word w => w = "and" || w = "or"
  | _, _ => false

/-- A phrase ends before these tokens. -/
def Phrase.Ends (p : Phrase) (rest : List Token) : Prop := ∀ t ∈ rest.head?, p.goesOn t = false

/-- What the parser makes of a phrase that ends. Where the phrase is a chain, the parser is at the point of
looking for its next operand. -/
def Phrase.Reads : Phrase → List Token → Expr → List Token → Prop
  | .pipe, s, e, r => ∀ fuel, 6 * s.length + 5 ≤ fuel → Predicate.pipe fuel s = negations e r
  | .disjunction, s, e, r => ∀ fuel, 6 * s.length + 4 ≤ fuel →
      ∃ left, 6 * r.length + 3 ≤ left ∧ Predicate.disjunction fuel s = moreDisjuncts left e r
  | .conjunction, s, e, r => ∀ fuel, 6 * s.length + 3 ≤ fuel →
      ∃ left, 6 * r.length + 2 ≤ left ∧ Predicate.conjunction fuel s = moreConjuncts left e r
  | .comparison, s, e, r => ∀ fuel, 6 * s.length + 2 ≤ fuel →
      Predicate.comparison fuel s = .ok (e, r)
  | .primary, s, e, r => ∀ fuel, 6 * s.length + 1 ≤ fuel → Predicate.primary fuel s = .ok (e, r)

namespace Phrase.Ends

variable {r : List Token}

/-- What ends a phrase ends every phrase that no more tokens belong to. -/
theorem weaken {p q : Phrase} (h : p.Ends r) (hless : ∀ t, p.goesOn t = false → q.goesOn t = false) :
    q.Ends r := fun t ht => hless t (h t ht)

theorem disjunction (h : Phrase.pipe.Ends r) : Phrase.disjunction.Ends r :=
  h.weaken fun t ht => by cases t <;> simp_all [goesOn]

theorem conjunction (h : Phrase.disjunction.Ends r) : Phrase.conjunction.Ends r :=
  h.weaken fun t ht => by cases t <;> simp_all [goesOn]

theorem comparison (h : Phrase.conjunction.Ends r) : Phrase.comparison.Ends r :=
  h.weaken fun t ht => by cases t <;> simp_all [goesOn]

theorem primary (h : Phrase.comparison.Ends r) : Phrase.primary.Ends r :=
  h.weaken fun t ht => by cases t <;> simp_all [goesOn]

end Phrase.Ends

theorem Phrase.ends_cons {p : Phrase} {t : Token} {rest : List Token} (h : p.goesOn t = false) :
    p.Ends (t :: rest) := by
  rintro u hu
  cases hu
  exact h

theorem goesOnPath_of_ends {r : List Token} (h : Phrase.primary.Ends r) : goesOnPath r = false := by
  cases hgoes : goesOnPath r with
  | false => rfl
  | true => rcases exists_of_goesOnPath hgoes with ⟨rest, rfl⟩ | ⟨rest, rfl⟩ <;> cases h _ rfl

theorem moreConjuncts_of_ends {fuel : Nat} {e : Expr} {r : List Token} (h : Phrase.disjunction.Ends r) :
    moreConjuncts fuel e r = .ok (e, r) := by
  cases fuel with
  | zero => rfl
  | succ fuel =>
    unfold moreConjuncts
    split
    · rename_i w rest
      have hand : w ≠ "and" := by
        rintro rfl
        cases h _ rfl
      rw [if_neg hand]
    · rfl

theorem moreDisjuncts_of_ends {fuel : Nat} {e : Expr} {r : List Token} (h : Phrase.pipe.Ends r) :
    moreDisjuncts fuel e r = .ok (e, r) := by
  cases fuel with
  | zero => rfl
  | succ fuel =>
    unfold moreDisjuncts
    split
    · rename_i w rest
      have hor : w ≠ "or" := by
        rintro rfl
        cases h _ rfl
      rw [if_neg hor]
    · rfl

theorem reads_of_derives {p : Phrase} {s r : List Token} {e : Expr} (h : Derives p s e r)
    (hends : p.Ends r) : p.Reads s e r := by
  -- An operand inside of a phrase ends too: before the phrase's own word, or where the phrase ends.
  induction h with
  | pipe h ih =>
    intro fuel hfuel
    obtain ⟨f, rfl⟩ : ∃ f, fuel = f + 1 := ⟨fuel - 1, by omega⟩
    obtain ⟨left, -, hread⟩ := ih hends.disjunction f (by omega)
    rw [Predicate.pipe, hread, moreDisjuncts_of_ends hends]
  | not h ih =>
    intro fuel hfuel
    rw [ih (Phrase.ends_cons rfl) fuel hfuel, negations, if_pos rfl]
  | disjunction h ih =>
    intro fuel hfuel
    obtain ⟨f, rfl⟩ : ∃ f, fuel = f + 1 := ⟨fuel - 1, by omega⟩
    have hlength := length_le_of_derives h
    obtain ⟨left, -, hread⟩ := ih hends.conjunction f (by omega)
    refine ⟨f, by omega, ?_⟩
    rw [Predicate.disjunction, hread, moreConjuncts_of_ends hends]
  | or hleft hright ihleft ihright =>
    intro fuel hfuel
    have hlength := length_le_of_derives hright
    obtain ⟨left, hl, hread⟩ := ihleft (Phrase.ends_cons rfl) fuel hfuel
    rw [List.length_cons] at hl
    obtain ⟨f, rfl⟩ : ∃ f, left = f + 1 := ⟨left - 1, by omega⟩
    obtain ⟨_, -, hoperand⟩ := ihright hends.conjunction f (by omega)
    refine ⟨f, by omega, ?_⟩
    rw [hread, moreDisjuncts, if_pos rfl, hoperand, moreConjuncts_of_ends hends]
  | conjunction h ih =>
    intro fuel hfuel
    obtain ⟨f, rfl⟩ : ∃ f, fuel = f + 1 := ⟨fuel - 1, by omega⟩
    have hlength := length_le_of_derives h
    refine ⟨f, by omega, ?_⟩
    rw [Predicate.conjunction, ih hends.comparison f (by omega)]
  | and hleft hright ihleft ihright =>
    intro fuel hfuel
    have hlength := length_le_of_derives hright
    obtain ⟨left, hl, hread⟩ := ihleft (Phrase.ends_cons rfl) fuel hfuel
    rw [List.length_cons] at hl
    obtain ⟨f, rfl⟩ : ∃ f, left = f + 1 := ⟨left - 1, by omega⟩
    refine ⟨f, by omega, ?_⟩
    rw [hread, moreConjuncts, if_pos rfl, ihright hends.comparison f (by omega)]
  | comparison h ih =>
    intro fuel hfuel
    obtain ⟨f, rfl⟩ : ∃ f, fuel = f + 1 := ⟨fuel - 1, by omega⟩
    rw [Predicate.comparison, ih hends.primary f (by omega)]
    split
    · rename_i heq
      cases heq
    · rename_i heq
      cases heq
      cases hends _ rfl
    · rename_i heq
      cases heq
      rfl
  | compare hleft hright ihleft ihright =>
    intro fuel hfuel
    obtain ⟨f, rfl⟩ : ∃ f, fuel = f + 1 := ⟨fuel - 1, by omega⟩
    have hlength := length_le_of_derives hleft
    rw [List.length_cons] at hlength
    rw [Predicate.comparison, ihleft (Phrase.ends_cons rfl) f (by omega)]
    simp only [ihright hends.primary f (by omega)]
  | path h =>
    intro fuel hfuel
    obtain ⟨f, rfl⟩ : ∃ f, fuel = f + 1 := ⟨fuel - 1, by omega⟩
    obtain ⟨rest, rfl⟩ := exists_of_pathTokens h
    rw [Predicate.primary, pathAfterDot_complete h (goesOnPath_of_ends hends)]
    rfl
  | group h ih =>
    intro fuel hfuel
    obtain ⟨f, rfl⟩ : ∃ f, fuel = f + 1 := ⟨fuel - 1, by omega⟩
    rw [List.length_cons] at hfuel
    rw [Predicate.primary, ih (Phrase.ends_cons rfl) f (by omega)]
    rfl
  | _ =>
    intro fuel hfuel
    obtain ⟨f, rfl⟩ : ∃ f, fuel = f + 1 := ⟨fuel - 1, by omega⟩
    rfl

/-! ### Expressions as wholes -/

/-- Tokens are read as an expression exactly if the grammar derives it from all of them. -/
theorem ofTokens_eq_ok_iff {tokens : List Token} {e : Expr} :
    Expr.ofTokens tokens = .ok e ↔ Derives .pipe tokens e [] := by
  constructor
  · intro h
    unfold Expr.ofTokens at h
    split at h
    · cases h
    · cases hread : pipe (enough tokens) tokens with
      | error why =>
        rw [hread] at h
        cases h
      | ok result =>
        obtain ⟨e', r⟩ := result
        rw [hread] at h
        cases r with
        | nil =>
          cases h
          exact (soundAt _).pipe hread
        | cons t r => cases h
  · intro h
    have hlength := length_le_of_derives h
    have hnonempty : tokens.isEmpty = false := by
      cases tokens with
      | nil => cases hlength
      | cons t rest => rfl
    have hends : Phrase.pipe.Ends [] := nofun
    have hread : pipe (enough tokens) tokens = negations e [] :=
      reads_of_derives h hends _ (by unfold enough; omega)
    unfold Expr.ofTokens
    rw [hnonempty, hread]
    rfl

/-- The grammar is not ambiguous. -/
theorem derives_unique {tokens : List Token} {e e' : Expr} (h : Derives .pipe tokens e [])
    (h' : Derives .pipe tokens e' []) : e = e' := by
  have hread := ofTokens_eq_ok_iff.mpr h
  rw [ofTokens_eq_ok_iff.mpr h'] at hread
  cases hread
  rfl

/-- A text is read as an expression exactly if its tokens are. -/
theorem exprParse_eq_ok_iff {source : String} {e : Expr} :
    Expr.parse source = .ok e ↔
      ∃ tokens, Token.scan source = .ok tokens ∧ Expr.ofTokens tokens = .ok e := by
  unfold Expr.parse tokens
  cases Token.scan source with
  | error why =>
    constructor
    · nofun
    · rintro ⟨_, ⟨⟩, _⟩
  | ok tokens =>
    constructor
    · intro h
      exact ⟨tokens, rfl, h⟩
    · rintro ⟨_, ⟨⟩, h⟩
      exact h

/-- **The parser accepts exactly its grammar.** It returns a tree exactly if the text has tokens and the
grammar derives the tree from all of them, and in every other case the expression is malformed. -/
theorem parse_iff_derives (source : String) :
    (∀ p, parse source = .ok p ↔
      p.source = source ∧ ∃ tokens, Token.scan source = .ok tokens ∧ Derives .pipe tokens p.expr []) ∧
      ((∃ p, parse source = .ok p) ∨ ∃ why, parse source = .error (.malformed source why)) := by
  unfold parse
  cases hread : Expr.parse source with
  | error why =>
    refine ⟨fun p => ⟨nofun, ?_⟩, .inr ⟨why, rfl⟩⟩
    rintro ⟨-, tokens, hscan, hderives⟩
    have hok := exprParse_eq_ok_iff.mpr ⟨tokens, hscan, ofTokens_eq_ok_iff.mpr hderives⟩
    rw [hread] at hok
    cases hok
  | ok e =>
    refine ⟨fun p => ⟨fun h => ?_, ?_⟩, .inl ⟨_, rfl⟩⟩
    · cases h
      obtain ⟨tokens, hscan, htokens⟩ := exprParse_eq_ok_iff.mp hread
      exact ⟨rfl, tokens, hscan, ofTokens_eq_ok_iff.mp htokens⟩
    · rintro ⟨rfl, tokens, hscan, hderives⟩
      have hok := exprParse_eq_ok_iff.mpr ⟨tokens, hscan, ofTokens_eq_ok_iff.mpr hderives⟩
      rw [hread] at hok
      cases hok
      rfl

end Predicate

end HttpResource
