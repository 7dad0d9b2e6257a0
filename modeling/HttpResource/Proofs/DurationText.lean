/-
# The grammar of durations

A duration is a run of components in any order, each a number and a unit. A number has digits with at most
one point among them, and at least one digit. The point may stand first or last, so nothing but the unit
ends a number, and `m` ends where `s` follows only because no component starts with a letter.

The reader accepts exactly the texts that are not blank and written so after trimming, and the components
that it reads are the only ones that a text is written with (`Duration.parse_eq_ok_iff`,
`Duration.written_unique`).

Key definitions: `Duration.NumberText`, `Duration.UnitText`, `Duration.ComponentText`, `Duration.Written`.
Key theorems: `Duration.numberText_iff`, `Duration.unit?_append`, `Duration.component_eq_ok_iff`,
`Duration.components_eq_ok_iff`, `Duration.parse_eq_ok_iff`.
-/
import HttpResource.Duration
import Mathlib.Algebra.Group.Nat.Defs
import Mathlib.Data.List.TakeWhile

namespace HttpResource

namespace Duration

/-! ### The grammar -/

/-- A number, with its digits before and after the point. -/
inductive NumberText : List Char → List Char → List Char → Prop
  | whole {ds : List Char} (digits : ∀ c ∈ ds, isDigit c = true) (some : ds ≠ []) : NumberText ds ds []
  | pointed {ds fs : List Char} (digits : ∀ c ∈ ds, isDigit c = true)
      (places : ∀ c ∈ fs, isDigit c = true) (some : ds ≠ [] ∨ fs ≠ []) : NumberText (ds ++ '.' :: fs) ds fs

/-- The names of the units. Microseconds have three. -/
inductive UnitText : List Char → TimeUnit → Prop
  | hour : UnitText ['h'] .hour
  | minute : UnitText ['m'] .minute
  | second : UnitText ['s'] .second
  | millisecond : UnitText ['m', 's'] .millisecond
  | plainMicrosecond : UnitText ['u', 's'] .microsecond
  | microsecond : UnitText ['\u00b5', 's'] .microsecond
  | greekMicrosecond : UnitText ['\u03bc', 's'] .microsecond
  | nanosecond : UnitText ['n', 's'] .nanosecond

/-- A number whose whole part has 128 bits, and its unit. -/
inductive ComponentText : List Char → Component → Prop
  | mk {number name whole fraction : List Char} {unit : TimeUnit} (hnumber : NumberText number whole fraction)
      (hunit : UnitText name unit) (fits : digitsValue whole < 2 ^ 128) :
      ComponentText (number ++ name) ⟨whole, fraction, unit⟩

/-- A run of components. -/
inductive Written : List Char → List Component → Prop
  | nil : Written [] []
  | cons {s t : List Char} {c : Component} {cs : List Component} (first : ComponentText s c)
      (rest : Written t cs) : Written (s ++ t) (c :: cs)

/-! ### Numbers -/

/-- The characters of numbers. -/
def isNumeral (c : Char) : Bool := isDigit c || c = '.'

theorem isNumeral_of_isDigit {c : Char} (h : isDigit c = true) : isNumeral c = true := by
  simp [isNumeral, h]

theorem ne_point_of_isDigit {c : Char} (h : isDigit c = true) : c ≠ '.' := by
  rintro rfl
  revert h
  decide

theorem isDigit_of_isNumeral {c : Char} (h : isNumeral c = true) (hpoint : c ≠ '.') : isDigit c = true := by
  simpa [isNumeral, hpoint] using h

/-- The digits before the first point. -/
def wholeOf (number : List Char) : List Char := number.takeWhile (· ≠ '.')

/-- What follows the first point. -/
def fractionOf (number : List Char) : List Char := (number.dropWhile (· ≠ '.')).drop 1

theorem wholeOf_append {ds : List Char} (h : ∀ c ∈ ds, isDigit c = true) (rest : List Char) :
    wholeOf (ds ++ rest) = ds ++ wholeOf rest ∧ fractionOf (ds ++ rest) = fractionOf rest := by
  have hpoint : ∀ c ∈ ds, decide (c ≠ '.') = true := fun c hc => by
    simpa using ne_point_of_isDigit (h c hc)
  unfold wholeOf fractionOf
  rw [List.takeWhile_append_of_pos hpoint, List.dropWhile_append_of_pos hpoint]
  exact ⟨rfl, rfl⟩

theorem parts_of_numberText {number whole fraction : List Char} (h : NumberText number whole fraction) :
    (∀ c ∈ number, isNumeral c = true) ∧ whole = wholeOf number ∧ fraction = fractionOf number ∧
      ¬(whole = [] ∧ fraction = []) ∧ '.' ∉ fraction := by
  cases h with
  | whole digits some =>
    obtain ⟨hwhole, hfraction⟩ := wholeOf_append digits []
    rw [List.append_nil] at hwhole hfraction
    refine ⟨fun c hc => isNumeral_of_isDigit (digits c hc), ?_, ?_, ?_, List.not_mem_nil⟩
    · rw [hwhole]
      simp [wholeOf]
    · rw [hfraction]
      rfl
    · exact fun h => some h.1
  | pointed digits places some =>
    obtain ⟨hwhole, hfraction⟩ := wholeOf_append digits ('.' :: fraction)
    refine ⟨?_, ?_, ?_, ?_, fun hpoint => ne_point_of_isDigit (places _ hpoint) rfl⟩
    · intro c hc
      rcases List.mem_append.mp hc with hc | hc
      · exact isNumeral_of_isDigit (digits c hc)
      · rcases List.mem_cons.mp hc with rfl | hc
        · rfl
        · exact isNumeral_of_isDigit (places c hc)
    · rw [hwhole]
      simp [wholeOf]
    · rw [hfraction]
      rfl
    · exact not_and_or.mpr some

theorem numberText_of_parts {number : List Char} (hall : ∀ c ∈ number, isNumeral c = true)
    (hsome : ¬(wholeOf number = [] ∧ fractionOf number = [])) (hpoint : '.' ∉ fractionOf number) :
    NumberText number (wholeOf number) (fractionOf number) := by
  have hsplit : wholeOf number ++ number.dropWhile (· ≠ '.') = number :=
    List.takeWhile_append_dropWhile
  have hdigit : ∀ c ∈ number, c ≠ '.' → isDigit c = true :=
    fun c hc hne => isDigit_of_isNumeral (hall c hc) hne
  have hdigits : ∀ c ∈ wholeOf number, isDigit c = true := by
    intro c hc
    have hne : c ≠ '.' := by simpa using List.mem_takeWhile_imp hc
    exact hdigit c ((List.takeWhile_prefix _).subset hc) hne
  cases hrest : number.dropWhile (· ≠ '.') with
  | nil =>
    have hfraction : fractionOf number = [] := by rw [fractionOf, hrest, List.drop_nil]
    rw [hrest, List.append_nil] at hsplit
    rw [hfraction, hsplit]
    rw [hsplit] at hdigits
    refine .whole hdigits fun hempty => hsome ⟨?_, hfraction⟩
    rw [hsplit, hempty]
  | cons p fs =>
    have hp : p = '.' := by
      have hhead := List.head?_dropWhile_not (· ≠ '.') number
      rw [hrest] at hhead
      simpa using hhead
    have hfraction : fractionOf number = fs := by
      rw [fractionOf, hrest, List.drop_succ_cons, List.drop_zero]
    rw [hrest, hp] at hsplit
    rw [hfraction] at hsome hpoint ⊢
    rw [← hsplit] at hdigit
    have hplaces : ∀ c ∈ fs, isDigit c = true := by
      intro c hc
      refine hdigit c (List.mem_append_right _ (List.mem_cons_of_mem _ hc)) ?_
      rintro rfl
      exact hpoint hc
    have hnumber := NumberText.pointed hdigits hplaces (not_and_or.mp hsome)
    rwa [hsplit] at hnumber

/-- A number is a run of numerals with a digit and with no point after the first one. -/
theorem numberText_iff {number whole fraction : List Char} : NumberText number whole fraction ↔
    (∀ c ∈ number, isNumeral c = true) ∧ whole = wholeOf number ∧ fraction = fractionOf number ∧
      ¬(whole = [] ∧ fraction = []) ∧ '.' ∉ fraction := by
  constructor
  · exact parts_of_numberText
  · rintro ⟨hall, rfl, rfl, hsome, hpoint⟩
    exact numberText_of_parts hall hsome hpoint

theorem numberText_ne_nil {number whole fraction : List Char} (h : NumberText number whole fraction) :
    number ≠ [] := by
  cases h with
  | whole _ some => exact some
  | pointed => simp

/-! ### Units -/

theorem unitText_iff_mem {name : List Char} {unit : TimeUnit} :
    UnitText name unit ↔ (name, unit) ∈ spellings := by
  constructor
  · intro h
    cases h <;> simp [spellings]
  · intro h
    simp only [spellings, List.mem_cons, Prod.mk.injEq, List.not_mem_nil, or_false] at h
    rcases h with ⟨rfl, rfl⟩ | ⟨rfl, rfl⟩ | ⟨rfl, rfl⟩ | ⟨rfl, rfl⟩ | ⟨rfl, rfl⟩ | ⟨rfl, rfl⟩ |
      ⟨rfl, rfl⟩ | ⟨rfl, rfl⟩
    · exact .nanosecond
    · exact .plainMicrosecond
    · exact .microsecond
    · exact .greekMicrosecond
    · exact .millisecond
    · exact .hour
    · exact .minute
    · exact .second

/-- The end of the text, or a numeral, comes next. -/
def Stops (rest : List Char) : Prop := ∀ c ∈ rest.head?, isNumeral c = true

/-- A unit is read up to the next component. No unit goes on with a numeral, so the longest one is right. -/
theorem unit?_append {name : List Char} {unit : TimeUnit} (h : UnitText name unit) {rest : List Char}
    (hrest : Stops rest) : unit? (name ++ rest) = some (unit, rest) := by
  cases h with
  | minute =>
    cases rest with
    | nil => rfl
    | cons c rest =>
      have hc : 's' ≠ c := by
        rintro rfl
        have hs := hrest 's' rfl
        revert hs
        decide
      simp [unit?, spellings, hc]
  | _ => rfl

theorem unitText_of_unit? {s rest : List Char} {unit : TimeUnit} (h : unit? s = some (unit, rest)) :
    ∃ name, UnitText name unit ∧ s = name ++ rest := by
  obtain ⟨⟨name, unit'⟩, hmem, heq⟩ := List.exists_of_findSome?_eq_some h
  by_cases hname : name.isPrefixOf s
  · simp only [hname, if_true, Option.some.injEq, Prod.mk.injEq] at heq
    obtain ⟨rfl, rfl⟩ := heq
    refine ⟨name, unitText_iff_mem.mpr hmem, ?_⟩
    exact List.prefix_iff_eq_append.mp (List.isPrefixOf_iff_prefix.mp hname) |>.symm
  · simp [hname] at heq

/-- No unit starts with a numeral. -/
theorem head_of_unitText {name : List Char} {unit : TimeUnit} (h : UnitText name unit) :
    ∃ c tail, name = c :: tail ∧ isNumeral c = false := by
  cases h <;> exact ⟨_, _, rfl, by decide⟩

/-! ### Components -/

section

variable {text s rest : List Char} {c : Component} {cs : List Component}

/-- The number of a component ends at its unit. -/
theorem takeWhile_isNumeral {number name : List Char} {unit : TimeUnit}
    (hnumber : ∀ c ∈ number, isNumeral c = true) (hunit : UnitText name unit) (rest : List Char) :
    (number ++ (name ++ rest)).takeWhile isNumeral = number := by
  obtain ⟨c, tail, rfl, hc⟩ := head_of_unitText hunit
  rw [List.takeWhile_append_of_pos hnumber, List.cons_append, List.takeWhile_cons, hc]
  simp

theorem component_eq (text rest : List Char) : component text rest =
    (let number := rest.takeWhile isNumeral
    if ((wholeOf number).isEmpty && (fractionOf number).isEmpty) || (fractionOf number).contains '.' then
      .error (.expectedNumber (Text.byteLength text - Text.byteLength rest) (String.ofList text))
    else
      match unit? (rest.drop number.length) with
      | none => .error (if (rest.drop number.length).isEmpty then .missingUnit (String.ofList text)
          else .unknownUnit (String.ofList text))
      | some (unit, rest) =>
        if limit < digitsValue (wholeOf number) then .error (.numberTooLarge (String.ofList text))
        else .ok (⟨wholeOf number, fractionOf number, unit⟩, rest)) := rfl

theorem limit_lt_iff (n : Nat) : limit < n ↔ ¬n < 2 ^ 128 := by
  have hlimit : limit = 2 ^ 128 - 1 := rfl
  omega

theorem component_append (h : ComponentText s c) (hrest : Stops rest) :
    component text (s ++ rest) = .ok (c, rest) := by
  cases h with
  | @mk number name whole fraction unit hnumber hunit fits =>
    obtain ⟨hall, rfl, rfl, hsome, hpoint⟩ := numberText_iff.mp hnumber
    have htake := takeWhile_isNumeral hall hunit rest
    have hdrop : (number ++ (name ++ rest)).drop number.length = name ++ rest := List.drop_left
    have hgood : (((wholeOf number).isEmpty && (fractionOf number).isEmpty) ||
        (fractionOf number).contains '.') = false := by
      rw [Bool.or_eq_false_iff, Bool.and_eq_false_iff]
      refine ⟨?_, by simpa using hpoint⟩
      rcases not_and_or.mp hsome with h | h
      · exact .inl (by simpa using h)
      · exact .inr (by simpa using h)
    have hfits : ¬limit < digitsValue (wholeOf number) := by
      rw [limit_lt_iff]
      exact not_not.mpr fits
    rw [List.append_assoc, component_eq]
    dsimp only
    rw [htake, hdrop, unit?_append hunit hrest, hgood]
    simp only [Bool.false_eq_true, if_false, hfits]

theorem componentText_of_component (h : component text s = .ok (c, rest)) :
    ∃ front, ComponentText front c ∧ s = front ++ rest := by
  rw [component_eq] at h
  dsimp only at h
  by_cases hbad : (((wholeOf (s.takeWhile isNumeral)).isEmpty &&
      (fractionOf (s.takeWhile isNumeral)).isEmpty) ||
      (fractionOf (s.takeWhile isNumeral)).contains '.') = true
  · rw [if_pos hbad] at h
    cases h
  · rw [if_neg hbad] at h
    cases hunit : unit? (s.drop (s.takeWhile isNumeral).length) with
    | none =>
      rw [hunit] at h
      cases h
    | some result =>
      obtain ⟨unit, after⟩ := result
      rw [hunit] at h
      dsimp only at h
      by_cases hlarge : limit < digitsValue (wholeOf (s.takeWhile isNumeral))
      · rw [if_pos hlarge] at h
        cases h
      · rw [if_neg hlarge] at h
        cases h
        obtain ⟨name, hname, hsplit⟩ := unitText_of_unit? hunit
        rw [Bool.not_eq_true, Bool.or_eq_false_iff] at hbad
        have hnumber : NumberText (s.takeWhile isNumeral) (wholeOf (s.takeWhile isNumeral))
            (fractionOf (s.takeWhile isNumeral)) := by
          refine numberText_iff.mpr ⟨fun c hc => List.mem_takeWhile_imp hc, rfl, rfl, ?_, ?_⟩
          · rintro ⟨hwhole, hfraction⟩
            rw [hwhole, hfraction] at hbad
            exact absurd hbad.1 (by decide)
          · simpa using hbad.2
        have hfits : digitsValue (wholeOf (s.takeWhile isNumeral)) < 2 ^ 128 := by
          rw [limit_lt_iff] at hlarge
          exact not_not.mp hlarge
        refine ⟨_, .mk hnumber hname hfits, ?_⟩
        calc s = s.takeWhile isNumeral ++ s.drop (s.takeWhile isNumeral).length :=
              List.prefix_iff_eq_append.mp (List.takeWhile_prefix _) |>.symm
          _ = s.takeWhile isNumeral ++ (name ++ rest) := by rw [hsplit]
          _ = s.takeWhile isNumeral ++ name ++ rest := (List.append_assoc ..).symm

theorem componentText_ne_nil (h : ComponentText s c) : s ≠ [] := by
  cases h with
  | mk hnumber =>
    have := numberText_ne_nil hnumber
    simp [this]

/-- A component starts with a numeral, and so does a run of them. -/
theorem stops_of_componentText (h : ComponentText s c) (rest : List Char) : Stops (s ++ rest) := by
  cases h with
  | mk hnumber =>
    have hne := numberText_ne_nil hnumber
    obtain ⟨d, tail, rfl⟩ := List.exists_cons_of_ne_nil hne
    intro x hx
    cases hx
    exact (numberText_iff.mp hnumber).1 _ List.mem_cons_self

theorem eq_nil_of_written (h : Written s []) : s = [] := by
  cases h
  rfl

theorem stops_of_written (h : Written s cs) : Stops s := by
  cases h with
  | nil => nofun
  | cons first rest => exact stops_of_componentText first _

/-! ### Texts -/

theorem written_of_components {text : List Char} {steps : Nat} (hsteps : s.length ≤ steps)
    (h : components text steps s = .ok cs) : Written s cs := by
  induction steps generalizing s cs with
  | zero =>
    cases List.eq_nil_of_length_eq_zero (Nat.le_zero.mp hsteps)
    cases h
    exact .nil
  | succ steps ih =>
    cases s with
    | nil =>
      cases h
      exact .nil
    | cons x s =>
      rw [components] at h
      · cases hfirst : component text (x :: s) with
        | error e =>
          rw [hfirst] at h
          cases h
        | ok result =>
          obtain ⟨c, rest⟩ := result
          rw [hfirst] at h
          obtain ⟨front, hfront, hsplit⟩ := componentText_of_component hfirst
          have hlength : rest.length ≤ steps := by
            have hpositive := List.length_pos_iff.mpr (componentText_ne_nil hfront)
            rw [hsplit, List.length_append] at hsteps
            omega
          cases hrest : components text steps rest with
          | error e =>
            simp only [hrest] at h
            cases h
          | ok cs' =>
            simp only [hrest] at h
            cases h
            rw [hsplit]
            exact .cons hfront (ih hlength hrest)
      · simp

theorem components_of_written {text : List Char} {steps : Nat} (hsteps : s.length ≤ steps)
    (h : Written s cs) : components text steps s = .ok cs := by
  induction h generalizing steps with
  | nil => cases steps <;> rfl
  | @cons front rest c cs first hrest ih =>
    have hne := componentText_ne_nil first
    have hpositive := List.length_pos_iff.mpr hne
    rw [List.length_append] at hsteps
    obtain ⟨steps, rfl⟩ : ∃ n, steps = n + 1 := ⟨steps - 1, by omega⟩
    have hlength : rest.length ≤ steps := by omega
    rw [components]
    · rw [component_append first (stops_of_written hrest)]
      simp only [ih hlength]
      rfl
    · intro hempty
      exact hne (List.append_eq_nil_iff.mp hempty).1

/-- The components of a text are read, and no others. -/
theorem components_eq_ok_iff (text : List Char) {steps : Nat} (hsteps : s.length ≤ steps) :
    components text steps s = .ok cs ↔ Written s cs :=
  ⟨written_of_components hsteps, components_of_written hsteps⟩

/-- A text is written with one run of components only. -/
theorem written_unique {cs' : List Component} (h : Written s cs) (h' : Written s cs') : cs = cs' := by
  have hread := (components_eq_ok_iff s (Nat.le_refl s.length)).mpr h
  rw [(components_eq_ok_iff s (Nat.le_refl _)).mpr h'] at hread
  cases hread
  rfl

end

/-- A duration is read exactly if the text is written with some components, and the result is theirs. -/
theorem parse_eq_ok_iff {s : String} {d : Duration} : parse s = .ok d ↔
    ∃ cs, cs ≠ [] ∧ Written (Text.trim s.toList) cs ∧ d = ofNanos (totalNanos cs) := by
  unfold parse
  dsimp only
  cases htext : Text.trim s.toList with
  | nil =>
    constructor
    · nofun
    · rintro ⟨cs, hne, hwritten, -⟩
      exact absurd (written_unique hwritten .nil) hne
  | cons x text =>
    have hread : ∀ cs, components (x :: text) (x :: text).length (x :: text) = .ok cs ↔
        Written (x :: text) cs := fun cs => components_eq_ok_iff _ (Nat.le_refl _)
    constructor
    · intro h
      cases hcs : components (x :: text) (x :: text).length (x :: text) with
      | error e =>
        rw [hcs] at h
        cases h
      | ok cs =>
        rw [hcs] at h
        cases h
        have hwritten := (hread cs).mp hcs
        refine ⟨cs, ?_, hwritten, rfl⟩
        rintro rfl
        cases eq_nil_of_written hwritten
    · rintro ⟨cs, -, hwritten, rfl⟩
      rw [(hread cs).mpr hwritten]
      rfl

end Duration

end HttpResource
