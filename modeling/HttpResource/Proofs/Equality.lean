/-
# Equality of JSON values

Two JSON values are the same if they have one shape and stand for the same texts, truth values and numbers
in the same places: arrays place by place, objects name by name. A check compares two numbers by their
nearest doubles and all other values field by field, where an integer and a double are never equal
(`Json.same_iff_matches`). So a check takes numbers for equal that share a nearest double, and values for
different that write a number differently inside; it has the right verdict in all other cases
(`Predicate.equality_exact_iff`).

Key definitions: `Number.value`, `Json.Matches`, `Json.Proper`, `Json.SameValue`, `Json.ToldApart`,
`Json.WrittenAlike`.
Key theorems: `Number.toBinary64_nearest`, `Json.same_iff_matches`, `Json.toldApart_of_small`,
`Predicate.valuesEqual_numbers_iff`, `Predicate.valuesEqual_others_iff`, `Predicate.equality_exact_iff`.
-/
import HttpResource.Proofs.Evaluation
import HttpResource.Proofs.Merge
import HttpResource.Proofs.Rounding

namespace HttpResource

/-! ### Numbers -/

namespace Number

/-- What a number stands for. -/
def value : Number → ℚ
  | .int n => n
  | .double x => x.value

def isInt : Number → Bool
  | .int _ => true
  | .double _ => false

/-- The numbers that there are: integers of 64 bits, signed or unsigned, and finite doubles. -/
def Proper : Number → Prop
  | .int n => -2 ^ 63 ≤ n ∧ n < 2 ^ 64
  | .double x => x.Regular

section

variable {m n : Number}

theorem toBinary64_nearest (h : n.Proper) : n.toBinary64.Regular ∧
    ∀ y, Binary64.IsDouble y → |n.toBinary64.value - n.value| ≤ |y - n.value| := by
  cases n with
  | int i =>
    obtain ⟨hlow, hhigh⟩ := h
    exact Binary64.ofInt_nearest (by omega)
  | double x =>
    refine ⟨h, fun y _ => ?_⟩
    rw [toBinary64, value, sub_self, abs_zero]
    exact abs_nonneg _

/-- What a double stands for is not rounded. -/
theorem value_toBinary64 (h : n.Proper) (hdouble : Binary64.IsDouble n.value) :
    n.toBinary64.value = n.value := by
  have hnearest := (toBinary64_nearest h).2 _ hdouble
  rw [sub_self, abs_zero, abs_nonpos_iff, sub_eq_zero] at hnearest
  exact hnearest

/-- The nearest double depends on the value alone. -/
theorem value_toBinary64_congr (hm : m.Proper) (hn : n.Proper) (h : m.value = n.value) :
    m.toBinary64.value = n.toBinary64.value := by
  have hexact : Binary64.IsDouble m.value → m.toBinary64.value = n.toBinary64.value := by
    intro hdouble
    rw [value_toBinary64 hm hdouble, value_toBinary64 hn (h ▸ hdouble), h]
  cases m with
  | double x => exact hexact hm.2
  | int i =>
    cases n with
    | double x => exact hexact (h ▸ hn.2)
    | int j =>
      have hij : i = j := by exact_mod_cast (show ((i : ℤ) : ℚ) = j from h)
      rw [hij]

theorem equal_toBinary64_iff (hm : m.Proper) (hn : n.Proper) :
    m.toBinary64.equal n.toBinary64 = true ↔ m.toBinary64.value = n.toBinary64.value :=
  Binary64.equal_iff (toBinary64_nearest hm).1.1 (toBinary64_nearest hn).1.1

theorem same_iff (hm : m.Proper) (hn : n.Proper) :
    m.same n = true ↔ m.value = n.value ∧ m.isInt = n.isInt := by
  cases m with
  | int i =>
    cases n with
    | int j =>
      rw [same, beq_iff_eq, value, value, Int.cast_inj]
      exact (and_iff_left rfl).symm
    | double y => exact iff_of_false nofun fun h => nomatch h.2
  | double x =>
    cases n with
    | int j => exact iff_of_false nofun fun h => nomatch h.2
    | double y => exact (Binary64.equal_iff hm.1 hn.1).trans (and_iff_left rfl).symm

/-- An integer of up to 53 bits, or a double, is the value of its nearest double. -/
theorem isDouble_value (h : n.Proper) (hsmall : ∀ i, n = .int i → i.natAbs ≤ 2 ^ 53) :
    Binary64.IsDouble n.value := by
  cases n with
  | double x => exact h.2
  | int i =>
    have hnearest := (toBinary64_nearest h).1.2
    rwa [toBinary64, Binary64.value_ofInt (hsmall i rfl)] at hnearest

end

end Number

/-! ### Fields by name -/

section

variable {β γ : Type} {a : List (String × β)} {b : List (String × γ)}

theorem isSome_lookup_iff {name : String} : (a.lookup name).isSome = true ↔ name ∈ a.map (·.1) := by
  induction a with
  | nil => exact iff_of_false nofun nofun
  | cons entry rest ih =>
    obtain ⟨n, v⟩ := entry
    rw [lookup_cons_eq, List.map_cons, List.mem_cons]
    by_cases hname : name = n
    · rw [if_pos hname]
      exact iff_of_true rfl (.inl hname)
    · rw [if_neg hname, ih, or_iff_right hname]

/-- The first of entries in order has the least name. -/
theorem lt_of_ascending_cons {entry : String × β} (h : Ascending (entry :: a)) {name : String}
    (hname : (a.lookup name).isSome = true) : entry.1 < name :=
  (List.pairwise_cons.mp h).1 name (isSome_lookup_iff.mp hname)

/-- Entries in order are related one by one if there are the same names with related values. -/
theorem entrywise_of_lookup {R : β → γ → Prop} (ha : Ascending a) (hb : Ascending b)
    (hnames : ∀ name, (a.lookup name).isSome = (b.lookup name).isSome)
    (hvalues : ∀ name v w, a.lookup name = some v → b.lookup name = some w → R v w) :
    Entrywise R a b := by
  induction a generalizing b with
  | nil =>
    cases b with
    | nil => exact .nil
    | cons entry rest =>
      have hnone := hnames entry.1
      rw [lookup_cons_eq, if_pos rfl] at hnone
      cases hnone
  | cons entry rest ih =>
    obtain ⟨m, v⟩ := entry
    cases b with
    | nil =>
      have hnone := hnames m
      rw [lookup_cons_eq, if_pos rfl] at hnone
      cases hnone
    | cons entry' rest' =>
      obtain ⟨n, w⟩ := entry'
      simp only [lookup_cons_eq] at hnames hvalues
      -- Each first name is a name of the other table, and there it is not below the first.
      have hfirst : m = n := by
        by_contra hne
        have hm := hnames m
        have hn := hnames n
        rw [if_pos rfl, if_neg hne] at hm
        rw [if_neg (Ne.symm hne), if_pos rfl] at hn
        exact String.lt_asymm (lt_of_ascending_cons hb hm.symm) (lt_of_ascending_cons ha hn)
      subst hfirst
      have hlater : ∀ name, (rest.lookup name).isSome = true ∨ (rest'.lookup name).isSome = true →
          name ≠ m := by
        rintro name (hname | hname)
        · exact (String.ne_of_lt (lt_of_ascending_cons ha hname)).symm
        · exact (String.ne_of_lt (lt_of_ascending_cons hb hname)).symm
      refine .cons ⟨rfl, hvalues m v w (if_pos rfl) (if_pos rfl)⟩ (ih (List.pairwise_cons.mp ha).2
        (List.pairwise_cons.mp hb).2 (fun name => ?_) fun name x y hx hy => ?_)
      · by_cases hname : name = m
        · have hleft : (rest.lookup name).isSome = false :=
            Bool.eq_false_iff.mpr fun h => hlater name (.inl h) hname
          have hright : (rest'.lookup name).isSome = false :=
            Bool.eq_false_iff.mpr fun h => hlater name (.inr h) hname
          rw [hleft, hright]
        · have hsame := hnames name
          rwa [if_neg hname, if_neg hname] at hsame
      · have hname := hlater name (.inl (by rw [hx]; rfl))
        exact hvalues name x y (by rw [if_neg hname, hx]) (by rw [if_neg hname, hy])

/-- Related entries have the same names with related values. -/
theorem Entrywise.forall_lookup {R : β → γ → Prop} (h : Entrywise R a b) :
    (∀ name, (a.lookup name).isSome = (b.lookup name).isSome) ∧
      ∀ name v w, a.lookup name = some v → b.lookup name = some w → R v w := by
  constructor
  · intro name
    have hrel := h.lookup name
    generalize a.lookup name = x, b.lookup name = y at hrel ⊢
    cases hrel <;> rfl
  · intro name v w hv hw
    have hrel := h.lookup name
    rw [hv, hw] at hrel
    exact Option.rel_some_some.mp hrel

theorem forall₂_congr_of_mem {α δ : Type} {R S : α → δ → Prop} {xs : List α} {ys : List δ}
    (h : ∀ x ∈ xs, ∀ y ∈ ys, (R x y ↔ S x y)) : List.Forall₂ R xs ys ↔ List.Forall₂ S xs ys := by
  rw [List.forall₂_iff_get, List.forall₂_iff_get]
  refine and_congr_right fun _ => forall_congr' fun i => forall_congr' fun hx => forall_congr' fun hy => ?_
  exact h _ (List.get_mem _ _) _ (List.get_mem _ _)

end

namespace Json

/-! ### Values of one shape -/

/-- Values of one shape, with the numbers in the same places related. -/
inductive Matches (R : Number → Number → Prop) : Json → Json → Prop
  | null : Matches R .null .null
  | bool (b : Bool) : Matches R (.bool b) (.bool b)
  | number {m n : Number} (h : R m n) : Matches R (.number m) (.number n)
  | string (s : String) : Matches R (.string s) (.string s)
  | array {a b : List Json} (length : a.length = b.length)
      (items : ∀ i (ha : i < a.length) (hb : i < b.length), Matches R a[i] b[i]) :
      Matches R (.array a) (.array b)
  | object {a b : List (String × Json)}
      (names : ∀ name, (a.lookup name).isSome = (b.lookup name).isSome)
      (values : ∀ name v w, a.lookup name = some v → b.lookup name = some w → Matches R v w) :
      Matches R (.object a) (.object b)

/-- One JSON value: numbers are the same if they are equal. -/
def SameValue : Json → Json → Prop := Matches fun m n => m.value = n.value

/-- The values that there are: the fields of an object in order of their names. -/
inductive Proper : Json → Prop
  | null : Proper .null
  | bool (b : Bool) : Proper (.bool b)
  | number {n : Number} (h : n.Proper) : Proper (.number n)
  | string (s : String) : Proper (.string s)
  | array {items : List Json} (h : ∀ v ∈ items, Proper v) : Proper (.array items)
  | object {fields : List (String × Json)} (ascending : Ascending fields)
      (h : ∀ field ∈ fields, Proper field.2) : Proper (.object fields)

theorem Matches.and_iff {R S : Number → Number → Prop} {a b : Json} :
    Matches (fun m n => R m n ∧ S m n) a b ↔ Matches R a b ∧ Matches S a b := by
  constructor
  · intro h
    induction h with
    | null => exact ⟨.null, .null⟩
    | bool b => exact ⟨.bool b, .bool b⟩
    | number h => exact ⟨.number h.1, .number h.2⟩
    | string s => exact ⟨.string s, .string s⟩
    | array length _ ih =>
      exact ⟨.array length fun i ha hb => (ih i ha hb).1, .array length fun i ha hb => (ih i ha hb).2⟩
    | object names _ ih =>
      exact ⟨.object names fun name v w hv hw => (ih name v w hv hw).1,
        .object names fun name v w hv hw => (ih name v w hv hw).2⟩
  · rintro ⟨hr, hs⟩
    induction hr with
    | null => exact .null
    | bool b => exact .bool b
    | number h =>
      cases hs with
      | number h' => exact .number ⟨h, h'⟩
    | string s => exact .string s
    | array length _ ih =>
      cases hs with
      | array _ items => exact .array length fun i ha hb => ih i ha hb (items i ha hb)
    | object names _ ih =>
      cases hs with
      | object _ values => exact .object names fun name v w hv hw => ih name v w hv hw (values name v w hv hw)

section

variable {R : Number → Number → Prop}

theorem matches_number_iff {m n : Number} : Matches R (.number m) (.number n) ↔ R m n :=
  ⟨fun | .number h => h, .number⟩

theorem matches_array_iff {a b : List Json} :
    Matches R (.array a) (.array b) ↔ List.Forall₂ (Matches R) a b := by
  rw [List.forall₂_iff_get]
  exact ⟨fun | .array length items => ⟨length, items⟩, fun h => .array h.1 h.2⟩

theorem matches_object_iff {a b : List (String × Json)} (ha : Ascending a) (hb : Ascending b) :
    Matches R (.object a) (.object b) ↔ Entrywise (Matches R) a b := by
  constructor
  · rintro ⟨⟩
    rename_i names values
    exact entrywise_of_lookup ha hb names values
  · intro h
    exact .object h.forall_lookup.1 h.forall_lookup.2

end

theorem sameItems_iff {a b : List Json} :
    sameItems a b = true ↔ List.Forall₂ (fun v w => v.same w = true) a b := by
  induction a generalizing b with
  | nil => cases b <;> simp [sameItems]
  | cons v rest ih => cases b <;> simp [sameItems, ih]

theorem sameFields_iff {a b : List (String × Json)} :
    sameFields a b = true ↔ Entrywise (fun v w => v.same w = true) a b := by
  induction a generalizing b with
  | nil => cases b <;> simp [sameFields, Entrywise]
  | cons field rest ih => cases b <;> simp [sameFields, Entrywise, ih]

/-- Field by field, values are equal that have the same numbers in the same representation. -/
theorem same_iff_matches {a b : Json} (ha : a.Proper) (hb : b.Proper) :
    a.same b = true ↔ Matches (fun m n => m.value = n.value ∧ m.isInt = n.isInt) a b := by
  induction ha generalizing b with
  | null =>
    cases hb with
    | null => exact iff_of_true rfl .null
    | _ => exact iff_of_false nofun nofun
  | bool x =>
    cases hb with
    | bool y =>
      rw [same, beq_iff_eq]
      constructor
      · rintro rfl
        exact .bool x
      · rintro ⟨⟩
        rfl
    | _ => exact iff_of_false nofun nofun
  | number hm =>
    cases hb with
    | number hn => rw [same, Number.same_iff hm hn, matches_number_iff]
    | _ => exact iff_of_false nofun nofun
  | string s =>
    cases hb with
    | string t =>
      rw [same, beq_iff_eq]
      constructor
      · rintro rfl
        exact .string s
      · rintro ⟨⟩
        rfl
    | _ => exact iff_of_false nofun nofun
  | array _ ih =>
    cases hb with
    | array hitems =>
      rw [same, sameItems_iff, matches_array_iff]
      exact forall₂_congr_of_mem fun v hv w hw => ih v hv (hitems w hw)
    | _ => exact iff_of_false nofun nofun
  | object hascending _ ih =>
    cases hb with
    | object hascending' hfields =>
      rw [same, sameFields_iff, matches_object_iff hascending hascending']
      exact forall₂_congr_of_mem fun v hv w hw => and_congr_right fun _ => ih v hv (hfields w hw)
    | _ => exact iff_of_false nofun nofun

/-! ### Steps into proper values -/

theorem Proper.step {v w : Json} (h : v.Proper) {s : Step} (hstep : Path.step v s = some w) :
    w.Proper := by
  cases s with
  | key name =>
    cases h with
    | object _ hfields =>
      obtain ⟨before, after, rfl, -⟩ := List.lookup_eq_some_iff.mp hstep
      exact hfields (name, w) (List.mem_append_right _ List.mem_cons_self)
    | _ => cases hstep
  | index i =>
    cases h with
    | array hitems =>
      cases i with
      | ofNat i => exact hitems w (List.mem_of_getElem? hstep)
      | negSucc i =>
        rw [Path.step, item?] at hstep
        split at hstep
        · exact hitems w (List.mem_of_getElem? hstep)
        · cases hstep
    | _ => cases hstep

theorem Proper.lookup {path : Path} {v w : Json} (h : v.Proper) (hlookup : path.lookup v = some w) :
    w.Proper := by
  induction path generalizing v with
  | nil =>
    cases hlookup
    exact h
  | cons s rest ih =>
    obtain ⟨u, hu, hrest⟩ := Option.bind_eq_some_iff.mp hlookup
    exact ih (h.step hu) hrest

/-- A value matches itself. -/
theorem Proper.matches_self {R : Number → Number → Prop} (hR : ∀ n, R n n) {v : Json} (h : v.Proper) :
    Matches R v v := by
  induction h with
  | null => exact .null
  | bool b => exact .bool b
  | number => exact .number (hR _)
  | string s => exact .string s
  | array _ ih => exact .array rfl fun i hi _ => ih _ (List.getElem_mem hi)
  | object _ _ ih =>
    refine .object (fun _ => rfl) fun name v w hv hw => ?_
    obtain rfl := Option.some.inj (hv.symm.trans hw)
    obtain ⟨before, after, rfl, -⟩ := List.lookup_eq_some_iff.mp hv
    exact ih (name, v) (List.mem_append_right _ List.mem_cons_self)

/-! ### Verdicts -/

/-- Two numbers with one nearest double are equal. -/
def ToldApart : Json → Json → Prop
  | .number m, .number n => m.toBinary64.value = n.toBinary64.value → m.value = n.value
  | _, _ => True

/-- Two numbers, or values with an integer and a double nowhere in the same place. -/
def WrittenAlike : Json → Json → Prop
  | .number _, .number _ => True
  | a, b => Matches (fun m n => m.isInt = n.isInt) a b

/-- Numbers that are doubles, or integers of up to 53 bits, are told apart. -/
theorem toldApart_of_small {m n : Number} (hm : m.Proper) (hn : n.Proper)
    (hmsmall : ∀ i, m = .int i → i.natAbs ≤ 2 ^ 53) (hnsmall : ∀ i, n = .int i → i.natAbs ≤ 2 ^ 53) :
    ToldApart (.number m) (.number n) := by
  intro h
  rwa [Number.value_toBinary64 hm (Number.isDouble_value hm hmsmall),
    Number.value_toBinary64 hn (Number.isDouble_value hn hnsmall)] at h

end Json

namespace Predicate

open Json

/-- Two numbers are found equal exactly if they have one nearest double. -/
theorem valuesEqual_numbers_iff {m n : Number} (hm : m.Proper) (hn : n.Proper) :
    valuesEqual (.number m) (.number n) = true ↔ m.toBinary64.value = n.toBinary64.value :=
  Number.equal_toBinary64_iff hm hn

/-- Other values are found equal exactly if they are the same and written alike. -/
theorem valuesEqual_others_iff {a b : Json} (ha : a.Proper) (hb : b.Proper)
    (hothers : ¬∃ m n, a = .number m ∧ b = .number n) :
    valuesEqual a b = true ↔ SameValue a b ∧ WrittenAlike a b := by
  have hverdict : valuesEqual a b = a.same b := by
    unfold valuesEqual
    split
    · exact (hothers ⟨_, _, rfl, rfl⟩).elim
    · rfl
  have halike : WrittenAlike a b ↔ Matches (fun m n => m.isInt = n.isInt) a b := by
    unfold WrittenAlike
    split
    · exact (hothers ⟨_, _, rfl, rfl⟩).elim
    · rfl
  rw [hverdict, same_iff_matches ha hb, Matches.and_iff, halike, SameValue]

/-- The verdict on two values is that they are the same, exactly if numbers are told apart and the same
values are written alike. -/
theorem valuesEqual_exact_iff {a b : Json} (ha : a.Proper) (hb : b.Proper) :
    (valuesEqual a b = true ↔ SameValue a b) ↔ ToldApart a b ∧ (SameValue a b → WrittenAlike a b) := by
  by_cases hnumbers : ∃ m n, a = .number m ∧ b = .number n
  · obtain ⟨m, n, rfl, rfl⟩ := hnumbers
    cases ha with
    | number hm =>
      cases hb with
      | number hn =>
        rw [valuesEqual_numbers_iff hm hn, SameValue, matches_number_iff]
        constructor
        · intro h
          exact ⟨h.mp, fun _ => trivial⟩
        · rintro ⟨happart, -⟩
          exact ⟨happart, Number.value_toBinary64_congr hm hn⟩
  · have happart : ToldApart a b := by
      unfold ToldApart
      split
      · exact (hnumbers ⟨_, _, rfl, rfl⟩).elim
      · trivial
    rw [valuesEqual_others_iff ha hb hnumbers]
    constructor
    · intro h
      exact ⟨happart, fun hsame => (h.mpr hsame).2⟩
    · rintro ⟨-, h⟩
      exact ⟨And.left, fun hsame => ⟨hsame, h hsame⟩⟩

/-- **A check of two values has a verdict, and `!=` the opposite one. It is that of JSON equality exactly if
two different numbers do not share a nearest double and the same values are not written with an integer for a
double inside.** -/
theorem equality_exact_iff {context a b : Json} (hcontext : context.Proper) (left right : Path)
    (ha : left.lookup context = some a) (hb : right.lookup context = some b) :
    ∃ verdict, (Expr.compare (.path left) .eq (.path right)).evaluate context = .ok (.bool verdict) ∧
      (Expr.compare (.path left) .ne (.path right)).evaluate context = .ok (.bool (!verdict)) ∧
      ((verdict = true ↔ SameValue a b) ↔ ToldApart a b ∧ (SameValue a b → WrittenAlike a b)) := by
  have hleft := (evaluate_path_eq_ok_iff context).mpr ha
  have hright := (evaluate_path_eq_ok_iff context).mpr hb
  refine ⟨valuesEqual a b, ?_, ?_, valuesEqual_exact_iff (hcontext.lookup ha) (hcontext.lookup hb)⟩
  · rw [evaluate_compare, hleft, hright]
    rfl
  · rw [evaluate_compare, hleft, hright]
    rfl

/-! ### Orders sent and seen -/

/-- An order as it was sent and as it was seen. -/
def sentAndSeen (sent seen : Json) : Json := .object [("seen", seen), ("sent", sent)]

theorem proper_sentAndSeen {sent seen : Json} (hsent : sent.Proper) (hseen : seen.Proper) :
    (sentAndSeen sent seen).Proper := by
  have hascending : Ascending [("seen", ()), ("sent", ())] := by decide
  exact .object hascending (List.forall_mem_cons.mpr ⟨hseen, List.forall_mem_singleton.mpr hsent⟩)

/-- The order that was sent is the one that was seen. -/
def sentIsSeen (op : Comparison) : Expr := .compare (.path [.key "sent"]) op (.path [.key "seen"])

theorem sentIsSeen_self : (sentAndSeen (.array [.int 7]) (.array [.int 7])).Proper ∧
    (sentIsSeen .eq).evaluate (sentAndSeen (.array [.int 7]) (.array [.int 7])) = .ok (.bool true) ∧
    (sentIsSeen .ne).evaluate (sentAndSeen (.array [.int 7]) (.array [.int 7])) = .ok (.bool false) := by
  have hproper : (Json.array [.int 7]).Proper :=
    .array (List.forall_mem_singleton.mpr (.number ⟨by decide, by decide⟩))
  have hcontext := proper_sentAndSeen hproper hproper
  obtain ⟨verdict, heq, hne, hexact⟩ :=
    equality_exact_iff hcontext [.key "sent"] [.key "seen"] rfl rfl
  have hsame : SameValue (.array [.int 7]) (.array [.int 7]) :=
    hproper.matches_self (R := fun m n => m.value = n.value) fun _ => rfl
  have halike : WrittenAlike (.array [.int 7]) (.array [.int 7]) :=
    hproper.matches_self (R := fun m n => m.isInt = n.isInt) fun _ => rfl
  obtain rfl : verdict = true := (hexact.mpr ⟨trivial, fun _ => halike⟩).mpr hsame
  exact ⟨hcontext, heq, hne⟩

/-- The double that is one. -/
def one : Binary64 := .finite false 4503599627370496 (-52)

theorem value_one : one.value = 1 := by
  rw [one, Binary64.value]
  norm_num

/-- Two values that are the same are found different, and two that are different are found the same. -/
theorem sentIsSeen_misjudged :
    (sentAndSeen (.array [.int 1]) (.array [.number (.double one)])).Proper ∧
      SameValue (.array [.int 1]) (.array [.number (.double one)]) ∧
      (sentIsSeen .eq).evaluate (sentAndSeen (.array [.int 1]) (.array [.number (.double one)])) =
        .ok (.bool false) ∧
      (sentAndSeen (.int 9007199254740993) (.int 9007199254740992)).Proper ∧
      ¬SameValue (.int 9007199254740993) (.int 9007199254740992) ∧
      (sentIsSeen .eq).evaluate (sentAndSeen (.int 9007199254740993) (.int 9007199254740992)) =
        .ok (.bool true) := by
  have hone : one.Regular :=
    ⟨rfl, false, 4503599627370496, -52, by norm_num, by decide, by decide, rfl⟩
  have hvalue : (Number.int 1).value = (Number.double one).value := by
    rw [Number.value, Number.value, value_one, Int.cast_one]
  refine ⟨proper_sentAndSeen ?_ ?_, ?_, rfl, proper_sentAndSeen ?_ ?_, ?_, ?_⟩
  · exact .array (List.forall_mem_singleton.mpr (.number ⟨by decide, by decide⟩))
  · exact .array (List.forall_mem_singleton.mpr (.number hone))
  · exact matches_array_iff.mpr (.cons (.number hvalue) .nil)
  · exact .number ⟨by decide, by decide⟩
  · exact .number ⟨by decide, by decide⟩
  · intro hsame
    have hequal := matches_number_iff.mp hsame
    rw [Number.value, Number.value, Int.cast_inj] at hequal
    exact absurd hequal (by decide)
  · have hverdict : valuesEqual (.int 9007199254740993) (.int 9007199254740992) = true := by decide +kernel
    show Except.ok (Json.bool (valuesEqual _ _)) = _
    rw [hverdict]

end Predicate

end HttpResource
