/-
# Documents are read back

The text of a value is read as the value, field by field as it was written, if its numbers are integers of
64 bits and it is not nested too deep (`Json.document?_text`). Reading a value stops where its text ends,
since what comes next, inside of a document, is a comma or a closing bracket.

Key definitions: `Json.Printable`, `Json.Ends`, `Json.IsRead`.
Key theorems: `Json.number?_text`, `Json.isRead_of_printable`, `Json.document?_text`.
-/
import HttpResource.Json.Parser
import HttpResource.Proofs.Quoting

namespace HttpResource

namespace Json

/-- Values without doubles, nested at most so many containers deep. -/
inductive Printable : Nat → Json → Prop
  | null {n : Nat} : Printable n .null
  | bool {n : Nat} (b : Bool) : Printable n (.bool b)
  | int {n : Nat} {i : Int} (low : -(twoTo 63 : Int) ≤ i) (high : i < twoTo 64) :
      Printable n (.number (.int i))
  | string {n : Nat} (s : String) : Printable n (.string s)
  | array {n : Nat} {items : List Json} (h : ∀ v ∈ items, Printable n v) :
      Printable (n + 1) (.array items)
  | object {n : Nat} {fields : List (String × Json)} (h : ∀ field ∈ fields, Printable n field.2) :
      Printable (n + 1) (.object fields)

theorem Printable.mono {m n : Nat} {v : Json} (h : Printable m v) (hle : m ≤ n) : Printable n v := by
  induction h generalizing n with
  | null => exact .null
  | bool b => exact .bool b
  | int low high => exact .int low high
  | string s => exact .string s
  | array _ ih =>
    obtain ⟨n, rfl⟩ : ∃ k, n = k + 1 := ⟨n - 1, by omega⟩
    exact .array fun v hv => ih v hv (by omega)
  | object _ ih =>
    obtain ⟨n, rfl⟩ : ∃ k, n = k + 1 := ⟨n - 1, by omega⟩
    exact .object fun field hfield => ih field hfield (by omega)

/-- What may come after a value: the end, a comma or a closing bracket. -/
def Ends (rest : List Char) : Prop := ∀ c ∈ rest.head?, c = ',' ∨ c = ']' ∨ c = '\x7d'

/-! ### Digits -/

theorem isDigit_of_mem_toDigits {n : Nat} {c : Char} (h : c ∈ Nat.toDigits 10 n) : isDigit c = true := by
  have hdigit := Nat.isDigit_of_mem_toDigits (by decide) (by decide) h
  unfold Char.isDigit at hdigit
  unfold isDigit
  exact hdigit

/-- Only zero has a digit zero in front. -/
theorem toDigits_eq_cons {n : Nat} (h : 0 < n) : ∃ c cs, Nat.toDigits 10 n = c :: cs ∧ c ≠ '0' := by
  induction n using Nat.strongRecOn with
  | _ n ih =>
    by_cases hn : n < 10
    · have hdigit : ∀ d < 10, 0 < d → Nat.digitChar d ≠ '0' := by decide
      exact ⟨_, [], Nat.toDigits_of_lt_base hn, hdigit n hn h⟩
    · obtain ⟨c, cs, hdigits, hc⟩ := ih (n / 10) (by omega) (by omega)
      refine ⟨c, cs ++ [(n % 10).digitChar], ?_, hc⟩
      rw [Nat.toDigits_of_base_le (by decide) (by omega), hdigits]
      rfl

theorem le_ofDigitChars (cs : List Char) (n : Nat) : n ≤ Nat.ofDigitChars 10 cs n := by
  induction cs generalizing n with
  | nil => exact Nat.le_refl n
  | cons c cs ih =>
    have hrest := ih (10 * n + (c.toNat - '0'.toNat))
    rw [Nat.ofDigitChars_cons]
    omega

/-- All digits are gathered as long as the number has 64 bits. -/
theorem gather_eq {cs : List Char} {n : Nat} (taken : Nat) (h : Nat.ofDigitChars 10 cs n < twoTo 64) :
    gather n taken cs = (Nat.ofDigitChars 10 cs n, taken + cs.length, []) := by
  induction cs generalizing n taken with
  | nil => rfl
  | cons c cs ih =>
    rw [Nat.ofDigitChars_cons] at h ⊢
    have hvalue : n * 10 + digitValue c = 10 * n + (c.toNat - '0'.toNat) := by
      rw [Nat.mul_comm]
      rfl
    have hfits := Nat.lt_of_le_of_lt (le_ofDigitChars cs _) h
    rw [gather, hvalue, if_pos hfits, ih (taken + 1) h, List.length_cons]
    congr 2
    omega

theorem span_digits {n : Nat} {rest : List Char} (h : Ends rest) :
    (Nat.toDigits 10 n ++ rest).takeWhile isDigit = Nat.toDigits 10 n ∧
      (Nat.toDigits 10 n ++ rest).dropWhile isDigit = rest := by
  have hdigits : ∀ c ∈ Nat.toDigits 10 n, isDigit c = true := fun _ => isDigit_of_mem_toDigits
  rw [List.takeWhile_append_of_pos hdigits, List.dropWhile_append_of_pos hdigits]
  cases rest with
  | nil => exact ⟨List.append_nil _, rfl⟩
  | cons c rest =>
    have hend : isDigit c = false := by rcases h c rfl with rfl | rfl | rfl <;> rfl
    rw [List.takeWhile_cons, List.dropWhile_cons, hend]
    exact ⟨List.append_nil _, rfl⟩

/-! ### Numbers -/

theorem numberFrom_digits {n : Nat} (hn : n < twoTo 64) (negative : Bool) {rest : List Char}
    (h : Ends rest) :
    numberFrom negative (Nat.toDigits 10 n) rest = numberFrom.integer negative n [] 0 rest := by
  have hvalue : Nat.ofDigitChars 10 (Nat.toDigits 10 n) 0 = n :=
    Nat.ofDigitChars_toDigits (by decide) (by decide)
  have hgather := gather_eq 0 (by rw [hvalue]; exact hn)
  rw [hvalue] at hgather
  unfold numberFrom
  rw [hgather]
  cases rest with
  | nil => rfl
  | cons c rest => rcases h c rfl with rfl | rfl | rfl <;> rfl

def sign (negative : Bool) : List Char := if negative then ['-'] else []

/-- Digits that do not start with a needless zero are taken as a whole. -/
theorem number?_eq_numberFrom {c : Char} {cs rest : List Char} (hzero : c ≠ '0') (hsign : c ≠ '-')
    (htake : (c :: cs ++ rest).takeWhile isDigit = c :: cs)
    (hdrop : (c :: cs ++ rest).dropWhile isDigit = rest) (negative : Bool) :
    number? (sign negative ++ (c :: cs ++ rest)) = numberFrom negative (c :: cs) rest := by
  unfold number?
  split
  rename_i negative' unsigned hsplit
  have hpair : (negative', unsigned) = (negative, c :: cs ++ rest) := by
    rw [← hsplit]
    cases negative with
    | true => rfl
    | false =>
      split
      · rename_i hminus
        cases hminus
        contradiction
      · rfl
  cases hpair
  rw [htake, hdrop]
  dsimp only
  split
  · contradiction
  · rename_i hwhole
    cases hwhole
    contradiction
  · rename_i hwhole
    cases hwhole
    contradiction
  · rfl

theorem number?_zero {rest : List Char} (h : Ends rest) : number? ('0' :: rest) = some (.int 0, rest) := by
  cases rest with
  | nil => rfl
  | cons c rest => rcases h c rfl with rfl | rfl | rfl <;> rfl

theorem number?_positive {n : Nat} (hpos : 0 < n) (hn : n < twoTo 64) {rest : List Char} (h : Ends rest)
    (negative : Bool) :
    number? (sign negative ++ (Nat.toDigits 10 n ++ rest)) = numberFrom.integer negative n [] 0 rest := by
  obtain ⟨htake, hdrop⟩ := @span_digits n rest h
  have hfrom := numberFrom_digits hn negative h
  obtain ⟨c, cs, hdigits, hzero⟩ := toDigits_eq_cons hpos
  have hsign : c ≠ '-' := by
    have hdigit : isDigit c = true := isDigit_of_mem_toDigits (hdigits ▸ List.mem_cons_self)
    rintro rfl
    cases hdigit
  rw [hdigits] at htake hdrop hfrom ⊢
  rw [number?_eq_numberFrom hzero hsign htake hdrop, hfrom]

theorem intText_ofNat (n : Nat) : (toString (Int.ofNat n)).toList = Nat.toDigits 10 n := String.toList_ofList

theorem intText_negSucc (m : Nat) : (toString (Int.negSucc m)).toList = '-' :: Nat.toDigits 10 (m + 1) := by
  show ("-" ++ Nat.repr (m + 1)).toList = _
  rw [String.toList_append, Nat.repr, String.toList_ofList, String.toList_ofList]
  rfl

theorem number?_text {i : Int} (low : -(twoTo 63 : Int) ≤ i) (high : i < twoTo 64) {rest : List Char}
    (h : Ends rest) : number? ((toString i).toList ++ rest) = some (.int i, rest) := by
  cases i with
  | ofNat n =>
    rw [intText_ofNat]
    rcases Nat.eq_zero_or_pos n with rfl | hpos
    · exact number?_zero h
    · have hn : n < twoTo 64 := Int.ofNat_lt.mp high
      exact number?_positive hpos hn h false
  | negSucc m =>
    have hm : m + 1 ≤ twoTo 63 := by omega
    have hn : m + 1 < twoTo 64 := Nat.lt_of_le_of_lt hm (by decide)
    have hlow : ¬(m + 1 = 0 || decide (twoTo 63 < m + 1)) = true := by
      rw [Bool.or_eq_true, decide_eq_true_iff, decide_eq_true_iff]
      omega
    have hread := number?_positive (Nat.succ_pos m) hn h true
    rw [intText_negSucc, List.cons_append]
    refine hread.trans ?_
    simp only [numberFrom.integer, List.isEmpty_nil, Bool.not_true, Bool.false_eq_true, if_true, if_false]
    rw [if_neg hlow]
    rfl

/-! ### Values -/

theorem skipSpace_cons {c : Char} (h : isSpace c = false) (s : List Char) : skipSpace (c :: s) = c :: s := by
  rw [skipSpace, List.dropWhile_cons, h]
  rfl

theorem skipSpace_of_ends {rest : List Char} (h : Ends rest) : skipSpace rest = rest := by
  cases rest with
  | nil => rfl
  | cons c rest => rcases h c rfl with rfl | rfl | rfl <;> rfl

/-- A value is read at the front of its text, with enough fuel, whatever ends it. -/
structure IsRead (n : Nat) (v : Json) : Prop where
  starts : ∃ c cs, (text v).toList = c :: cs ∧ isSpace c = false ∧ c ≠ ']'
  reads : ∀ fuel depth rest, n ≤ depth → 2 * (text v).toList.length ≤ fuel → Ends rest →
    value? fuel depth ((text v).toList ++ rest) = some (v, rest)

theorem isRead_word {n : Nat} {v : Json} {c : Char} {cs : List Char} (htext : (text v).toList = c :: cs)
    (hspace : isSpace c = false) (hbracket : c ≠ ']')
    (h : ∀ fuel depth rest, value? (fuel + 1) depth (c :: (cs ++ rest)) = some (v, rest)) : IsRead n v where
  starts := ⟨c, cs, htext, hspace, hbracket⟩
  reads fuel depth rest _ hfuel _ := by
    rw [htext, List.length_cons] at hfuel
    obtain ⟨f, rfl⟩ : ∃ f, fuel = f + 1 := ⟨fuel - 1, by omega⟩
    rw [htext]
    exact h f depth rest

theorem isRead_null {n : Nat} : IsRead n .null :=
  isRead_word rfl rfl (by decide) fun _ _ _ => rfl

theorem isRead_bool {n : Nat} (b : Bool) : IsRead n (.bool b) := by
  cases b with
  | true => exact isRead_word rfl rfl (by decide) fun _ _ _ => rfl
  | false => exact isRead_word rfl rfl (by decide) fun _ _ _ => rfl

theorem isRead_string {n : Nat} (s : String) : IsRead n (.string s) :=
  isRead_word (stringText_toList s) rfl (by decide) fun fuel depth rest => by
    have hread : StringLiteral.read (escaped s.toList ++ ['\x22'] ++ rest) = .ok (s.toList, rest) := by
      rw [List.append_assoc]
      exact StringLiteral.readFrom_escaped s.toList rest 1
    rw [value?, skipSpace_cons rfl]
    simp only [hread, String.ofList_toList]

theorem isSpace_of_number {c : Char} (h : c = '-' ∨ isDigit c = true) : isSpace c = false := by
  rw [Bool.eq_false_iff]
  intro hspace
  simp only [isSpace, Bool.or_eq_true, decide_eq_true_eq] at hspace
  rcases hspace with ((rfl | rfl) | rfl) | rfl <;> rcases h with h | h <;> cases h

theorem value?_number (fuel depth : Nat) {c : Char} {cs : List Char} (h : c = '-' ∨ isDigit c = true) :
    value? (fuel + 1) depth (c :: cs) = (number? (c :: cs)).map fun (n, r) => (.number n, r) := by
  rw [value?, skipSpace_cons (isSpace_of_number h)]
  split
  case h_8 =>
    rename_i heq
    cases heq
    have hstart : (c = '-' || isDigit c) = true := by simp [h]
    rw [if_pos hstart]
  all_goals
    rename_i heq
    cases heq
    try rcases h with h | h <;> cases h

theorem intText_eq_cons (i : Int) : ∃ c cs, (toString i).toList = c :: cs ∧ (c = '-' ∨ isDigit c = true) := by
  cases i with
  | negSucc m => exact ⟨_, _, intText_negSucc m, .inl rfl⟩
  | ofNat n =>
    rw [intText_ofNat]
    rcases Nat.eq_zero_or_pos n with rfl | hpos
    · exact ⟨'0', [], by decide, .inr (by decide)⟩
    · obtain ⟨c, cs, hdigits, -⟩ := toDigits_eq_cons hpos
      exact ⟨c, cs, hdigits, .inr (isDigit_of_mem_toDigits (hdigits ▸ List.mem_cons_self))⟩

theorem isRead_int {n : Nat} {i : Int} (low : -(twoTo 63 : Int) ≤ i) (high : i < twoTo 64) :
    IsRead n (.number (.int i)) := by
  obtain ⟨c, cs, htext, hc⟩ := intText_eq_cons i
  have hnumber : (text (.number (.int i))).toList = c :: cs := htext
  constructor
  · refine ⟨c, cs, hnumber, isSpace_of_number hc, ?_⟩
    · rintro rfl
      rcases hc with h | h <;> cases h
  · intro fuel depth rest _ hfuel hrest
    rw [hnumber, List.length_cons] at hfuel
    obtain ⟨f, rfl⟩ : ∃ f, fuel = f + 1 := ⟨fuel - 1, by omega⟩
    have hread := number?_text low high hrest
    rw [htext] at hread
    rw [hnumber, List.cons_append, value?_number f depth hc, ← List.cons_append, hread]
    rfl

/-! ### Containers -/

theorem itemsText_cons (v : Json) {vs : List Json} (h : vs ≠ []) :
    itemsText (v :: vs) = text v ++ "," ++ itemsText vs := by
  cases vs with
  | nil => contradiction
  | cons w vs => rfl

theorem fieldsText_cons (name : String) (v : Json) {fs : List (String × Json)} (h : fs ≠ []) :
    fieldsText ((name, v) :: fs) = stringText name ++ ":" ++ text v ++ "," ++ fieldsText fs := by
  cases fs with
  | nil => contradiction
  | cons w vs => rfl

theorem ends_cons {c : Char} (h : c = ',' ∨ c = ']' ∨ c = '\x7d') (rest : List Char) : Ends (c :: rest) := by
  rintro d hd
  cases hd
  exact h

theorem items?_text {n : Nat} {v : Json} {vs : List Json} (h : ∀ w ∈ v :: vs, IsRead n w) (fuel depth : Nat)
    (rest : List Char) (hdepth : n ≤ depth)
    (hfuel : 2 * (itemsText (v :: vs)).toList.length + 1 ≤ fuel) :
    items? fuel depth ((itemsText (v :: vs)).toList ++ ']' :: rest) = some (v :: vs, rest) := by
  -- Each item costs a step, which the comma after it pays for.
  induction vs generalizing v fuel with
  | nil =>
    obtain ⟨f, rfl⟩ : ∃ f, fuel = f + 1 := ⟨fuel - 1, by omega⟩
    have hlength : 2 * (text v).toList.length + 1 ≤ f + 1 := hfuel
    have hread := (h v List.mem_cons_self).reads f depth (']' :: rest) hdepth (by omega)
      (ends_cons (by simp) rest)
    have htext : itemsText [v] = text v := rfl
    rw [htext, items?, hread]
    simp only [skipSpace_of_ends (ends_cons (.inr (.inl rfl)) rest)]
  | cons w vs ih =>
    obtain ⟨hv, hvs⟩ := List.forall_mem_cons.mp h
    have htext : (itemsText (v :: w :: vs)).toList ++ ']' :: rest =
        (text v).toList ++ ',' :: ((itemsText (w :: vs)).toList ++ ']' :: rest) := by
      simp [itemsText_cons v (List.cons_ne_nil w vs)]
    have hlength : (itemsText (v :: w :: vs)).toList.length =
        (text v).toList.length + 1 + (itemsText (w :: vs)).toList.length := by
      simp [itemsText_cons v (List.cons_ne_nil w vs)]
      omega
    obtain ⟨f, rfl⟩ : ∃ f, fuel = f + 1 := ⟨fuel - 1, by omega⟩
    have hread := hv.reads f depth (',' :: ((itemsText (w :: vs)).toList ++ ']' :: rest)) hdepth (by omega)
      (ends_cons (.inl rfl) _)
    have hrest := ih hvs f (by omega)
    rw [htext, items?, hread]
    simp only [skipSpace_of_ends (ends_cons (.inl rfl) _), hrest, Option.map_some]

theorem value?_items (fuel depth : Nat) {c : Char} {s : List Char} (hspace : isSpace c = false)
    (hbracket : c ≠ ']') :
    value? (fuel + 1) (depth + 1) ('[' :: c :: s) =
      (items? fuel depth (c :: s)).map fun (vs, r) => (.array vs, r) := by
  rw [value?, skipSpace_cons rfl]
  simp only [skipSpace_cons hspace]
  split
  · rename_i heq
    cases heq
    contradiction
  · rfl

theorem itemsText_eq_cons {n : Nat} {v : Json} (h : IsRead n v) (vs : List Json) :
    ∃ c cs, (itemsText (v :: vs)).toList = c :: cs ∧ isSpace c = false ∧ c ≠ ']' := by
  obtain ⟨c, cs, hv, hstart⟩ := h.starts
  cases vs with
  | nil => exact ⟨c, cs, hv, hstart⟩
  | cons w vs =>
    refine ⟨c, cs ++ ',' :: (itemsText (w :: vs)).toList, ?_, hstart⟩
    simp [itemsText_cons v (List.cons_ne_nil w vs), hv]

theorem isRead_array {n : Nat} {items : List Json} (h : ∀ v ∈ items, IsRead n v) :
    IsRead (n + 1) (.array items) := by
  have htext : (text (.array items)).toList = '[' :: ((itemsText items).toList ++ [']']) := by
    show ("[" ++ itemsText items ++ "]").toList = _
    simp
  refine ⟨⟨_, _, htext, rfl, by decide⟩, fun fuel depth rest hdepth hfuel _ => ?_⟩
  rw [htext] at hfuel
  simp only [List.length_cons, List.length_append, List.length_nil] at hfuel
  obtain ⟨f, rfl⟩ : ∃ f, fuel = f + 1 := ⟨fuel - 1, by omega⟩
  obtain ⟨d, rfl⟩ : ∃ d, depth = d + 1 := ⟨depth - 1, by omega⟩
  rw [htext, List.cons_append, List.append_assoc]
  cases items with
  | nil => rfl
  | cons v vs =>
    have hread := items?_text h f d rest (by omega) (by omega)
    obtain ⟨c, cs, hitems, hspace, hbracket⟩ := itemsText_eq_cons (h v List.mem_cons_self) vs
    rw [hitems, List.cons_append] at hread
    rw [hitems, List.singleton_append, List.cons_append, value?_items f d hspace hbracket, hread]
    rfl

theorem read_stringText (name : String) (rest : List Char) :
    ∃ s, (stringText name).toList ++ rest = '\x22' :: s ∧ StringLiteral.read s = .ok (name.toList, rest) := by
  refine ⟨escaped name.toList ++ '\x22' :: rest, ?_, StringLiteral.readFrom_escaped name.toList rest 1⟩
  rw [stringText_toList, List.cons_append, List.append_assoc]
  rfl

section

variable {fuel depth : Nat} {name : String} {v : Json} {s r : List Char}

theorem fields?_last (h : value? fuel depth s = some (v, '\x7d' :: r)) :
    fields? (fuel + 1) depth ((stringText name).toList ++ ':' :: s) = some ([(name, v)], r) := by
  obtain ⟨t, htext, hname⟩ := read_stringText name (':' :: s)
  rw [htext, fields?, skipSpace_cons rfl]
  simp only [hname, skipSpace_cons (show isSpace ':' = false from rfl), h,
    skipSpace_cons (show isSpace '\x7d' = false from rfl), String.ofList_toList]

theorem fields?_more (h : value? fuel depth s = some (v, ',' :: r)) :
    fields? (fuel + 1) depth ((stringText name).toList ++ ':' :: s) =
      (fields? fuel depth r).map fun (fs, r) => ((name, v) :: fs, r) := by
  obtain ⟨t, htext, hname⟩ := read_stringText name (':' :: s)
  rw [htext, fields?, skipSpace_cons rfl]
  simp only [hname, skipSpace_cons (show isSpace ':' = false from rfl), h,
    skipSpace_cons (show isSpace ',' = false from rfl), String.ofList_toList]

end

theorem fields?_text {n : Nat} {field : String × Json} {fs : List (String × Json)}
    (h : ∀ g ∈ field :: fs, IsRead n g.2) (fuel depth : Nat) (rest : List Char) (hdepth : n ≤ depth)
    (hfuel : 2 * (fieldsText (field :: fs)).toList.length + 1 ≤ fuel) :
    fields? fuel depth ((fieldsText (field :: fs)).toList ++ '\x7d' :: rest) = some (field :: fs, rest) := by
  induction fs generalizing field fuel with
  | nil =>
    obtain ⟨name, v⟩ := field
    have htext : fieldsText [(name, v)] = stringText name ++ ":" ++ text v := rfl
    have hlist : (fieldsText [(name, v)]).toList ++ '\x7d' :: rest =
        (stringText name).toList ++ ':' :: ((text v).toList ++ '\x7d' :: rest) := by simp [htext]
    have hlength : (text v).toList.length + 1 ≤ (fieldsText [(name, v)]).toList.length := by simp [htext]
    obtain ⟨f, rfl⟩ : ∃ f, fuel = f + 1 := ⟨fuel - 1, by omega⟩
    have hv : IsRead n v := h (name, v) List.mem_cons_self
    have hread := hv.reads f depth ('\x7d' :: rest) hdepth (by omega)
      (ends_cons (.inr (.inr rfl)) rest)
    rw [hlist, fields?_last hread]
  | cons g fs ih =>
    obtain ⟨name, v⟩ := field
    have hv : IsRead n v := h (name, v) List.mem_cons_self
    have hfs := (List.forall_mem_cons.mp h).2
    have htext := fieldsText_cons name v (List.cons_ne_nil g fs)
    have hlist : (fieldsText ((name, v) :: g :: fs)).toList ++ '\x7d' :: rest =
        (stringText name).toList ++ ':' :: ((text v).toList ++
          ',' :: ((fieldsText (g :: fs)).toList ++ '\x7d' :: rest)) := by simp [htext]
    have hlength : (text v).toList.length + 1 + (fieldsText (g :: fs)).toList.length ≤
        (fieldsText ((name, v) :: g :: fs)).toList.length := by
      simp [htext]
      omega
    obtain ⟨f, rfl⟩ : ∃ f, fuel = f + 1 := ⟨fuel - 1, by omega⟩
    have hread := hv.reads f depth (',' :: ((fieldsText (g :: fs)).toList ++ '\x7d' :: rest)) hdepth
      (by omega) (ends_cons (.inl rfl) _)
    rw [hlist, fields?_more hread, ih hfs f (by omega)]
    rfl

theorem fieldsText_eq_cons (field : String × Json) (fs : List (String × Json)) :
    ∃ cs, (fieldsText (field :: fs)).toList = '\x22' :: cs := by
  obtain ⟨name, v⟩ := field
  cases fs with
  | nil =>
    have htext : fieldsText [(name, v)] = stringText name ++ ":" ++ text v := rfl
    exact ⟨_, by rw [htext]; simp [stringText_toList]; rfl⟩
  | cons g fs =>
    exact ⟨_, by rw [fieldsText_cons name v (List.cons_ne_nil g fs)]; simp [stringText_toList]; rfl⟩

theorem isRead_object {n : Nat} {fields : List (String × Json)} (h : ∀ field ∈ fields, IsRead n field.2) :
    IsRead (n + 1) (.object fields) := by
  have htext : (text (.object fields)).toList = '\x7b' :: ((fieldsText fields).toList ++ ['\x7d']) := by
    show ("\x7b" ++ fieldsText fields ++ "\x7d").toList = _
    simp
  refine ⟨⟨_, _, htext, rfl, by decide⟩, fun fuel depth rest hdepth hfuel _ => ?_⟩
  rw [htext] at hfuel
  simp only [List.length_cons, List.length_append, List.length_nil] at hfuel
  obtain ⟨f, rfl⟩ : ∃ f, fuel = f + 1 := ⟨fuel - 1, by omega⟩
  obtain ⟨d, rfl⟩ : ∃ d, depth = d + 1 := ⟨depth - 1, by omega⟩
  rw [htext, List.cons_append, List.append_assoc]
  cases fields with
  | nil => rfl
  | cons field fs =>
    have hread := fields?_text h f d rest (by omega) (by omega)
    obtain ⟨cs, hfields⟩ := fieldsText_eq_cons field fs
    rw [hfields, List.cons_append] at hread
    rw [hfields, List.singleton_append, List.cons_append, value?, skipSpace_cons rfl]
    simp only [skipSpace_cons (show isSpace '\x22' = false from rfl)]
    show (fields? f d ('\x22' :: (cs ++ '\x7d' :: rest))).map _ = _
    rw [hread]
    rfl

/-! ### Documents -/

theorem isRead_of_printable {n : Nat} {v : Json} (h : Printable n v) : IsRead n v := by
  induction h with
  | null => exact isRead_null
  | bool b => exact isRead_bool b
  | int low high => exact isRead_int low high
  | string s => exact isRead_string s
  | array _ ih => exact isRead_array ih
  | object _ ih => exact isRead_object ih

/-- **The text of a value is read as the value.** -/
theorem document?_text {v : Json} (h : Printable maxDepth v) : document? (text v) = some v := by
  have hread := (isRead_of_printable h).reads (2 * (text v).toList.length + 2) maxDepth [] (Nat.le_refl _)
    (by omega) nofun
  rw [List.append_nil] at hread
  unfold document?
  simp only [hread]
  rfl

end Json

end HttpResource
