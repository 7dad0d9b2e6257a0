/-
# Lawful types of the wire

What is written on the wire is read by programs of other versions too, which add fields to records and
put fields in other orders. A form says where a type has records in it, and so which changes of a value
are of that kind. A type is lawful if its values are read back from what is written of them, and no such
change makes a difference to what is read.

Lawfulness is put together from the parts of a type. A record is lawful if each of its fields is written
and read in matching ways: a field that is left out when it is empty has to read as empty by default. In
the same way it follows from the parts that the text of what is written is read back.

Key definitions: `Form.Varies`, `Form.Variant`, `Wire.Lawful`, `Wire.Shallow`.
Key theorems: `Form.record_varies`, `reads_record`, `reads_record_alike`, `Json.printable_ofPresent`.
-/
import HttpResource.Proofs.Document
import HttpResource.Proofs.Fields
import Mathlib.Logic.Relation

namespace HttpResource

/-- Where a value of the wire has records in it. -/
inductive Form
  /-- No records at all. -/
  | plain
  | list (item : Form)
  | table (value : Form)
  /-- A record with the forms of its fields. -/
  | record (fields : List (String × Form))

namespace Form

/-- One change of a value that leaves what is said of its known fields as it is. -/
inductive Varies : Form → Json → Json → Prop
  /-- A record has one more field, of a name that it does not know. -/
  | unknown {known : List (String × Form)} {name : String} (v : Json) {fields : List (String × Json)}
      (fresh : name ∉ known.map (·.1)) :
      Varies (.record known) (.object fields) (.object ((name, v) :: fields))
  /-- The fields of a record are put in another order. -/
  | order {known : List (String × Form)} {fields fields' : List (String × Json)}
      (perm : fields.Perm fields') : Varies (.record known) (.object fields) (.object fields')
  /-- A known field of a record is changed inside. -/
  | field {known : List (String × Form)} {name : String} {f : Form} {v w : Json}
      (before after : List (String × Json)) (form : known.lookup name = some f) (inside : Varies f v w) :
      Varies (.record known) (.object (before ++ (name, v) :: after))
        (.object (before ++ (name, w) :: after))
  /-- The entries of a table are put in another order. -/
  | entries {f : Form} {entries entries' : List (String × Json)}
      (distinct : (entries.map (·.1)).Nodup) (perm : entries.Perm entries') :
      Varies (.table f) (.object entries) (.object entries')
  /-- An entry of a table is changed inside. -/
  | entry {f : Form} {name : String} {v w : Json} (before after : List (String × Json))
      (inside : Varies f v w) :
      Varies (.table f) (.object (before ++ (name, v) :: after))
        (.object (before ++ (name, w) :: after))
  /-- An item of a list is changed inside. -/
  | item {f : Form} {v w : Json} (before after : List Json) (inside : Varies f v w) :
      Varies (.list f) (.array (before ++ v :: after)) (.array (before ++ w :: after))

/-- Any number of such changes. -/
def Variant (f : Form) : Json → Json → Prop := Relation.ReflTransGen f.Varies

variable {f : Form} {v w : Json}

theorem Varies.ne_null (h : f.Varies v w) : v ≠ .null ∧ w ≠ .null := by
  cases h <;> exact ⟨nofun, nofun⟩

/-- The fields of a name are the same, or they have both one that is changed inside. -/
def FieldVaries (f : Form) (o o' : Option Json) : Prop :=
  o' = o ∨ ∃ v w, o = some v ∧ o' = some w ∧ f.Varies v w

/-- A change of a record leaves each of its known fields as it is or changes it inside. -/
theorem record_varies {known : List (String × Form)} {v w : Json} (h : (record known).Varies v w) :
    (v.record? (known.map (·.1)) = none ∧ w.record? (known.map (·.1)) = none) ∨
      ∃ fs gs, v.record? (known.map (·.1)) = some fs ∧ w.record? (known.map (·.1)) = some gs ∧
        ∀ n f, known.lookup n = some f → FieldVaries f (fs.lookup n) (gs.lookup n) := by
  suffices hfields : ∃ fs gs, v = .object fs ∧ w = .object gs ∧
      repeatsField (known.map (·.1)) gs = repeatsField (known.map (·.1)) fs ∧
      (repeatsField (known.map (·.1)) fs = false →
        ∀ n f, known.lookup n = some f → FieldVaries f (fs.lookup n) (gs.lookup n)) by
    obtain ⟨fs, gs, rfl, rfl, hrepeats, hfields⟩ := hfields
    unfold Json.record?
    simp only [hrepeats]
    cases hfs : repeatsField (known.map (·.1)) fs with
    | true => exact .inl ⟨rfl, rfl⟩
    | false => exact .inr ⟨fs, gs, rfl, rfl, hfields hfs⟩
  cases h with
  | @unknown _ name v fields fresh =>
    refine ⟨_, _, rfl, rfl, repeatsField_congr fun n hn => ?_, fun _ n f hf => .inl ?_⟩
    · have hne : ¬name = n := by
        rintro rfl
        exact fresh hn
      rw [List.filter_cons]
      simp [hne]
    · have hne : n ≠ name := by
        rintro rfl
        rw [lookup_eq_none_of_notMem fresh] at hf
        cases hf
      rw [lookup_cons_eq, if_neg hne]
  | order perm =>
    refine ⟨_, _, rfl, rfl, repeatsField_congr fun n _ => ?_, fun hrepeats n f hf => .inl ?_⟩
    · exact (perm.filter _).length_eq.symm
    · have hn : n ∈ known.map (·.1) := by
        by_contra hn
        rw [lookup_eq_none_of_notMem hn] at hf
        cases hf
      exact lookup_of_perm perm (repeatsField_eq_false_iff.mp hrepeats n hn)
  | @field _ name f v w before after form inside =>
    refine ⟨_, _, rfl, rfl, repeatsField_congr fun n _ => ?_, fun _ n g hg => ?_⟩
    · rw [List.filter_append, List.filter_append, List.filter_cons, List.filter_cons]
      split <;> simp
    · rw [List.lookup_append, List.lookup_append, lookup_cons_eq, lookup_cons_eq]
      cases hbefore : before.lookup n with
      | some u => exact .inl rfl
      | none =>
        by_cases hn : n = name
        · subst hn
          rw [form] at hg
          cases hg
          rw [if_pos rfl, if_pos rfl]
          exact .inr ⟨v, w, rfl, rfl, inside⟩
        · rw [if_neg hn, if_neg hn]
          exact .inl rfl

end Form

/-! ### Types of the wire -/

namespace Wire

/-- A type whose values are read back from what is written of them, in whatever way that is varied. -/
class Lawful (α : Type) [Wire α] (form : outParam Form) : Prop where
  ne_null : ∀ a : α, toJson a ≠ .null
  reads_back : ∀ a : α, ofJson? (toJson a) = some a
  reads_alike : ∀ {v w : Json}, form.Varies v w → (ofJson? w : Option α) = ofJson? v

/-- What is not null reads as something if it reads at all. -/
theorem ofJson?_option {α : Type} [Wire α] {v : Json} (h : v ≠ .null) :
    (ofJson? v : Option (Option α)) = (ofJson? v).map some := by
  cases v with
  | null => contradiction
  | _ => rfl

instance : Lawful String .plain where
  ne_null _ := nofun
  reads_back _ := rfl
  reads_alike h := nomatch h

instance : Lawful Bool .plain where
  ne_null _ := nofun
  reads_back _ := rfl
  reads_alike h := nomatch h

theorem boundedInt?_eq {low high n : Int} (hlow : low ≤ n) (hhigh : n ≤ high) :
    boundedInt? low high (.int n) = some n := by
  show (if low ≤ n && n ≤ high then some n else none) = some n
  rw [decide_eq_true hlow, decide_eq_true hhigh]
  rfl

instance : Lawful UInt16 .plain where
  ne_null _ := nofun
  reads_back n := by
    have hbound := n.toNat_lt
    show (boundedInt? 0 65535 (.int n.toNat)).map _ = some n
    rw [boundedInt?_eq (by omega) (by omega), Option.map_some, Int.toNat_natCast, UInt16.ofNat_toNat]
  reads_alike h := nomatch h

instance : Lawful Int32 .plain where
  ne_null _ := nofun
  reads_back n := by
    have hlow := n.le_toInt
    have hhigh := n.toInt_lt
    show (boundedInt? (-2147483648) 2147483647 (.int n.toInt)).map _ = some n
    rw [boundedInt?_eq (by omega) (by omega), Option.map_some, Int32.ofInt_toInt]
  reads_alike h := nomatch h

/-- An entry of a table, its name kept. -/
def namedValue? (α : Type) [Wire α] (e : String × Json) : Option (String × α) :=
  (ofJson? e.2).map fun a => (e.1, a)

/-- Entries that are read in another order give the same entries in another order. -/
theorem mapM_namedValue?_perm (α : Type) [Wire α] {es fs : List (String × Json)} (h : es.Perm fs) :
    (es.mapM (namedValue? α) = none ∧ fs.mapM (namedValue? α) = none) ∨
      ∃ as bs, es.mapM (namedValue? α) = some as ∧ fs.mapM (namedValue? α) = some bs ∧ as.Perm bs := by
  induction h with
  | nil => exact .inr ⟨[], [], rfl, rfl, .refl _⟩
  | cons e _ ih =>
    rw [List.mapM_cons, List.mapM_cons]
    cases he : namedValue? α e with
    | none => exact .inl ⟨rfl, rfl⟩
    | some a =>
      rcases ih with ⟨hes, hfs⟩ | ⟨as, bs, hes, hfs, hperm⟩
      · rw [hes, hfs]
        exact .inl ⟨rfl, rfl⟩
      · rw [hes, hfs]
        exact .inr ⟨a :: as, a :: bs, rfl, rfl, hperm.cons a⟩
  | swap e e' rest =>
    rw [List.mapM_cons, List.mapM_cons, List.mapM_cons, List.mapM_cons]
    cases namedValue? α e <;> cases namedValue? α e' <;> cases rest.mapM (namedValue? α) <;>
      first
        | exact .inl ⟨rfl, rfl⟩
        | exact .inr ⟨_, _, rfl, rfl, List.Perm.swap _ _ _⟩
  | trans _ _ ih ih' =>
    rcases ih with ⟨hes, hfs⟩ | ⟨as, bs, hes, hfs, hperm⟩
    · rcases ih' with ⟨-, hgs⟩ | ⟨_, _, hfs', -, -⟩
      · exact .inl ⟨hes, hgs⟩
      · rw [hfs] at hfs'
        cases hfs'
    · rcases ih' with ⟨hfs', -⟩ | ⟨bs', cs, hfs', hgs, hperm'⟩
      · rw [hfs] at hfs'
        cases hfs'
      · rw [hfs] at hfs'
        cases hfs'
        exact .inr ⟨as, cs, hes, hgs, hperm.trans hperm'⟩

theorem names_of_mapM_namedValue? {α : Type} [Wire α] {es : List (String × Json)} {as : List (String × α)}
    (h : es.mapM (namedValue? α) = some as) : as.map (·.1) = es.map (·.1) := by
  induction es generalizing as with
  | nil =>
    cases h
    rfl
  | cons e rest ih =>
    rw [List.mapM_cons] at h
    obtain ⟨a, ha, h⟩ := Option.bind_eq_some_iff.mp h
    obtain ⟨bs, hbs, h⟩ := Option.bind_eq_some_iff.mp h
    obtain ⟨x, -, rfl⟩ := Option.map_eq_some_iff.mp ha
    cases h
    rw [List.map_cons, List.map_cons, ih hbs]

section

variable {α : Type} [Wire α] {f : Form} [Lawful α f]

include f

theorem mapM_toJson (as : List α) : (as.map toJson).mapM ofJson? = some as := by
  induction as with
  | nil => rfl
  | cons a as ih =>
    rw [List.map_cons, List.mapM_cons, Lawful.reads_back, ih]
    rfl

instance : Lawful (List α) (.list f) where
  ne_null _ := nofun
  reads_back as := mapM_toJson as
  reads_alike h := by
    cases h with
    | item before after inside =>
      show (before ++ _ :: after).mapM ofJson? = (before ++ _ :: after).mapM ofJson?
      rw [List.mapM_append, List.mapM_append, List.mapM_cons, List.mapM_cons,
        Lawful.reads_alike inside]

theorem mapM_namedValue? (entries : List (String × α)) :
    (entries.map fun (name, a) => (name, toJson a)).mapM (namedValue? α) = some entries := by
  induction entries with
  | nil => rfl
  | cons e rest ih =>
    rw [List.map_cons, List.mapM_cons, ih, namedValue?, Lawful.reads_back]
    rfl

instance : Lawful (Table α) (.table f) where
  ne_null _ := nofun
  reads_back t := by
    show ((t.entries.map fun (name, a) => (name, toJson a)).mapM (namedValue? α)).map Table.ofList = some t
    rw [mapM_namedValue?, Option.map_some, Table.ofList_of_perm (List.Perm.refl _)]
  reads_alike h := by
    cases h with
    | @entries _ es fs distinct perm =>
      show (fs.mapM (namedValue? α)).map Table.ofList = (es.mapM (namedValue? α)).map Table.ofList
      rcases mapM_namedValue?_perm α perm with ⟨hes, hfs⟩ | ⟨as, bs, hes, hfs, hperm⟩
      · rw [hes, hfs]
      · have hnodup : (as.map (·.1)).Nodup := by rw [names_of_mapM_namedValue? hes]; exact distinct
        rw [hes, hfs, Option.map_some, Option.map_some, Option.some.injEq]
        exact Table.ofList_of_perm (hperm.symm.trans (Table.entries_ofList_perm hnodup).symm)
    | @entry _ name v w before after inside =>
      show ((before ++ (name, w) :: after).mapM (namedValue? α)).map Table.ofList =
        ((before ++ (name, v) :: after).mapM (namedValue? α)).map Table.ofList
      rw [List.mapM_append, List.mapM_append, List.mapM_cons, List.mapM_cons]
      have hvalue : (ofJson? w : Option α) = ofJson? v := Lawful.reads_alike inside
      have hentry : namedValue? α (name, w) = namedValue? α (name, v) := by rw [namedValue?, namedValue?, hvalue]
      rw [hentry]

end

end Wire

/-! ### Fields -/

section

variable {α : Type} [Wire α] {f : Form} [Wire.Lawful α f] {fs gs : List (String × Json)} {n : String}

include f

theorem required?_written {a : α} (h : fs.lookup n = some (Wire.toJson a)) : required? fs n = some a := by
  rw [required?, h]
  exact Wire.Lawful.reads_back a

theorem field?_written {a d : α} (h : fs.lookup n = some (Wire.toJson a)) : field? fs n d = some a := by
  unfold field?
  rw [h]
  exact Wire.Lawful.reads_back a

/-- A field that is left out when it is empty reads as empty. -/
theorem field?_presentUnless {isEmpty : α → Bool} {a d : α} (h : fs.lookup n = presentUnless isEmpty a)
    (hempty : isEmpty a = true → a = d) : field? fs n d = some a := by
  unfold presentUnless at h
  cases ha : isEmpty a with
  | true =>
    rw [ha] at h
    unfold field?
    rw [h, hempty ha]
    rfl
  | false =>
    rw [ha] at h
    exact field?_written h

theorem ofJson?_some {a : α} : (Wire.ofJson? (Wire.toJson a) : Option (Option α)) = some (some a) := by
  rw [Wire.ofJson?_option (Wire.Lawful.ne_null a), Wire.Lawful.reads_back]
  rfl

/-- A field that is left out when there is nothing reads as nothing. -/
theorem field?_present {a : Option α} (h : fs.lookup n = present a) : field? fs n none = some a := by
  unfold field?
  cases a with
  | none =>
    rw [h]
    rfl
  | some a =>
    rw [h]
    exact ofJson?_some

theorem required?_alike (h : f.FieldVaries (fs.lookup n) (gs.lookup n)) :
    (required? gs n : Option α) = required? fs n := by
  unfold required?
  rcases h with h | ⟨v, w, hv, hw, hvaries⟩
  · rw [h]
  · rw [hv, hw]
    exact Wire.Lawful.reads_alike hvaries

theorem field?_alike {d : α} (h : f.FieldVaries (fs.lookup n) (gs.lookup n)) :
    field? gs n d = field? fs n d := by
  unfold field?
  rcases h with h | ⟨v, w, hv, hw, hvaries⟩
  · rw [h]
  · rw [hv, hw]
    exact Wire.Lawful.reads_alike hvaries

theorem ofJson?_option_alike {v w : Json} (h : f.Varies v w) :
    (Wire.ofJson? w : Option (Option α)) = Wire.ofJson? v := by
  have halike : (Wire.ofJson? w : Option α) = Wire.ofJson? v := Wire.Lawful.reads_alike h
  rw [Wire.ofJson?_option h.ne_null.1, Wire.ofJson?_option h.ne_null.2, halike]

theorem field?_option_alike (h : f.FieldVaries (fs.lookup n) (gs.lookup n)) :
    (field? gs n none : Option (Option α)) = field? fs n none := by
  unfold field?
  rcases h with h | ⟨v, w, hv, hw, hvaries⟩
  · rw [h]
  · rw [hv, hw]
    exact ofJson?_option_alike hvaries

end

section

variable {fs : List (String × Json)} {n : String}

theorem required?_string {s : String} (h : fs.lookup n = some (.string s)) : required? fs n = some s :=
  required?_written h

theorem field?_string {s d : String} (h : fs.lookup n = some (.string s)) : field? fs n d = some s :=
  field?_written h

theorem field?_bool {b d : Bool} (h : fs.lookup n = some (.bool b)) : field? fs n d = some b :=
  field?_written h

end

/-! ### Texts -/

namespace Wire

/-- A type whose values are written without doubles, nested at most so many containers deep. -/
class Shallow (α : Type) [Wire α] (depth : outParam Nat) : Prop where
  printable : ∀ a : α, (toJson a).Printable depth

instance : Shallow String 0 where
  printable s := .string s

instance : Shallow Bool 0 where
  printable b := .bool b

instance : Shallow UInt16 0 where
  printable n := by
    have hbound := n.toNat_lt
    have hhigh : (n.toNat : Int) < twoTo 64 := Int.ofNat_lt.mpr (Nat.lt_trans hbound (by decide))
    exact .int (by omega) hhigh

instance : Shallow Int32 0 where
  printable n := by
    have hlow := n.le_toInt
    have hhigh := n.toInt_lt
    have hmin : (-(twoTo 63) : Int) ≤ -2 ^ 31 := by decide
    have hmax : (2 ^ 31 : Int) ≤ twoTo 64 := by decide
    exact .int (by omega) (by omega)

instance {α : Type} {depth : Nat} [Wire α] [Shallow α depth] : Shallow (List α) (depth + 1) where
  printable as := by
    refine .array fun v hv => ?_
    obtain ⟨a, -, rfl⟩ := List.mem_map.mp hv
    exact Shallow.printable a

instance {α : Type} {depth : Nat} [Wire α] [Shallow α depth] : Shallow (Table α) (depth + 1) where
  printable t := by
    refine .object fun field hfield => ?_
    obtain ⟨e, -, rfl⟩ := List.mem_map.mp hfield
    exact Shallow.printable e.2

end Wire

/-- A field that is left out, or has a value nested at most so many containers deep. -/
def Json.Fits (depth : Nat) (o : Option Json) : Prop := ∀ v ∈ o, v.Printable depth

theorem Json.printable_ofFields {depth : Nat} {fields : List (String × Json)}
    (h : ∀ field ∈ fields, Fits depth (some field.2)) : (ofFields fields).Printable (depth + 1) :=
  .object (forall_sortFields fun field hfield => h field hfield field.2 rfl)

theorem Json.printable_ofPresent {depth : Nat} {fields : List (String × Option Json)}
    (h : ∀ field ∈ fields, Fits depth field.2) : (ofPresent fields).Printable (depth + 1) := by
  refine printable_ofFields fun field hfield => ?_
  obtain ⟨⟨name, o⟩, hmem, hv⟩ := List.mem_filterMap.mp hfield
  obtain ⟨v, rfl, rfl⟩ := Option.map_eq_some_iff.mp hv
  exact h _ hmem

namespace Json.Fits

variable {α : Type} [Wire α] {m n : Nat} [Wire.Shallow α m]

theorem string (s : String) : Fits n (some (.string s)) := by
  rintro v ⟨⟩
  exact .string s

theorem bool (b : Bool) : Fits n (some (.bool b)) := by
  rintro v ⟨⟩
  exact .bool b

theorem written (a : α) (h : m ≤ n) : Fits n (some (Wire.toJson a)) := by
  rintro v ⟨⟩
  exact (Wire.Shallow.printable a).mono h

theorem present (a : Option α) (h : m ≤ n) : Fits n (present a) := by
  cases a with
  | none => nofun
  | some a => exact written a h

theorem presentUnless (isEmpty : α → Bool) (a : α) (h : m ≤ n) : Fits n (presentUnless isEmpty a) := by
  unfold HttpResource.presentUnless
  split
  · nofun
  · exact written a h

end Json.Fits

/-! ### Records -/

section

variable {α : Type} {decode : List (String × Json) → Option α}

/-- A record is read back if that follows from what was written for each of its fields. -/
theorem reads_record (names : List String) {fields : List (String × Option Json)}
    (hnames : fields.map (·.1) = names) (hnodup : names.Nodup) {a : α}
    (h : ∀ fs, (∀ field ∈ fields, fs.lookup field.1 = field.2) → decode fs = some a) :
    (Json.ofPresent fields).record? names >>= decode = some a := by
  obtain ⟨fs, hrecord, hfields⟩ := Json.record?_ofPresent hnames hnodup
  rw [hrecord]
  exact h fs hfields

/-- The same for a record of which no field is ever left out. -/
theorem reads_full_record (names : List String) {fields : List (String × Json)}
    (hnames : fields.map (·.1) = names) (hnodup : names.Nodup) {a : α}
    (h : ∀ fs, (∀ field ∈ fields, fs.lookup field.1 = some field.2) → decode fs = some a) :
    (Json.ofFields fields).record? names >>= decode = some a := by
  have hpresent : Json.ofFields fields = Json.ofPresent (fields.map fun field => (field.1, some field.2)) := by
    unfold Json.ofPresent
    rw [List.filterMap_map]
    exact congrArg Json.ofFields List.filterMap_some.symm
  rw [hpresent]
  refine reads_record names ?_ hnodup fun fs hfs => h fs fun field hmem => ?_
  · rw [List.map_map]
    exact hnames
  · exact hfs (field.1, some field.2) (List.mem_map.mpr ⟨field, hmem, rfl⟩)

/-- What a record is read as does not change if none of its fields is read differently. -/
theorem reads_record_alike (names : List String) {known : List (String × Form)}
    (hnames : known.map (·.1) = names)
    (h : ∀ fs gs, (∀ n f, known.lookup n = some f → f.FieldVaries (fs.lookup n) (gs.lookup n)) →
      decode gs = decode fs) {v w : Json} (hvaries : (Form.record known).Varies v w) :
    w.record? names >>= decode = v.record? names >>= decode := by
  rcases Form.record_varies hvaries with ⟨hv, hw⟩ | ⟨fs, gs, hv, hw, hfields⟩
  · rw [← hnames, hv, hw]
  · rw [← hnames, hv, hw]
    exact h fs gs hfields

end

theorem Table.eq_empty {β : Type} {t : Table β} (h : t.isEmpty = true) : t = .empty := by
  obtain ⟨entries, ascending⟩ := t
  cases List.isEmpty_iff.mp h
  rfl

end HttpResource
