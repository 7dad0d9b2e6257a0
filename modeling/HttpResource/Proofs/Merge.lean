/-
# Tables by their values

Two tables are equal if every name has the same value in both. A table to which another one is added has
the values of the other, and its own under the names that the other does not have. Where the entries of
two tables are related one by one, so are the values of each name.

Key definitions: `Table.names`, `Entrywise`.
Key theorems: `Table.get?_union`, `Table.ext_get?`, `Table.mem_entries_iff`, `Entrywise.lookup`.
-/
import HttpResource.Proofs.Fields

namespace HttpResource

section

variable {β : Type}

theorem lookup_insertEntry (name : String) (value : β) (n : String) :
    ∀ entries : List (String × β),
      (insertEntry name value entries).lookup n = if n = name then some value else entries.lookup n
  | [] => lookup_cons_eq name value [] n
  | (m, v) :: rest => by
    unfold insertEntry
    split
    · exact lookup_cons_eq name value _ n
    · split
      · rename_i hname
        subst hname
        rw [lookup_cons_eq, lookup_cons_eq]
        by_cases hn : n = name
        · rw [if_pos hn, if_pos hn]
        · rw [if_neg hn, if_neg hn, if_neg hn]
      · rename_i hname
        rw [lookup_cons_eq, lookup_cons_eq, lookup_insertEntry name value n rest]
        by_cases hn : n = m
        · rw [if_pos hn, if_pos hn, if_neg (hn ▸ Ne.symm hname)]
        · rw [if_neg hn, if_neg hn]

/-- The same names in the same order, each with related values. -/
def Entrywise {γ : Type} (R : β → γ → Prop) : List (String × β) → List (String × γ) → Prop :=
  List.Forall₂ fun e f => e.1 = f.1 ∧ R e.2 f.2

section

variable {γ : Type} {R : β → γ → Prop} {es : List (String × β)} {fs : List (String × γ)}

theorem Entrywise.names_eq (h : Entrywise R es fs) : es.map (·.1) = fs.map (·.1) := by
  induction h with
  | nil => rfl
  | cons he _ ih => rw [List.map_cons, List.map_cons, he.1, ih]

theorem Entrywise.lookup (h : Entrywise R es fs) (n : String) :
    Option.Rel R (es.lookup n) (fs.lookup n) := by
  induction h with
  | nil => exact .none
  | @cons e f es fs he _ ih =>
    obtain ⟨m, v⟩ := e
    obtain ⟨_, u⟩ := f
    obtain ⟨rfl, hvalues⟩ : m = _ ∧ R v u := he
    rw [lookup_cons_eq, lookup_cons_eq]
    by_cases hn : n = m
    · rw [if_pos hn, if_pos hn]
      exact .some hvalues
    · rw [if_neg hn, if_neg hn]
      exact ih

end

end

namespace Table

variable {β : Type} {t u : Table β} {name : String} {value : β}

theorem get?_insert (t : Table β) (name : String) (value : β) (n : String) :
    (t.insert name value).get? n = if n = name then some value else t.get? n :=
  lookup_insertEntry name value n t.entries

theorem get?_foldl_insert {entries : List (String × β)} (h : (entries.map (·.1)).Nodup) (t : Table β)
    (n : String) :
    (entries.foldl (fun t (name, value) => t.insert name value) t).get? n =
      (entries.lookup n).or (t.get? n) := by
  -- No later entry has the name of the first one, so its value stays when they are put over it.
  induction entries generalizing t with
  | nil => rfl
  | cons e rest ih =>
    obtain ⟨m, v⟩ := e
    rw [List.map_cons, List.nodup_cons] at h
    rw [List.foldl_cons, ih h.2, get?_insert, lookup_cons_eq]
    by_cases hn : n = m
    · subst hn
      rw [if_pos rfl, if_pos rfl, lookup_eq_none_of_notMem h.1]
      rfl
    · rw [if_neg hn, if_neg hn]

/-- The values of the second table win. -/
theorem get?_union (t u : Table β) (n : String) : (t.union u).get? n = (u.get? n).or (t.get? n) :=
  get?_foldl_insert u.nodup t n

theorem mem_entries_iff : (name, value) ∈ t.entries ↔ t.get? name = some value := by
  constructor
  · exact lookup_eq_some_of_mem t.nodup
  · intro h
    obtain ⟨before, after, heq, -⟩ := List.lookup_eq_some_iff.mp h
    exact heq ▸ List.mem_append_right _ List.mem_cons_self

theorem entries_ofList {entries : List (String × β)} (h : Ascending entries) :
    (ofList entries).entries = entries :=
  congrArg Table.entries (ofList_of_perm (List.Perm.refl (Table.mk entries h).entries))

/-- The names that have a value. -/
def names (t : Table β) : List String := t.entries.map (·.1)

theorem mem_names_iff : name ∈ t.names ↔ ∃ value, t.get? name = some value := by
  unfold names
  rw [List.mem_map]
  constructor
  · rintro ⟨e, he, rfl⟩
    exact ⟨e.2, mem_entries_iff.mp he⟩
  · rintro ⟨value, h⟩
    exact ⟨(name, value), mem_entries_iff.mpr h, rfl⟩

theorem get?_eq_none_iff : t.get? name = none ↔ name ∉ t.names := by
  rw [mem_names_iff, ← Option.ne_none_iff_exists', not_not]

theorem mem_names_union_iff : name ∈ (t.union u).names ↔ name ∈ t.names ∨ name ∈ u.names := by
  rw [← not_iff_not, not_or, ← get?_eq_none_iff, ← get?_eq_none_iff, ← get?_eq_none_iff, get?_union,
    Option.or_eq_none_iff, and_comm]

theorem ext_get? (h : ∀ n, t.get? n = u.get? n) : t = u := by
  have hperm : t.entries.Perm u.entries := by
    refine (List.perm_ext_iff_of_nodup t.nodup.of_map u.nodup.of_map).mpr ?_
    rintro ⟨n, v⟩
    rw [mem_entries_iff, mem_entries_iff, h n]
  rw [← ofList_of_perm (List.Perm.refl t.entries), ofList_of_perm hperm]

/-- What a table has under names of the other is lost. -/
theorem union_congr {t t' : Table β} (h : ∀ n, n ∉ u.names → t.get? n = t'.get? n) :
    t.union u = t'.union u := by
  refine ext_get? fun n => ?_
  rw [get?_union, get?_union]
  by_cases hn : n ∈ u.names
  · obtain ⟨value, hvalue⟩ := mem_names_iff.mp hn
    rw [hvalue]
    rfl
  · rw [h n hn]

end Table

end HttpResource
