/-
# The fields of objects

A record reads its fields by name, so what counts is which value each of its names has. Names that stand
at most once keep their values in every order of the fields, and a field of another name makes no
difference to them. An object that is written from fields of different names gives each name back its
value, and none to a field that was left out.

Key theorems: `lookup_of_perm`, `Json.lookup_removeField`, `Json.sortFields_perm`, `Table.ofList_of_perm`,
`Json.record?_ofPresent`.
-/
import HttpResource.Json.Wire
import Mathlib.Data.List.Nodup
import Mathlib.Data.List.Perm.Basic

namespace HttpResource

section

variable {β : Type} {name : String} {value : β}

/-! ### Values by name -/

theorem lookup_cons_eq (m : String) (v : β) (rest : List (String × β)) (n : String) :
    ((m, v) :: rest).lookup n = if n = m then some v else rest.lookup n := by
  rw [List.lookup_cons]
  by_cases h : n = m
  · rw [if_pos h, beq_iff_eq.mpr h]
  · rw [if_neg h, beq_eq_false_iff_ne.mpr h]

/-- The value of a name is that of the first entry with the name. -/
theorem lookup_eq_head? (entries : List (String × β)) (n : String) :
    entries.lookup n = (entries.filter (·.1 = n)).head?.map (·.2) := by
  induction entries with
  | nil => rfl
  | cons e rest ih =>
    obtain ⟨m, v⟩ := e
    rw [lookup_cons_eq, List.filter_cons]
    by_cases h : n = m
    · simp [h]
    · simp [h, Ne.symm h, ih]

/-- A name that stands at most once has the same value in every order of the entries. -/
theorem lookup_of_perm {es fs : List (String × β)} (h : es.Perm fs) {n : String}
    (honce : (es.filter (·.1 = n)).length ≤ 1) : fs.lookup n = es.lookup n := by
  have hperm : (es.filter (·.1 = n)).Perm (fs.filter (·.1 = n)) := h.filter _
  rw [lookup_eq_head?, lookup_eq_head?]
  cases hes : es.filter (·.1 = n) with
  | nil =>
    rw [hes] at hperm
    rw [hperm.nil_eq]
  | cons e rest =>
    rw [hes] at hperm honce
    have hrest : rest = [] := by
      rw [List.length_cons] at honce
      exact List.eq_nil_of_length_eq_zero (by omega)
    rw [hrest] at hperm ⊢
    rw [List.singleton_perm.mp hperm]

theorem length_filter_le_one {entries : List (String × β)} (h : (entries.map (·.1)).Nodup)
    (n : String) : (entries.filter (·.1 = n)).length ≤ 1 := by
  have hcount := List.nodup_iff_count_le_one.mp h n
  rw [List.count_eq_length_filter, List.filter_map, List.length_map] at hcount
  exact hcount

theorem lookup_eq_some_of_mem {entries : List (String × β)} (h : (entries.map (·.1)).Nodup)
    (hmem : (name, value) ∈ entries) : entries.lookup name = some value := by
  induction entries with
  | nil => cases hmem
  | cons e rest ih =>
    obtain ⟨m, v⟩ := e
    rw [List.map_cons, List.nodup_cons] at h
    rw [lookup_cons_eq]
    rcases List.mem_cons.mp hmem with heq | hrest
    · cases heq
      rw [if_pos rfl]
    · have hne : name ≠ m := by
        rintro rfl
        exact h.1 (List.mem_map.mpr ⟨_, hrest, rfl⟩)
      rw [if_neg hne, ih h.2 hrest]

theorem lookup_eq_none_of_notMem {entries : List (String × β)} (h : name ∉ entries.map (·.1)) :
    entries.lookup name = none := by
  induction entries with
  | nil => rfl
  | cons e rest ih =>
    rw [List.map_cons, List.mem_cons, not_or] at h
    rw [lookup_cons_eq, if_neg h.1, ih h.2]

/-! ### Entries in order -/

theorem forall_insertEntry {P : String × β → Prop} (hnew : P (name, value)) :
    ∀ entries : List (String × β), (∀ e ∈ entries, P e) → ∀ e ∈ insertEntry name value entries, P e
  | [], h => List.forall_mem_cons.mpr ⟨hnew, h⟩
  | (n, v) :: rest, h => by
    obtain ⟨hfirst, hrest⟩ := List.forall_mem_cons.mp h
    unfold insertEntry
    split
    · exact List.forall_mem_cons.mpr ⟨hnew, h⟩
    · split
      · exact List.forall_mem_cons.mpr ⟨hnew, hrest⟩
      · exact List.forall_mem_cons.mpr ⟨hfirst, forall_insertEntry hnew rest hrest⟩

/-- Inserting a new name adds an entry and keeps the others. -/
theorem insertEntry_perm {entries : List (String × β)} (h : name ∉ entries.map (·.1)) :
    (insertEntry name value entries).Perm ((name, value) :: entries) := by
  induction entries with
  | nil => exact List.Perm.refl _
  | cons e rest ih =>
    obtain ⟨m, v⟩ := e
    rw [List.map_cons, List.mem_cons, not_or] at h
    unfold insertEntry
    split
    · exact List.Perm.refl _
    · rw [if_neg h.1]
      exact ((ih h.2).cons _).trans (List.Perm.swap _ _ _)

/-- Entries of different names are put in order without a loss. -/
theorem foldl_insertEntry_perm {entries sorted : List (String × β)}
    (h : ((sorted ++ entries).map (·.1)).Nodup) :
    (entries.foldl (fun sorted (name, value) => insertEntry name value sorted) sorted).Perm
      (sorted ++ entries) := by
  induction entries generalizing sorted with
  | nil => simp
  | cons e rest ih =>
    obtain ⟨name, value⟩ := e
    have hmoved : (sorted ++ (name, value) :: rest).Perm ((name, value) :: sorted ++ rest) :=
      List.perm_middle
    have hnodup := (hmoved.map (·.1)).nodup_iff.mp h
    have hfresh : name ∉ sorted.map (·.1) := by
      intro hmem
      rw [List.cons_append, List.map_cons, List.nodup_cons, List.map_append, List.mem_append] at hnodup
      exact hnodup.1 (.inl hmem)
    have hinsert : (insertEntry name value sorted ++ rest).Perm ((name, value) :: sorted ++ rest) :=
      (insertEntry_perm hfresh).append_right rest
    rw [List.foldl_cons]
    have hrest := ih ((hinsert.map (·.1)).nodup_iff.mpr hnodup)
    exact (hrest.trans hinsert).trans hmoved.symm

end

/-! ### Fields that are repeated -/

theorem repeatsField_eq_false_iff {names : List String} {fields : List (String × Json)} :
    repeatsField names fields = false ↔
      ∀ name ∈ names, (fields.filter (·.1 = name)).length ≤ 1 := by
  rw [repeatsField, List.any_eq_false]
  refine forall₂_congr fun name _ => ?_
  rw [decide_eq_true_iff, Nat.not_lt]

/-- Fields that stand as often as others are repeated where those are. -/
theorem repeatsField_congr {names : List String} {fs gs : List (String × Json)}
    (h : ∀ n ∈ names, (gs.filter (·.1 = n)).length = (fs.filter (·.1 = n)).length) :
    repeatsField names gs = repeatsField names fs := by
  rw [Bool.eq_iff_iff, repeatsField, repeatsField, List.any_eq_true, List.any_eq_true]
  refine exists_congr fun n => and_congr_right fun hn => ?_
  rw [h n hn]

/-! ### Fields that are removed -/

theorem Json.filter_removeField (m : String) (fields : List (String × Json)) (n : String) :
    (removeField m fields).filter (·.1 = n) = if n = m then [] else fields.filter (·.1 = n) := by
  rw [removeField, List.filter_filter]
  by_cases h : n = m
  · rw [if_pos h, List.filter_eq_nil_iff]
    rintro ⟨name, v⟩ _
    simp [h]
  · rw [if_neg h]
    refine List.filter_congr ?_
    rintro ⟨name, v⟩ _
    by_cases hname : name = n
    · simp [hname, h]
    · simp [hname]

theorem Json.lookup_removeField (m : String) (fields : List (String × Json)) (n : String) :
    (removeField m fields).lookup n = if n = m then none else fields.lookup n := by
  rw [lookup_eq_head?, filter_removeField]
  by_cases h : n = m
  · rw [if_pos h, if_pos h]
    rfl
  · rw [if_neg h, if_neg h, lookup_eq_head?]

/-! ### Fields in order -/

/-- What holds of all fields holds of them in order. -/
theorem Json.forall_sortFields {P : String × Json → Prop} {fields : List (String × Json)}
    (h : ∀ field ∈ fields, P field) : ∀ field ∈ sortFields fields, P field := by
  have hsorted : ∀ field ∈ ([] : List (String × Json)), P field := nofun
  unfold sortFields
  generalize ([] : List (String × Json)) = sorted at hsorted ⊢
  induction fields generalizing sorted with
  | nil => exact hsorted
  | cons field rest ih =>
    obtain ⟨hfirst, hrest⟩ := List.forall_mem_cons.mp h
    exact ih hrest _ (forall_insertEntry hfirst sorted hsorted)

theorem Json.sortFields_perm {fields : List (String × Json)} (h : (fields.map (·.1)).Nodup) :
    (sortFields fields).Perm fields :=
  @foldl_insertEntry_perm _ fields [] h

namespace Table

variable {β : Type}

theorem nodup (t : Table β) : (t.entries.map (·.1)).Nodup :=
  t.ascending.imp fun h => String.ne_of_lt h

theorem entries_foldl_insert (entries : List (String × β)) (t : Table β) :
    (entries.foldl (fun t (name, value) => t.insert name value) t).entries =
      entries.foldl (fun sorted (name, value) => insertEntry name value sorted) t.entries := by
  induction entries generalizing t with
  | nil => rfl
  | cons e rest ih => exact ih (t.insert e.1 e.2)

theorem entries_ofList_perm {entries : List (String × β)} (h : (entries.map (·.1)).Nodup) :
    (ofList entries).entries.Perm entries := by
  unfold ofList
  rw [entries_foldl_insert]
  exact @foldl_insertEntry_perm _ entries [] h

/-- A table is made again from its entries in any order. -/
theorem ofList_of_perm {t : Table β} {entries : List (String × β)} (h : entries.Perm t.entries) :
    ofList entries = t := by
  have hnodup : (entries.map (·.1)).Nodup := (h.map (·.1)).nodup_iff.mpr t.nodup
  have hperm : (ofList entries).entries.Perm t.entries := (entries_ofList_perm hnodup).trans h
  have heq : (ofList entries).entries = t.entries := by
    refine List.Perm.eq_of_pairwise ?_ (List.pairwise_map.mp (ofList entries).ascending)
      (List.pairwise_map.mp t.ascending) hperm
    intro a b _ _ hab hba
    exact absurd (String.lt_trans hab hba) (String.lt_irrefl _)
  cases hu : ofList entries
  cases t
  rw [hu] at heq
  cases heq
  rfl

end Table

namespace Json

/-! ### Records -/

theorem names_present_sublist (fields : List (String × Option Json)) :
    ((fields.filterMap fun (name, v) => v.map (name, ·)).map (·.1)).Sublist (fields.map (·.1)) := by
  induction fields with
  | nil => exact List.Sublist.refl _
  | cons field rest ih =>
    obtain ⟨name, v⟩ := field
    cases v with
    | none => exact ih.cons _
    | some v => exact ih.cons_cons _

/-- Each name of a record that was written has its value, or none where it was left out. -/
theorem record?_ofPresent {names : List String} {fields : List (String × Option Json)}
    (hnames : fields.map (·.1) = names) (hnodup : names.Nodup) :
    ∃ fs, (ofPresent fields).record? names = some fs ∧
      ∀ field ∈ fields, fs.lookup field.1 = field.2 := by
  have hfields : (fields.map (·.1)).Nodup := hnames ▸ hnodup
  have hpresent : ((fields.filterMap fun (name, v) => v.map (name, ·)).map (·.1)).Nodup :=
    hfields.sublist (names_present_sublist fields)
  have hsorted := sortFields_perm hpresent
  have honce : repeatsField names
      (sortFields (fields.filterMap fun (name, v) => v.map (name, ·))) = false :=
    repeatsField_eq_false_iff.mpr fun n _ =>
      length_filter_le_one ((hsorted.map (·.1)).nodup_iff.mpr hpresent) n
  refine ⟨sortFields (fields.filterMap fun (name, v) => v.map (name, ·)), ?_, ?_⟩
  · show (if repeatsField names (sortFields _) then none else some (sortFields _)) = _
    rw [honce]
    rfl
  · rintro ⟨n, o⟩ hmem
    rw [lookup_of_perm hsorted.symm (length_filter_le_one hpresent n)]
    cases o with
    | some v =>
      refine lookup_eq_some_of_mem hpresent (List.mem_filterMap.mpr ⟨_, hmem, rfl⟩)
    | none =>
      refine lookup_eq_none_of_notMem fun hn => ?_
      obtain ⟨⟨m, v⟩, hmv, rfl⟩ := List.mem_map.mp hn
      obtain ⟨⟨m', o⟩, hmem', hv⟩ := List.mem_filterMap.mp hmv
      obtain ⟨v', rfl, heq⟩ := Option.map_eq_some_iff.mp hv
      cases heq
      have hnone := lookup_eq_some_of_mem hfields hmem
      have hsome := lookup_eq_some_of_mem hfields hmem'
      rw [hnone] at hsome
      cases hsome

end Json

end HttpResource
