/-
# Tables by name

A table gives values to names. Its entries stand in strictly ascending order of their names, so two
tables with the same content are equal.

* `Table.insert`, `Table.get?`, `Table.ofList`.
* `insertEntry_ascending`: inserting keeps the order.
-/
namespace HttpResource

/-- Puts an entry at its place among ascending names, over an equal name. -/
def insertEntry {β : Type} (name : String) (value : β) : List (String × β) → List (String × β)
  | [] => [(name, value)]
  | (n, v) :: rest =>
    if name < n then (name, value) :: (n, v) :: rest
    else if name = n then (name, value) :: rest
    else (n, v) :: insertEntry name value rest

/-- Names in strictly ascending order. -/
def Ascending {β : Type} (entries : List (String × β)) : Prop :=
  (entries.map (·.1)).Pairwise (· < ·)

instance {β : Type} (entries : List (String × β)) : Decidable (Ascending entries) := by
  unfold Ascending; infer_instance

/-- A name after an insertion is the inserted one or was there before. -/
theorem mem_insertEntry {β : Type} {name : String} {value : β} {entries : List (String × β)}
    {n : String} (h : n ∈ (insertEntry name value entries).map (·.1)) :
    n = name ∨ n ∈ entries.map (·.1) := by
  induction entries with
  | nil => simpa [insertEntry] using h
  | cons e rest ih =>
    obtain ⟨m, v⟩ := e
    simp only [insertEntry] at h
    split at h
    · simpa using h
    · split at h
      · simp only [List.map_cons, List.mem_cons] at h ⊢
        rcases h with h | h
        · exact .inl h
        · exact .inr (.inr h)
      · simp only [List.map_cons, List.mem_cons] at h ⊢
        rcases h with h | h
        · exact .inr (.inl h)
        · rcases ih h with h | h
          · exact .inl h
          · exact .inr (.inr h)

theorem insertEntry_ascending {β : Type} {entries : List (String × β)} (h : Ascending entries)
    (name : String) (value : β) : Ascending (insertEntry name value entries) := by
  induction entries with
  | nil => simp [insertEntry, Ascending]
  | cons e rest ih =>
    obtain ⟨m, v⟩ := e
    simp only [Ascending, List.map_cons, List.pairwise_cons] at h
    simp only [insertEntry]
    split
    · rename_i hlt
      simp only [Ascending, List.map_cons, List.pairwise_cons, List.mem_cons]
      refine ⟨?_, h⟩
      rintro n (rfl | hn)
      · exact hlt
      · exact String.lt_trans hlt (h.1 n hn)
    · split
      · rename_i heq
        subst heq
        simpa [Ascending] using h
      · rename_i hlt hne
        simp only [Ascending, List.map_cons, List.pairwise_cons]
        refine ⟨fun n hn => ?_, ih h.2⟩
        rcases mem_insertEntry hn with rfl | hn
        · rcases Std.lt_trichotomy m n with h | h | h
          · exact h
          · exact absurd h.symm hne
          · exact absurd h hlt
        · exact h.1 n hn

/-- Values by name. -/
structure Table (β : Type) where
  entries : List (String × β)
  ascending : Ascending entries := by decide
deriving DecidableEq

namespace Table

variable {β : Type}

instance [Repr β] : Repr (Table β) where
  reprPrec t n := reprPrec t.entries n

def empty : Table β := ⟨[], by simp [Ascending]⟩

instance : Inhabited (Table β) := ⟨empty⟩

def isEmpty (t : Table β) : Bool := t.entries.isEmpty

def get? (t : Table β) (name : String) : Option β := t.entries.lookup name

/-- The table with a value for a name, over an earlier one. -/
def insert (t : Table β) (name : String) (value : β) : Table β :=
  ⟨insertEntry name value t.entries, insertEntry_ascending t.ascending name value⟩

/-- The entries put into a table one after another, the last of equal names winning. -/
def ofList (entries : List (String × β)) : Table β :=
  entries.foldl (fun t (name, value) => t.insert name value) empty

/-- The entries of both tables, those of the second winning. -/
def union (t u : Table β) : Table β :=
  u.entries.foldl (fun t (name, value) => t.insert name value) t

end Table

end HttpResource
