/-
# Received headers

Received names have no capital letters, and they are held in their canonical spelling. A name and its canonical
spelling differ in the case of letters only, so no two received names have the same one, and the values of a
name are held apart from those of all others (`Header.collect_lossless`).

Key definitions: `Header.IsLowerCase`, `Header.valuesOf`.
Key theorems: `Header.toLower_canonicalName`, `Header.canonicalName_injective`, `Header.get?_collect`,
`Header.collect_lossless`.
-/
import HttpResource.Proofs.HeaderNames
import HttpResource.Proofs.Utf8

namespace HttpResource

namespace Header

/-! ### Canonical names -/

theorem isPlain_of_isAlpha {c : Char} (h : c.isAlpha = true) : isPlain c = true := by
  rw [isPlain, Char.isAlphanum, h]
  rfl

theorem isPlain_toLower (c : Char) : isPlain c.toLower = isPlain c := by
  by_cases hupper : c.isUpper = true
  · have halpha : c.isAlpha = true := by rw [Char.isAlpha, hupper, Bool.true_or]
    rw [isPlain_of_isAlpha halpha, isPlain_of_isAlpha ((Char.isAlpha_toLower_eq_isAlpha c).trans halpha)]
  · rw [Char.toLower_eq_of_not_isUpper hupper]

theorem isPlain_toUpper (c : Char) : isPlain c.toUpper = isPlain c := by
  rw [← isPlain_toLower c.toUpper, Char.toLower_toUpper_eq_toLower, isPlain_toLower]

theorem all_isPlain_capitalize (first : Bool) (s : List Char) :
    (capitalize first s).all isPlain = s.all isPlain := by
  induction s generalizing first with
  | nil => rfl
  | cons c rest ih =>
    rw [capitalize, List.all_cons, ih, List.all_cons]
    cases first with
    | true => rw [if_pos rfl, isPlain_toUpper]
    | false => rw [if_neg Bool.false_ne_true, isPlain_toLower]

/-- Only the case of letters changes. -/
theorem toLower_capitalize (first : Bool) (s : List Char) :
    (capitalize first s).map Char.toLower = s.map Char.toLower := by
  induction s generalizing first with
  | nil => rfl
  | cons c rest ih =>
    rw [capitalize, List.map_cons, ih, List.map_cons]
    cases first with
    | true => rw [if_pos rfl, Char.toLower_toUpper_eq_toLower]
    | false => rw [if_neg Bool.false_ne_true, Char.toLower_toLower_eq_toLower]

theorem toLower_canonicalName (name : String) :
    (canonicalName name).map Char.toLower = name.map Char.toLower := by
  unfold canonicalName
  split
  · rw [← String.toList_inj, String.toList_map, String.toList_map, String.toList_ofList, toLower_capitalize]
  · rfl

theorem canonicalName_idempotent (name : String) : canonicalName (canonicalName name) = canonicalName name := by
  by_cases hplain : name.toList.all isPlain = true
  · have hcanonical : canonicalName name = String.ofList (capitalize true name.toList) := if_pos hplain
    rw [hcanonical, canonicalName, String.toList_ofList, all_isPlain_capitalize, if_pos hplain,
      capitalize_congr true (toLower_capitalize true name.toList)]
  · have hodd : canonicalName name = name := if_neg hplain
    rw [hodd, hodd]

/-- A name without capital letters, as names are received. -/
def IsLowerCase (name : String) : Prop := name.toList.all (!·.isUpper) = true

instance (name : String) : Decidable (IsLowerCase name) := inferInstanceAs (Decidable (_ = true))

theorem IsLowerCase.toLower_eq {name : String} (h : IsLowerCase name) : name.map Char.toLower = name := by
  have hsame : ∀ c ∈ name.toList, c.toLower = c := by
    intro c hc
    have hupper : (!c.isUpper) = true := List.all_eq_true.mp h c hc
    exact Char.toLower_eq_of_not_isUpper (by simpa using hupper)
  rw [← String.toList_inj, String.toList_map, List.map_congr_left hsame, List.map_id']

theorem canonicalName_injective {a b : String} (ha : IsLowerCase a) (hb : IsLowerCase b)
    (h : canonicalName a = canonicalName b) : a = b := by
  calc a = (canonicalName a).map Char.toLower := by rw [toLower_canonicalName, ha.toLower_eq]
    _ = b := by rw [h, toLower_canonicalName, hb.toLower_eq]

/-! ### Values -/

/-- The values that are received under a name, in the order of their arrival. -/
def valuesOf (name : String) (received : List (String × List UInt8)) : List (List UInt8) :=
  (received.filter (·.1 = name)).map (·.2)

/-- The texts of what is received under all names with a canonical spelling. -/
def textsUnder (name : String) (received : List (String × List UInt8)) : List String :=
  (received.filter (canonicalName ·.1 = name)).map (Text.lossy ·.2)

theorem textsUnder_snoc (name : String) (received : List (String × List UInt8))
    (header : String × List UInt8) : textsUnder name (received ++ [header]) = textsUnder name received ++
      if canonicalName header.1 = name then [Text.lossy header.2] else [] := by
  unfold textsUnder
  rw [List.filter_append, List.map_append]
  by_cases hname : canonicalName header.1 = name <;> simp [hname]

theorem textsUnder_eq_nil_iff {name : String} {received : List (String × List UInt8)} :
    textsUnder name received = [] ↔ ∀ header ∈ received, canonicalName header.1 ≠ name := by
  simp [textsUnder]

theorem get?_add (t : Headers) (header : String × List UInt8) (name : String) :
    (add t header).get? name = if name = canonicalName header.1 then
      some ((t.get? name).getD [] ++ [Text.lossy header.2]) else t.get? name := by
  unfold add
  rw [Table.get?_insert]
  split
  · rename_i hname
    rw [hname]
  · rfl

/-- A name is held with all that was received under it, if that is anything. -/
theorem get?_collect (received : List (String × List UInt8)) (name : String) :
    (collect received).get? name =
      if textsUnder name received = [] then none else some (textsUnder name received) := by
  induction received using List.reverseRecOn with
  | nil => rfl
  | append_singleton received header ih =>
    have hstep : collect (received ++ [header]) = add (collect received) header := by
      rw [collect, List.foldl_append]
      rfl
    rw [hstep, get?_add, ih, textsUnder_snoc]
    by_cases hname : canonicalName header.1 = name
    · have hheld : (if textsUnder name received = [] then none else some (textsUnder name received)).getD [] =
          textsUnder name received := by
        split
        · rename_i hnone
          rw [hnone]
          rfl
        · rfl
      have hsome : textsUnder name received ++ [Text.lossy header.2] ≠ [] :=
        List.append_ne_nil_of_right_ne_nil _ (List.cons_ne_nil _ _)
      rw [if_pos hname.symm, if_pos hname, hheld, if_neg hsome]
    · rw [if_neg (Ne.symm hname), if_neg hname, List.append_nil]

/-- What is received under the spellings of a received name is what is received under this name. -/
theorem textsUnder_canonicalName {received : List (String × List UInt8)} {name : String}
    (h : ∀ header ∈ received, IsLowerCase header.1) (hname : IsLowerCase name) :
    textsUnder (canonicalName name) received = (valuesOf name received).map Text.lossy := by
  unfold textsUnder valuesOf
  rw [List.map_map]
  refine congrArg _ (List.filter_congr fun header hheader => ?_)
  rw [decide_eq_decide]
  exact ⟨canonicalName_injective (h header hheader) hname, congrArg canonicalName⟩

/-- What is held are the received names, each with its values. -/
theorem mem_entries_collect {received : List (String × List UInt8)}
    (h : ∀ header ∈ received, IsLowerCase header.1) {entry : String × List String} :
    entry ∈ (collect received).entries ↔
      ∃ name ∈ received.map (·.1), (canonicalName name, (valuesOf name received).map Text.lossy) = entry := by
  obtain ⟨key, texts⟩ := entry
  rw [Table.mem_entries_iff, get?_collect]
  constructor
  · intro hheld
    split at hheld
    · cases hheld
    · rename_i hsome
      cases hheld
      rw [textsUnder_eq_nil_iff, not_forall] at hsome
      obtain ⟨header, hheader⟩ := hsome
      obtain ⟨hmem, rfl⟩ := by simpa using hheader
      refine ⟨header.1, List.mem_map_of_mem hmem, ?_⟩
      rw [textsUnder_canonicalName h (h header hmem)]
  · rintro ⟨name, hname, heq⟩
    obtain ⟨header, hmem, rfl⟩ := List.mem_map.mp hname
    cases heq
    have hsome : textsUnder (canonicalName header.1) received ≠ [] := by
      rw [Ne, textsUnder_eq_nil_iff]
      exact fun hnone => hnone header hmem rfl
    rw [if_neg hsome, textsUnder_canonicalName h (h header hmem)]

/-- **Received headers are kept, each under its own name.** A name differs from its canonical spelling in the
case of letters only, and spelling it again changes nothing; so names without capital letters have different
spellings. Of the received names each is held once, in its spelling, with the texts of its values in the order
of their arrival. The text of a value that is UTF-8 is the value itself. -/
theorem collect_lossless :
    (∀ name, canonicalName (canonicalName name) = canonicalName name ∧
        Status.equalIgnoringCase (canonicalName name) name = true) ∧
      (∀ a b, IsLowerCase a → IsLowerCase b → canonicalName a = canonicalName b → a = b) ∧
      (∀ s, Text.lossy (Text.bytesOf s) = s) ∧
      ∀ received : List (String × List UInt8), (∀ header ∈ received, IsLowerCase header.1) →
        (collect received).entries.Perm ((received.map (·.1)).dedup.map fun name =>
          (canonicalName name, (valuesOf name received).map Text.lossy)) := by
  refine ⟨fun name => ⟨canonicalName_idempotent name, ?_⟩, fun a b => canonicalName_injective,
    Text.lossy_bytesOf, fun received h => ?_⟩
  · exact beq_iff_eq.mpr (toLower_canonicalName name)
  · have hlower : ∀ name ∈ (received.map (·.1)).dedup, IsLowerCase name := by
      intro name hname
      obtain ⟨header, hheader, rfl⟩ := List.mem_map.mp (List.mem_dedup.mp hname)
      exact h header hheader
    have hnodup : ((received.map (·.1)).dedup.map fun name =>
        (canonicalName name, (valuesOf name received).map Text.lossy)).Nodup :=
      (List.nodup_dedup _).map_on fun a ha b hb heq =>
        canonicalName_injective (hlower a ha) (hlower b hb) (congrArg Prod.fst heq)
    refine (List.perm_ext_iff_of_nodup (collect received).nodup.of_map hnodup).mpr fun entry => ?_
    rw [mem_entries_collect h, List.mem_map]
    simp only [List.mem_dedup]

/-- The headers of an answer that sets two cookies, with a name that is not spelled in words. -/
def cookieHeaders : List (String × List UInt8) :=
  [("set-cookie", Text.bytesOf "a=1"), ("content-type", Text.bytesOf "text/plain"), ("x_trace", [0x31, 0xff]),
    ("set-cookie", Text.bytesOf "b=2")]

theorem cookieHeaders_kept :
    (∀ header ∈ cookieHeaders, IsLowerCase header.1) ∧
      (collect cookieHeaders).entries.Perm
        [("Content-Type", ["text/plain"]), ("x_trace", [String.ofList ['1', Text.replacement]]),
          ("Set-Cookie", ["a=1", "b=2"])] ∧
      (canonicalName "set-cookie" = canonicalName "x_trace" → "set-cookie" = "x_trace") := by
  have hlower : ∀ header ∈ cookieHeaders, IsLowerCase header.1 := by decide +kernel
  obtain ⟨-, hapart, -, hkept⟩ := collect_lossless
  refine ⟨hlower, (hkept cookieHeaders hlower).trans ?_, hapart _ _ (by decide +kernel) (by decide +kernel)⟩
  exact .of_eq (by decide +kernel)

end Header

end HttpResource
