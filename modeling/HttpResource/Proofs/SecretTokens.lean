/-
# Tokens of secret references

A token is a name and a key with a dot between them, and perhaps a namespace with a slash in front. Keys may
hold dots, and the keys of another namespace slashes too, so what parts a token is the first slash and then
the first dot after it. Labels, which namespaces and names are, hold neither, so a token can be parted in
one way only, and no secret key has two tokens (`SecretRef.parse?_exact`).

Key definitions: `SecretRef.IsLabel`, `SecretRef.TokenText`, `SecretRef.spelling`.
Key theorems: `SecretRef.nameAndKey?_eq_some_iff`, `SecretRef.parse?_eq_some_iff`, `SecretRef.parse?_exact`.
-/
import HttpResource.SecretRef

namespace HttpResource

namespace SecretRef

/-! ### The form of tokens -/

/-- A namespace, or the name of a secret. -/
structure IsLabel (s : String) : Prop where
  ne_empty : s ≠ ""
  no_dot : '.' ∉ s.toList
  no_slash : '/' ∉ s.toList

/-- The tokens of references: to a secret of the resource's own namespace, and to one of another. -/
inductive TokenText : List Char → SecretRef → Prop
  | own {name key : String} (hname : IsLabel name) (some : key ≠ "") (no_slash : '/' ∉ key.toList) :
      TokenText (name.toList ++ '.' :: key.toList) ⟨none, name, key⟩
  | foreign {space name key : String} (hspace : IsLabel space) (hname : IsLabel name) (some : key ≠ "") :
      TokenText (space.toList ++ '/' :: (name.toList ++ '.' :: key.toList)) ⟨space, name, key⟩

/-- The parts of a reference, put together again. -/
def spelling (r : SecretRef) : List Char :=
  (r.inNamespace.elim [] fun space => space.toList ++ ['/']) ++ r.name.toList ++ '.' :: r.key.toList

theorem spelling_of_tokenText {token : List Char} {r : SecretRef} (h : TokenText token r) :
    r.spelling = token := by
  cases h with
  | own => rfl
  | foreign => simp [spelling]

/-! ### Reading -/

theorem nameAndKey?_eq_some_iff {s : List Char} {name key : String} :
    nameAndKey? s = some (name, key) ↔ IsLabel name ∧ key ≠ "" ∧ s = name.toList ++ '.' :: key.toList := by
  constructor
  · intro h
    unfold nameAndKey? at h
    cases hsplit : Text.splitOnce '.' s with
    | none =>
      rw [hsplit] at h
      cases h
    | some parts =>
      obtain ⟨before, after⟩ := parts
      rw [hsplit] at h
      simp only at h
      split at h
      · cases h
      · rename_i hgood
        cases h
        obtain ⟨rfl, hdot⟩ := Text.splitOnce_eq_some_iff.mp hsplit
        simp only [Bool.or_eq_true, List.isEmpty_iff, List.contains_iff_mem, not_or] at hgood
        obtain ⟨⟨hname, hkey⟩, hslash⟩ := hgood
        rw [String.toList_ofList, String.toList_ofList]
        refine ⟨⟨mt String.ofList_eq_empty_iff.mp hname, ?_, ?_⟩,
          mt String.ofList_eq_empty_iff.mp hkey, rfl⟩
        · rwa [String.toList_ofList]
        · rwa [String.toList_ofList]
  · rintro ⟨hname, hkey, rfl⟩
    unfold nameAndKey?
    rw [Text.splitOnce_append hname.no_dot]
    simp [hname.ne_empty, hname.no_slash, hkey]

theorem tokenText_of_parse? {token : List Char} {r : SecretRef} (h : parse? token = some r) :
    TokenText token r := by
  unfold parse? at h
  cases hsplit : Text.splitOnce '/' token with
  | none =>
    rw [hsplit] at h
    obtain ⟨⟨name, key⟩, hparts, rfl⟩ := Option.map_eq_some_iff.mp h
    obtain ⟨hname, hkey, rfl⟩ := nameAndKey?_eq_some_iff.mp hparts
    have hslash := Text.splitOnce_eq_none_iff.mp hsplit
    refine .own hname hkey fun hmem => hslash ?_
    exact List.mem_append_right _ (List.mem_cons_of_mem _ hmem)
  | some parts =>
    obtain ⟨space, rest⟩ := parts
    rw [hsplit] at h
    simp only at h
    split at h
    · cases h
    · rename_i hgood
      obtain ⟨⟨name, key⟩, hparts, rfl⟩ := Option.map_eq_some_iff.mp h
      obtain ⟨hname, hkey, rfl⟩ := nameAndKey?_eq_some_iff.mp hparts
      obtain ⟨rfl, hslash⟩ := Text.splitOnce_eq_some_iff.mp hsplit
      simp only [Bool.or_eq_true, List.isEmpty_iff, List.contains_iff_mem, not_or] at hgood
      have hspace : IsLabel (String.ofList space) := by
        refine ⟨mt String.ofList_eq_empty_iff.mp hgood.1, ?_, ?_⟩
        · rw [String.toList_ofList]
          exact hgood.2
        · rwa [String.toList_ofList]
      have htoken := TokenText.foreign hspace hname hkey
      rwa [String.toList_ofList] at htoken

theorem parse?_of_tokenText {token : List Char} {r : SecretRef} (h : TokenText token r) :
    parse? token = some r := by
  unfold parse?
  cases h with
  | @own name key hname hkey hslash =>
    have hnone : '/' ∉ name.toList ++ '.' :: key.toList := by
      simp [hname.no_slash, hslash]
    rw [Text.splitOnce_eq_none_iff.mpr hnone]
    simp only
    rw [nameAndKey?_eq_some_iff.mpr ⟨hname, hkey, rfl⟩]
    rfl
  | @foreign space name key hspace hname hkey =>
    rw [Text.splitOnce_append hspace.no_slash]
    simp only
    rw [if_neg (by simp [hspace.ne_empty, hspace.no_dot]),
      nameAndKey?_eq_some_iff.mpr ⟨hname, hkey, rfl⟩]
    simp

/-- The tokens that are read are those of the two forms. -/
theorem parse?_eq_some_iff {token : List Char} {r : SecretRef} :
    parse? token = some r ↔ TokenText token r :=
  ⟨tokenText_of_parse?, parse?_of_tokenText⟩

/-- **A token is read exactly if it has one of the two forms, and nothing of it is lost.** The parts that are
read, put together again, are the token, and so no other token is read as the same parts. -/
theorem parse?_exact (token : List Char) :
    (∀ r, parse? token = some r ↔ TokenText token r) ∧
      ∀ r, parse? token = some r →
        r.spelling = token ∧ ∀ other, parse? other = some r → other = token := by
  have hspelled : ∀ token r, parse? token = some r → r.spelling = token :=
    fun token r h => spelling_of_tokenText (parse?_eq_some_iff.mp h)
  refine ⟨fun r => parse?_eq_some_iff, fun r h => ⟨hspelled token r h, fun other hother => ?_⟩⟩
  calc other = r.spelling := (hspelled other r hother).symm
    _ = token := hspelled token r h

/-- The key of a certificate in another namespace, with a dot and a slash in it. -/
def certificateToken : List Char := "infra/tls.tls/ca.crt".toList

theorem certificateToken_exact :
    parse? certificateToken = some ⟨some "infra", "tls", "tls/ca.crt"⟩ ∧
      TokenText certificateToken ⟨some "infra", "tls", "tls/ca.crt"⟩ ∧
      (⟨some "infra", "tls", "tls/ca.crt"⟩ : SecretRef).spelling = certificateToken := by
  have hread : parse? certificateToken = some ⟨some "infra", "tls", "tls/ca.crt"⟩ := by decide +kernel
  obtain ⟨hform, hlossless⟩ := parse?_exact certificateToken
  exact ⟨hread, (hform _).mp hread, (hlossless _ hread).1⟩

/-- Without a namespace a key has no slash, and an empty namespace is none. -/
example : parse? "tls.tls/ca.crt".toList = none ∧ parse? "/tls.crt".toList = none := by decide +kernel

end SecretRef

end HttpResource
